/-
  Redelivery.Proofs.Wiring.Responsibility
  ───────────────────────────────────────
  **Accepted configurations stay disjoint.**

  A configuration is accepted if it holds together and lists no topic that an
  accepted one lists.  So at any time, whatever was refused in between:

      (accepted ++ [c]) is coherent  ↔  accepted is coherent, and admits c

  A configuration that lists topics handles no others, so no two of them
  handle a topic in common, and the one that is found for some topics does
  not depend on the order in which they were added.  Only a configuration
  that lists no topics, and is for every topic, can take its place.
-/
import Mathlib.Data.List.Lattice
import Mathlib.Data.List.Pairwise
import Redelivery.Proofs.Topology.Shape
import Redelivery.Wiring.Application

namespace Redelivery

/-! ## §1. Coherent configurations. -/

namespace Configuration

/-- The configurations list no topic in common. -/
def Apart (c other : Configuration) : Prop := List.Disjoint c.topics other.topics

/-- The configuration holds together, and can be added to those accepted. -/
structure Admissible (accepted : List Configuration) (c : Configuration) : Prop where
  valid : c.validate = .ok ()
  apart : ∀ other ∈ accepted, c.Apart other

/-- Each of the configurations holds together, and no topic is listed by two of them. -/
structure Coherent (accepted : List Configuration) : Prop where
  valid : ∀ c ∈ accepted, c.validate = .ok ()
  apart : accepted.Pairwise Apart

theorem Apart.symm {c other : Configuration} (h : c.Apart other) : other.Apart c :=
  List.Disjoint.symm h

instance : Std.Symm Apart := ⟨fun _ _ => Apart.symm⟩

theorem coherent_nil : Coherent [] := ⟨fun _ h => (by cases h), .nil⟩

/-- **One more configuration.** -/
theorem coherent_concat_iff {accepted : List Configuration} {c : Configuration} :
    Coherent (accepted ++ [c]) ↔ Coherent accepted ∧ c.Admissible accepted := by
  constructor
  · rintro ⟨hvalid, hapart⟩
    obtain ⟨hbefore, _, hacross⟩ := List.pairwise_append.1 hapart
    refine ⟨⟨fun other hother => hvalid other (List.mem_append_left _ hother), hbefore⟩,
      hvalid c (List.mem_append_right _ List.mem_cons_self), fun other hother => ?_⟩
    exact (hacross other hother c List.mem_cons_self).symm
  · rintro ⟨hcoherent, hadmissible⟩
    refine ⟨fun other hother => ?_, List.pairwise_append.2
      ⟨hcoherent.apart, List.pairwise_singleton _ _, fun other hother next hnext => ?_⟩⟩
    · rcases List.mem_append.1 hother with hold | hnew
      · exact hcoherent.valid other hold
      · rw [List.mem_singleton.1 hnew]
        exact hadmissible.valid
    · rw [List.mem_singleton.1 hnext]
      exact (hadmissible.apart other hother).symm

/-- The order does not matter. -/
theorem Coherent.perm {accepted order : List Configuration} (h : Coherent accepted)
    (horder : order.Perm accepted) : Coherent order where
  valid := fun c hc => h.valid c (horder.mem_iff.1 hc)
  apart := (horder.pairwise_iff Apart.symm).2 h.apart

/-- A configuration that lists topics handles no others. -/
theorem mem_topics_of_handles {c : Configuration} (hlists : c.topics ≠ []) {topic : String}
    (hhandles : c.handles topic = true) : topic ∈ c.topics := by
  unfold handles at hhandles
  simpa [hlists] using (Bool.and_eq_true_iff.1 hhandles).1

/-- **Configurations that list topics share none that they handle.** -/
theorem Apart.not_both_handle {c other : Configuration} (h : c.Apart other) (hc : c.topics ≠ [])
    (hother : other.topics ≠ []) (topic : String) :
    ¬(c.handles topic = true ∧ other.handles topic = true) := by
  rintro ⟨hhandles, hboth⟩
  exact h (mem_topics_of_handles hc hhandles) (mem_topics_of_handles hother hboth)

/-- A configuration that lists topics is the only such one to handle any of them. -/
theorem Coherent.eq_of_handles {accepted : List Configuration} (h : Coherent accepted)
    {c other : Configuration} (hc : c ∈ accepted) (hother : other ∈ accepted)
    (hlists : c.topics ≠ []) (hothers : other.topics ≠ []) {topic : String}
    (hhandles : c.handles topic = true) (hboth : other.handles topic = true) : c = other := by
  by_contra hne
  have hapart : c.Apart other := h.apart.forall hc hother hne
  exact hapart.not_both_handle hlists hothers topic ⟨hhandles, hboth⟩

end Configuration

open Redelivery.Configuration

namespace Application

/-! ## §2. What is accepted. -/

theorem conflict?_eq_none_iff {accepted : List Configuration} {c : Configuration} :
    conflict? accepted c = none ↔ ∀ other ∈ accepted, c.Apart other := by
  unfold conflict? Apart
  simp only [List.find?_eq_none, List.any_eq_true, List.contains_iff_mem, not_exists, not_and]
  constructor
  · intro h other hother topic hc hlisted
    exact h topic hc other hother hlisted
  · intro h topic hc other hother hlisted
    exact h other hother hc hlisted

/-- **What adding a configuration comes to.** -/
theorem addConfiguration_eq_ok_iff {a next : Application} {c : Configuration} :
    a.addConfiguration c = .ok next ↔ c.Admissible a.configurations
      ∧ next = { a with configurations := a.configurations ++ [c] } := by
  unfold addConfiguration
  cases hvalid : c.validate with
  | error fault =>
      constructor
      · intro h
        cases h
      · rintro ⟨⟨hok, _⟩, _⟩
        cases hvalid.symm.trans hok
  | ok u =>
      cases hconflict : conflict? a.configurations c with
      | some topic =>
          constructor
          · intro h
            cases h
          · rintro ⟨⟨_, hapart⟩, _⟩
            cases hconflict.symm.trans (conflict?_eq_none_iff.2 hapart)
      | none =>
          constructor
          · rintro ⟨⟩
            exact ⟨⟨hvalid, conflict?_eq_none_iff.1 hconflict⟩, rfl⟩
          · rintro ⟨_, rfl⟩
            rfl

/-- **What adding some configurations comes to**: all of them are accepted if together with those
before they are coherent. -/
theorem addConfigurations_eq_ok_iff {a next : Application} {l : List Configuration}
    (h : Coherent a.configurations) : a.addConfigurations l = .ok next ↔
      Coherent (a.configurations ++ l)
        ∧ next = { a with configurations := a.configurations ++ l } := by
  unfold addConfigurations
  induction l generalizing a with
  | nil =>
      rw [List.append_nil]
      constructor
      · rintro ⟨⟩
        exact ⟨h, rfl⟩
      · rintro ⟨_, rfl⟩
        rfl
  | cons c rest ih =>
      rw [List.foldlM_cons]
      have hsplit : a.configurations ++ c :: rest = (a.configurations ++ [c]) ++ rest := by simp
      rw [hsplit]
      constructor
      · intro hok
        cases hadd : a.addConfiguration c with
        | error fault =>
            rw [hadd] at hok
            cases hok
        | ok first =>
            rw [hadd] at hok
            obtain ⟨hadmissible, rfl⟩ := addConfiguration_eq_ok_iff.1 hadd
            exact (ih (coherent_concat_iff.2 ⟨h, hadmissible⟩)).1 hok
      · rintro ⟨hcoherent, rfl⟩
        have hfirst : Coherent (a.configurations ++ [c]) :=
          ⟨fun other hother => hcoherent.valid other (List.mem_append_left _ hother),
            (List.pairwise_append.1 hcoherent.apart).1⟩
        have hadd := addConfiguration_eq_ok_iff.2 ⟨(coherent_concat_iff.1 hfirst).2, rfl⟩
        rw [hadd]
        exact (ih hfirst).2 ⟨hcoherent, rfl⟩

/-- **The application that settings describe** exists if their configurations are coherent. -/
theorem ofSettings_eq_ok_iff {s : Settings} {a : Application} :
    ofSettings s = .ok a ↔ Coherent s.configurations ∧ a =
      { configurations := s.configurations, group := s.connection.group, logLevel := s.logLevel,
        republish := s.republish } :=
  addConfigurations_eq_ok_iff coherent_nil

/-! ## §3. What is asked of an application. -/

/-- A call that sets up an application, or uses its random words. -/
inductive Call where
  | add (c : Configuration)
  | setHandlers (handlers : List String)
  | setDraws (draws : Draws)
  | setGroup (group : String)
  | setLogLevel (level : LogLevel)
  | setRepublish (policy : RepublishPolicy)
  /-- Build the chains of a configuration, added or not. -/
  | build (c : Configuration)

/-- The application after a call; a configuration that is refused leaves no trace. -/
def after (a : Application) : Call → Application
  | .add c =>
      match a.addConfiguration c with
      | .ok next => next
      | .error _ => a
  | .setHandlers handlers => { a with handlers := handlers }
  | .setDraws draws => { a with draws := draws }
  | .setGroup group => { a with group := group }
  | .setLogLevel level => { a with logLevel := level }
  | .setRepublish policy => { a with republish := policy }
  | .build c => a.afterDraws c

/-- The application after some calls. -/
def afterAll (a : Application) (calls : List Call) : Application := calls.foldl after a

/-- The configuration that a call adds, if it adds one. -/
def added? (a : Application) : Call → Option Configuration
  | .add c =>
      match a.addConfiguration c with
      | .ok _ => some c
      | .error _ => none
  | _ => none

/-- The configurations that some calls add, in their order. -/
def added (a : Application) : List Call → List Configuration
  | [] => []
  | call :: rest => (a.added? call).toList ++ (a.after call).added rest

/-- An application from which calls start. -/
inductive Begun : Application → Prop where
  | new : Begun {}
  | ofSettings {s : Settings} {a : Application} (h : ofSettings s = .ok a) : Begun a

theorem Begun.coherent {start : Application} (h : start.Begun) :
    Coherent start.configurations := by
  cases h with
  | new => exact coherent_nil
  | ofSettings hsettings =>
      obtain ⟨hcoherent, rfl⟩ := ofSettings_eq_ok_iff.1 hsettings
      exact hcoherent

theorem after_add_of_ok {a next : Application} {c : Configuration}
    (hadd : a.addConfiguration c = .ok next) : a.after (.add c) = next := by
  simp only [after, hadd]

theorem after_add_of_error {a : Application} {c : Configuration} {fault : ConfigurationFault}
    (hadd : a.addConfiguration c = .error fault) : a.after (.add c) = a := by
  simp only [after, hadd]

/-- **One call** adds a configuration that is admissible, or none. -/
theorem of_after {a : Application} (h : Coherent a.configurations) (call : Call) :
    Coherent (a.after call).configurations
      ∧ (a.after call).configurations = a.configurations ++ (a.added? call).toList := by
  cases call with
  | add c =>
      cases hadd : a.addConfiguration c with
      | error fault =>
          have hnone : a.added? (.add c) = none := by simp only [added?, hadd]
          rw [after_add_of_error hadd, hnone]
          exact ⟨h, (List.append_nil _).symm⟩
      | ok next =>
          have hsome : a.added? (.add c) = some c := by simp only [added?, hadd]
          obtain ⟨hadmissible, hnext⟩ := addConfiguration_eq_ok_iff.1 hadd
          rw [after_add_of_ok hadd, hsome, hnext]
          exact ⟨coherent_concat_iff.2 ⟨h, hadmissible⟩, rfl⟩
  | _ => exact ⟨h, (List.append_nil _).symm⟩

/-- **Whatever is called**, what was accepted stays, and is coherent. -/
theorem of_afterAll {a : Application} (h : Coherent a.configurations) (calls : List Call) :
    Coherent (a.afterAll calls).configurations
      ∧ (a.afterAll calls).configurations = a.configurations ++ a.added calls := by
  induction calls generalizing a with
  | nil => exact ⟨h, (List.append_nil _).symm⟩
  | cons call rest ih =>
      obtain ⟨hfirst, hnext⟩ := of_after h call
      obtain ⟨hcoherent, hadded⟩ := ih hfirst
      refine ⟨hcoherent, hadded.trans ?_⟩
      rw [hnext, List.append_assoc]
      rfl

/-! ## §4. Who is responsible. -/

/-- **The first configuration that handles all the topics.** -/
theorem configurationFor?_eq_some_iff {a : Application} {topics : List String}
    {c : Configuration} : a.configurationFor? topics = some c ↔
      ∃ before behind, a.configurations = before ++ c :: behind
        ∧ (∀ topic ∈ topics, c.handles topic = true)
        ∧ ∀ other ∈ before, ∃ topic ∈ topics, other.handles topic = false := by
  unfold configurationFor?
  rw [List.find?_eq_some_iff_append]
  simp only [List.all_eq_true, Bool.not_eq_true', List.all_eq_false, Bool.not_eq_true]
  constructor
  · rintro ⟨hall, before, behind, hsplit, hbefore⟩
    exact ⟨before, behind, hsplit, hall, hbefore⟩
  · rintro ⟨before, behind, hsplit, hall, hbefore⟩
    exact ⟨hall, before, behind, hsplit, hbefore⟩

theorem configurationFor?_eq_none_iff {a : Application} {topics : List String} :
    a.configurationFor? topics = none ↔
      ∀ c ∈ a.configurations, ∃ topic ∈ topics, c.handles topic = false := by
  unfold configurationFor?
  simp only [List.find?_eq_none, List.all_eq_true, not_forall, Bool.not_eq_true, exists_prop]

theorem of_configurationFor? {a : Application} {topics : List String} {c : Configuration}
    (h : a.configurationFor? topics = some c) :
    c ∈ a.configurations ∧ ∀ topic ∈ topics, c.handles topic = true := by
  obtain ⟨before, behind, hsplit, hhandles, _⟩ := configurationFor?_eq_some_iff.1 h
  refine ⟨?_, hhandles⟩
  rw [hsplit]
  exact List.mem_append_right before List.mem_cons_self

/-- Each listed topic belongs to one accepted configuration at most. -/
structure Apportioned (a : Application) : Prop where
  /-- What is added holds together, and lists no topic that an accepted one lists. -/
  accepts : ∀ c, (∃ next, a.addConfiguration c = .ok next) ↔
    c.validate = .ok () ∧ ∀ other ∈ a.configurations, List.Disjoint c.topics other.topics
  /-- What is accepted comes last. -/
  extended : ∀ c next, a.addConfiguration c = .ok next →
    a.after (.add c) = next ∧ next.configurations = a.configurations ++ [c]
  /-- What is refused changes nothing. -/
  unchanged : ∀ c fault, a.addConfiguration c = .error fault → a.after (.add c) = a
  /-- The first that handles all the topics is found. -/
  found : ∀ topics c, a.configurationFor? topics = some c ↔
    ∃ before behind, a.configurations = before ++ c :: behind
      ∧ (∀ topic ∈ topics, c.handles topic = true)
      ∧ ∀ other ∈ before, ∃ topic ∈ topics, other.handles topic = false
  /-- None is found only if none handles them all. -/
  missing : ∀ topics, a.configurationFor? topics = none ↔
    ∀ c ∈ a.configurations, ∃ topic ∈ topics, c.handles topic = false
  /-- No two that list topics handle a topic in common. -/
  apart : a.configurations.Pairwise fun c other => c.topics ≠ [] → other.topics ≠ [] →
    ∀ topic, ¬(c.handles topic = true ∧ other.handles topic = true)
  /-- In any other order, the same configurations would be accepted. -/
  reordered : ∀ order : List Configuration, order.Perm a.configurations →
    ({ a with configurations := [] }).addConfigurations order
      = .ok { a with configurations := order }
  /-- Of those that list topics, the same one is found in every order, if one is found. -/
  anyOrder : ∀ order order' : List Configuration, order.Perm a.configurations →
    order'.Perm a.configurations → ∀ topics : List String, topics ≠ [] →
    ∀ c c' : Configuration, c.topics ≠ [] → c'.topics ≠ [] →
      ({ a with configurations := order }).configurationFor? topics = some c →
        ({ a with configurations := order' }).configurationFor? topics = some c' → c = c'

/-- **Coherent configurations share no topic that they list.** -/
theorem apportioned_of_coherent {a : Application} (h : Coherent a.configurations) :
    a.Apportioned where
  accepts := by
    intro c
    constructor
    · rintro ⟨next, hadd⟩
      obtain ⟨hvalid, hapart⟩ := (addConfiguration_eq_ok_iff.1 hadd).1
      exact ⟨hvalid, hapart⟩
    · rintro ⟨hvalid, hapart⟩
      exact ⟨_, addConfiguration_eq_ok_iff.2 ⟨⟨hvalid, hapart⟩, rfl⟩⟩
  extended := by
    intro c next hadd
    refine ⟨after_add_of_ok hadd, ?_⟩
    rw [(addConfiguration_eq_ok_iff.1 hadd).2]
  unchanged := fun _ _ => after_add_of_error
  found := fun _ _ => configurationFor?_eq_some_iff
  missing := fun _ => configurationFor?_eq_none_iff
  apart := h.apart.imp fun hapart hc hother => hapart.not_both_handle hc hother
  reordered := fun _ horder =>
    (addConfigurations_eq_ok_iff coherent_nil).2 ⟨h.perm horder, rfl⟩
  anyOrder := by
    intro order order' horder horder' topics htopics c c' hlists hlists' hfound hfound'
    obtain ⟨hc, hhandles⟩ := of_configurationFor? hfound
    obtain ⟨hc', hhandles'⟩ := of_configurationFor? hfound'
    -- one topic that both handle is enough
    obtain ⟨topic, htopic⟩ := List.exists_mem_of_ne_nil topics htopics
    exact h.eq_of_handles (horder.mem_iff.1 hc) (horder'.mem_iff.1 hc') hlists hlists'
      (hhandles topic htopic) (hhandles' topic htopic)

/-- **Accepted configurations stay disjoint.**  From a new application or from settings, whatever is
called: the accepted configurations are those that the calls added, in their order; one more is
accepted if and only if it holds together and lists no topic of an accepted one, and a refusal changes
nothing; the first that handles all of some topics is found; no two that list topics handle a topic in
common, so of those the same one is found in every order.  Settings are accepted as they are, if and
only if all their configurations hold together and no topic is listed by two of them. -/
theorem accepted_configurations_stay_disjoint {start : Application} (hstart : start.Begun)
    (calls : List Call) :
    (start.afterAll calls).configurations = start.configurations ++ start.added calls
    ∧ (start.afterAll calls).Apportioned
    ∧ ∀ s, ((∃ a, ofSettings s = .ok a) ↔ (∀ c ∈ s.configurations, c.validate = .ok ())
          ∧ s.configurations.Pairwise fun c other => List.Disjoint c.topics other.topics)
        ∧ ∀ a, ofSettings s = .ok a → a.configurations = s.configurations := by
  obtain ⟨hcoherent, hadded⟩ := of_afterAll hstart.coherent calls
  refine ⟨hadded, apportioned_of_coherent hcoherent, fun s => ⟨⟨?_, ?_⟩, fun a hok => ?_⟩⟩
  · rintro ⟨a, hok⟩
    obtain ⟨⟨hvalid, hapart⟩, _⟩ := ofSettings_eq_ok_iff.1 hok
    exact ⟨hvalid, hapart⟩
  · rintro ⟨hvalid, hapart⟩
    exact ⟨_, ofSettings_eq_ok_iff.2 ⟨⟨hvalid, hapart⟩, rfl⟩⟩
  · rw [(ofSettings_eq_ok_iff.1 hok).2]

/-- Two configurations with a topic in common, and a third one. -/
def twoOverlap : List Call :=
  [.add { topics := ["orders", "payments"] }, .add { topics := ["payments", "returns"] },
    .setGroup "billing", .add { topics := ["returns"] }]

/-- The second of the overlapping configurations is not accepted, then or later; in the other order of
those accepted, the same one is found for a topic. -/
theorem accepted_configurations_stay_disjoint_of_overlap :
    (afterAll {} twoOverlap).configurations
        = [{ topics := ["orders", "payments"] }, { topics := ["returns"] }]
    ∧ (¬∃ next, (afterAll {} twoOverlap).addConfiguration { topics := ["payments", "returns"] }
        = .ok next)
    ∧ ∀ c, c.topics ≠ [] → ({ afterAll {} twoOverlap with configurations :=
        [{ topics := ["returns"] }, { topics := ["orders", "payments"] }] }).configurationFor?
          ["orders"] = some c → c.topics = ["orders", "payments"] := by
  obtain ⟨hadded, happortioned, _⟩ := accepted_configurations_stay_disjoint Begun.new twoOverlap
  have hconfigurations : (afterAll {} twoOverlap).configurations
      = [{ topics := ["orders", "payments"] }, { topics := ["returns"] }] :=
    hadded.trans (by decide +kernel)
  refine ⟨hconfigurations, fun hok => ?_, fun c hlists hfound => ?_⟩
  · have hdisjoint := ((happortioned.accepts _).1 hok).2 { topics := ["returns"] }
      (by rw [hconfigurations]; decide +kernel)
    exact hdisjoint (show "returns" ∈ ["payments", "returns"] by decide) (by decide)
  · have hswap : List.Perm [({ topics := ["returns"] } : Configuration),
        { topics := ["orders", "payments"] }] (afterAll {} twoOverlap).configurations := by
      rw [hconfigurations]
      exact .swap _ _ []
    have heq := happortioned.anyOrder _ _ hswap (.refl _) ["orders"] (by decide) c
      { topics := ["orders", "payments"] } hlists (by decide) hfound (by decide +kernel)
    rw [heq]

end Application

end Redelivery
