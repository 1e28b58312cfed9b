/-
  Redelivery.Proofs.Conservation.Conserved
  ────────────────────────────────────────
  **Along every run the books balance.**

  A run is any sequence of steps that an endpoint permits: publishes from
  outside, failures of publishes, steps of its consumers in any order, stops,
  and consumers started again.  The ledger is written along with it.  What is
  in order at the beginning stays in order (`InOrder.of_run`).
-/
import Redelivery.Proofs.Conservation.Accounts

namespace Redelivery

variable {w : Roster} {s s' s₀ : System} {L L₀ : Ledger} {first : String → Nat} {i : Nat}
  {c : Consumer}

/-! ## §1. Runs. -/

/-- Runs of an endpoint, with the ledger that is written along. -/
inductive Roster.Run (w : Roster) (s₀ : System) (L₀ : Ledger) : System → Ledger → Prop where
  | start : Run w s₀ L₀ s₀ L₀
  | step {s s' : System} {L : Ledger} {a : Action} (before : Run w s₀ L₀ s L)
      (permits : w.Permits s a) (taken : s.step? a = some s') : Run w s₀ L₀ s' (L.after s a s')

/-- The staff is complete, the ledger covers the logs, and the books balance. -/
structure InOrder (w : Roster) (first : String → Nat) (s : System) (L : Ledger) : Prop where
  staffed : Staffed w s
  covers : L.Covers s.broker
  faithful : L.Faithful s.broker
  balanced : (L.book s w.group).Balanced first
  traced : (L.book s w.group).Traced (w.Linked s.registry)

theorem System.Turn.registry {a : Action} (turn : s.Turn a s') : s'.registry = s.registry := by
  cases turn with
  | idle broker registry journal consumers => exact registry
  | accepted r ok => rfl
  | started l handler group ok => rw [of_start ok]
  | flagged here listener group source phase => rfl
  | moved scheduler here shift => rfl
  | polled here phase source received => rfl
  | delivered here phase move broker plain unsettled => rfl
  | published here phase ok => rfl
  | concluded here phase => rfl
  | failed here phase source stops => rfl
  | passedBy here phase goesOn => rfl
  | committed here phase source => rfl
  | closed here closes source => rfl

/-- A permitted step is a turn. -/
theorem Roster.Permits.turn {a : Action} (permits : w.Permits s a) (taken : s.step? a = some s')
    (source : s.OnBroker) : s.Turn a s' := by
  refine .of_step taken source ?_ ?_
  · rintro context rfl
    exact permits
  · rintro l handler group events commits rfl
    exact permits

theorem InOrder.of_turn (h : InOrder w first s L) (hfits : s.broker.Fits) {a : Action}
    (permits : w.Permits s a) (turn : s.Turn a s') : InOrder w first s' (L.after s a s') := by
  have hentry := h.staffed.entry_of_turn hfits h.covers permits turn
  refine ⟨h.staffed.of_turn hfits permits turn, h.covers.grown turn.records,
    h.staffed.faithful_of_turn hfits h.covers h.faithful turn, ?_, ?_⟩
  · rcases hentry with hsame | hentry
    · rw [hsame]
      exact h.balanced
    · exact h.balanced.of_entry hentry
  · rw [turn.registry]
    rcases hentry with hsame | hentry
    · rw [hsame]
      exact h.traced
    · exact h.traced.of_entry hentry

theorem Roster.Run.onBroker (run : w.Run s₀ L₀ s L) (h : s₀.OnBroker) : s.OnBroker := by
  induction run with
  | start => exact h
  | step before permits taken ih => exact (permits.turn taken ih).onBroker ih

/-- Logs only grow along a run. -/
theorem Roster.Run.records (run : w.Run s₀ L₀ s L) (h : s₀.OnBroker) (topic : String) :
    s₀.broker.records topic <+: s.broker.records topic := by
  induction run with
  | start => exact List.prefix_refl _
  | step before permits taken ih =>
      exact ih.trans ((permits.turn taken (before.onBroker h)).records topic)

theorem Staffed.onBroker (h : Staffed w s) : s.OnBroker := by
  intro c hc
  obtain ⟨i, hi⟩ := List.mem_iff_getElem?.1 hc
  obtain ⟨id, hid⟩ := h.employed i c hi
  exact ⟨id, hid.source⟩

/-- **What is in order stays in order**, as long as there is an offset for every record. -/
theorem InOrder.of_run (h : InOrder w first s₀ L₀) (run : w.Run s₀ L₀ s L)
    (hfits : s.broker.Fits) : InOrder w first s L := by
  have hsource := h.staffed.onBroker
  induction run with
  | start => exact h
  | step before permits taken ih =>
      have turn := permits.turn taken (before.onBroker hsource)
      -- logs were no longer before the step than they are now
      have hfits' := hfits.of_grown turn.records
      exact (ih hfits').of_turn hfits' permits turn

/-- The ledger after some actions, one after the other. -/
def Ledger.along (L : Ledger) (s : System) : List Action → Ledger
  | [] => L
  | a :: rest =>
      match s.step? a with
      | some s' => (L.after s a s').along s' rest
      | none => L

/-- Whether the action neither starts a consumer nor puts chains in force. -/
def Action.isPlain : Action → Bool
  | .register _ | .start _ _ _ | .startFeed _ _ _ _ _ => false
  | _ => true

theorem Roster.permits_of_isPlain {a : Action} (h : a.isPlain = true) (s : System) :
    w.Permits s a := by
  cases a with
  | register context => cases h
  | start l handler group => cases h
  | startFeed l handler group events commits => cases h
  | _ => trivial

/-- A list of actions that start nothing is a run. -/
theorem Roster.Run.along {actions : List Action} (hplain : ∀ a ∈ actions, a.isPlain = true)
    (run : w.Run s₀ L₀ s L) (ran : s.run actions = some s') :
    w.Run s₀ L₀ s' (L.along s actions) := by
  induction actions generalizing s L with
  | nil =>
      cases ran
      exact run
  | cons a rest ih =>
      have ran : (s.step? a).bind (fun s => s.run rest) = some s' := ran
      obtain ⟨next, taken, ran⟩ := Option.bind_eq_some_iff.1 ran
      unfold Ledger.along
      rw [taken]
      exact ih (fun a ha => hplain a (List.mem_cons_of_mem _ ha))
        (run.step (permits_of_isPlain (hplain a List.mem_cons_self) s) taken) ran

/-! ## §2. What the books say. -/

/-- Whether the listener is done with the record, and its offset is not committed yet. -/
def Phase.awaitsCommit : Phase → Bool
  | .delivering _ (.ended (.ok _)) => true
  | .committing _ => true
  | _ => false

/-- No consumer is between the end of a delivery and the commit that follows. -/
def System.Quiet (s : System) : Prop := ∀ c ∈ s.consumers, c.phase.awaitsCommit = false

instance (s : System) : Decidable s.Quiet :=
  inferInstanceAs (Decidable (∀ c ∈ s.consumers, c.phase.awaitsCommit = false))

/-- The record lies on its topic, is a copy of the record `p`, and is not committed. -/
structure Ledger.Open (L : Ledger) (b : Broker) (group : String) (p : Place) (r : Record) :
    Prop where
  holds : b.Holds r
  origin : L.origin? r = some p
  floor : b.floor group r.topic ≤ r.offset.toInt.toNat

/-- Exactly one of three: one copy of the record is open and the record has not ended, or it ended
once as processed, or it ended once as dropped. -/
inductive Ledger.Accounted (L : Ledger) (s : System) (group : String) (p : Place) : Prop where
  | lies (r : Record) (here : L.Open s.broker group p r)
      (only : ∀ r', L.Open s.broker group p r' → r' = r) (endings : L.endings s.journal p = [])
  | processed (nowhere : ∀ r, ¬L.Open s.broker group p r)
      (endings : L.endings s.journal p = [.processed])
  | dropped (nowhere : ∀ r, ¬L.Open s.broker group p r)
      (endings : L.endings s.journal p = [.dropped])

/-- Whoever is done with a record awaits its commit. -/
theorem Phase.awaitsCommit_of_isSettled {p : Phase} (h : p.isSettled = true) :
    p.awaitsCommit = true := by
  unfold isSettled at h
  split at h
  · rfl
  · rfl
  · cases h

theorem System.Quiet.settled (h : s.Quiet) (topic : String) : s.settled topic = false := by
  cases hsettled : s.settled topic with
  | false => rfl
  | true =>
      obtain ⟨j, x, hx, _, hphase⟩ := (System.settled_iff topic).1 hsettled
      have hquiet := h x (List.mem_of_getElem? hx)
      rw [Phase.awaitsCommit_of_isSettled hphase] at hquiet
      cases hquiet

/-- Where a copy is to be dealt with, an open record lies. -/
theorem InOrder.open_of_pending (h : InOrder w first s L) (hfits : s.broker.Fits) {p q : Place}
    (hpending : (L.book s w.group).Pending p q) :
    ∃ r, L.Open s.broker w.group p r ∧ r.topic = q.topic ∧ r.offset.toInt.toNat = q.offset := by
  obtain ⟨hcopy, hle⟩ := hpending
  have hlt : q.offset < (s.broker.records q.topic).length := by
    rw [← h.covers]
    exact (List.getElem?_eq_some_iff.1 hcopy).1
  have hr := List.getElem?_eq_getElem hlt
  obtain ⟨hoffset, hholds⟩ := h.staffed.lawful.holds hfits hr
  have htopic := (h.staffed.lawful.numbered _ _ _ hr).1
  refine ⟨_, ⟨hholds, ?_, ?_⟩, htopic, hoffset⟩
  · unfold Ledger.origin?
    rw [htopic, hoffset]
    exact hcopy
  · rw [htopic, hoffset]
    exact Nat.le_trans (Nat.le_add_right _ _) hle

/-- In quiet states an open record is to be dealt with. -/
theorem System.Quiet.pending (quiet : s.Quiet) {group : String} {p : Place} {r : Record}
    (h : L.Open s.broker group p r) :
    (L.book s group).Pending p ⟨r.topic, r.offset.toInt.toNat⟩ := by
  refine ⟨h.origin, ?_⟩
  show s.broker.floor group r.topic + (s.settled r.topic).toNat ≤ r.offset.toInt.toNat
  rw [quiet.settled]
  exact h.floor

/-- A record is known by where it lies. -/
theorem Broker.Holds.eq {b : Broker} {r r' : Record} (h : b.Holds r) (h' : b.Holds r')
    (htopic : r'.topic = r.topic) (hoffset : r'.offset.toInt.toNat = r.offset.toInt.toNat) :
    r' = r := by
  unfold Holds at h h'
  rw [htopic, hoffset, h] at h'
  exact (Option.some.inj h').symm

/-- **In quiet states every record that was accepted is accounted for.** -/
theorem InOrder.accounted (h : InOrder w first s L) (hfits : s.broker.Fits) (quiet : s.Quiet)
    {p : Place} (accepted : (L.copies p.topic)[p.offset]? = some p)
    (due : first p.topic ≤ p.offset) : L.Accounted s w.group p := by
  cases h.balanced.account p accepted due with
  | @pending q here only ends =>
      obtain ⟨r, hopen, htopic, hoffset⟩ := h.open_of_pending hfits here
      -- two open copies would be two pending places
      refine .lies r hopen (fun r' hr' => ?_) ends
      have hq := only _ (quiet.pending hr')
      refine hopen.holds.eq hr'.holds ?_ ?_
      · rw [htopic, ← hq]
      · rw [hoffset, ← hq]
  | @ended outcome none ends final =>
      have hnowhere : ∀ r, ¬L.Open s.broker w.group p r :=
        fun r hr => none _ (quiet.pending hr)
      cases outcome with
      | processed => exact .processed hnowhere ends
      | dropped => exact .dropped hnowhere ends
      | forwarded topic => cases final
      | deadLettered topic => cases final

/-! ## §3. Where copies lie. -/

/-- No topic is one of two chains. -/
def Roster.Unshared (w : Roster) (registry : Registry) : Prop :=
  ∀ source ∈ w.sources, ∀ source' ∈ w.sources, ∀ topic, registry.Reaches source topic →
    registry.Reaches source' topic → source = source'

/-- A copy does not leave the chains; where no topic is shared, it does not leave its chain. -/
theorem Roster.linked_trans {registry : Registry} {topic topic' : String}
    (h : Relation.ReflTransGen (w.Linked registry) topic topic') {source : String}
    (hsource : source ∈ w.sources) (hreaches : registry.Reaches source topic) :
    (∃ source' ∈ w.sources, registry.Reaches source' topic')
      ∧ (w.Unshared registry → registry.Reaches source topic') := by
  -- induction on the hops; without shared topics each link is one of the chain that the last one was of
  induction h with
  | refl => exact ⟨⟨source, hsource, hreaches⟩, fun _ => hreaches⟩
  | tail _ hlink ih =>
      obtain ⟨source', hsource', hfrom, hto⟩ := hlink
      refine ⟨⟨source', hsource', hto⟩, fun hunshared => ?_⟩
      have hsame := hunshared source hsource source' hsource' _ (ih.2 hunshared) hfrom
      rw [hsame]
      exact hto

/-- **Copies of a record of a source topic lie on topics of the endpoint**; if none is shared, on
those of the chain of the source topic. -/
theorem InOrder.reaches (h : InOrder w first s L) {p : Place} {r : Record}
    (horigin : L.origin? r = some p) (hsource : p.topic ∈ w.sources) :
    (∃ source ∈ w.sources, s.registry.Reaches source r.topic)
      ∧ (w.Unshared s.registry → s.registry.Reaches p.topic r.topic) :=
  Roster.linked_trans (h.traced _ _ _ horigin) hsource
    (h.staffed.inForce.begins p.topic hsource)

/-! ## §4. Consumers that could not go on. -/

/-- A consumer that polls receives the record at the floor. -/
theorem InOrder.receives (h : InOrder w first s L) (here : s.consumers[i]? = some c)
    {since : Nat} (phase : c.phase = .polling since) {r : Record}
    (next : (s.broker.records c.topic)[s.broker.floor w.group c.topic]? = some r)
    (choice : Choice) :
    ∃ s', s.step? (.proceed i choice) = some s'
      ∧ s'.consumers[i]? = some { c with phase := .received r } := by
  obtain ⟨id, hid⟩ := h.staffed.employed i c here
  have hserves := hid.serves (by rw [phase]; rfl)
  rw [phase] at hserves
  have hreceive := hserves.exists_receive next
  have gives : c.source.Gives s.now since s.broker (.record r) (s.broker.receive id).2
      (.subscription id) := by
    rw [hid.source]
    exact .inbox (Prod.ext hreceive rfl)
  refine ⟨_, (System.Advance.polled choice phase gives).step? here, ?_⟩
  rw [System.getElem?_put_self here, ← hid.source]
  rfl

/-- The consumer ended with the error over the record `r`, which is the next of its topic. -/
structure System.GaveUp (s : System) (group : String) (i : Nat) (topic : String) (e : Error)
    (r : Record) : Prop where
  concluded : ∃ time, ⟨time, some i, .concluded r (.error e)⟩ ∈ s.journal
  next : (s.broker.records topic)[s.broker.floor group topic]? = some r

/-- **A consumer that ended with an error has neither committed its record nor left a copy
elsewhere.** -/
theorem InOrder.left_behind (h : InOrder w first s L) (hfits : s.broker.Fits) (quiet : s.Quiet)
    {e : Error} (here : s.consumers[i]? = some c) (phase : c.phase = .ended (.error e))
    (latest : s.IsLatest i c.topic) :
    ∃ r p, s.GaveUp w.group i c.topic e r ∧ L.Open s.broker w.group p r
      ∧ (∀ r', L.Open s.broker w.group p r' → r' = r) ∧ L.endings s.journal p = [] := by
  -- its record is still the one at the floor, and therefore the only open copy
  obtain ⟨time, r, hmem, hnext⟩ := h.staffed.failures i c e here phase latest
  obtain ⟨hoffset, hholds⟩ := h.staffed.lawful.holds hfits hnext
  have htopic := (h.staffed.lawful.numbered _ _ _ hnext).1
  have hlt : s.broker.floor w.group c.topic < (L.copies c.topic).length := by
    rw [h.covers]
    exact (List.getElem?_eq_some_iff.1 hnext).1
  have horigin : L.origin? r = some ((L.copies c.topic)[s.broker.floor w.group c.topic]) := by
    unfold Ledger.origin?
    rw [hoffset, htopic]
    exact List.getElem?_eq_getElem hlt
  have hfloor : s.broker.floor w.group r.topic ≤ r.offset.toInt.toNat := by
    exact Nat.le_of_eq (by rw [hoffset, htopic])
  have hopen : L.Open s.broker w.group _ r := ⟨hholds, horigin, hfloor⟩
  have hpending := quiet.pending hopen
  refine ⟨r, _, ⟨⟨time, hmem⟩, hnext⟩, hopen, ?_⟩
  have haccepted := h.balanced.known _ _ _ horigin
  cases h.accounted hfits quiet haccepted (h.balanced.owed _ _ hpending) with
  | lies r₀ _ only endings => exact ⟨fun r' hr' => (only r' hr').trans (only r hopen).symm, endings⟩
  | processed nowhere _ => exact absurd hopen (nowhere r)
  | dropped nowhere _ => exact absurd hopen (nowhere r)

end Redelivery
