/-
  Redelivery.Proofs.System.Loop
  ─────────────────────────────
  **The loop of a consumer, seen from its source.**

      polling ─record─▶ received ─▶ holding ─▶ delivering ─▶ committing ─▶ polling
         ├────error──▶ pausing ─▶ polling           └─error─▶ ended
         └────close──▶ ended

  One constructor of `Loop` for each arrow, with what the source answers and
  what the consumer does.  A consumer that nobody disturbs goes along these
  arrows only (`Loop.of_step`), whatever its source is.
-/
import Redelivery.Proofs.System.Stopping

namespace Redelivery

/-! ## §1. Sources. -/

namespace Source

/-- `σ.Answers answer σ'`: the source answers a poll, and is `σ'` after it. -/
inductive Answers : Source → Polled → Source → Prop where
  | inbox (id : Nat) (r : Record) : Answers (.subscription id) (.record r) (.subscription id)
  | event (e : FeedEvent) (rest : List FeedEvent) (commits : List Bool) :
      Answers (.feed (e :: rest) commits) e.event (.feed rest commits)

/-- `σ.Commits σ'`: the source takes one commit. -/
inductive Commits : Source → Source → Prop where
  | offset (id : Nat) : Commits (.subscription id) (.subscription id)
  | used (events : List FeedEvent) (commits : List Bool) :
      Commits (.feed events commits) (.feed events (commits.drop 1))

theorem Gives.answers {now since : Nat} {b b' : Broker} {σ σ' : Source} {polled : Polled}
    (gives : σ.Gives now since b polled b' σ') : σ.Answers polled σ' := by
  cases gives with
  | @inbox id r b' received => exact .inbox id r
  | @event e rest commits ready => exact .event e rest commits

theorem Takes.commits {b b' : Broker} {r : Record} {ok : Bool} {σ σ' : Source}
    (takes : σ.Takes b r ok b' σ') : σ.Commits σ' := by
  cases takes with
  | offset id => exact .offset id
  | told events ok rest => exact .used events (ok :: rest)
  | silent events => exact .used events []

end Source

/-! ## §2. Deeds. -/

/-- What a consumer does. -/
inductive Deed where
  /-- It asks its source, which answers with an error. -/
  | missed
  /-- It asks its source and takes a record. -/
  | took (r : Record)
  /-- The record is handed to the listener. -/
  | handed (r : Record)
  /-- The listener is done with it. -/
  | concluded (r : Record) (result : Except Error Outcome)
  /-- Its offset is committed, or the commit fails. -/
  | committed (r : Record) (ok : Bool)
  deriving DecidableEq, Repr

/-- What an entry of the journal says about the deeds of a consumer. -/
def JournalEntry.deed? (i : Nat) (e : JournalEntry) : Option Deed :=
  if e.consumer = some i then
    match e.event with
    | .concluded r result => some (.concluded r result)
    | .committed r ok => some (.committed r ok)
    | _ => none
  else none

/-- What an answer of the source lets a consumer do. -/
def Polled.deed? : Polled → Option Deed
  | .record r => some (.took r)
  | .failed _ => some .missed
  | .closed => none

/-- What a consumer does that comes from one phase to another, where the phases show it. -/
def Phase.deed? : Phase → Phase → Option Deed
  | .polling _, .received r => some (.took r)
  | .polling _, .pausing _ => some .missed
  | .received r, .delivering _ _ | .holding r _, .delivering _ _ => some (.handed r)
  | _, _ => none

namespace System

/-- What a consumer does by a step: what is noted in the journal, and otherwise what its phases
show. -/
def deed? (i : Nat) (s t : System) : Option Deed :=
  ((t.journal.drop s.journal.length).findSome? (JournalEntry.deed? i)).or
    ((s.phase? i).bind fun p => (t.phase? i).bind p.deed?)

/-- What a consumer does in a run. -/
def deeds (s : System) (i : Nat) (actions : List Action) : List Deed := s.trace (deed? i) actions

/-! ## §3. Arrows. -/

/-- `Loop σ p answers deed p' σ'`: from phase `p` with the source `σ`, a consumer that nobody disturbs
comes to `p'` with the source `σ'`. -/
inductive Loop (σ : Source) : Phase → List Polled → Option Deed → Phase → Source → Prop where
  | rests (p : Phase) : Loop σ p [] none p σ
  | polled {since now : Nat} {answer : Polled} {σ' : Source} (answers : σ.Answers answer σ') :
      Loop σ (.polling since) [answer] answer.deed? (Consumer.afterPoll now answer) σ'
  | resumed {wake now : Nat} : Loop σ (.pausing wake) [] none (.polling now) σ
  | held {r : Record} {id : Nat} : Loop σ (.received r) [] none (.holding r id) σ
  | begun {r : Record} {d : Delivery} :
      Loop σ (.received r) [] (some (.handed r)) (.delivering r d) σ
  | activated {r : Record} {id : Nat} {d : Delivery} :
      Loop σ (.holding r id) [] (some (.handed r)) (.delivering r d) σ
  | moved {r : Record} {d d' : Delivery} : Loop σ (.delivering r d) [] none (.delivering r d') σ
  | dealtWith {r : Record} {outcome : Outcome} :
      Loop σ (.delivering r (.ended (.ok outcome))) [] (some (.concluded r (.ok outcome)))
        (.committing r) σ
  | failed {r : Record} {e : Error} :
      Loop σ (.delivering r (.ended (.error e))) [] (some (.concluded r (.error e)))
        (.ended (.error e)) σ
  | brokeDown {r : Record} : Loop σ (.delivering r .brokeDown) [] none .brokeDown σ
  | committed {r : Record} {ok : Bool} {now : Nat} {σ' : Source} (commits : σ.Commits σ') :
      Loop σ (.committing r) [] (some (.committed r ok)) (.polling now) σ'

variable {s s' t : System} {i : Nat} {c c' : Consumer} {a : Action} {choice : Choice}

/-! ## §4. Others. -/

/-- **Actions of others leave a consumer as it is**, but for whether it was told to stop and who has
its handle. -/
theorem bystander (taken : s.step? a = some s') (here : s.consumers[i]? = some c)
    (hproceed : ∀ choice, a ≠ .proceed i choice) (hnotice : a ≠ .notice i) :
    ∃ c', s'.consumers[i]? = some c' ∧ c'.phase = c.phase ∧ c'.source = c.source
      ∧ (a ≠ .cancelToken i → c'.stopping = c.stopping) := by
  have hlt : i < s.consumers.length := (List.getElem?_eq_some_iff.1 here).1
  have hsame : ∃ c', s.consumers[i]? = some c' ∧ c'.phase = c.phase ∧ c'.source = c.source
      ∧ (a ≠ .cancelToken i → c'.stopping = c.stopping) := ⟨c, here, rfl, rfl, fun _ => rfl⟩
  have hadded : ∀ x, ∃ c', (s.consumers ++ [x])[i]? = some c' ∧ c'.phase = c.phase
      ∧ c'.source = c.source ∧ (a ≠ .cancelToken i → c'.stopping = c.stopping) := by
    intro x
    rw [List.getElem?_append_left hlt]
    exact hsame
  -- a consumer is replaced: another one, or this one with the same work to do
  have hset : ∀ {j : Nat} {x x' : Consumer}, s.consumers[j]? = some x →
      (j = i → x'.phase = x.phase ∧ x'.source = x.source
        ∧ (a ≠ .cancelToken i → x'.stopping = x.stopping)) →
      ∃ c', (s.consumers.set j x')[i]? = some c' ∧ c'.phase = c.phase ∧ c'.source = c.source
        ∧ (a ≠ .cancelToken i → c'.stopping = c.stopping) := by
    intro j x x' hx hkeeps
    by_cases hj : j = i
    · subst hj
      rw [here] at hx
      cases hx
      exact ⟨x', List.getElem?_set_self hlt, hkeeps rfl⟩
    · rw [List.getElem?_set_ne hj]
      exact hsame
  cases Effect.of_step taken with
  | started l handler group ok =>
      rw [of_start ok]
      exact hadded _
  | fed l handler group events commits => exact hadded _
  | told hx =>
      refine hset hx fun hj => ⟨rfl, rfl, fun hne => ?_⟩
      rw [hj] at hne
      exact absurd rfl hne
  | taken hx kept => exact hset hx fun _ => ⟨rfl, rfl, fun _ => rfl⟩
  | collected hx handle ended => exact hset hx fun _ => ⟨rfl, rfl, fun _ => rfl⟩
  | @advanced _ j x x' b scheduler entries hx advance =>
      refine hset hx fun hj => ?_
      -- whoever advances goes on or notices a stop
      subst hj
      cases advance with
      | noticed told waits => exact absurd rfl hnotice
      | _ => exact absurd rfl (hproceed _)
  | _ => exact hsame

/-! ## §5. What a step notes. -/

theorem findSome?_deed?_of_plain {entries : List JournalEntry} (plain : Plain entries)
    (uncommitted : ∀ entry ∈ entries, entry.commit? = none) :
    entries.findSome? (JournalEntry.deed? i) = none := by
  rw [List.findSome?_eq_none_iff]
  intro entry hentry
  unfold JournalEntry.deed?
  split
  · split
    · rename_i r result hevent
      exact absurd hevent (plain entry hentry r result)
    · rename_i r ok hevent
      have hcommit := uncommitted entry hentry
      unfold JournalEntry.commit? at hcommit
      rw [hevent] at hcommit
      cases hcommit
    · rfl
  · rfl

/-- **Nothing is noted about a consumer that does not go on.** -/
theorem Step.noted (step : Step s a s') (hproceed : ∀ choice, a ≠ .proceed i choice) :
    ∃ entries, s'.journal = s.journal ++ entries
      ∧ entries.findSome? (JournalEntry.deed? i) = none := by
  have hnone : s.journal = s.journal ++ [] := (List.append_nil _).symm
  have hother : ∀ (j : Nat) choice (event : Event), a = .proceed j choice →
      [(⟨s.now, some j, event⟩ : JournalEntry)].findSome? (JournalEntry.deed? i) = none := by
    rintro j choice event rfl
    have hj : ¬(some j = some i) := by
      intro heq
      cases heq
      exact hproceed choice rfl
    unfold JournalEntry.deed?
    simp only [List.findSome?_cons, List.findSome?_nil, if_neg hj]
  cases step with
  | @advanced a j c c' b x entries here advance =>
      refine ⟨entries, rfl, ?_⟩
      cases advance with
      | moved phase move left plain uncommitted => exact findSome?_deed?_of_plain plain uncommitted
      | concluded choice phase => exact hother _ _ _ rfl
      | committed choice phase takes => exact hother _ _ _ rfl
      | _ => rfl
  | hired l handler group source action consumers scheduler journal registry =>
      exact ⟨[], journal.trans hnone, rfl⟩
  | told a here listener handler group phase stopping => exact ⟨[], hnone, rfl⟩
  | cancelling here => exact ⟨[], hnone, rfl⟩
  | scheduled a turn => exact ⟨[], hnone, rfl⟩
  | registered context => exact ⟨[], hnone, rfl⟩
  | outside consumers scheduler journal registry => exact ⟨[], journal.trans hnone, rfl⟩

/-- What is noted comes first. -/
theorem deed?_of_noted {entries : List JournalEntry} {deed : Deed}
    (journal : s'.journal = s.journal ++ entries)
    (hfound : entries.findSome? (JournalEntry.deed? i) = some deed) :
    deed? i s s' = some deed := by
  unfold deed?
  rw [journal, List.drop_left, hfound]
  rfl

/-- Otherwise the phases tell. -/
theorem deed?_of_phases {entries : List JournalEntry} {p p' : Phase}
    (journal : s'.journal = s.journal ++ entries)
    (hnone : entries.findSome? (JournalEntry.deed? i) = none) (hp : s.phase? i = some p)
    (hp' : s'.phase? i = some p') : deed? i s s' = p.deed? p' := by
  unfold deed?
  rw [journal, List.drop_left, hnone, hp, hp']
  rfl

/-! ## §6. Steps are arrows. -/

/-- **A consumer that goes on follows an arrow.** -/
theorem Loop.of_proceed (here : s.consumers[i]? = some c)
    (taken : s.step? (.proceed i choice) = some s')
    (kept : ∀ r id, c.phase = .holding r id → s.scheduler.outcome? id ≠ some false)
    (fatal : ∀ r e, c.phase = .delivering r (.ended (.error e)) → e.stopsConsumer = true) :
    ∃ c' answers, s'.consumers[i]? = some c' ∧ c'.stopping = c.stopping
      ∧ Loop c.source c.phase answers (deed? i s s') c'.phase c'.source := by
  obtain ⟨b, x, c', entries, advance, rfl⟩ := Advances.of_proceed here taken
  have here' : (s.put b i c' entries x).consumers[i]? = some c' :=
    getElem?_put_self here
  have hstopping := advance.becomes.stopping
  -- what is noted tells what is done, and otherwise the phases do
  have hphases : entries.findSome? (JournalEntry.deed? i) = none →
      deed? i s (s.put b i c' entries x) = c.phase.deed? c'.phase :=
    fun hnone => deed?_of_phases rfl hnone (phase?_of_getElem? here) (phase?_of_getElem? here')
  have hnoted : ∀ event deed, entries = [⟨s.now, some i, event⟩] →
      JournalEntry.deed? i ⟨s.now, some i, event⟩ = some deed →
      deed? i s (s.put b i c' entries x) = some deed := by
    intro event deed hentries hdeed
    refine deed?_of_noted rfl ?_
    rw [hentries, List.findSome?_cons, hdeed]
  cases advance with
  | @polled since polled b σ choice phase gives =>
      refine ⟨_, [polled], here', hstopping, ?_⟩
      rw [hphases rfl, phase]
      have hloop : Loop c.source (.polling since) [polled] polled.deed?
          (Consumer.afterPoll s.now polled) σ := .polled gives.answers
      cases polled with
      | record r => exact hloop
      | failed e => exact hloop
      | closed => exact hloop
  | begun choice phase plain =>
      refine ⟨_, [], here', hstopping, ?_⟩
      rw [hphases rfl, phase]
      exact .begun
  | asked choice phase delayed =>
      refine ⟨_, [], here', hstopping, ?_⟩
      rw [hphases rfl, phase]
      exact .held
  | resumed choice phase awake =>
      refine ⟨_, [], here', hstopping, ?_⟩
      rw [hphases rfl, phase]
      exact .resumed
  | fired choice phase outcome =>
      refine ⟨_, [], here', hstopping, ?_⟩
      rw [hphases rfl, phase]
      exact .activated
  | cancelled choice phase outcome => exact absurd outcome (kept _ _ phase)
  | moved phase move left plain uncommitted =>
      refine ⟨_, [], here', hstopping, ?_⟩
      rw [hphases (findSome?_deed?_of_plain plain uncommitted), phase]
      exact .moved
  | @concluded r result choice phase =>
      refine ⟨_, [], here', hstopping, ?_⟩
      rw [hnoted _ (.concluded r result) rfl (if_pos rfl), phase]
      cases result with
      | ok outcome => exact .dealtWith
      | error e =>
          have hend : Consumer.afterDelivery r (.error e) = .ended (.error e) :=
            if_pos (fatal r e phase)
          rw [hend]
          exact .failed
  | brokeDown choice phase =>
      refine ⟨_, [], here', hstopping, ?_⟩
      rw [hphases rfl, phase]
      exact .brokeDown
  | @committed r ok b σ choice phase takes =>
      refine ⟨_, [], here', hstopping, ?_⟩
      rw [hnoted _ (.committed r ok) rfl (if_pos rfl), phase]
      exact .committed takes.commits

/-- **Every step leads a consumer along an arrow**, if it was not told to stop, its activation was not
cancelled, and no error of its listener spares it. -/
theorem Loop.of_step (taken : s.step? a = some s') (here : s.consumers[i]? = some c)
    (going : c.stopping = false)
    (kept : ∀ r id, c.phase = .holding r id → s.scheduler.outcome? id ≠ some false)
    (fatal : ∀ r e, c.phase = .delivering r (.ended (.error e)) → e.stopsConsumer = true) :
    ∃ c' answers, s'.consumers[i]? = some c' ∧ (a ≠ .cancelToken i → c'.stopping = false)
      ∧ Loop c.source c.phase answers (deed? i s s') c'.phase c'.source := by
  by_cases hproceed : ∃ choice, a = .proceed i choice
  · obtain ⟨choice, rfl⟩ := hproceed
    obtain ⟨c', answers, here', hstopping, hloop⟩ := of_proceed here taken kept fatal
    exact ⟨c', answers, here', fun _ => hstopping.trans going, hloop⟩
  · have hother : ∀ choice, a ≠ .proceed i choice := fun choice ha => hproceed ⟨choice, ha⟩
    have hnotice : a ≠ .notice i := by
      rintro rfl
      obtain ⟨b, x, c', entries, advance, _⟩ := Advances.of_notice here taken
      cases advance with
      | noticed told waits =>
          rw [going] at told
          cases told
    obtain ⟨c', here', hphase, hsource, hstopping⟩ := bystander taken here hother hnotice
    refine ⟨c', [], here', fun hne => (hstopping hne).trans going, ?_⟩
    obtain ⟨entries, journal, hnone⟩ := (Step.of_step taken).noted hother
    have hp' : s'.phase? i = some c.phase := by
      rw [phase?_of_getElem? here', hphase]
    rw [hphase, hsource, deed?_of_phases journal hnone (phase?_of_getElem? here) hp']
    cases c.phase with
    | _ => exact .rests _

end System

end Redelivery
