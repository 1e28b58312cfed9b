/-
  Redelivery.Proofs.System.Rounds
  ───────────────────────────────
  **A consumer that nobody disturbs goes round.**

  In each round it asks its source once, and it finishes the round before it
  asks again.  A round is one of

      missed                                         the source answers with an error
      took r, handed r, concluded r ok, committed r  the source gives the record r

  A commit may fail as well; nothing of this ends the consumer.  The end
  comes between two rounds, when the source closes; or in the middle of one,
  when the listener fails or its handler breaks down, and then nothing is
  committed any more.
-/
import Redelivery.Proofs.System.Handover

namespace Redelivery

/-! ## §1. Rounds. -/

/-- What comes of asking the source once. -/
inductive Round where
  /-- The source answers with an error. -/
  | missed
  /-- The source gives a record: what the listener made of it, and whether its offset could be
  committed. -/
  | dealt (r : Record) (outcome : Outcome) (ok : Bool)
  deriving DecidableEq, Repr

namespace Round

/-- What a consumer does in a round. -/
def deeds : Round → List Deed
  | missed => [.missed]
  | dealt r outcome ok => [.took r, .handed r, .concluded r (.ok outcome), .committed r ok]

/-- Whether there is a commit in the round. -/
def commits : Round → Bool
  | missed => false
  | dealt _ _ _ => true

end Round

/-- The deed is a poll. -/
def Deed.polls : Deed → Bool
  | .missed | .took _ => true
  | _ => false

/-- `p.Since deeds`: what a consumer that is in phase `p` has done since its latest round. -/
inductive Phase.Since : Phase → List Deed → Prop where
  | polling (since : Nat) : Since (.polling since) []
  | pausing (wake : Nat) : Since (.pausing wake) []
  | received (r : Record) : Since (.received r) [.took r]
  | holding (r : Record) (id : Nat) : Since (.holding r id) [.took r]
  | delivering (r : Record) (d : Delivery) : Since (.delivering r d) [.took r, .handed r]
  | committing (r : Record) (outcome : Outcome) :
      Since (.committing r) [.took r, .handed r, .concluded r (.ok outcome)]
  /-- The source is closed. -/
  | closed : Since (.ended (.ok ())) []
  /-- The listener has failed. -/
  | failed (r : Record) (e : Error) :
      Since (.ended (.error e)) [.took r, .handed r, .concluded r (.error e)]
  | brokeDown (r : Record) : Since .brokeDown [.took r, .handed r]

/-- `σ.Gave answers n σ'`: the source has answered the polls so, has taken `n` commits, and has come to
`σ'`. -/
inductive Source.Gave : Source → List Polled → Nat → Source → Prop where
  | inbox (id : Nat) (records : List Record) (n : Nat) :
      Gave (.subscription id) (records.map Polled.record) n (.subscription id)
  | feed (given rest : List FeedEvent) (commits : List Bool) (n : Nat) :
      Gave (.feed (given ++ rest) commits) (given.map FeedEvent.event) n
        (.feed rest (commits.drop n))

theorem Source.gave_nil (σ : Source) : σ.Gave [] 0 σ := by
  cases σ with
  | subscription id => exact .inbox id [] 0
  | feed events commits => exact .feed [] events commits 0

theorem Source.Gave.answers {σ₀ σ σ' : Source} {answers : List Polled} {n : Nat} {answer : Polled}
    (h : σ₀.Gave answers n σ) (next : σ.Answers answer σ') :
    σ₀.Gave (answers ++ [answer]) n σ' := by
  cases h with
  | inbox id records n =>
      cases next with
      | inbox id r =>
          have hgave := Gave.inbox id (records ++ [r]) n
          rw [List.map_append] at hgave
          exact hgave
  | feed given rest commits n =>
      generalize hσ : Source.feed rest (commits.drop n) = σ at next
      cases next with
      | inbox id r => cases hσ
      | event e rest' commits' =>
          cases hσ
          have hgave := Gave.feed (given ++ [e]) rest' commits n
          rw [List.append_assoc, List.map_append] at hgave
          exact hgave

theorem Source.Gave.commits {σ₀ σ σ' : Source} {answers : List Polled} {n : Nat}
    (h : σ₀.Gave answers n σ) (next : σ.Commits σ') : σ₀.Gave answers (n + 1) σ' := by
  cases h with
  | inbox id records n =>
      cases next with
      | offset id => exact .inbox id records (n + 1)
  | feed given rest commits n =>
      generalize hσ : Source.feed rest (commits.drop n) = σ at next
      cases next with
      | offset id => cases hσ
      | used events commits' =>
          cases hσ
          rw [List.drop_drop]
          exact .feed given rest commits (n + 1)

/-- **A consumer that goes round.**  From the source `σ₀` it has come to phase `p` and source `σ`,
having done `done`: whole rounds, and what belongs to its phase.  Its polls are what the source
answered, in that order; it made one commit for each record that the listener dealt with; and it has
ended without an error if and only if the source is closed. -/
def GoesRound (σ₀ : Source) (done : List Deed) (p : Phase) (σ : Source) : Prop :=
  ∃ (answers : List Polled) (rounds : List Round) (last : List Deed),
    done = rounds.flatMap Round.deeds ++ last ∧ p.Since last
    ∧ answers.filterMap Polled.deed? = done.filter Deed.polls
    ∧ σ₀.Gave answers (rounds.countP Round.commits) σ
    ∧ (.closed ∈ answers ↔ p = .ended (.ok ()))

theorem goesRound_polling (σ : Source) (since : Nat) : GoesRound σ [] (.polling since) σ := by
  exact ⟨[], [], [], rfl, .polling since, rfl, σ.gave_nil, nofun, nofun⟩

/-- A round goes on without a poll or a commit. -/
theorem GoesRound.within {σ₀ σ : Source} {done : List Deed} {p p' : Phase} {deed : Option Deed}
    (h : GoesRound σ₀ done p σ) (since : ∀ last, p.Since last → p'.Since (last ++ deed.toList))
    (unasked : deed.toList.filter Deed.polls = []) (open₀ : p ≠ .ended (.ok ()))
    (open₁ : p' ≠ .ended (.ok ())) : GoesRound σ₀ (done ++ deed.toList) p' σ := by
  obtain ⟨answers, rounds, last, hdone, hsince, hpolls, hgave, hclosed⟩ := h
  refine ⟨answers, rounds, last ++ deed.toList, ?_, since last hsince, ?_, hgave, ?_⟩
  · rw [hdone, List.append_assoc]
  · rw [List.filter_append, unasked, List.append_nil]
    exact hpolls
  · exact ⟨fun hmem => absurd (hclosed.1 hmem) open₀, fun hended => absurd hended open₁⟩

/-- The source answers. -/
theorem GoesRound.polled {σ₀ σ σ' : Source} {done : List Deed} {since now : Nat} {answer : Polled}
    (h : GoesRound σ₀ done (.polling since) σ) (answers : σ.Answers answer σ') :
    GoesRound σ₀ (done ++ answer.deed?.toList) (Consumer.afterPoll now answer) σ' := by
  obtain ⟨before, rounds, last, hdone, hsince, hpolls, hgave, hclosed⟩ := h
  cases hsince
  rw [List.append_nil] at hdone
  have hopen : .closed ∉ before := fun hmem => by cases hclosed.1 hmem
  have hgave' := hgave.answers answers
  have hpolls' : (before ++ [answer]).filterMap Polled.deed?
      = (done ++ answer.deed?.toList).filter Deed.polls := by
    rw [List.filterMap_append, List.filter_append, hpolls]
    cases answer <;> rfl
  cases answer with
  | record r =>
      refine ⟨_, rounds, [.took r], ?_, .received r, hpolls', hgave', ?_⟩
      · rw [hdone]
        rfl
      · simp [hopen, Consumer.afterPoll]
  | failed e =>
      refine ⟨_, rounds ++ [.missed], [], ?_, .pausing _, hpolls', ?_, ?_⟩
      · rw [hdone, List.flatMap_append, List.append_nil]
        rfl
      · rw [List.countP_append]
        exact hgave'
      · simp [hopen, Consumer.afterPoll]
  | closed =>
      refine ⟨_, rounds, [], ?_, .closed, hpolls', hgave', ?_⟩
      · rw [hdone]
        rfl
      · simp [Consumer.afterPoll]

/-- The round is over. -/
theorem GoesRound.committed {σ₀ σ σ' : Source} {done : List Deed} {r : Record} {ok : Bool}
    {now : Nat} (h : GoesRound σ₀ done (.committing r) σ) (commits : σ.Commits σ') :
    GoesRound σ₀ (done ++ [.committed r ok]) (.polling now) σ' := by
  obtain ⟨answers, rounds, last, hdone, hsince, hpolls, hgave, hclosed⟩ := h
  cases hsince with
  | committing r outcome =>
      refine ⟨answers, rounds ++ [.dealt r outcome ok], [], ?_, .polling now, ?_, ?_, ?_⟩
      · rw [hdone, List.flatMap_append, List.append_assoc, List.append_nil]
        rfl
      · rw [List.filter_append, hpolls]
        exact (List.append_nil _).symm
      · rw [List.countP_append]
        exact hgave.commits commits
      · have hopen : .closed ∉ answers := fun hmem => by cases hclosed.1 hmem
        exact ⟨fun hmem => absurd hmem hopen, nofun⟩

/-- **Every arrow is part of a round.** -/
theorem GoesRound.step {σ₀ σ σ' : Source} {done : List Deed} {p p' : Phase}
    {answers : List Polled} {deed : Option Deed} (h : GoesRound σ₀ done p σ)
    (loop : System.Loop σ p answers deed p' σ') : GoesRound σ₀ (done ++ deed.toList) p' σ' := by
  cases loop with
  | rests =>
      rw [Option.toList_none, List.append_nil]
      exact h
  | polled answers => exact h.polled answers
  | resumed => exact h.within (fun last hlast => by cases hlast; exact .polling _) rfl nofun nofun
  | held => exact h.within (fun last hlast => by cases hlast; exact .holding _ _) rfl nofun nofun
  | begun => exact h.within (fun last hlast => by cases hlast; exact .delivering _ _) rfl nofun nofun
  | activated =>
      exact h.within (fun last hlast => by cases hlast; exact .delivering _ _) rfl nofun nofun
  | moved => exact h.within (fun last hlast => by cases hlast; exact .delivering _ _) rfl nofun nofun
  | dealtWith =>
      exact h.within (fun last hlast => by cases hlast; exact .committing _ _) rfl nofun nofun
  | failed => exact h.within (fun last hlast => by cases hlast; exact .failed _ _) rfl nofun nofun
  | brokeDown =>
      exact h.within (fun last hlast => by cases hlast; exact .brokeDown _) rfl nofun nofun
  | committed commits => exact h.committed commits

/-! ## §2. A consumer among others. -/

namespace System

variable {s s' t : System} {i : Nat} {c : Consumer} {a : Action} {ids : List Nat}
  {actions : List Action}

/-- **A run of anybody.** -/
theorem Undisturbed.run {σ₀ : Source} {done : List Deed} (h : s.Undisturbed i c ids)
    (goes : GoesRound σ₀ done c.phase c.source) (run : s.run actions = some t)
    (untold : .cancelToken i ∉ actions) (spared : ¬t.NamesakeStopped actions c)
    (running : t.scheduler.halted = false) :
    ∃ c' ids', t.Undisturbed i c' ids'
      ∧ GoesRound σ₀ (done ++ s.deeds i actions) c'.phase c'.source := by
  unfold deeds
  induction actions generalizing s c ids done with
  | nil =>
      cases run
      refine ⟨c, ids, h, ?_⟩
      show GoesRound σ₀ (done ++ []) c.phase c.source
      rw [List.append_nil]
      exact goes
  | cons a rest ih =>
      obtain ⟨u, hu, hrest⟩ := of_run_cons run
      have hrunning : s.scheduler.halted = false := by
        cases halted : s.scheduler.halted with
        | false => rfl
        | true =>
            rw [halted_of_run run halted] at running
            cases running
      have hfirst : a ≠ .cancelToken i := by
        rintro rfl
        exact untold List.mem_cons_self
      obtain ⟨c', answers, hnext, howner, loop⟩ := h.step hu hfirst hrunning
        fun k ck ha hk heq => spared (namesakeStopped_of_owner run (by rw [ha]; simp) hk heq)
      rw [trace_cons _ hu, ← List.append_assoc]
      exact ih hnext (goes.step loop) hrest (fun hmem => untold (List.mem_cons_of_mem a hmem))
        fun hstopped => spared (hstopped.cons howner a)

end System

/-! ## §3. Handlers that break down. -/

/-- The handler has not broken down. -/
def Phase.Sturdy : Phase → Prop
  | .delivering _ (.handling _ .brokeDown _) | .delivering _ .brokeDown | .brokeDown => False
  | _ => True

namespace System

variable {s s' t : System} {i : Nat} {c : Consumer} {a : Action} {ids : List Nat}
  {actions : List Action}

/-- **A handler breaks down only by a reply.** -/
theorem Advance.sturdy {c' : Consumer} {b : Broker} {x : Scheduler} {entries : List JournalEntry}
    (advance : s.Advance i c a b x c' entries) (h : c.phase.Sturdy)
    (replies : ∀ choice, a = .proceed i choice → choice.reply.result ≠ .brokeDown) :
    c'.phase.Sturdy := by
  cases advance with
  | @polled since polled b σ choice phase gives => cases polled <;> trivial
  | moved phase move left plain uncommitted =>
      rw [phase] at h
      generalize c.handler = handler at move
      cases move with
      | @called attempt =>
          cases handler with
          | logging level => trivial
          | named name =>
              rename_i choice
              have hreply := replies choice rfl
              show Phase.Sturdy (.delivering _ (.handling attempt choice.reply.result _))
              cases hresult : choice.reply.result with
              | brokeDown => exact absurd hresult hreply
              | _ => trivial
      | brokeDown due => exact h
      | _ => trivial
  | @concluded r result choice phase =>
      show (Consumer.afterDelivery r result).Sturdy
      rcases Consumer.afterDelivery_cases r result with hp | ⟨e, hp⟩
      · rw [hp]
        trivial
      · rw [hp]
        trivial
  | brokeDown choice phase =>
      rw [phase] at h
      exact h
  | _ => trivial

/-- **A run without such replies.** -/
theorem sturdy_of_run (here : s.consumers[i]? = some c) (h : c.phase.Sturdy)
    (run : s.run actions = some t)
    (replies : ∀ choice, .proceed i choice ∈ actions → choice.reply.result ≠ .brokeDown) :
    ∃ c', t.consumers[i]? = some c' ∧ c'.phase.Sturdy := by
  refine keeps_of_run (I := fun u => ∃ c', u.consumers[i]? = some c' ∧ c'.phase.Sturdy) run ?_
    ⟨c, here, h⟩
  rintro u u' a ha ⟨c', here', hsturdy⟩ taken
  obtain ⟨c'', here'', goes⟩ := (Step.of_step taken).consumer here'
  refine ⟨c'', here'', ?_⟩
  rcases goes.phase with hsame | ⟨b, entries, advance⟩
  · rw [hsame]
    exact hsturdy
  · exact advance.sturdy hsturdy fun choice heq => replies choice (by rw [← heq]; exact ha)

end System

/-! ## §4. Any source, any handler. -/

/-- **A consumer that nobody disturbs goes round.**  Whatever its source answers, whichever commits
fail, whatever its handler does and everybody else: as long as nobody stops a consumer of its name and
the scheduler runs, it takes what the source gives in rounds.  It has ended only if the source is
closed, without an error; or with the error of its listener, in the middle of a round; or with its
handler, if one of the replies was a breakdown.  Otherwise it can always go on, unless its source is
silent. -/
theorem consumers_go_round {s₀ t s : System} {before after : List Action} {i since : Nat}
    {c₀ : Consumer} (idle : s₀.scheduler = {}) (came : s₀.run before = some t)
    (here : t.consumers[i]? = some c₀) (polling : c₀.phase = .polling since)
    (going : c₀.stopping = false) (onward : t.run after = some s)
    (untold : .cancelToken i ∉ after) (spared : ¬s.NamesakeStopped after c₀)
    (running : s.scheduler.halted = false) :
    ∃ c, s.consumers[i]? = some c ∧ GoesRound c₀.source (t.deeds i after) c.phase c.source
      ∧ (c.phase = .brokeDown →
        ∃ choice, .proceed i choice ∈ after ∧ choice.reply.result = .brokeDown)
      ∧ (c.phase.isFinal = true ∨ (∃ since, c.phase = .polling since ∧ s.Silent c)
        ∨ s.GoesOn i c) := by
  have hstart : s₀.Asker i [] := System.asker_nil (by rw [idle]; exact Scheduler.accounted_empty)
  have hthen := System.undisturbed_of_polling here (hstart.run came) going polling
  have hround : GoesRound c₀.source [] c₀.phase c₀.source := by
    rw [polling]
    exact goesRound_polling c₀.source since
  obtain ⟨c, ids, hnow, hgoes⟩ := hthen.run hround onward untold spared running
  refine ⟨c, hnow.here, hgoes, fun hbroke => ?_, hnow.goesOn running⟩
  by_contra hnever
  have hreplies : ∀ choice, .proceed i choice ∈ after → choice.reply.result ≠ .brokeDown :=
    fun choice hchoice hresult => hnever ⟨choice, hchoice, hresult⟩
  have hsturdy : c₀.phase.Sturdy := by
    rw [polling]
    trivial
  obtain ⟨c', here', hstill⟩ := System.sturdy_of_run here hsturdy onward hreplies
  rw [hnow.here] at here'
  cases here'
  rw [hbroke] at hstill
  exact hstill

namespace Orders

/-- Records of the main topic. -/
def first : Record := { topic := "orders", offset := 1 }

def second : Record := { topic := "orders", offset := 2 }

/-- The only consumer is fed by some events, and its first commit fails. -/
def feeding (events : List FeedEvent) : Action :=
  .startFeed { node := ⟨"orders", "orders", .main, 0, 2, true, false⟩ } (.named "main") "retrytopic"
    events [false]

/-- Just started. -/
def fed (events : List FeedEvent) : System := (({} : System).step? (feeding events)).getD {}

/-- The source fails once, then gives a record, and is closed. -/
def events : List FeedEvent :=
  [⟨.failed (.connection "reset"), 0⟩, ⟨.record first, 0⟩, ⟨.closed, 0⟩]

/-- The consumer pauses after the error, deals with the record, and polls once more. -/
def goingRound : List Action :=
  [.proceed 0 {}, .wait 100, .proceed 0 {}, .proceed 0 {}, .proceed 0 {}, .proceed 0 {},
    .proceed 0 {}, .proceed 0 {}, .proceed 0 {}, .proceed 0 {}]

/-- The system when the source is closed. -/
def goneRound : System := ((fed events).run goingRound).getD {}

/-- The handler breaks down at the first of two records. -/
def breakingDown : List Action :=
  [.proceed 0 {}, .proceed 0 {}, .proceed 0 { reply := { result := .brokeDown } }, .proceed 0 {},
    .proceed 0 {}]

end Orders

open Orders in
/-- One error of the source, one record, and one commit that fails. -/
theorem consumers_go_round_to_close :
    (fed events).deeds 0 goingRound
        = [.missed, .took first, .handed first, .concluded first (.ok .processed),
          .committed first false]
      ∧ ∃ c, goneRound.consumers[0]? = some c ∧ c.phase = .ended (.ok ())
        ∧ GoesRound (.feed events [false]) ((fed events).deeds 0 goingRound) c.phase c.source := by
  have hcame : ({} : System).run [feeding events] = some (fed events) := by decide +kernel
  have honward : (fed events).run goingRound = some goneRound := by decide +kernel
  have hspared : ∀ c₀, ¬goneRound.NamesakeStopped goingRound c₀ := by
    rintro c₀ ⟨k, _, hk, _⟩
    simp [goingRound] at hk
  obtain ⟨c₀, here, hstart⟩ := Option.map_eq_some_iff.1
    (show (fed events).consumers[0]?.map (fun c => (c.phase, c.stopping, c.source))
        = some (.polling 0, false, .feed events [false]) by
      decide +kernel)
  obtain ⟨hpolling, hrest⟩ := Prod.mk.inj hstart
  obtain ⟨hgoing, hsource⟩ := Prod.mk.inj hrest
  obtain ⟨c, here', hgoes, _⟩ := consumers_go_round rfl hcame here hpolling hgoing honward (by decide)
    (hspared c₀) (by decide +kernel)
  have hphase : goneRound.phase? 0 = some (.ended (.ok ())) := by decide +kernel
  rw [System.phase?_of_getElem? here'] at hphase
  rw [hsource] at hgoes
  exact ⟨by decide +kernel, c, here', Option.some.inj hphase, hgoes⟩

open Orders in
/-- A consumer can end although its source is not closed and its listener has returned no error: its
handler breaks down.  The second record is never taken. -/
theorem breakdown_ends_consumer :
    ∃ s, (fed [⟨.record first, 0⟩, ⟨.record second, 0⟩]).run breakingDown = some s
      ∧ s.scheduler.halted = false ∧ .cancelToken 0 ∉ breakingDown ∧ .cancelOwner 0 ∉ breakingDown
      ∧ (fed [⟨.record first, 0⟩, ⟨.record second, 0⟩]).deeds 0 breakingDown
        = [.took first, .handed first]
      ∧ ∃ c, s.consumers[0]? = some c ∧ c.phase = .brokeDown
        ∧ c.source = .feed [⟨.record second, 0⟩] [false]
        ∧ ∀ choice, s.step? (.proceed 0 choice) = none := by
  refine ⟨((fed [⟨.record first, 0⟩, ⟨.record second, 0⟩]).run breakingDown).getD {}, by decide +kernel,
    by decide +kernel, by decide, by decide, by decide +kernel, ?_⟩
  obtain ⟨c, here, hend⟩ := Option.map_eq_some_iff.1
    (show (((fed [⟨.record first, 0⟩, ⟨.record second, 0⟩]).run breakingDown).getD {}).consumers[0]?.map
        (fun c => (c.phase, c.source)) = some (.brokeDown, .feed [⟨.record second, 0⟩] [false]) by
      decide +kernel)
  obtain ⟨hphase, hsource⟩ := Prod.mk.inj hend
  exact ⟨c, here, hphase, hsource, System.step?_of_isFinal here (by rw [hphase]; rfl)⟩

end Redelivery
