/-
  Redelivery.Proofs.System.Handover
  ─────────────────────────────────
  **A consumer that nobody disturbs never gets stuck.**

  Unless it has ended or its source is silent, it waits for nothing but the
  scheduler and the clock.  In particular it need not hold a record for
  ever: all requests are worked off, the time of the last activation passes,
  and whatever is in the queue fires.

      received ─▶ holding ─work, …, work, wait, fire─▶ holding ─▶ delivering
-/
import Mathlib.Data.List.TakeWhile
import Redelivery.Proofs.System.Loop
import Redelivery.Proofs.System.Ownership

namespace Redelivery

/-! ## §1. What the scheduler can do. -/

namespace Scheduler

variable {x x' : Scheduler} {now n : Nat}

/-- While there are requests, one can be worked off. -/
theorem exists_work (now : Nat) (running : x.halted = false) (length : x.commands.length = n + 1) :
    ∃ x', x.work? now = some x' ∧ x'.commands.length = n := by
  unfold work?
  rw [running]
  simp only [Bool.false_eq_true, if_false]
  cases hcommands : x.commands with
  | nil =>
      rw [hcommands] at length
      cases length
  | cons command rest =>
      rw [hcommands] at length
      have hrest : rest.length = n := Nat.succ.inj length
      cases command with
      | schedule a => exact ⟨_, rfl, hrest⟩
      | cancelOwner owner => exact ⟨_, rfl, hrest⟩

theorem halted_of_work? (h : x.work? now = some x') : x'.halted = false := by
  obtain ⟨running, ⟨_, _, _, rfl⟩ | ⟨_, _, _, rfl⟩⟩ := of_work? h
  · exact running
  · exact running

/-- When everything in the queue is due, all of it can fire. -/
theorem exists_fire (running : x.halted = false) (queued : x.queue ≠ []) (worked : x.commands = [])
    (due : ∀ a ∈ x.queue, a.due ≤ now) :
    ∃ x', x.fire? now = some x' ∧ x'.waiting = [] ∧ x'.halted = false := by
  have hall : ∀ a ∈ x.queue, decide (a.due ≤ now) = true := fun a ha => decide_eq_true (due a ha)
  have htake : x.queue.takeWhile (fun a => decide (a.due ≤ now)) = x.queue :=
    List.takeWhile_eq_self_iff.2 hall
  have hdrop : x.queue.dropWhile (fun a => decide (a.due ≤ now)) = [] :=
    List.dropWhile_eq_nil_iff.2 hall
  unfold fire?
  simp only [running, Bool.false_eq_true, if_false, htake, hdrop]
  rw [if_neg (by simpa using queued)]
  refine ⟨_, rfl, ?_, rfl⟩
  show [] ++ asked x.commands = []
  rw [worked]
  rfl

end Scheduler

/-! ## §2. Consumers that nobody disturbs. -/

/-- The delivery has not ended with an error that spares its consumer. -/
def Delivery.Fatal (d : Delivery) : Prop := ∀ e, d = .ended (.error e) → e.stopsConsumer = true

/-- **An error of a listener always ends its consumer**: it is one of the registry, or says that no
copy could be published. -/
theorem Delivery.Move.fatal {consumer : Option Nat} {l : Listener} {h : Handler} {r : Record}
    {choice : Choice} {s s' : Stage} {d d' : Delivery}
    (move : Delivery.Move consumer l h r choice s d s' d') : d'.Fatal := by
  intro e he
  cases move with
  | called attempt => cases h <;> cases he
  | finished due verdict =>
      cases he
      rcases Listener.of_verdict_finish verdict with hdropped | ⟨e', hrouted, herror⟩
      · cases hdropped
      · cases herror
        exact Registry.stopsConsumer_of_resolve hrouted
  | gaveUp due answer left =>
      cases he
      rfl
  | _ => cases he

/-- A delivery that waits no more can go on, unless it is over. -/
theorem Delivery.exists_step {d : Delivery} {s : Stage} (consumer : Option Nat) (l : Listener)
    (h : Handler) (r : Record) (choice : Choice)
    (awake : ∀ wake, d.wake? = some wake → wake ≤ s.clock.elapsed)
    (open₀ : ∀ result, d ≠ .ended result) (open₁ : d ≠ .brokeDown) :
    ∃ p, d.step? consumer l h r choice s = some p := by
  cases d with
  | calling attempt => exact ⟨_, rfl⟩
  | handling attempt result wake => exact ⟨_, if_pos (awake wake rfl)⟩
  | resting attempt wake => exact ⟨_, if_pos (awake wake rfl)⟩
  | publishing out outcome failures wake => exact ⟨_, if_pos (awake wake rfl)⟩
  | ended result => exact absurd rfl (open₀ result)
  | brokeDown => exact absurd rfl open₁

/-- An action of the scheduler or the clock, or the consumer goes on. -/
def Action.movesOn (i : Nat) : Action → Bool
  | .work | .fire | .wait _ => true
  | .proceed j _ => j == i
  | _ => false

namespace System

variable {s s' s₀ t : System} {i : Nat} {c c₀ : Consumer} {a : Action} {ids : List Nat}
  {actions : List Action}

/-- Consumer number `i` is `c`, which was not told to stop.  If it holds a record, nothing in its name
reaches its activation, and if its listener has failed, the error ends it. -/
structure Undisturbed (s : System) (i : Nat) (c : Consumer) (ids : List Nat) : Prop where
  here : s.consumers[i]? = some c
  asker : s.Asker i ids
  going : c.stopping = false
  held : ∀ r id, c.phase = .holding r id → id ∈ ids ∧ s.scheduler.Untouched c.owner id
  fatal : ∀ r d, c.phase = .delivering r d → d.Fatal

/-- A consumer that polls has neither record nor error. -/
theorem undisturbed_of_polling {since : Nat} (here : s.consumers[i]? = some c)
    (asker : s.Asker i ids) (going : c.stopping = false) (phase : c.phase = .polling since) :
    s.Undisturbed i c ids where
  here := here
  asker := asker
  going := going
  held := by
    intro r id hphase
    rw [phase] at hphase
    cases hphase
  fatal := by
    intro r d hphase
    rw [phase] at hphase
    cases hphase

/-- The activation for which a consumer that holds a record has just asked. -/
theorem asks?_of_phases {r r' : Record} {id : Nat} (hp : s.phase? i = some (.received r))
    (hp' : s'.phase? i = some (.holding r' id)) : asks? i s s' = some id := by
  unfold asks?
  rw [hp, hp']

/-- No step reaches the activation that is waited for, if it asks for nothing in the same name. -/
theorem Undisturbed.untouched {r : Record} {id : Nat} (h : s.Undisturbed i c ids)
    (phase : c.phase = .holding r id) (taken : s.step? a = some s')
    (others : ∀ (k : Nat) ck, a = .cancelOwner k → s.consumers[k]? = some ck → ck.owner ≠ c.owner) :
    s'.scheduler.Untouched c.owner id := by
  obtain ⟨hid, huntouched⟩ := h.held r id phase
  refine (Step.of_step taken).uses.untouched huntouched h.asker.accounted ?_ others
  intro b hb hb'
  exact h.asker.owned c h.here b hb (by rw [hb']; exact hid)

/-- **A step of anybody leads the consumer along an arrow.** -/
theorem Undisturbed.step (h : s.Undisturbed i c ids) (taken : s.step? a = some s')
    (untold : a ≠ .cancelToken i) (running : s.scheduler.halted = false)
    (others : ∀ (k : Nat) ck, a = .cancelOwner k → s.consumers[k]? = some ck → ck.owner ≠ c.owner) :
    ∃ c' answers, s'.Undisturbed i c' (ids ++ (asks? i s s').toList) ∧ c'.owner = c.owner
      ∧ Loop c.source c.phase answers (deed? i s s') c'.phase c'.source := by
  have step := Step.of_step taken
  obtain ⟨c', answers, here', hgoing, loop⟩ := Loop.of_step taken h.here h.going
    (fun r id phase => (h.held r id phase).2.outcome? running) (fun r e phase => h.fatal r _ phase e rfl)
  obtain ⟨x, hx, goes⟩ := step.consumer h.here
  rw [here'] at hx
  cases hx
  have hp := phase?_of_getElem? h.here
  have hp' := phase?_of_getElem? here'
  refine ⟨c', answers, ⟨here', h.asker.step taken, hgoing untold, ?_, ?_⟩, goes.owner, loop⟩
  · intro r id phase
    rw [goes.owner]
    rcases goes.phase with hsame | ⟨b, entries, advance⟩
    · -- it has held the record before
      rw [hsame] at phase
      exact ⟨List.mem_append_left _ (h.held r id phase).1, h.untouched phase taken others⟩
    · rw [phase] at hp'
      obtain ⟨hreceived, _⟩ := advance.of_holding phase
      rw [hreceived] at hp
      have hasks := asks?_of_phases hp hp'
      rw [hasks]
      exact ⟨List.mem_append_right _ (List.mem_singleton.2 rfl),
        untouched_of_asks h.asker.accounted step hasks c.owner⟩
  · intro r d phase
    rcases goes.phase with hsame | ⟨b, entries, advance⟩
    · rw [hsame] at phase
      exact h.fatal r d phase
    · rcases advance.of_delivering phase with rfl | ⟨d₀, choice, stage, _, move⟩
      · exact nofun
      · exact move.fatal

/-- The end of the scheduler is for good. -/
theorem halted_of_run (run : s.run actions = some t) (halted : s.scheduler.halted = true) :
    t.scheduler.halted = true :=
  keeps_of_run (I := fun u => u.scheduler.halted = true) run
    (fun _ _ _ _ before taken => (Step.of_step taken).next.halted before) halted

/-! ## §3. The scheduler and the clock at work. -/

/-- Actions that leave consumers and journal alone, and ask for no cancellation. -/
structure Idles (s s' : System) (a : Action) : Prop where
  consumers : s'.consumers = s.consumers
  journal : s'.journal = s.journal
  asksNothing : ∀ k, a ≠ .cancelOwner k

theorem Undisturbed.idles (h : s.Undisturbed i c ids) (taken : s.step? a = some s')
    (idles : s.Idles s' a) : s'.Undisturbed i c ids where
  here := by
    rw [idles.consumers]
    exact h.here
  asker := h.asker.stays (.of_step taken)
  going := h.going
  held := by
    intro r id phase
    exact ⟨(h.held r id phase).1,
      h.untouched phase taken fun k _ ha => absurd ha (idles.asksNothing k)⟩
  fatal := h.fatal

/-- A consumer that stays in its phase does nothing. -/
theorem deed?_of_idles (h : s.Undisturbed i c ids) (idles : s.Idles s' a) : deed? i s s' = none := by
  have here' : s'.consumers[i]? = some c := by
    rw [idles.consumers]
    exact h.here
  rw [deed?_of_phases (idles.journal.trans (List.append_nil _).symm) rfl (phase?_of_getElem? h.here)
    (phase?_of_getElem? here')]
  cases c.phase <;> rfl

/-- `s.Reaches i done u`: by actions of the scheduler and the clock, and of the consumer itself, the
system comes to `u`, the consumer having done `done`. -/
def Reaches (s : System) (i : Nat) (done : List Deed) (u : System) : Prop :=
  ∃ actions, s.run actions = some u ∧ s.deeds i actions = done
    ∧ ∀ a ∈ actions, a.movesOn i = true

theorem Reaches.refl (s : System) (i : Nat) : s.Reaches i [] s :=
  ⟨[], rfl, rfl, fun _ ha => by cases ha⟩

theorem Reaches.step {done : List Deed} {deed : Option Deed} {u : System}
    (taken : s.step? a = some s') (ours : a.movesOn i = true) (hdeed : deed? i s s' = deed)
    (h : s'.Reaches i done u) : s.Reaches i (deed.toList ++ done) u := by
  obtain ⟨actions, hrun, hdone, hours⟩ := h
  refine ⟨a :: actions, ?_, ?_, ?_⟩
  · show (s.step? a).bind _ = _
    rw [taken]
    exact hrun
  · unfold deeds at hdone ⊢
    rw [trace_cons _ taken, hdeed, hdone]
  · intro b hb
    rcases List.mem_cons.1 hb with rfl | hb
    · exact ours
    · exact hours b hb

/-- While the consumer idles, it does nothing. -/
theorem Undisturbed.reaches_idles {done : List Deed} {u : System} (h : s.Undisturbed i c ids)
    (taken : s.step? a = some s') (idles : s.Idles s' a) (ours : a.movesOn i = true)
    (onward : s'.Reaches i done u) : s.Reaches i done u :=
  onward.step taken ours (deed?_of_idles h idles)

/-- **All requests can be worked off.** -/
theorem Undisturbed.exists_worked (n : Nat) (h : s.Undisturbed i c ids)
    (running : s.scheduler.halted = false) (length : s.scheduler.commands.length = n) :
    ∃ t : System, t.Undisturbed i c ids ∧ t.scheduler.commands = [] ∧ t.scheduler.halted = false
      ∧ ∀ done u, t.Reaches i done u → s.Reaches i done u := by
  induction n generalizing s with
  | zero => exact ⟨s, h, List.eq_nil_of_length_eq_zero length, running, fun _ _ hreach => hreach⟩
  | succ n ih =>
      obtain ⟨x, hwork, hlength⟩ := Scheduler.exists_work s.now running length
      have taken : s.step? .work = some { s with scheduler := x } := by
        show (s.scheduler.work? s.now).map _ = _
        rw [hwork]
        rfl
      have idles : s.Idles { s with scheduler := x } .work := ⟨rfl, rfl, nofun⟩
      have hrunning : x.halted = false := Scheduler.halted_of_work? hwork
      obtain ⟨t, ht, hworked, hgoing, honward⟩ := ih (h.idles taken idles) hrunning hlength
      exact ⟨t, ht, hworked, hgoing, fun done u hreach =>
        h.reaches_idles taken idles rfl (honward done u hreach)⟩

/-- Time passes, at least until `elapsed`. -/
def after (s : System) (elapsed : Nat) : System := { s with clock := s.clock.moveTo elapsed }

theorem le_now_after (s : System) (elapsed : Nat) : elapsed ≤ (s.after elapsed).now :=
  Nat.le_max_right _ _

theorem idles_after (s : System) (elapsed : Nat) :
    s.Idles (s.after elapsed) (.wait elapsed) := ⟨rfl, rfl, nofun⟩

/-- **Time can pass until the activation of a record fires.** -/
theorem Undisturbed.exists_fired {r : Record} {id : Nat} (h : s.Undisturbed i c ids)
    (phase : c.phase = .holding r id) (running : s.scheduler.halted = false)
    (worked : s.scheduler.commands = []) :
    ∃ t : System, t.Undisturbed i c ids ∧ t.scheduler.halted = false
      ∧ t.scheduler.outcome? id = some true
      ∧ ∀ done u, t.Reaches i done u → s.Reaches i done u := by
  obtain ⟨hid, huntouched⟩ := h.held r id phase
  have hnot := huntouched.outcome? running
  cases houtcome : s.scheduler.outcome? id with
  | some fired =>
      cases fired with
      | true => exact ⟨s, h, running, houtcome, fun _ _ hreach => hreach⟩
      | false => exact absurd houtcome hnot
  | none =>
      have hqueue : s.scheduler.queue ≠ [] := by
        intro hempty
        rcases h.asker.accounted.mem_iff.1 (h.asker.known id hid) with hwaits | hresolved
        · unfold Scheduler.waiting at hwaits
          rw [hempty, worked] at hwaits
          cases hwaits
        · exact Scheduler.outcome?_eq_none.1 houtcome hresolved
      -- after the sum of all due times, the whole queue is due
      let elapsed := (s.scheduler.queue.map Activation.due).sum
      have hwaited := h.idles rfl (s.idles_after elapsed)
      have hdue : ∀ b ∈ s.scheduler.queue, b.due ≤ (s.after elapsed).now := fun b hb =>
        Nat.le_trans (List.le_sum_of_mem (List.mem_map_of_mem hb)) (s.le_now_after elapsed)
      obtain ⟨x, hfire, hnothing, hgoing⟩ := Scheduler.exists_fire running hqueue worked hdue
      have hfires : (s.after elapsed).step? .fire = some { s.after elapsed with scheduler := x } := by
        show (s.scheduler.fire? (s.after elapsed).now).map _ = _
        rw [hfire]
        rfl
      have hidles : (s.after elapsed).Idles { s.after elapsed with scheduler := x } .fire :=
        ⟨rfl, rfl, nofun⟩
      have hfired := hwaited.idles hfires hidles
      refine ⟨_, hfired, hgoing, ?_, fun done u hreach => h.reaches_idles rfl (s.idles_after elapsed) rfl
        (hwaited.reaches_idles hfires hidles rfl hreach)⟩
      -- nothing waits any more, so the activation has ended, and it was not cancelled
      obtain ⟨hid', huntouched'⟩ := hfired.held r id phase
      have hnot' := huntouched'.outcome? hgoing
      show x.outcome? id = some true
      cases hend : x.outcome? id with
      | none =>
          rcases hfired.asker.accounted.mem_iff.1 (hfired.asker.known id hid') with hwaits | hresolved
          · have hwaits' : id ∈ x.waiting.map Activation.id := hwaits
            rw [hnothing] at hwaits'
            cases hwaits'
          · exact absurd hresolved (Scheduler.outcome?_eq_none.1 hend)
      | some fired =>
          cases fired with
          | true => rfl
          | false => exact absurd hend hnot'

/-! ## §4. A consumer can always go on. -/

/-- The source of the consumer has nothing for it. -/
def Silent (s : System) (c : Consumer) : Prop :=
  match c.source with
  | .subscription id => (s.broker.receive id).1 = none
  | .feed events _ => events = []

/-- What the consumer waits for has come. -/
structure Ready (s : System) (c : Consumer) : Prop where
  awake : ∀ wake, c.wake? = some wake → wake ≤ s.now
  heard : ∀ since, c.phase = .polling since → ¬s.Silent c
  fired : ∀ r id, c.phase = .holding r id → s.scheduler.outcome? id = some true
  active : c.phase.isFinal = false

theorem Ready.exists_gives {since : Nat} (ready : s.Ready c) (phase : c.phase = .polling since) :
    ∃ polled b σ, c.source.Gives s.now since s.broker polled b σ := by
  have hheard := ready.heard since phase
  have hawake := ready.awake
  unfold Silent at hheard
  unfold Consumer.wake? at hawake
  rw [phase] at hawake
  cases hsource : c.source with
  | subscription id =>
      rw [hsource] at hheard
      cases hreceive : s.broker.receive id with
      | mk received broker =>
          cases received with
          | some r => exact ⟨_, _, _, .inbox hreceive⟩
          | none => exact absurd (congrArg Prod.fst hreceive) hheard
  | feed events commits =>
      rw [hsource] at hheard hawake
      cases events with
      | nil => exact absurd rfl hheard
      | cons e rest => exact ⟨_, _, _, .event (hawake _ rfl)⟩

/-- A source takes any commit. -/
theorem exists_takes (b : Broker) (σ : Source) (r : Record) : ∃ ok b' σ', σ.Takes b r ok b' σ' := by
  cases σ with
  | subscription id => exact ⟨_, _, _, .offset id⟩
  | feed events commits =>
      cases commits with
      | nil => exact ⟨_, _, _, .silent events⟩
      | cons ok rest => exact ⟨_, _, _, .told events ok rest⟩

/-- What a consumer that is ready may do. -/
theorem Ready.exists_advance (ready : s.Ready c) (i : Nat) :
    ∃ b x c' entries, s.Advance i c (.proceed i {}) b x c' entries := by
  have hawake := ready.awake
  have hactive := ready.active
  unfold Consumer.wake? at hawake
  cases phase : c.phase with
  | polling since =>
      obtain ⟨polled, b, σ, gives⟩ := ready.exists_gives phase
      exact ⟨_, _, _, _, .polled {} phase gives⟩
  | received r =>
      cases hdue : r.due? with
      | none => exact ⟨_, _, _, _, .begun {} phase hdue⟩
      | some due => exact ⟨_, _, _, _, .asked {} phase hdue⟩
  | pausing wake =>
      rw [phase] at hawake
      exact ⟨_, _, _, _, .resumed {} phase (hawake wake rfl)⟩
  | holding r id => exact ⟨_, _, _, _, .fired {} phase (ready.fired r id phase)⟩
  | delivering r d =>
      rw [phase] at hawake
      cases d with
      | ended result => exact ⟨_, _, _, _, .concluded {} phase⟩
      | brokeDown => exact ⟨_, _, _, _, .brokeDown {} phase⟩
      | _ =>
          obtain ⟨⟨stage, d'⟩, hstep⟩ :=
            Delivery.exists_step (some i) c.listener c.handler r {} hawake nofun nofun
          obtain ⟨entries, advance⟩ := Advance.of_move phase (.of_step hstep)
          exact ⟨_, _, _, _, advance⟩
  | committing r =>
      obtain ⟨ok, b, σ, takes⟩ := exists_takes s.broker c.source r
      exact ⟨_, _, _, _, .committed {} phase takes⟩
  | ended result =>
      rw [phase] at hactive
      cases hactive
  | brokeDown =>
      rw [phase] at hactive
      cases hactive

/-- **A consumer that is ready can go on.** -/
theorem Ready.exists_proceed (ready : s.Ready c) (here : s.consumers[i]? = some c) :
    ∃ s', s.step? (.proceed i {}) = some s' := by
  obtain ⟨_, _, _, _, advance⟩ := ready.exists_advance i
  exact ⟨_, advance.step? here⟩

/-- Whenever it goes on, it comes to another phase. -/
theorem Advance.phase_ne {c' : Consumer} {b : Broker} {x : Scheduler} {entries : List JournalEntry}
    {choice : Choice} (advance : s.Advance i c (.proceed i choice) b x c' entries) :
    c'.phase ≠ c.phase := by
  cases advance with
  | @polled since polled b σ choice phase gives =>
      rw [phase]
      cases polled <;> nofun
  | moved phase move left plain uncommitted =>
      rw [phase]
      generalize c.handler = handler at move
      cases move with
      | called attempt => cases handler <;> nofun
      | refused due answer left =>
          intro hsame
          injection hsame with _ hsame
          injection hsame with _ _ hsame
          exact absurd hsame (Nat.succ_ne_self _)
      | _ => nofun
  | @concluded r result choice phase =>
      rw [phase]
      show Consumer.afterDelivery r result ≠ _
      rcases Consumer.afterDelivery_cases r result with hp | ⟨e, hp⟩ <;> rw [hp] <;> nofun
  | begun choice phase plain => rw [phase]; nofun
  | asked choice phase delayed => rw [phase]; nofun
  | resumed choice phase awake => rw [phase]; nofun
  | fired choice phase outcome => rw [phase]; nofun
  | cancelled choice phase outcome => rw [phase]; nofun
  | brokeDown choice phase => rw [phase]; nofun
  | committed choice phase takes => rw [phase]; nofun

/-- By actions of the scheduler and the clock, and of itself, the consumer comes along an arrow to
another phase. -/
def GoesOn (s : System) (i : Nat) (c : Consumer) : Prop :=
  ∃ u c' answers deed, s.Reaches i deed.toList u ∧ u.consumers[i]? = some c'
    ∧ c'.phase ≠ c.phase ∧ Loop c.source c.phase answers deed c'.phase c'.source

theorem Undisturbed.goesOn_of_ready (h : s.Undisturbed i c ids)
    (running : s.scheduler.halted = false) (ready : s.Ready c) : s.GoesOn i c := by
  obtain ⟨s', taken⟩ := ready.exists_proceed h.here
  obtain ⟨c', answers, here', _, loop⟩ := Loop.of_proceed h.here taken
    (fun r id phase => (h.held r id phase).2.outcome? running) (fun r e phase => h.fatal r _ phase e rfl)
  refine ⟨s', c', answers, deed? i s s', ?_, here', ?_, loop⟩
  · have hreaches := (Reaches.refl s' i).step taken (by simp [Action.movesOn]) rfl
    rw [List.append_nil] at hreaches
    exact hreaches
  · obtain ⟨b, x, c₁, entries, advance, rfl⟩ := Advances.of_proceed h.here taken
    rw [getElem?_put_self h.here] at here'
    cases here'
    exact advance.phase_ne

/-- Going on can wait. -/
theorem GoesOn.later (h : t.GoesOn i c) (honward : ∀ done u, t.Reaches i done u → s.Reaches i done u) :
    s.GoesOn i c := by
  obtain ⟨u, c', answers, deed, reaches, hrest⟩ := h
  exact ⟨u, c', answers, deed, honward _ _ reaches, hrest⟩

/-- **A consumer that nobody disturbs never gets stuck.**  Unless it has ended, or its source is
silent, it can go on. -/
theorem Undisturbed.goesOn (h : s.Undisturbed i c ids) (running : s.scheduler.halted = false) :
    c.phase.isFinal = true ∨ (∃ since, c.phase = .polling since ∧ s.Silent c) ∨ s.GoesOn i c := by
  by_cases final : c.phase.isFinal = true
  · exact Or.inl final
  by_cases silent : ∃ since, c.phase = .polling since ∧ s.Silent c
  · exact Or.inr (Or.inl silent)
  right
  right
  have active : c.phase.isFinal = false := Bool.eq_false_iff.2 final
  by_cases holds : ∃ r id, c.phase = .holding r id
  · -- it waits for its activation
    obtain ⟨r, id, phase⟩ := holds
    obtain ⟨t, hworked, hcommands, hgoing, honward⟩ := h.exists_worked _ running rfl
    obtain ⟨u, hfired, hrunning, houtcome, honward'⟩ := hworked.exists_fired phase hgoing hcommands
    have ready : u.Ready c := by
      refine ⟨?_, ?_, ?_, active⟩
      · intro wake hwake
        unfold Consumer.wake? at hwake
        rw [phase] at hwake
        cases hwake
      · intro since hphase
        rw [phase] at hphase
        cases hphase
      · intro r' id' hphase
        rw [phase] at hphase
        cases hphase
        exact houtcome
    exact (hfired.goesOn_of_ready hrunning ready).later fun done u' hreach =>
      honward done u' (honward' done u' hreach)
  · -- it waits for nothing but the time
    have hwaited := h.idles rfl (s.idles_after (c.wake?.getD 0))
    have ready : (s.after (c.wake?.getD 0)).Ready c := by
      refine ⟨?_, ?_, ?_, active⟩
      · intro wake hwake
        have hle := s.le_now_after (c.wake?.getD 0)
        rw [hwake] at hle ⊢
        exact hle
      · intro since hphase hsilent
        exact silent ⟨since, hphase, hsilent⟩
      · intro r id hphase
        exact absurd ⟨r, id, hphase⟩ holds
    exact (hwaited.goesOn_of_ready running ready).later fun done u hreach =>
      h.reaches_idles rfl (s.idles_after _) rfl hreach

end System

end Redelivery
