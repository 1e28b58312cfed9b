/-
  Redelivery.Proofs.System.Ownership
  ──────────────────────────────────
  **Whose stop ends whose wait.**

  The scheduler knows the owner of an activation by a name that is made of
  the consumer's group and topic:

      owner  =  group ++ ":" ++ topic

  Consumers that come to the same name are namesakes.  A request to cancel
  what one of them owns reaches whatever any of them had asked for before,
  and nothing else.
-/
import Redelivery.Proofs.System.Punctual

namespace Redelivery

/-! ## §1. Names of owners. -/

/-- Where a colon may stand in two texts that are equal. -/
theorem of_append_colon {g g' t t' : List Char} (h : g ++ ':' :: t = g' ++ ':' :: t') :
    (g = g' ∧ t = t') ∨ (∃ m, g' = g ++ ':' :: m ∧ t = m ++ ':' :: t')
      ∨ ∃ m, g = g' ++ ':' :: m ∧ t' = m ++ ':' :: t := by
  rcases List.append_eq_append_iff.1 h with ⟨more, hg, ht⟩ | ⟨more, hg, ht⟩
  · cases more with
    | nil =>
        cases ht
        exact Or.inl ⟨by rw [hg, List.append_nil], rfl⟩
    | cons first m =>
        cases ht
        exact Or.inr (Or.inl ⟨m, hg, rfl⟩)
  · cases more with
    | nil =>
        cases ht
        exact Or.inl ⟨by rw [hg, List.append_nil], rfl⟩
    | cons first m =>
        cases ht
        exact Or.inr (Or.inr ⟨m, hg, rfl⟩)

namespace Consumer

/-- Both own activations under one name: group and topic are the same, or a part of the one's group
behind a colon is a part of the other's topic before one. -/
def Namesake (c c' : Consumer) : Prop :=
  (c.group = c'.group ∧ c.topic = c'.topic)
    ∨ (∃ m, c'.group = c.group ++ ":" ++ m ∧ c.topic = m ++ ":" ++ c'.topic)
    ∨ ∃ m, c.group = c'.group ++ ":" ++ m ∧ c'.topic = m ++ ":" ++ c.topic

theorem toList_append_colon (g t : String) :
    (g ++ ":" ++ t).toList = g.toList ++ ':' :: t.toList := by
  rw [String.toList_append, String.toList_append, List.append_assoc]
  rfl

/-- **Namesakes are consumers with the same owner's name.** -/
theorem owner_eq_iff {c c' : Consumer} : c.owner = c'.owner ↔ c.Namesake c' := by
  constructor
  · intro h
    have hchars := congrArg String.toList h
    unfold owner at hchars
    rw [toList_append_colon, toList_append_colon] at hchars
    -- the letters between the two colons make a text of their own
    have htext : ∀ {u g t : String}, u.toList = g.toList ++ ':' :: t.toList → u = g ++ ":" ++ t := by
      intro u g t hu
      rw [← toList_append_colon] at hu
      exact String.toList_inj.1 hu
    rcases of_append_colon hchars with ⟨hg, ht⟩ | ⟨m, hg, ht⟩ | ⟨m, hg, ht⟩
    · exact Or.inl ⟨String.toList_inj.1 hg, String.toList_inj.1 ht⟩
    · rw [← String.toList_ofList (l := m)] at hg ht
      exact Or.inr (Or.inl ⟨String.ofList m, htext hg, htext ht⟩)
    · rw [← String.toList_ofList (l := m)] at hg ht
      exact Or.inr (Or.inr ⟨String.ofList m, htext hg, htext ht⟩)
  · rintro (⟨hg, ht⟩ | ⟨m, hg, ht⟩ | ⟨m, hg, ht⟩)
    · unfold owner
      rw [hg, ht]
    · unfold owner
      rw [hg, ht]
      simp only [String.append_assoc]
    · unfold owner
      rw [hg, ht]
      simp only [String.append_assoc]

end Consumer

namespace System

variable {s s' s₀ t : System} {i : Nat} {c : Consumer} {a : Action} {ids : List Nat} {id : Nat}
  {actions : List Action}

theorem run_append (actions later : List Action) :
    s.run (actions ++ later) = (s.run actions).bind fun t => t.run later := by
  induction actions generalizing s with
  | nil => rfl
  | cons a rest ih =>
      show (s.step? a).bind (fun u => u.run (rest ++ later)) = _
      rw [funext fun u => ih (s := u), ← Option.bind_assoc]
      rfl

/-- A consumer owns under its name as long as it is there. -/
theorem owner_of_run (run : s.run actions = some t) (here : s.consumers[i]? = some c) :
    ∃ c', t.consumers[i]? = some c' ∧ c'.owner = c.owner := by
  obtain ⟨c', here', hlistener, _, hgroup⟩ :=
    (Path.of_run (P := fun _ => True) run fun _ _ => trivial).consumer here
  refine ⟨c', here', ?_⟩
  unfold Consumer.owner Consumer.topic
  rw [hlistener, hgroup]

/-- In a run that led here, the scheduler was asked to cancel what a namesake of the consumer owns. -/
def NamesakeStopped (s : System) (actions : List Action) (c : Consumer) : Prop :=
  ∃ (k : Nat) (ck : Consumer), .cancelOwner k ∈ actions ∧ s.consumers[k]? = some ck ∧ ck.Namesake c

/-- Names of owners do not change, so it is enough to know the name before the run. -/
theorem namesakeStopped_of_owner {k : Nat} {ck : Consumer} (run : s.run actions = some t)
    (hk : .cancelOwner k ∈ actions) (here : s.consumers[k]? = some ck) (howner : ck.owner = c.owner) :
    t.NamesakeStopped actions c := by
  obtain ⟨ck', here', hsame⟩ := owner_of_run run here
  exact ⟨k, ck', hk, here', Consumer.owner_eq_iff.1 (hsame.trans howner)⟩

theorem NamesakeStopped.cons {c' : Consumer} (h : s.NamesakeStopped actions c')
    (howner : c'.owner = c.owner) (a : Action) : s.NamesakeStopped (a :: actions) c := by
  obtain ⟨k, ck, hk, here, hnamesake⟩ := h
  refine ⟨k, ck, List.mem_cons_of_mem a hk, here, ?_⟩
  rw [← Consumer.owner_eq_iff] at hnamesake ⊢
  exact hnamesake.trans howner

/-! ## §2. What does not reach an activation. -/

/-- **A step that asks for nothing in the owner's name leaves an activation to the others.** -/
theorem Uses.untouched {x : Scheduler} {owner : String} (uses : s.Uses a x)
    (h : s.scheduler.Untouched owner id) (accounted : s.scheduler.Accounted)
    (owned : ∀ b ∈ s.scheduler.waiting, b.id = id → b.owner = owner)
    (others : ∀ (k : Nat) ck, a = .cancelOwner k → s.consumers[k]? = some ck → ck.owner ≠ owner) :
    x.Untouched owner id := by
  cases uses with
  | same => exact h
  | asked a delay owner' => exact h.schedule delay owner'
  | cancelling here => exact h.cancelOwner (others _ _ rfl here)
  | turned a turn => exact h.turn accounted owned turn

/-- **Nor does a run in which no namesake is stopped.** -/
theorem Asker.untouched (h : s.Asker i ids) (hid : id ∈ ids) (here : s.consumers[i]? = some c)
    (huntouched : s.scheduler.Untouched c.owner id) (run : s.run actions = some t)
    (spared : ¬t.NamesakeStopped actions c) : t.scheduler.Untouched c.owner id := by
  induction actions generalizing s ids c with
  | nil =>
      cases run
      exact huntouched
  | cons a rest ih =>
      obtain ⟨u, hu, hrest⟩ := of_run_cons run
      have step := Step.of_step hu
      obtain ⟨c', here', goes⟩ := step.consumer here
      have hnext := step.uses.untouched huntouched h.accounted
        (fun b hb hb' => h.owned c here b hb (by rw [hb']; exact hid))
        (fun k ck ha hk heq => spared (namesakeStopped_of_owner run (by rw [ha]; simp) hk heq))
      rw [← goes.owner] at hnext ⊢
      exact ih (h.step hu) (List.mem_append_left _ hid) here' hnext hrest
        fun hstopped => spared (hstopped.cons goes.owner a)

/-- An activation that was just asked for is untouched. -/
theorem untouched_of_asks (accounted : s.scheduler.Accounted) (step : Step s a s')
    (hasks : asks? i s s' = some id) (owner : String) : s'.scheduler.Untouched owner id := by
  obtain ⟨rfl, c, c', r, _, _, _, _, _, due, _, hscheduler⟩ := step.of_asks hasks
  rw [hscheduler]
  exact Scheduler.untouched_schedule accounted _ c.owner

/-! ## §3. What a holder does. -/

/-- **A consumer stops holding its record** when the activation has fired, when the activation was
cancelled, or when it was itself told to stop. -/
theorem Step.of_held {r : Record} (step : Step s a s') (here : s.consumers[i]? = some c)
    (phase : c.phase = .holding r id) :
    s'.phase? i = some (.holding r id)
      ∨ (s.scheduler.outcome? id = some true
        ∧ s'.phase? i = some (.delivering r (.start c.listener r)))
      ∨ (s'.phase? i = some (.ended (.ok ()))
        ∧ (s.scheduler.outcome? id = some false ∨ c.stopping = true)) := by
  obtain ⟨c', here', goes⟩ := step.consumer here
  rw [phase?_of_getElem? here']
  rcases goes.phase with hsame | ⟨b, entries, advance⟩
  · rw [hsame, phase]
    exact Or.inl rfl
  · generalize s'.scheduler = x at advance
    cases advance with
    | noticed told waits => exact Or.inr (Or.inr ⟨rfl, Or.inr told⟩)
    | fired choice hphase outcome =>
        rw [phase] at hphase
        cases hphase
        exact Or.inr (Or.inl ⟨outcome, rfl⟩)
    | cancelled choice hphase outcome =>
        rw [phase] at hphase
        cases hphase
        exact Or.inr (Or.inr ⟨rfl, Or.inl outcome⟩)
    | _ => simp_all

/-- A holder whose activation was cancelled ends as if nothing were wrong, and commits nothing. -/
theorem step?_of_cancelled {r : Record} (here : s.consumers[i]? = some c)
    (phase : c.phase = .holding r id) (outcome : s.scheduler.outcome? id = some false)
    (choice : Choice) :
    ∃ s', s.step? (.proceed i choice) = some s' ∧ s'.phase? i = some (.ended (.ok ()))
      ∧ s'.journal = s.journal := by
  refine ⟨_, (Advance.cancelled choice phase outcome).step? here, ?_, List.append_nil _⟩
  rw [phase?_of_getElem? (getElem?_put_self here)]

/-- **The request in the name of a namesake reaches what was asked for before.** -/
theorem Asker.outcome? (h : s.Asker i ids) (hid : id ∈ ids) (here : s.consumers[i]? = some c)
    (run : s.run actions = some t) (stopped : t.NamesakeStopped actions c)
    (worked : t.scheduler.commands = []) : t.scheduler.outcome? id ≠ none := by
  obtain ⟨k, ck, hk, hck, hnamesake⟩ := stopped
  obtain ⟨early, late, rfl⟩ := List.append_of_mem hk
  rw [run_append] at run
  obtain ⟨v, hearly, hrest⟩ := Option.bind_eq_some_iff.1 run
  obtain ⟨w, hw, hlate⟩ := of_run_cons hrest
  have hasker := h.run hearly
  obtain ⟨cv, hv, howner⟩ := owner_of_run hearly here
  -- whoever is stopped, the request is in the consumer's own name
  obtain ⟨x, hx, heq⟩ := Option.bind_eq_some_iff.1 hw
  obtain ⟨ck', hck', hsame⟩ := owner_of_run hrest hx
  rw [hck] at hck'
  cases hck'
  have hname : x.owner = cv.owner := by
    rw [← hsame, howner]
    exact Consumer.owner_eq_iff.2 hnamesake
  cases heq
  have hclears := Scheduler.clears_cancelOwner hasker.accounted cv.owner [id]
  rw [← hname] at hclears
  have hknown : ∀ id' ∈ [id], id' ∈ ids ++ s.asked i early := by
    intro id' hid'
    rw [List.mem_singleton.1 hid']
    exact List.mem_append_left _ hid
  have hgone := (hasker.step hw).clears (fun id' hid' => List.mem_append_left _ (hknown id' hid'))
    hv (hname ▸ hclears) hlate
  intro hnone
  have hlast := (hasker.step hw).run hlate
  have hlt := hlast.known id (List.mem_append_left _ (List.mem_append_left _ (hknown id (by simp))))
  rcases hlast.accounted.mem_iff.1 hlt with hwaits | hresolved
  · obtain ⟨b, hb, hb'⟩ := List.mem_map.1 hwaits
    exact hgone.of_idle worked b hb (by rw [hb']; simp)
  · exact Scheduler.outcome?_eq_none.1 hnone hresolved

end System

/-! ## §4. Other consumers. -/

/-- **A consumer's wait is ended by a stop of its namesakes, and by no other.**  A consumer asks for an
activation for a record that is due later.  If from then on nobody of its name is stopped and the
scheduler keeps running, the activation is not cancelled: the consumer holds the record until the
activation fires, or until it is itself told to stop.  If a namesake is stopped, the activation has
ended once the scheduler has worked off all requests; and where its time had not come by then, it was
cancelled, and the consumer ends, with no error and nothing committed, although nobody told it to. -/
theorem waits_end_with_namesakes {s₀ t u s : System} {before after : List Action} {a : Action}
    {j id : Nat} {c : Consumer} (idle : s₀.scheduler = {}) (came : s₀.run before = some t)
    (asking : t.step? a = some u) (asks : System.asks? j t u = some id)
    (here : u.consumers[j]? = some c) (onward : u.run after = some s) :
    ∃ r due, c.phase = .holding r id ∧ r.due? = some due
      ∧ (¬s.NamesakeStopped after c → s.scheduler.halted = false →
          s.scheduler.outcome? id ≠ some false
          ∧ ∀ cj, s.consumers[j]? = some cj → cj.phase = .holding r id → cj.stopping = false →
            ∀ b s', s.step? b = some s' → s'.phase? j = some (.holding r id)
              ∨ s.scheduler.outcome? id = some true
                ∧ s'.phase? j = some (.delivering r (.start cj.listener r)))
      ∧ (s.NamesakeStopped after c → s.scheduler.commands = [] →
          s.scheduler.outcome? id ≠ none
          ∧ (s.now < Scheduler.dueTime t.now (Scheduler.delayUntil t.clock.wall due) →
            s.scheduler.outcome? id = some false
            ∧ ∀ cj, s.consumers[j]? = some cj → cj.phase = .holding r id → ∀ choice,
              ∃ s', s.step? (.proceed j choice) = some s'
                ∧ s'.phase? j = some (.ended (.ok ())) ∧ s'.journal = s.journal)) := by
  have hstart : s₀.Asker j [] := System.asker_nil (by rw [idle]; exact Scheduler.accounted_empty)
  have hbefore := hstart.run came
  have hnow := hbefore.step asking
  rw [asks] at hnow
  have hid : id ∈ [] ++ s₀.asked j before ++ (some id).toList :=
    List.mem_append_right _ (List.mem_singleton.2 rfl)
  have step := System.Step.of_step asking
  obtain ⟨hnew, _, c', r, _, _, here', _, phase, due, delayed, hscheduler⟩ := step.of_asks asks
  rw [here] at here'
  cases here'
  refine ⟨r, due, phase, delayed, ?_, ?_⟩
  · intro spared running
    have huntouched := hnow.untouched hid here
      (System.untouched_of_asks hbefore.accounted step asks _) onward spared
    have houtcome := huntouched.outcome? running
    refine ⟨houtcome, fun cj hj hholds hgoing b s' hb => ?_⟩
    rcases (System.Step.of_step hb).of_held hj hholds with hstays | hfired | ⟨_, hcancelled | htold⟩
    · exact Or.inl hstays
    · exact Or.inr hfired
    · exact absurd hcancelled houtcome
    · rw [hgoing] at htold
      cases htold
  · intro stopped worked
    have hended := hnow.outcome? hid here onward stopped worked
    refine ⟨hended, fun hearly => ?_⟩
    -- it has not fired, for it does not fire before its time
    have hfires : u.scheduler.FiresFrom u.now id
        (Scheduler.dueTime t.now (Scheduler.delayUntil t.clock.wall due)) := by
      rw [hnew, hscheduler]
      exact (Scheduler.firesFrom_schedule hbefore.accounted _ _).later
        (System.Later.of_step asking).now
    have hfired := (System.firesFrom_of_run hfires onward).fired
    have hcancelled : s.scheduler.outcome? id = some false := by
      cases houtcome : s.scheduler.outcome? id with
      | none => exact absurd houtcome hended
      | some fired =>
          cases fired with
          | false => rfl
          | true =>
              have hlate := hfired houtcome
              omega
    exact ⟨hcancelled, fun cj hj hholds choice => System.step?_of_cancelled hj hholds hcancelled choice⟩

namespace Orders

/-- The endpoint is wired a second time, so the consumers 1 and 4 are on one topic in one group. -/
def doubled : Simulation :=
  (Simulation.configureWith (wired ["orders"]) application configuration ["orders"] "main").2

/-- What is published. -/
def delayed : OutgoingRecord :=
  { topic := "orders-retry", headers := Headers.insertInt64 {} Headers.due 1700000060000 }

/-- A record that is due in a minute comes to both. -/
def minute : List Action := [.publish delayed, .proceed 1 {}, .proceed 1 {}, .proceed 4 {}]

/-- The first of them is stopped. -/
def stopFirst : List Action :=
  [.work, .work, .cancelToken 1, .cancelOwner 1, .takeHandle 1, .work, .notice 1, .collect 1]

/-- The system before the second asks for its activation. -/
def received : System := (doubled.toSystem.run minute).getD {}

/-- The system when both hold the record. -/
def held : System := (received.step? (.proceed 4 {})).getD {}

/-- The system after the first was stopped. -/
def firstStopped : System := (held.run stopFirst).getD {}

end Orders

open Orders in
/-- The second consumer, which was not told to stop, ends with the first. -/
theorem waits_end_with_namesakes_of_two :
    (firstStopped.consumers[4]?.map Consumer.stopping) = some false
      ∧ ∃ s', firstStopped.step? (.proceed 4 {}) = some s'
        ∧ s'.phase? 4 = some (.ended (.ok ())) ∧ s'.journal = firstStopped.journal := by
  have hidle : doubled.toSystem.scheduler = {} := by decide +kernel
  have hcame : doubled.toSystem.run minute = some received := by decide +kernel
  have hasking : received.step? (.proceed 4 {}) = some held := by decide +kernel
  have hasks : System.asks? 4 received held = some 1 := by decide +kernel
  have honward : held.run stopFirst = some firstStopped := by decide +kernel
  obtain ⟨c, here, hholds⟩ := Option.map_eq_some_iff.1
    (show held.phase? 4 = some (.holding (Broker.stored delayed 0 1700000000000) 1) by
      decide +kernel)
  obtain ⟨cj, hj, hstill⟩ := Option.map_eq_some_iff.1
    (show firstStopped.phase? 4 = some (.holding (Broker.stored delayed 0 1700000000000) 1) by
      decide +kernel)
  -- both consumers have the same group and the same topic
  have howners : firstStopped.consumers[1]?.map Consumer.owner
      = held.consumers[4]?.map Consumer.owner := by
    decide +kernel
  rw [here] at howners
  obtain ⟨ck, hk, hname⟩ := Option.map_eq_some_iff.1 howners
  have hstopped : firstStopped.NamesakeStopped stopFirst c :=
    ⟨1, ck, by decide, hk, Consumer.owner_eq_iff.1 hname⟩
  obtain ⟨r, due, phase, hdue, _, hreached⟩ :=
    waits_end_with_namesakes hidle hcame hasking hasks here honward
  rw [hholds] at phase
  cases phase
  have hminute : (Broker.stored delayed 0 1700000000000).due? = some 1700000060000 := by
    decide +kernel
  rw [hminute] at hdue
  cases hdue
  obtain ⟨_, hends⟩ := (hreached hstopped (by decide +kernel)).2 (by decide +kernel)
  exact ⟨by decide +kernel, hends cj hj hstill {}⟩

end Redelivery
