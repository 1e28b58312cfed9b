/-
  Redelivery.Proofs.Conservation.Endpoint
  ───────────────────────────────────────
  **No endpoint loses a record, and none doubles one.**

  From the moment an endpoint is wired, whatever its consumers, its handlers
  and the broker do, and however often consumers are stopped and started
  again: when nobody is about to commit, every record that was accepted has
  one open copy, or was processed once, or was dropped once.

      accepted  =  open once  |  processed once  |  dropped once
-/
import Redelivery.Proofs.Conservation.Wiring

namespace Redelivery

variable {w : Roster} {s s' s₀ : System} {L L₀ L' : Ledger} {first : String → Nat}

/-- A consumer that polls the topic receives the record, whatever else is decided. -/
def System.Hands (s : System) (topic : String) (r : Record) : Prop :=
  ∀ (i : Nat) c since, s.consumers[i]? = some c → c.topic = topic → c.phase = .polling since →
    ∀ choice, ∃ s', s.step? (.proceed i choice) = some s'
      ∧ s'.consumers[i]? = some { c with phase := .received r }

/-- **Until something is committed on its topic, every consumer that is started there receives the
record that was left behind.** -/
theorem InOrder.hands (h : InOrder w first s L) (run : w.Run s L s' L') (hfits : s'.broker.Fits)
    {topic : String} {r : Record}
    (next : (s.broker.records topic)[s.broker.floor w.group topic]? = some r)
    (floor : s'.broker.floor w.group topic = s.broker.floor w.group topic) :
    s'.Hands topic r := by
  have hlater := h.of_run run hfits
  intro i c since here htopic phase choice
  subst htopic
  refine hlater.receives here phase ?_ choice
  rw [floor]
  exact Broker.getElem?_of_grown (run.records h.staffed.onBroker c.topic) next

/-- **Records are conserved.**  After any run of an endpoint that was wired, in a state in which
nobody is about to commit: every record that was accepted, behind the offsets committed before, has
exactly one open copy, or ended once as processed, or ended once as dropped.  An open copy has the
key and the value of its record and lies on a topic of the endpoint's chains; if no topic is shared,
on one of the chain of the record's own topic.  A consumer that ended with an error, and was not
followed by another, has left its record as the one open copy, and its successors receive that
record first. -/
theorem records_conserved {sim sim' : Simulation} {a : Application} {conf : Configuration}
    {topics : List String} {handler : String} {e : Endpoint}
    (fresh : sim.Fresh (conf.group.getD a.group))
    (wired : sim.configureWith a conf topics handler = (.ok e, sim')) {w : Roster}
    (roster : w = sim'.roster (conf.group.getD a.group) topics) {s : System} {L : Ledger}
    (run : w.Run sim'.toSystem (.opening sim'.broker) s L) (fits : s.broker.Fits)
    (quiet : s.Quiet) :
    (∀ p, (L.copies p.topic)[p.offset]? = some p →
      sim'.broker.floor w.group p.topic ≤ p.offset → L.Accounted s w.group p)
    ∧ (∀ p r, L.Open s.broker w.group p r → s.broker.HasAt p r.key r.value
      ∧ (p.topic ∈ topics → (∃ source ∈ topics, s.registry.Reaches source r.topic)
        ∧ (w.Unshared s.registry → s.registry.Reaches p.topic r.topic)))
    ∧ ∀ (i : Nat) c err, s.consumers[i]? = some c → c.phase = .ended (.error err) →
      s.IsLatest i c.topic → ∃ r p, s.GaveUp w.group i c.topic err r
        ∧ L.Open s.broker w.group p r ∧ (∀ r', L.Open s.broker w.group p r' → r' = r)
        ∧ L.endings s.journal p = []
        ∧ ∀ s' L', w.Run s L s' L' → s'.broker.Fits →
            s'.broker.floor w.group c.topic = s.broker.floor w.group c.topic →
            s'.Hands c.topic r := by
  subst roster
  obtain ⟨s₀, _, opened, wiring⟩ := Simulation.run_of_configureWith fresh wired
  have h := opened.of_run (wiring.trans run) fits
  refine ⟨fun p accepted due => h.accounted fits quiet accepted due, ?_, ?_⟩
  · intro p r hopen
    refine ⟨h.faithful _ _ p r hopen.origin hopen.holds, fun hsource => ?_⟩
    exact h.reaches hopen.origin hsource
  · intro i c err here phase latest
    obtain ⟨r, p, gaveUp, hopen, only, endings⟩ := h.left_behind fits quiet here phase latest
    refine ⟨r, p, gaveUp, hopen, only, endings, ?_⟩
    intro s' L' more hfits' hfloor
    exact h.hands more hfits' gaveUp.next hfloor

/-! ## §2. An endpoint of three topics. -/

theorem Simulation.fresh_empty (group : String) : Fresh {} group where
  consumers := rfl
  journal := rfl
  lawful := by
    refine ⟨?_, ?_⟩
    · intro topic k r hr
      cases hr
    · intro s hs
      cases hs
  within := fun _ => Nat.le_refl 0

namespace Orders

/-- An application that gives up a copy at the first publish that fails. -/
def application : Application := { handlers := ["main"], republish := { maxTimes := 0 } }

/-- One retry, after fifty milliseconds. -/
def configuration : Configuration := { attempts := 2, backoff := .fixed 50 }

/-- The endpoint of some topics, just wired. -/
def wired (topics : List String) : Simulation :=
  (Simulation.configureWith {} application configuration topics "main").2

/-- The failure of its handler. -/
def fault : Failure := { kind := "IllegalStateError", message := "boom" }

/-- A consumer receives a record, begins its delivery, calls its handler, which fails, and goes on. -/
def delivery (consumer : Nat) (rest : List Action) : List Action :=
  [.proceed consumer {}, .proceed consumer {},
    .proceed consumer { reply := { result := .failed fault } }, .proceed consumer {}] ++ rest

/-- A record of the only topic fails, and so does the publish of its copy. -/
def givingUp : List Action :=
  .publish { topic := "orders" } :: delivery 0 [.failNext 1, .proceed 0 {}, .proceed 0 {}]

/-- The system after it. -/
def gaveUp : System := ((wired ["orders"]).toSystem.run givingUp).getD {}

end Orders

open Orders in
/-- The publish of a copy fails: its consumer has ended, and the record is still the only copy. -/
theorem records_conserved_of_refusal :
    (gaveUp.consumers.map fun c => c.phase.isFinal) = [true, false, false]
      ∧ ((Ledger.opening (wired ["orders"]).broker).along (wired ["orders"]).toSystem
          givingUp).Accounted gaveUp "retrytopic" ⟨"orders", 0⟩ := by
  have hwired : Simulation.configureWith {} application configuration ["orders"] "main"
      = (.ok ⟨["orders"], [0, 1, 2]⟩, wired ["orders"]) :=
    Prod.ext (by decide +kernel) rfl
  have hran : (wired ["orders"]).toSystem.run givingUp = some gaveUp := by decide +kernel
  have hrun : ((wired ["orders"]).roster "retrytopic" ["orders"]).Run (wired ["orders"]).toSystem
      (.opening (wired ["orders"]).broker) gaveUp
      ((Ledger.opening (wired ["orders"]).broker).along (wired ["orders"]).toSystem givingUp) :=
    Roster.Run.along (by decide +kernel) .start hran
  have hconserved := records_conserved (Simulation.fresh_empty "retrytopic") hwired rfl hrun
    (Broker.fits_of_topics (by decide +kernel)) (by decide +kernel)
  exact ⟨by decide +kernel, hconserved.1 ⟨"orders", 0⟩ (by decide +kernel) (by decide +kernel)⟩

/-! ## §3. Two chains that share a topic. -/

namespace Orders

/-- A record of the second topic, which is a retry topic of the first, fails. -/
def straying : List Action :=
  .publish { topic := "orders-retry" } :: delivery 1 [.proceed 1 {}, .proceed 1 {}, .proceed 1 {}]

/-- The endpoint of both topics. -/
def both : Simulation := wired ["orders", "orders-retry"]

/-- The system after it. -/
def strayed : System := (both.toSystem.run straying).getD {}

/-- The ledger after it. -/
def strayedLedger : Ledger := (Ledger.opening both.broker).along both.toSystem straying

end Orders

open Orders in
/-- Where a topic is shared, the one copy of a record can lie outside the chain of its topic: the
endpoint is wired, the record was accepted and has not ended, and nobody is about to commit. -/
theorem copy_can_leave_its_chain :
    (∃ e, Simulation.configureWith {} application configuration ["orders", "orders-retry"] "main"
      = (.ok e, both))
    ∧ (both.roster "retrytopic" ["orders", "orders-retry"]).Run both.toSystem
        (.opening both.broker) strayed strayedLedger
    ∧ strayed.Quiet
    ∧ (strayedLedger.copies "orders-retry")[0]? = some ⟨"orders-retry", 0⟩
    ∧ strayedLedger.endings strayed.journal ⟨"orders-retry", 0⟩ = []
    ∧ ∀ r, strayedLedger.Open strayed.broker "retrytopic" ⟨"orders-retry", 0⟩ r →
        ¬strayed.registry.Reaches "orders-retry" r.topic := by
  have hwired : Simulation.configureWith {} application configuration ["orders", "orders-retry"]
      "main" = (.ok ⟨["orders", "orders-retry"], [0, 1, 2, 3, 4]⟩, both) :=
    Prod.ext (by decide +kernel) rfl
  have hran : both.toSystem.run straying = some strayed := by decide +kernel
  have hrun : (both.roster "retrytopic" ["orders", "orders-retry"]).Run both.toSystem
      (.opening both.broker) strayed strayedLedger :=
    Roster.Run.along (by decide +kernel) .start hran
  have hquiet : strayed.Quiet := by decide +kernel
  refine ⟨⟨_, hwired⟩, hrun, hquiet, by decide +kernel, by decide +kernel, ?_⟩
  -- the books say that there is one open copy, and it is found on the first chain's last topic
  obtain ⟨s₀, _, hopened, hwiring⟩ :=
    Simulation.run_of_configureWith (Simulation.fresh_empty "retrytopic") hwired
  have hfits : strayed.broker.Fits := Broker.fits_of_topics (by decide +kernel)
  have horder := hopened.of_run (hwiring.trans hrun) hfits
  have hlies : ∃ r, strayedLedger.Open strayed.broker "retrytopic" ⟨"orders-retry", 0⟩ r
      ∧ r.topic = "orders-dlt" := by
    refine ⟨((strayed.broker.records "orders-dlt")[0]?).getD {}, ⟨?_, ?_, ?_⟩, ?_⟩
    · unfold Broker.Holds
      decide +kernel
    · decide +kernel
    · decide +kernel
    · decide +kernel
  obtain ⟨r₀, hr₀, htopic⟩ := hlies
  intro r hr
  cases horder.accounted hfits hquiet (p := ⟨"orders-retry", 0⟩) (by decide +kernel)
      (by decide +kernel) with
  | lies r₁ _ only _ =>
      rw [only r hr, ← only r₀ hr₀, htopic]
      decide +kernel
  | processed nowhere _ => exact absurd hr (nowhere r)
  | dropped nowhere _ => exact absurd hr (nowhere r)

end Redelivery
