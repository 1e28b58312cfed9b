/-
  Redelivery.Proofs.Delivery.FirstFailure
  ───────────────────────────────────────
  **Which failure the copies report.**

  The report about the first failure is written when a record leaves the node
  where it failed, and no later hop touches it.  By then the handler may have
  failed several times in place, and the report is about the last of these
  failures:

      every copy reports `ms.head?`; the first failure is `ms.getLast?`

  So the copies describe the first failure exactly if the last failure in
  place looks like it, its time included.
-/
import Redelivery.Proofs.Delivery.Hops

namespace Redelivery

open Headers

/-! ## §1. Reports. -/

theorem Bytes.ofText_inj {s t : String} (h : Bytes.ofText s = Bytes.ofText t) : s = t := by
  have ht := Bytes.toText?_ofText s
  rw [h, Bytes.toText?_ofText] at ht
  exact (Option.some.inj ht).symm

theorem Bytes.ofInt64_inj {a b : Int64} (h : Bytes.ofInt64 a = Bytes.ofInt64 b) : a = b := by
  have hb := Bytes.toInt64?_ofInt64 a
  rw [h, Bytes.toInt64?_ofInt64] at hb
  exact (Option.some.inj hb).symm

/-- What headers say about a failure: its kind, message, summary and time. -/
def Mishap.report (m : Mishap) : List (String × Bytes) :=
  [(failureKind, .ofText m.failure.kind), (failureMessage, .ofText m.failure.message),
    (failureSummary, .ofText m.failure.summary), (firstFailureTime, .ofInt64 m.time)]

/-- Whether two failures look the same in a report. -/
def Mishap.LooksLike (m m' : Mishap) : Prop :=
  m.failure.kind = m'.failure.kind ∧ m.failure.message = m'.failure.message
    ∧ m.failure.summary = m'.failure.summary ∧ m.time = m'.time

theorem Mishap.report_eq_iff {m m' : Mishap} : m.report = m'.report ↔ m.LooksLike m' := by
  unfold report LooksLike
  constructor
  · intro h
    simp only [List.cons.injEq, Prod.mk.injEq, true_and, and_true] at h
    obtain ⟨hkind, hmessage, hsummary, htime⟩ := h
    exact ⟨Bytes.ofText_inj hkind, Bytes.ofText_inj hmessage, Bytes.ofText_inj hsummary,
      Bytes.ofInt64_inj htime⟩
  · intro ⟨hkind, hmessage, hsummary, htime⟩
    rw [hkind, hmessage, hsummary, htime]

/-- The record reports the failure: each key of the report has exactly one value, the right one. -/
def Record.Reports (r : Record) (m : Mishap) : Prop :=
  m.report.map (fun e => r.headers.values e.1) = m.report.map fun e => [e.2]

/-- **A record that reports a failure reports those that look like it, and no others.** -/
theorem Record.Reports.iff {r : Record} {m : Mishap} (hr : r.Reports m) (m' : Mishap) :
    r.Reports m' ↔ m'.LooksLike m := by
  rw [← Mishap.report_eq_iff]
  unfold Record.Reports at hr ⊢
  -- both reports ask for the same four keys
  have hkeys : m'.report.map (fun e => r.headers.values e.1)
      = m.report.map fun e => r.headers.values e.1 := rfl
  rw [hkeys, hr]
  constructor
  · intro h
    simp only [Mishap.report, List.map_cons, List.map_nil, List.cons.injEq, and_true] at h
    obtain ⟨hkind, hmessage, hsummary, htime⟩ := h
    rw [Mishap.report, Mishap.report, hkind, hmessage, hsummary, htime]
  · intro h
    rw [h]

/-! ## §2. The first hop writes the report. -/

/-- What a key that no hop renews has for values is among what is carried. -/
theorem Headers.values_eq_carried (h : Headers) {key : String} (hkey : isRenewed key = false) :
    h.values key = valuesIn h.carried key := by
  rw [valuesIn_carried, hkey]
  rfl

namespace Listener

variable {l : Listener} {r : Record} {f : Failure} {next : Destination} {n : UInt32} {now : Int64}

/-- The report is part of what a copy says about the first failure. -/
theorem valuesIn_of_report {e : String × Bytes} (he : e ∈ (⟨f, now⟩ : Mishap).report) :
    e.1 ∈ firstFailureKeys ∧ valuesIn (l.firstFailureEntries r f now) e.1 = [e.2] := by
  have hall : ∀ key ∈ [failureKind, failureMessage, failureSummary, firstFailureTime],
      key ∈ firstFailureKeys := by decide
  have hkey : e.1 ∈ firstFailureKeys := hall e.1 (List.mem_map_of_mem he)
  refine ⟨hkey, ?_⟩
  simp only [Mishap.report, List.mem_cons, List.not_mem_nil, or_false] at he
  rcases he with rfl | rfl | rfl | rfl
  all_goals rfl

/-- **A copy of a record without a report reports the failure that it was made for.** -/
theorem reports_outgoing (hnew : ∀ key ∈ firstFailureKeys, r.headers.contains key = false)
    (offset : Nat) (stamp : Int64) :
    (Broker.stored (l.outgoing r f next n now) offset stamp).Reports ⟨f, now⟩ := by
  unfold Record.Reports
  apply List.map_congr_left
  intro e he
  obtain ⟨hkey, hvalue⟩ := valuesIn_of_report (l := l) (r := r) he
  have hplain := not_isRenewed_of_mem hkey
  have hnone : r.headers.values e.1 = [] := by
    have hc := hnew e.1 hkey
    rw [← Bool.not_eq_true, contains_iff_values_ne_nil] at hc
    exact Decidable.not_not.1 hc
  -- of the three parts of the headers only the middle one has the key
  have hrenewed : valuesIn [(attempts, .ofInt32 (writtenAttempt n)),
      (due, .ofInt64 (dueTime now next.delay))] e.1 = [] := by
    have hne : (attempts == e.1) = false ∧ (due == e.1) = false := by
      rw [isRenewed, Bool.or_eq_false_iff] at hplain
      rw [Bool.beq_comm, hplain.1, Bool.beq_comm, hplain.2]
      exact ⟨rfl, rfl⟩
    simp [valuesIn, hne.1, hne.2]
  show (l.outgoing r f next n now).headers.values e.1 = [e.2]
  rw [values_outgoing, hplain, hnew e.1 hkey, hrenewed, hvalue, hnone]
  rfl

end Listener

/-- A record with the carried headers of another reports what that one reports. -/
theorem Record.Reports.of_carried {r r' : Record} {m : Mishap} (hr : r.Reports m)
    (hcarried : r'.headers.carried = r.headers.carried) : r'.Reports m := by
  unfold Record.Reports at hr ⊢
  rw [← hr]
  apply List.map_congr_left
  intro e he
  have hkey : isRenewed e.1 = false :=
    Listener.not_isRenewed_of_mem (Listener.valuesIn_of_report (l := default) (r := r) he).1
  rw [r'.headers.values_eq_carried hkey, r.headers.values_eq_carried hkey, hcarried]

/-! ## §3. The report along a trail. -/

/-- **Every copy reports the last failure before the first hop.**  A record without a report is
delivered, its handler fails with `ms`, the latest first, and a copy leaves.  This copy and all
later ones report the latest of these failures; they report the first of them exactly if the two
look the same. -/
theorem copies_report_latest_failure {l : Listener} {ms : List Mishap} {r r' : Record}
    {later : List Record} (hop : l.Hop ms r r') (trail : Trail r' later)
    (hnew : ∀ key ∈ Listener.firstFailureKeys, r.headers.contains key = false) :
    ∃ first latest, ms.getLast? = some first ∧ ms.head? = some latest
      ∧ ∀ copy ∈ r' :: later, copy.Reports latest
        ∧ (copy.Reports first ↔ first.LooksLike latest) := by
  -- the copy is made for the latest failure, and only the first hop finds the report missing
  obtain ⟨latest, earlier, next, offset, stamp, hms, _, _, hstored⟩ := hop.copy
  obtain ⟨_, _, _, _, hsize⟩ := hop.carried
  have hreport : r'.Reports latest := by
    rw [hstored]
    exact Listener.reports_outgoing hnew offset stamp
  have hlater := trail.carried (fun key hmem => hop.contains hmem) hsize
  rw [hms]
  refine ⟨_, latest, List.getLast?_eq_some_getLast (List.cons_ne_nil _ _), rfl, ?_⟩
  intro copy hcopy
  have hcarried : copy.headers.carried = r'.headers.carried := by
    rcases List.mem_cons.1 hcopy with rfl | hcopy
    · rfl
    · exact (hlater copy hcopy).2.2.1
  have hcopied := hreport.of_carried hcarried
  exact ⟨hcopied, hcopied.iff _⟩

/-! ## §4. Two failures in place. -/

namespace Orders

/-- The main node again, with three attempts in place. -/
def patient : Listener := { node := { main with maxAttempts := 3 }, blockingInterval := 10 }

/-- The stage of the first failure. -/
def early : Stage := { registry := ⟨[⟨"orders", [patient.node, deadLetters], {}⟩]⟩ }

/-- The stage of the second failure, ten milliseconds on. -/
def late : Stage := { early with clock := { elapsed := 10 } }

/-- A failure that is fatal by its kind. -/
def malformed : Failure := { kind := "DeserializationError", message := "bad payload" }

/-- A record without headers. -/
def plain : Record := { topic := "orders" }

end Orders

open Orders in
/-- A record fails twice in place, the second time for good: its copy reports the second failure
and not the first. -/
theorem copies_report_latest_failure_of_two :
    ∃ copy, patient.Hop [⟨malformed, late.clock.wall⟩, ⟨failure, early.clock.wall⟩] plain copy
      ∧ copy.Reports ⟨malformed, late.clock.wall⟩
      ∧ ¬copy.Reports ⟨failure, early.clock.wall⟩ := by
  have stays : patient.routed early.registry early.clock.wall plain (patient.firstAttempt plain)
      failure = .ok patient.node := by decide +kernel
  have leaves : patient.routed late.registry late.clock.wall plain (patient.firstAttempt plain + 1)
      malformed = .ok deadLetters := by decide +kernel
  have course : Delivery.Course patient (.named "main") plain
      [⟨malformed, late.clock.wall⟩, ⟨failure, early.clock.wall⟩] _ :=
    (Delivery.Course.start.again stays (by decide)).leave leaves (by decide) (by decide)
  have hop : patient.Hop [⟨malformed, late.clock.wall⟩, ⟨failure, early.clock.wall⟩] plain _ :=
    ⟨rfl, _, _, _, _, _, 0, late.clock.wall, course, rfl⟩
  obtain ⟨first, latest, hfirst, hlatest, hall⟩ :=
    copies_report_latest_failure hop .nil (by decide)
  cases hfirst
  cases hlatest
  obtain ⟨hreports, hiff⟩ := hall _ (List.mem_singleton_self _)
  refine ⟨_, hop, hreports, fun hother => ?_⟩
  have hkind := (hiff.1 hother).1
  exact absurd hkind (by decide)

end Redelivery
