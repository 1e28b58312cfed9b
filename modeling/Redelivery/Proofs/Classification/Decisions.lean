/-
  Redelivery.Proofs.Classification.Decisions
  ──────────────────────────────────────────
  **Which kind decides about a failure.**

  A configuration asks the kinds of a failure one after the other: for each
  incident that counts, outermost first, the kind, its parent, the parent's
  parent, …  The first of them that is listed somewhere has the last word:

      retryOn                      retryable
      notRetryOn, built-in table   fatal
      none is listed               fatal, if the kinds to retry on are listed

  So without a list of kinds to retry on, asking more kinds or listing more of
  them never makes a fatal failure retryable.
-/
import Redelivery.Configuration.Basic
import Redelivery.Proofs.Classification.Amendments
import Redelivery.Proofs.Classification.Lineage

namespace Redelivery

namespace Configuration

/-! ## §1. Declared parents. -/

/-- **The parent of a kind** is the one that the configuration declares for it last, or else the
built-in one. -/
theorem parent?_hierarchy (c : Configuration) (k : String) :
    c.hierarchy.parent? k = (c.parents.reverse.lookup k).or (Hierarchy.default.parent? k) :=
  Hierarchy.default.parent?_declareAll c.parents k

/-! ## §2. The classifier of a configuration. -/

/-- The calls that make the classifier of a configuration. -/
def amendments (c : Configuration) : List Classifier.Amendment :=
  .notRetryable c.notRetryOn :: if c.retryOn.isEmpty then [] else [.retryOnly c.retryOn]

theorem classifier_eq (c : Configuration) :
    c.classifier = { Classifier.made c.hierarchy c.amendments with
      traversingCauses := c.traversingCauses } := by
  unfold classifier amendments
  split <;> rfl

theorem hierarchy_classifier (c : Configuration) : c.classifier.hierarchy = c.hierarchy := by
  rw [classifier_eq]
  exact (Classifier.amended_made c.hierarchy c.amendments).hierarchy

theorem retryableByDefault_classifier (c : Configuration) :
    c.classifier.retryableByDefault = c.retryOn.isEmpty := by
  rw [classifier_eq]
  refine (Classifier.amended_made c.hierarchy c.amendments).default.trans ?_
  unfold amendments
  cases c.retryOn.isEmpty <;> rfl

/-- **What the classifier says about a kind itself**: the kinds to retry on come first. -/
theorem own?_classifier (c : Configuration) (k : String) :
    c.classifier.own? k = if k ∈ c.retryOn then some false
      else if k ∈ c.notRetryOn ∨ k ∈ defaultFatalKinds then some true else none := by
  rw [classifier_eq]
  refine ((Classifier.amended_made c.hierarchy c.amendments).own k).trans ?_
  have hlast : Classifier.lastMention? c.amendments k
      = if k ∈ c.retryOn then some (.retryOnly c.retryOn)
        else if k ∈ c.notRetryOn then some (.notRetryable c.notRetryOn) else none := by
    unfold amendments Classifier.lastMention?
    cases hlisted : c.retryOn with
    | nil => by_cases hk : k ∈ c.notRetryOn <;> simp [Classifier.Amendment.mentions, hk]
    | cons first rest =>
        by_cases hretry : k ∈ first :: rest
        · simp_all [Classifier.Amendment.mentions]
        · by_cases hk : k ∈ c.notRetryOn <;> simp_all [Classifier.Amendment.mentions]
  rw [hlast]
  by_cases hretry : k ∈ c.retryOn
  · simp [hretry, Classifier.Amendment.judgement]
  · by_cases hk : k ∈ c.notRetryOn <;> simp [hretry, hk, Classifier.Amendment.judgement]

/-! ## §3. The kinds that are asked. -/

/-- The incidents of a failure that count. -/
def incidents (c : Configuration) (f : Failure) : List Incident :=
  if c.traversingCauses then f.chain else [f.toIncident]

/-- The kinds that are asked about a failure, one after the other. -/
def kindsOf (c : Configuration) (f : Failure) : List String :=
  (c.incidents f).flatMap fun i => c.hierarchy.lineage i.kind

/-- Whether the configuration or the built-in table lists the kind. -/
def lists (c : Configuration) (kind : String) : Bool :=
  c.retryOn.contains kind || c.notRetryOn.contains kind || defaultFatalKinds.contains kind

theorem isSome_own?_classifier (c : Configuration) (k : String) :
    (c.classifier.own? k).isSome = c.lists k := by
  rw [own?_classifier, lists]
  by_cases hretry : k ∈ c.retryOn <;> by_cases hk : k ∈ c.notRetryOn <;>
    by_cases hbuiltIn : k ∈ defaultFatalKinds <;> simp [hretry, hk, hbuiltIn]

/-- The classifier judges a failure by the first kind about which there is a judgement. -/
theorem isFatal_classifier (c : Configuration) (f : Failure) :
    c.classifier.isFatal f
      = ((c.kindsOf f).findSome? c.classifier.own?).getD !c.retryOn.isEmpty := by
  have htraversing : c.classifier.traversingCauses = c.traversingCauses := by rw [classifier_eq]
  -- one search through all the kinds instead of one in the lineage of each incident
  have hflat : ∀ l : List Incident, l.findSome? (fun i => c.classifier.classify? i.kind)
      = (l.flatMap fun i => c.hierarchy.lineage i.kind).findSome? c.classifier.own? := by
    intro l
    induction l with
    | nil => rfl
    | cons i rest ih =>
        rw [List.findSome?_cons, List.flatMap_cons, List.findSome?_append, ih,
          Classifier.classify?, hierarchy_classifier]
        cases (c.hierarchy.lineage i.kind).findSome? c.classifier.own? <;> rfl
  unfold Classifier.isFatal
  rw [retryableByDefault_classifier, htraversing, kindsOf, incidents, ← hflat]
  cases c.traversingCauses with
  | true => rfl
  | false =>
      rw [if_neg Bool.false_ne_true, if_neg Bool.false_ne_true, List.findSome?_singleton]

/-- **The first kind that is listed decides.** -/
theorem isFatal_eq (c : Configuration) (f : Failure) :
    c.classifier.isFatal f = match (c.kindsOf f).find? c.lists with
      | some kind => !c.retryOn.contains kind
      | none => !c.retryOn.isEmpty := by
  rw [isFatal_classifier, findSome?_eq_bind]
  simp only [isSome_own?_classifier]
  cases hfound : (c.kindsOf f).find? c.lists with
  | none => rfl
  | some kind =>
      have hlists : c.lists kind = true := List.find?_some hfound
      rw [Option.bind_some, own?_classifier]
      by_cases hretry : kind ∈ c.retryOn
      · simp [hretry]
      · have hfatal : kind ∈ c.notRetryOn ∨ kind ∈ defaultFatalKinds := by
          simpa [lists, hretry] using hlists
        simp [hretry, hfatal]

/-! ## §4. More kinds. -/

/-- Without a list of kinds to retry on, a failure is fatal if one of its kinds is listed. -/
theorem isFatal_iff_of_unrestricted {c : Configuration} (h : c.retryOn = []) (f : Failure) :
    c.classifier.isFatal f = true ↔ ∃ k ∈ c.kindsOf f, c.lists k = true := by
  rw [← List.find?_isSome, isFatal_eq, h]
  cases (c.kindsOf f).find? c.lists <;> simp

/-- Traversing causes asks more kinds. -/
theorem mem_kindsOf {c : Configuration} {kinds : List String} {traversing : Bool}
    (htraversing : c.traversingCauses = true → traversing = true) {f : Failure} {k : String}
    (hk : k ∈ c.kindsOf f) :
    k ∈ ({ c with notRetryOn := kinds, traversingCauses := traversing }).kindsOf f := by
  obtain ⟨i, hi, hk⟩ := List.mem_flatMap.1 hk
  refine List.mem_flatMap.2 ⟨i, ?_, hk⟩
  -- the first incident counts in any case
  have hfirst : f.toIncident ∈ f.chain := List.mem_cons_self
  unfold incidents at hi ⊢
  cases hcauses : c.traversingCauses <;> cases htraversed : traversing <;> simp_all

/-- **A configuration judges a failure by the first of its kinds that is listed**, whatever the
declared parents, cycles among them too: the failure is retryable if the kind is one to retry on, and
fatal otherwise; if none is listed, it is fatal if and only if the kinds to retry on are listed.  The
parent of a kind is the one declared for it, or else the built-in one.  Without a list of kinds to
retry on, no fatal failure becomes retryable by further kinds that are not retried, nor by traversing
causes. -/
theorem first_listed_kind_decides (c : Configuration) (f : Failure) :
    (c.classifier.isFatal f = match (c.kindsOf f).find? c.lists with
      | some kind => !c.retryOn.contains kind
      | none => !c.retryOn.isEmpty)
    ∧ (∀ k, c.hierarchy.parent? k
        = (c.parents.reverse.lookup k).or (Hierarchy.default.parent? k))
    ∧ (c.retryOn = [] → c.classifier.isFatal f = true → ∀ (kinds : List String) (traversing : Bool),
        c.notRetryOn ⊆ kinds → (c.traversingCauses = true → traversing = true) →
          ({ c with notRetryOn := kinds, traversingCauses := traversing }).classifier.isFatal f
            = true) := by
  refine ⟨c.isFatal_eq f, c.parent?_hierarchy, fun hretry hfatal kinds traversing hkinds hcauses => ?_⟩
  obtain ⟨k, hk, hlists⟩ := (isFatal_iff_of_unrestricted hretry f).1 hfatal
  have hmore : ({ c with notRetryOn := kinds, traversingCauses := traversing }).retryOn = [] := hretry
  rw [isFatal_iff_of_unrestricted hmore]
  refine ⟨k, mem_kindsOf hcauses hk, ?_⟩
  simp only [lists, Bool.or_eq_true, List.contains_iff_mem] at hlists ⊢
  rcases hlists with (hretried | hlisted) | hbuiltIn
  · exact Or.inl (Or.inl hretried)
  · exact Or.inl (Or.inr (hkinds hlisted))
  · exact Or.inr hbuiltIn

/-- A cycle of kinds, and another parent for a kind that the built-in table has under conversion. -/
def cyclic : Configuration where
  notRetryOn := ["StorageError"]
  parents := [("DiskError", "StorageError"), ("StorageError", "DiskError"),
    ("MessageConversionError", "DiskError")]

/-- A failure of a kind on the cycle. -/
def diskFailure : Failure := { kind := "DiskError", causes := [{ kind := "TimeoutError" }] }

/-- A failure of a kind on the cycle is fatal for the sake of its parent, and stays so when its causes
are traversed and more kinds are not retried. -/
theorem first_listed_kind_decides_of_cycle :
    cyclic.classifier.isFatal diskFailure = true
    ∧ cyclic.hierarchy.parent? "MessageConversionError" = some "DiskError"
    ∧ ({ cyclic with notRetryOn := ["IoError", "StorageError"], traversingCauses := true }
        ).classifier.isFatal diskFailure = true := by
  obtain ⟨hfirst, hparent, hmore⟩ := first_listed_kind_decides cyclic diskFailure
  have hfatal : cyclic.classifier.isFatal diskFailure = true := by
    rw [hfirst]
    decide +kernel
  refine ⟨hfatal, (hparent "MessageConversionError").trans (by decide +kernel), ?_⟩
  exact hmore rfl hfatal ["IoError", "StorageError"] true (by decide) fun _ => rfl

end Configuration

end Redelivery
