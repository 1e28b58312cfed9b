/-
  Redelivery.Classification.Hierarchy
  ───────────────────────────────────
  **Kinds of failure and their parent kinds.**

  Each kind has at most one declared parent; a later declaration replaces an
  earlier one.  The lineage of a kind is the kind itself, its parent, the
  parent's parent, … nearest first.  Declarations may form a cycle: the
  lineage then stops before the first repetition, so it never names a kind
  twice, and its length is bounded by the number of declarations.

      k' ∈ lineage k  ↔  k' is reached from k by zero or more parent steps
-/

namespace Redelivery

/-- Declared parents, each child once. -/
structure Hierarchy where
  parents : List (String × String) := []
  deriving DecidableEq, Repr, Inhabited

namespace Hierarchy

/-- The declared parent of a kind. -/
def parent? (h : Hierarchy) (kind : String) : Option String := h.parents.lookup kind

/-- Declare the parent of a kind, in place of an earlier declaration. -/
def declare (h : Hierarchy) (child parent : String) : Hierarchy :=
  ⟨h.parents.filter (·.1 != child) ++ [(child, parent)]⟩

/-- How many declarations are about kinds that have not been seen yet. -/
def unseen (h : Hierarchy) (seen : List String) : Nat :=
  (h.parents.filter fun p => !seen.contains p.1).length

theorem unseen_cons_lt {h : Hierarchy} {seen : List String} {kind parent : String}
    (hk : kind ∉ seen) (hp : h.parent? kind = some parent) :
    h.unseen (kind :: seen) < h.unseen seen := by
  have hmem : (kind, parent) ∈ h.parents := by
    obtain ⟨l₁, l₂, hl, _⟩ := List.lookup_eq_some_iff.1 hp
    rw [hl]
    simp
  unfold unseen
  rw [← List.countP_eq_length_filter, ← List.countP_eq_length_filter]
  obtain ⟨l₁, l₂, hl⟩ := List.append_of_mem hmem
  rw [hl, List.countP_append, List.countP_append, List.countP_cons, List.countP_cons]
  have hle : ∀ l : List (String × String),
      l.countP (fun p => !(kind :: seen).contains p.1) ≤ l.countP (fun p => !seen.contains p.1) := by
    intro l
    apply List.countP_mono_left
    intro p _ hp
    simp only [List.contains_cons, Bool.not_or, Bool.and_eq_true] at hp
    exact hp.2
  have h₁ := hle l₁
  have h₂ := hle l₂
  have hin : (!(kind :: seen).contains kind) = false := by simp
  have hout : (!seen.contains kind) = true := by simp [hk]
  simp only [hin, hout, if_true]
  simp only [Bool.false_eq_true, if_false]
  omega

/-- The kinds from `kind` upwards that are not among those seen. -/
def ascend (h : Hierarchy) (seen : List String) (kind : String) : List String :=
  if _hk : kind ∈ seen then []
  else kind :: match _hp : h.parent? kind with
    | none => []
    | some parent => h.ascend (kind :: seen) parent
termination_by h.unseen seen
decreasing_by exact unseen_cons_lt _hk _hp

/-- The kind, its parent, the parent's parent, …; stops before the first repetition. -/
def lineage (h : Hierarchy) (kind : String) : List String := h.ascend [] kind

/-- Whether the kind is the target or descends from it. -/
def isA (h : Hierarchy) (kind target : String) : Bool := (h.lineage kind).contains target

end Hierarchy

end Redelivery
