/-
  Redelivery.Proofs.Classification.Amendments
  ───────────────────────────────────────────
  **The last amendment of a kind wins.**

  A classifier is put together by four kinds of calls on three sets that may
  overlap.  What it says about a kind itself depends on the last call that
  mentions the kind, and on the built-in table if there is none:

      own? kind = judgement of the last call that mentions the kind
                | fatal, if no call does and the kind is fatal from the start

  Whatever was called before, no kind is declared fatal and retryable at
  once, and only a call that lists the kinds to retry on makes kinds without
  a judgement fatal.
-/
import Mathlib.Data.List.Induction
import Redelivery.Classification.Classifier

namespace Redelivery

/-- The first value that is found is that of the first element that has one. -/
theorem findSome?_eq_bind {α β : Type} (f : α → Option β) (l : List α) :
    l.findSome? f = (l.find? fun a => (f a).isSome).bind f := by
  induction l with
  | nil => rfl
  | cons a rest ih =>
      rw [List.findSome?_cons, List.find?_cons]
      cases ha : f a with
      | none => simpa [ha] using ih
      | some b => simp [ha]

namespace Classifier

/-! ## §1. Sets of kinds. -/

/-- Only the kind that is taken out is lost. -/
theorem mem_without {kind k : String} {kinds : List String} :
    k ∈ without kind kinds ↔ k ∈ kinds ∧ k ≠ kind := by
  simp [without]

/-- Only the kind that is put in is new. -/
theorem mem_withKind {kind k : String} {kinds : List String} :
    k ∈ withKind kind kinds ↔ k ∈ kinds ∨ k = kind := by
  unfold withKind
  split
  · rename_i hmem
    simp only [List.contains_iff_mem] at hmem
    exact ⟨Or.inl, fun h => h.elim id fun heq => heq ▸ hmem⟩
  · simp

/-- The judgement about a kind itself, set by set: first the retryable one. -/
theorem own?_eq (c : Classifier) (k : String) :
    c.own? k = if k ∈ c.userRetryable then some false
      else if k ∈ c.userFatal ∨ k ∈ c.defaultFatal then some true else none := by
  simp [own?]

/-- A kind is in one of the sets if and only if there is a judgement about the kind itself. -/
theorem isClassified_eq (c : Classifier) (k : String) :
    c.isClassified k = (c.own? k).isSome := by
  rw [Bool.eq_iff_iff, own?_eq, isClassified]
  simp only [Bool.or_eq_true, List.contains_iff_mem]
  split
  · simp [*]
  · split <;> grind

/-- No kind was declared both fatal and retryable. -/
def Consistent (c : Classifier) : Prop := List.Disjoint c.userFatal c.userRetryable

/-! ## §2. Declarations. -/

/-- Some kinds were declared fatal, or retryable, and nothing else was changed. -/
structure Declared (fatal : Bool) (kinds : List String) (c c' : Classifier) : Prop where
  own : ∀ k, c'.own? k = if k ∈ kinds then some fatal else c.own? k
  hierarchy : c'.hierarchy = c.hierarchy
  retryableByDefault : c'.retryableByDefault = c.retryableByDefault
  consistent : c.Consistent → c'.Consistent

/-- A kind declared fatal is no longer retryable. -/
theorem declared_declareFatal (c : Classifier) (kind : String) :
    Declared true [kind] c (c.declareFatal kind) where
  own := by
    intro k
    simp only [own?_eq, declareFatal, mem_without, mem_withKind]
    by_cases hk : k = kind <;> simp [hk]
  hierarchy := rfl
  retryableByDefault := rfl
  consistent := by
    intro h k hfatal hretryable
    obtain ⟨hretryable, hne⟩ := mem_without.1 hretryable
    rcases mem_withKind.1 hfatal with hold | hnew
    · exact h hold hretryable
    · exact hne hnew

/-- A kind declared retryable is no longer fatal. -/
theorem declared_declareRetryable (c : Classifier) (kind : String) :
    Declared false [kind] c (c.declareRetryable kind) where
  own := by
    intro k
    simp only [own?_eq, declareRetryable, mem_without, mem_withKind]
    by_cases hk : k = kind <;> simp [hk]
  hierarchy := rfl
  retryableByDefault := rfl
  consistent := by
    intro h k hfatal hretryable
    obtain ⟨hfatal, hne⟩ := mem_without.1 hfatal
    rcases mem_withKind.1 hretryable with hold | hnew
    · exact h hfatal hold
    · exact hne hnew

/-- **Kinds are declared one after the other.** -/
theorem declared_foldl {fatal : Bool} {declare : Classifier → String → Classifier}
    (hdeclare : ∀ c kind, Declared fatal [kind] c (declare c kind)) (kinds : List String)
    (c : Classifier) : Declared fatal kinds c (kinds.foldl declare c) := by
  induction kinds generalizing c with
  | nil => exact ⟨by simp, rfl, rfl, id⟩
  | cons kind rest ih =>
      have hfirst := hdeclare c kind
      have hrest := ih (declare c kind)
      refine ⟨fun k => ?_, hrest.hierarchy.trans hfirst.hierarchy,
        hrest.retryableByDefault.trans hfirst.retryableByDefault,
        fun h => hrest.consistent (hfirst.consistent h)⟩
      rw [List.foldl_cons, hrest.own, hfirst.own]
      by_cases hk : k = kind <;> simp [hk]

theorem declared_addNotRetryable (c : Classifier) (kinds : List String) :
    Declared true kinds c (c.addNotRetryable kinds) :=
  declared_foldl declared_declareFatal kinds c

theorem declared_addRetryable (c : Classifier) (kinds : List String) :
    Declared false kinds c (c.addRetryable kinds) :=
  declared_foldl declared_declareRetryable kinds c

/-! ## §3. Amendments. -/

/-- A call that amends a classifier. -/
inductive Amendment where
  | notRetryable (kinds : List String)
  | retryable (kinds : List String)
  | retryOnly (kinds : List String)
  | remove (kind : String)
  deriving DecidableEq, Repr

namespace Amendment

/-- Whether the call is about the kind. -/
def mentions (kind : String) : Amendment → Bool
  | .notRetryable kinds | .retryable kinds | .retryOnly kinds => kinds.contains kind
  | .remove other => other == kind

/-- What the call says of the kinds that it mentions. -/
def judgement : Amendment → Option Bool
  | .notRetryable _ => some true
  | .retryable _ | .retryOnly _ => some false
  | .remove _ => none

/-- Whether the call lists the kinds to retry on, be it none. -/
def isRetryOnly : Amendment → Bool
  | .retryOnly _ => true
  | _ => false

end Amendment

/-- The classifier after a call. -/
def after (c : Classifier) : Amendment → Classifier
  | .notRetryable kinds => c.addNotRetryable kinds
  | .retryable kinds => c.addRetryable kinds
  | .retryOnly kinds => c.retryOnly kinds
  | .remove kind => (c.removeClassification kind).2

/-- What some calls make of a new classifier with this hierarchy. -/
def made (h : Hierarchy) (calls : List Amendment) : Classifier :=
  calls.foldl after { hierarchy := h }

/-- The last of some calls that mentions the kind. -/
def lastMention? (calls : List Amendment) (kind : String) : Option Amendment :=
  calls.reverse.find? (·.mentions kind)

theorem made_concat (h : Hierarchy) (calls : List Amendment) (call : Amendment) :
    made h (calls ++ [call]) = (made h calls).after call := by
  simp [made]

/-- The last mention is that of the last call, if it mentions the kind. -/
theorem lastMention?_concat (calls : List Amendment) (call : Amendment) (kind : String) :
    lastMention? (calls ++ [call]) kind
      = if call.mentions kind then some call else lastMention? calls kind := by
  unfold lastMention?
  rw [List.reverse_append, List.reverse_singleton, List.singleton_append, List.find?_cons]
  cases call.mentions kind <;> rfl

/-! ## §4. What one call does. -/

/-- **A call decides about the kinds that it mentions**, and about no others. -/
structure Amendment.Effect (call : Amendment) (c c' : Classifier) : Prop where
  own : ∀ k, c'.own? k = if call.mentions k then call.judgement else c.own? k
  hierarchy : c'.hierarchy = c.hierarchy
  default : c'.retryableByDefault = (c.retryableByDefault && !call.isRetryOnly)
  consistent : c.Consistent → c'.Consistent

/-- Every call has the effect that it says. -/
theorem effect_after (c : Classifier) (call : Amendment) : call.Effect c (c.after call) := by
  cases call with
  | notRetryable kinds =>
      have h : Declared true kinds c (c.after (.notRetryable kinds)) :=
        c.declared_addNotRetryable kinds
      refine ⟨fun k => ?_, h.hierarchy, ?_, h.consistent⟩
      · simp [h.own, Amendment.mentions, Amendment.judgement]
      · simp [h.retryableByDefault, Amendment.isRetryOnly]
  | retryable kinds =>
      have h : Declared false kinds c (c.after (.retryable kinds)) := c.declared_addRetryable kinds
      refine ⟨fun k => ?_, h.hierarchy, ?_, h.consistent⟩
      · simp [h.own, Amendment.mentions, Amendment.judgement]
      · simp [h.retryableByDefault, Amendment.isRetryOnly]
  | retryOnly kinds =>
      have h : Declared false kinds { c with retryableByDefault := false }
          (c.after (.retryOnly kinds)) := declared_addRetryable _ kinds
      refine ⟨fun k => ?_, h.hierarchy, ?_, h.consistent⟩
      · -- no judgement about a kind itself looks at the default
        have hsame : ({ c with retryableByDefault := false } : Classifier).own? k = c.own? k := rfl
        simp [h.own, hsame, Amendment.mentions, Amendment.judgement]
      · simp [h.retryableByDefault, Amendment.isRetryOnly]
  | remove kind =>
      refine ⟨fun k => ?_, rfl, ?_, fun h k hfatal hretryable => ?_⟩
      · show (c.removeClassification kind).2.own? k = _
        simp only [own?_eq, removeClassification, mem_without]
        by_cases hk : k = kind
        · simp [hk, Amendment.mentions, Amendment.judgement]
        · have hother : kind ≠ k := fun heq => hk heq.symm
          simp [hk, hother, Amendment.mentions]
      · simp [after, removeClassification, Amendment.isRetryOnly]
      · exact h (mem_without.1 hfatal).1 (mem_without.1 hretryable).1

/-! ## §5. What some calls leave. -/

/-- **What is known of a classifier after some calls** on a new one with this hierarchy. -/
structure Amended (h : Hierarchy) (calls : List Amendment) (c : Classifier) : Prop where
  hierarchy : c.hierarchy = h
  own : ∀ kind, c.own? kind = match lastMention? calls kind with
    | some call => call.judgement
    | none => if kind ∈ defaultFatalKinds then some true else none
  consistent : c.Consistent
  default : c.retryableByDefault = !calls.any Amendment.isRetryOnly

theorem amended_new (h : Hierarchy) : Amended h [] { hierarchy := h } where
  hierarchy := rfl
  own := by
    intro kind
    rw [own?_eq]
    simp [lastMention?]
  consistent := by
    intro k hfatal
    cases hfatal
  default := rfl

/-- **One more call.** -/
theorem Amended.after {h : Hierarchy} {calls : List Amendment} {c : Classifier}
    (hc : Amended h calls c) (call : Amendment) : Amended h (calls ++ [call]) (c.after call) where
  hierarchy := (c.effect_after call).hierarchy.trans hc.hierarchy
  own := by
    intro kind
    rw [(c.effect_after call).own, lastMention?_concat, hc.own]
    cases call.mentions kind <;> rfl
  consistent := (c.effect_after call).consistent hc.consistent
  default := by
    rw [(c.effect_after call).default, hc.default]
    simp

/-- **Whatever was called, the classifier is amended by those calls.** -/
theorem amended_made (h : Hierarchy) (calls : List Amendment) : Amended h calls (made h calls) := by
  -- induction on the calls, the latest last
  induction calls using List.reverseRecOn with
  | nil => exact amended_new h
  | append_singleton calls call ih =>
      rw [made_concat]
      exact ih.after call

/-- A failure without a judged kind in its chain is judged by default. -/
theorem isFatal_of_unjudged {c : Classifier} {f : Failure}
    (hf : ∀ i ∈ f.chain, c.classify? i.kind = none) : c.isFatal f = !c.retryableByDefault := by
  have hfirst : c.classify? f.kind = none := hf f.toIncident List.mem_cons_self
  have hchain : f.chain.findSome? (fun i => c.classify? i.kind) = none := by
    rw [List.findSome?_eq_none_iff]
    exact hf
  unfold isFatal
  rw [hfirst, hchain]
  split <;> rfl

/-- **The last amendment of a kind wins.**  After any calls on a new classifier: the judgement about
a kind itself is that of the last call that mentions it, and without one that of the built-in table;
no kind is declared fatal and retryable at once; a removal tells whether there was a judgement about
the kind itself; a kind, or a failure all of whose kinds are without a judgement, is fatal if and only
if some call listed the kinds to retry on; and the judgement about a kind is that of the nearest
member of its lineage that has one. -/
theorem last_amendment_wins (h : Hierarchy) (calls : List Amendment) :
    (∀ kind, (made h calls).own? kind = match lastMention? calls kind with
        | some call => call.judgement
        | none => if kind ∈ defaultFatalKinds then some true else none)
    ∧ List.Disjoint (made h calls).userFatal (made h calls).userRetryable
    ∧ (∀ kind, ((made h calls).removeClassification kind).1 = true
        ↔ ∃ fatal, (made h calls).own? kind = some fatal)
    ∧ (∀ kind, (made h calls).classify? kind = none →
        ((made h calls).isFatalKind kind = true ↔ ∃ kinds, .retryOnly kinds ∈ calls))
    ∧ (∀ f : Failure, (∀ i ∈ f.chain, (made h calls).classify? i.kind = none) →
        ((made h calls).isFatal f = true ↔ ∃ kinds, .retryOnly kinds ∈ calls))
    ∧ ∀ kind, (made h calls).classify? kind
        = ((h.lineage kind).find? fun k => ((made h calls).own? k).isSome).bind
          (made h calls).own? := by
  have hamended := amended_made h calls
  have hdefault : (!(made h calls).retryableByDefault) = true
      ↔ ∃ kinds, .retryOnly kinds ∈ calls := by
    rw [hamended.default, Bool.not_not, List.any_eq_true]
    constructor
    · rintro ⟨call, hcall, honly⟩
      cases call with
      | retryOnly kinds => exact ⟨kinds, hcall⟩
      | _ => cases honly
    · rintro ⟨kinds, hcall⟩
      exact ⟨_, hcall, rfl⟩
  refine ⟨hamended.own, hamended.consistent, fun kind => ?_, fun kind hkind => ?_, fun f hf => ?_,
    fun kind => ?_⟩
  · show isClassified _ kind = true ↔ _
    rw [isClassified_eq, Option.isSome_iff_exists]
  · rw [isFatalKind, hkind, Option.getD_none]
    exact hdefault
  · rw [isFatal_of_unjudged hf]
    exact hdefault
  · rw [classify?, hamended.hierarchy, findSome?_eq_bind]

/-- Two kinds are declared fatal, one of them is taken back, and a built-in one is forgotten. -/
def threeCalls : List Amendment :=
  [.notRetryable ["IoError", "TimeoutError"], .retryOnly ["IoError"], .remove "ConversionError"]

/-- The kind that was taken back is retryable; the one that was forgotten is fatal by default. -/
theorem last_amendment_wins_of_three :
    (made Hierarchy.default threeCalls).own? "IoError" = some false
    ∧ (made Hierarchy.default threeCalls).own? "TimeoutError" = some true
    ∧ (made Hierarchy.default threeCalls).isFatalKind "ConversionError" = true := by
  obtain ⟨hown, _, _, hdefault, _, hnearest⟩ := last_amendment_wins Hierarchy.default threeCalls
  have hunjudged : (made Hierarchy.default threeCalls).classify? "ConversionError" = none := by
    rw [hnearest]
    decide +kernel
  exact ⟨hown "IoError", hown "TimeoutError",
    (hdefault "ConversionError" hunjudged).2 ⟨["IoError"], by simp [threeCalls]⟩⟩

end Classifier

end Redelivery
