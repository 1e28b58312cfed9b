/-
  Redelivery.Proofs.Classification.Lineage
  ────────────────────────────────────────
  **The lineage of a kind is what can be reached from it.**

  Every kind has at most one parent, so there is one way up from it: it ends
  at a kind without a parent, or it comes back to a kind that it has passed,
  which need not be the one that it began with.  By then everything above has
  been listed:

      isA k t  ↔  t is reached from k by zero or more parent steps

  Each round but the last lists a kind that was not listed before, and only
  declared kinds have a parent, so the way up ends after as many rounds as
  there are declarations, and one more.
-/
import Mathlib.Data.List.Chain
import Mathlib.Data.List.Induction
import Mathlib.Data.List.Nodup
import Mathlib.Logic.Relation
import Redelivery.Classification.Hierarchy

namespace Redelivery

namespace Hierarchy

/-! ## §1. Declared parents. -/

/-- A declaration is about one kind, whatever was declared for it before. -/
theorem parent?_declare (h : Hierarchy) (child parent k : String) :
    (h.declare child parent).parent? k = if k = child then some parent else h.parent? k := by
  unfold parent? declare
  rw [List.lookup_append, List.lookup_singleton]
  by_cases hk : k = child
  · subst hk
    -- the earlier declaration is taken out
    have hnone : (h.parents.filter fun p => p.1 != k).lookup k = none := by
      rw [List.lookup_eq_none_iff]
      intro p hp
      have hne := (List.mem_filter.1 hp).2
      rw [bne_iff_ne] at hne ⊢
      exact hne.symm
    simp [hnone]
  · have hkept : ∀ l : List (String × String),
        (l.filter fun p => p.1 != child).lookup k = l.lookup k := by
      intro l
      induction l with
      | nil => rfl
      | cons p rest ih =>
          by_cases hp : p.1 = child
          · have hkp : (k == p.1) = false := beq_false_of_ne fun heq => hk (heq.trans hp)
            rw [List.filter_cons_of_neg (by simp [hp]), ih, List.lookup_cons, hkp]
          · rw [List.filter_cons_of_pos (by simp [hp]), List.lookup_cons, List.lookup_cons, ih]
    simp [hkept, hk]

/-- Declare the parents of some kinds, one after the other. -/
def declareAll (h : Hierarchy) (declarations : List (String × String)) : Hierarchy :=
  declarations.foldl (fun h p => h.declare p.1 p.2) h

theorem declareAll_concat (h : Hierarchy) (declarations : List (String × String))
    (p : String × String) :
    h.declareAll (declarations ++ [p]) = (h.declareAll declarations).declare p.1 p.2 := by
  simp [declareAll]

/-- **The parent of a kind** is the one that was declared for it last. -/
theorem parent?_declareAll (h : Hierarchy) (declarations : List (String × String)) (k : String) :
    (h.declareAll declarations).parent? k
      = (declarations.reverse.lookup k).or (h.parent? k) := by
  -- induction on the declarations, the last one first
  induction declarations using List.reverseRecOn with
  | nil => rfl
  | append_singleton declarations p ih =>
      rw [declareAll_concat, parent?_declare, ih, List.reverse_append, List.reverse_singleton,
        List.singleton_append, List.lookup_cons]
      by_cases hk : k = p.1
      · simp [hk]
      · rw [if_neg hk, beq_false_of_ne hk]

theorem length_declareAll_le (h : Hierarchy) (declarations : List (String × String)) :
    (h.declareAll declarations).parents.length ≤ h.parents.length + declarations.length := by
  induction declarations using List.reverseRecOn with
  | nil => exact Nat.le_refl _
  | append_singleton declarations p ih =>
      rw [declareAll_concat]
      have hfilter := ((h.declareAll declarations).parents).length_filter_le fun q => q.1 != p.1
      simp only [declare, List.length_append, List.length_singleton]
      omega

/-! ## §2. The way up. -/

/-- The second kind is the declared parent of the first. -/
def Parent (h : Hierarchy) (child parent : String) : Prop := h.parent? child = some parent

/-- The way up from a kind, past those that were seen, with what is listed on it. -/
inductive Climb (h : Hierarchy) : List String → String → List String → Prop where
  /-- It comes back to a kind that was seen. -/
  | back {seen : List String} {kind : String} (hseen : kind ∈ seen) : Climb h seen kind []
  /-- It ends at a kind without a parent. -/
  | top {seen : List String} {kind : String} (hnew : kind ∉ seen)
      (hnone : h.parent? kind = none) : Climb h seen kind [kind]
  /-- It goes on from the parent. -/
  | up {seen above : List String} {kind parent : String} (hnew : kind ∉ seen)
      (hparent : h.Parent kind parent) (rest : Climb h (kind :: seen) parent above) :
      Climb h seen kind (kind :: above)

theorem climb_ascend (h : Hierarchy) (seen : List String) (kind : String) :
    h.Climb seen kind (h.ascend seen kind) := by
  fun_induction ascend h seen kind with
  | case1 seen kind hseen => exact .back hseen
  | case2 seen kind hnew ih =>
      split
      · rename_i hnone
        exact .top hnew hnone
      · rename_i parent hparent
        exact .up hnew hparent (ih parent hparent)

/-- A lineage is a climb from its kind. -/
theorem climb_lineage (h : Hierarchy) (kind : String) : h.Climb [] kind (h.lineage kind) :=
  h.climb_ascend [] kind

namespace Climb

variable {h : Hierarchy} {seen listed : List String} {kind k : String}

/-- It begins with the kind, if that was not seen. -/
theorem head? (hc : h.Climb seen kind listed) (hnew : kind ∉ seen) : listed.head? = some kind := by
  cases hc with
  | back hseen => exact absurd hseen hnew
  | top _ _ => rfl
  | up _ _ _ => rfl

theorem listed_or_seen (hc : h.Climb seen kind listed) : kind ∈ listed ∨ kind ∈ seen := by
  by_cases hseen : kind ∈ seen
  · exact Or.inr hseen
  · exact Or.inl (List.mem_of_mem_head? (hc.head? hseen))

/-- A climb lists nothing that was seen before. -/
theorem not_mem_seen (hc : h.Climb seen kind listed) (hk : k ∈ listed) : k ∉ seen := by
  induction hc with
  | back _ => cases hk
  | top hnew _ =>
      rw [List.mem_singleton.1 hk]
      exact hnew
  | up hnew _ _ ih =>
      rcases List.mem_cons.1 hk with rfl | habove
      · exact hnew
      · intro hseen
        exact ih habove (List.mem_cons_of_mem _ hseen)

/-- **Nothing is listed twice.** -/
theorem nodup (hc : h.Climb seen kind listed) : listed.Nodup := by
  induction hc with
  | back _ => exact List.nodup_nil
  | top _ _ => exact List.nodup_singleton _
  | up _ _ rest ih =>
      refine List.nodup_cons.2 ⟨fun hmem => ?_, ih⟩
      exact rest.not_mem_seen hmem List.mem_cons_self

/-- **Each kind is followed by its parent.** -/
theorem isChain (hc : h.Climb seen kind listed) : listed.IsChain h.Parent := by
  induction hc with
  | back _ => exact List.isChain_nil
  | top _ _ => exact List.isChain_singleton _
  | @up seen above kind parent _ hparent rest ih =>
      refine List.isChain_cons.2 ⟨fun next hnext => ?_, ih⟩
      -- what follows, if anything, is where the rest begins
      cases rest with
      | back _ => cases hnext
      | top _ _ => exact (Option.some.inj hnext) ▸ hparent
      | up _ _ _ => exact (Option.some.inj hnext) ▸ hparent

/-- **The parent of a kind that is listed** is listed, or was seen before. -/
theorem closed (hc : h.Climb seen kind listed) (hk : k ∈ listed) {parent : String}
    (hparent : h.Parent k parent) : parent ∈ listed ∨ parent ∈ seen := by
  induction hc with
  | back _ => cases hk
  | top _ hnone =>
      rw [List.mem_singleton.1 hk, Parent, hnone] at hparent
      cases hparent
  | @up seen above kind next _ hnext rest ih =>
      have hfound : parent ∈ above ∨ parent ∈ kind :: seen := by
        rcases List.mem_cons.1 hk with rfl | habove
        · cases hnext.symm.trans hparent
          exact rest.listed_or_seen
        · exact ih habove
      rcases hfound with habove | hpassed
      · exact Or.inl (List.mem_cons_of_mem kind habove)
      · rcases List.mem_cons.1 hpassed with rfl | hseen
        · exact Or.inl List.mem_cons_self
        · exact Or.inr hseen

/-- Whatever is listed is reached by parent steps. -/
theorem reached (hc : h.Climb seen kind listed) (hk : k ∈ listed) :
    Relation.ReflTransGen h.Parent kind k := by
  induction hc with
  | back _ => cases hk
  | top _ _ =>
      rw [List.mem_singleton.1 hk]
  | up _ hparent _ ih =>
      rcases List.mem_cons.1 hk with rfl | habove
      · exact .refl
      · exact .head hparent (ih habove)

end Climb

/-! ## §3. Rounds. -/

/-- The same list round by round, if that many rounds are enough: the kinds listed so far are those
seen. -/
def lineageWithin (h : Hierarchy) : Nat → List String → Option String → Option (List String)
  | _, listed, none => some listed
  | 0, _, some _ => none
  | rounds + 1, listed, some kind =>
      if kind ∈ listed then some listed
      else h.lineageWithin rounds (listed ++ [kind]) (h.parent? kind)

@[simp] theorem lineageWithin_none (h : Hierarchy) (rounds : Nat) (listed : List String) :
    h.lineageWithin rounds listed none = some listed := by
  cases rounds <;> rfl

/-- **Each round but the last leaves fewer declarations** about kinds that were not seen. -/
theorem Climb.lineageWithin {h : Hierarchy} {seen above : List String} {kind : String}
    (hc : h.Climb seen kind above) {listed : List String} (hsame : ∀ k, k ∈ listed ↔ k ∈ seen)
    {rounds : Nat} (hrounds : h.unseen seen ≤ rounds) :
    h.lineageWithin (rounds + 1) listed (some kind) = some (listed ++ above) := by
  induction hc generalizing listed rounds with
  | @back seen kind hseen =>
      rw [Hierarchy.lineageWithin, if_pos ((hsame kind).2 hseen), List.append_nil]
  | @top seen kind hnew hnone =>
      rw [Hierarchy.lineageWithin, if_neg (mt (hsame kind).1 hnew), hnone, lineageWithin_none]
  | @up seen above kind parent hnew hparent _ ih =>
      have hfewer : h.unseen (kind :: seen) < h.unseen seen := unseen_cons_lt hnew hparent
      have hlisted : ∀ k, k ∈ listed ++ [kind] ↔ k ∈ kind :: seen := by
        intro k
        rw [List.mem_append, List.mem_singleton, List.mem_cons, hsame, or_comm]
      obtain ⟨rest, rfl⟩ : ∃ rest, rounds = rest + 1 := ⟨rounds - 1, by omega⟩
      rw [Hierarchy.lineageWithin, if_neg (mt (hsame kind).1 hnew), hparent,
        ih hlisted (by omega), List.append_assoc, List.singleton_append]

/-- As many rounds as there are declarations are enough for a lineage. -/
theorem lineageWithin_eq (h : Hierarchy) (kind : String) {rounds : Nat}
    (hrounds : h.parents.length ≤ rounds) :
    h.lineageWithin (rounds + 1) [] (some kind) = some (h.lineage kind) := by
  have hall : h.unseen [] ≤ h.parents.length := List.length_filter_le _ _
  exact (h.climb_lineage kind).lineageWithin (fun _ => Iff.rfl) (Nat.le_trans hall hrounds)

/-! ## §4. Descent. -/

theorem mem_lineage_self (h : Hierarchy) (kind : String) : kind ∈ h.lineage kind := by
  rcases (h.climb_lineage kind).listed_or_seen with hlisted | hseen
  · exact hlisted
  · cases hseen

/-- **What is above a kind of the lineage** is in the lineage. -/
theorem parent_mem_lineage {h : Hierarchy} {kind k parent : String} (hk : k ∈ h.lineage kind)
    (hparent : h.Parent k parent) : parent ∈ h.lineage kind := by
  rcases (h.climb_lineage kind).closed hk hparent with hlisted | hseen
  · exact hlisted
  · cases hseen

/-- **The lineage is all that can be reached**, on a cycle too. -/
theorem isA_iff_reached {h : Hierarchy} {kind target : String} :
    h.isA kind target = true ↔ Relation.ReflTransGen h.Parent kind target := by
  rw [isA, List.contains_iff_mem]
  constructor
  · exact (h.climb_lineage kind).reached
  · intro hreached
    induction hreached with
    | refl => exact h.mem_lineage_self kind
    | tail _ hparent ih => exact parent_mem_lineage ih hparent

/-- **Lineage is reachability.**  After any declarations, be there cycles among them: the parent of a
kind is the one declared last; the lineage is found within one round more than there are
declarations; it begins with the kind, names none twice, goes from each kind to its parent, and
ends only where there is no parent or the parent is listed.  A kind descends from exactly those that
are reached from it by zero or more parent steps, hence from itself, and from what its ancestors
descend from. -/
theorem lineage_lists_what_is_reached (declarations : List (String × String)) (k : String) :
    (∀ child, (declareAll {} declarations).parent? child = declarations.reverse.lookup child)
    ∧ (∀ rounds, declarations.length ≤ rounds →
        (declareAll {} declarations).lineageWithin (rounds + 1) [] (some k)
          = some ((declareAll {} declarations).lineage k))
    ∧ ((declareAll {} declarations).lineage k).head? = some k
    ∧ ((declareAll {} declarations).lineage k).Nodup
    ∧ ((declareAll {} declarations).lineage k).IsChain (declareAll {} declarations).Parent
    ∧ (∀ last, ((declareAll {} declarations).lineage k).getLast? = some last →
        (declareAll {} declarations).parent? last = none
          ∨ ∃ parent ∈ (declareAll {} declarations).lineage k,
            (declareAll {} declarations).Parent last parent)
    ∧ (∀ t, (declareAll {} declarations).isA k t = true
        ↔ Relation.ReflTransGen (declareAll {} declarations).Parent k t)
    ∧ (declareAll {} declarations).isA k k = true
    ∧ ∀ t u, (declareAll {} declarations).isA k t = true →
        (declareAll {} declarations).isA t u = true →
          (declareAll {} declarations).isA k u = true := by
  have hclimb := climb_lineage (declareAll {} declarations) k
  refine ⟨fun child => ?_, fun rounds hrounds => ?_, hclimb.head? List.not_mem_nil, hclimb.nodup,
    hclimb.isChain, fun last hlast => ?_, fun t => isA_iff_reached, ?_, fun t u hkt htu => ?_⟩
  · rw [parent?_declareAll]
    exact Option.or_none
  · have hlength := length_declareAll_le {} declarations
    simp only [List.length_nil, Nat.zero_add] at hlength
    exact lineageWithin_eq _ k (Nat.le_trans hlength hrounds)
  · cases hparent : (declareAll {} declarations).parent? last with
    | none => exact Or.inl rfl
    | some parent =>
        exact Or.inr ⟨parent, parent_mem_lineage (List.mem_of_getLast? hlast) hparent, hparent⟩
  · exact isA_iff_reached.2 .refl
  · exact isA_iff_reached.2 ((isA_iff_reached.1 hkt).trans (isA_iff_reached.1 htu))

/-- A tail into a cycle of two kinds, a kind under itself, and a declaration that is replaced. -/
def tailAndCycle : List (String × String) :=
  [("DiskError", "TimeoutError"), ("IoError", "StorageError"), ("StorageError", "IoError"),
    ("TimeoutError", "TimeoutError"), ("DiskError", "IoError")]

/-- The way up from the tail goes round the cycle once, and not to the parent that was replaced. -/
theorem lineage_lists_what_is_reached_of_tail :
    (declareAll {} tailAndCycle).lineage "DiskError" = ["DiskError", "IoError", "StorageError"]
    ∧ (declareAll {} tailAndCycle).isA "DiskError" "StorageError" = true
    ∧ (declareAll {} tailAndCycle).isA "IoError" "IoError" = true := by
  obtain ⟨_, hrounds, _, _, _, _, _, _, hthrough⟩ :=
    lineage_lists_what_is_reached tailAndCycle "DiskError"
  obtain ⟨_, _, _, _, _, _, _, hself, _⟩ := lineage_lists_what_is_reached tailAndCycle "IoError"
  refine ⟨Option.some.inj ((hrounds 5 (by decide)).symm.trans (by decide)), ?_, hself⟩
  exact hthrough "IoError" "StorageError" (by decide +kernel) (by decide +kernel)

end Hierarchy

end Redelivery
