import Mathlib

/-! Lists sorted by a key, items with the same key left in their order. What comes
before what in the sorted list is all there is to say of it: the smaller key comes
first, and of two items with one key the one that was first. -/
namespace Library.Sorting
variable {α κ : Type} {a b : α} {l : List α}

def Before (l : List α) (a b : α) : Prop := [a,b].Sublist l

theorem beforeMem (before : Before l a b) : a ∈ l ∧ b ∈ l :=
  ⟨before.subset List.mem_cons_self,before.subset (List.mem_cons_of_mem a List.mem_cons_self)⟩

theorem beforeEither (memA : a ∈ l) (memB : b ∈ l) (other : a ≠ b) : Before l a b ∨ Before l b a := by
  induction l with
  | nil => exact absurd memA List.not_mem_nil
  | cons x rest ih =>
    rcases List.mem_cons.mp memA with rfl | laterA
    · exact .inl (.cons_cons a (List.singleton_sublist.mpr ((List.mem_cons.mp memB).resolve_left (Ne.symm other))))
    · rcases List.mem_cons.mp memB with rfl | laterB
      · exact .inr (.cons_cons b (List.singleton_sublist.mpr laterA))
      · exact (ih laterA laterB).imp (List.Sublist.cons x) (List.Sublist.cons x)

theorem beforeOnce (once : l.Nodup) (before : Before l a b) : ¬ Before l b a := by
  induction l with
  | nil => exact absurd (beforeMem before).1 List.not_mem_nil
  | cons x rest ih =>
    obtain ⟨fresh,once⟩ := List.nodup_cons.mp once
    intro after
    cases before with
    | cons _ before => cases after with
      | cons _ after => exact ih once before after
      | cons_cons _ after => exact fresh (beforeMem before).2
    | cons_cons _ before => cases after with
      | cons _ after => exact fresh (beforeMem after).2
      | cons_cons _ after => exact fresh (List.singleton_sublist.mp before)

theorem beforeApart (once : l.Nodup) (before : Before l a b) : a ≠ b := by
  rintro rfl
  exact beforeOnce once before before

section Sorted
variable [LinearOrder κ]

def sortedBy (key : α → κ) (l : List α) : List α := l.mergeSort fun a b => key a ≤ key b

theorem sortedPerm (key : α → κ) (l : List α) : (sortedBy key l).Perm l := List.mergeSort_perm l _

theorem keysTrans (key : α → κ) (a b c : α) (one : decide (key a ≤ key b) = true) (two : decide (key b ≤ key c) = true) :
    decide (key a ≤ key c) = true := decide_eq_true ((of_decide_eq_true one).trans (of_decide_eq_true two))

theorem keysTotal (key : α → κ) (a b : α) : (decide (key a ≤ key b) || decide (key b ≤ key a)) = true := by
  simpa using le_total (key a) (key b)

theorem sortedKeys {key : α → κ} (before : Before (sortedBy key l) a b) : key a ≤ key b := by
  have sorted : (sortedBy key l).Pairwise fun a b => decide (key a ≤ key b) = true :=
    List.pairwise_mergeSort (keysTrans key) (keysTotal key) l
  exact of_decide_eq_true (List.pairwise_iff_forall_sublist.mp sorted before)

theorem sortedStable {key : α → κ} (before : Before l a b) (ordered : key a ≤ key b) : Before (sortedBy key l) a b :=
  List.pair_sublist_mergeSort (keysTrans key) (keysTotal key) (decide_eq_true ordered) before

theorem beforeSorted {key : α → κ} (once : l.Nodup) : Before (sortedBy key l) a b ↔
    a ∈ l ∧ b ∈ l ∧ key a < key b ∨ key a = key b ∧ Before l a b := by
  have perm := sortedPerm key l
  have still := perm.nodup_iff.mpr once
  constructor
  · intro before
    obtain ⟨memA,memB⟩ := (beforeMem before).imp perm.mem_iff.mp perm.mem_iff.mp
    rcases (sortedKeys before).lt_or_eq with smaller | same
    · exact .inl ⟨memA,memB,smaller⟩
    · -- the other order would have been kept as well
      refine .inr ⟨same,(beforeEither memA memB (beforeApart still before)).resolve_right fun after => ?_⟩
      exact beforeOnce still before (sortedStable after same.ge)
  · rintro (⟨memA,memB,smaller⟩ | ⟨same,before⟩)
    · have other : a ≠ b := fun same => (same ▸ smaller).false
      refine (beforeEither (perm.mem_iff.mpr memA) (perm.mem_iff.mpr memB) other).resolve_right fun after => ?_
      exact absurd (sortedKeys after) smaller.not_ge
    · exact sortedStable before same.le

end Sorted
end Library.Sorting
