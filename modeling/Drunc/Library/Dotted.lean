import Mathlib

/-! Lists of numbers written out with dots between them, as in "0.2.1". Each such text
is that of one list only, and a longer list begins with the text of a shorter one. A dot
comes before every digit, so between a text and one that continues it after a dot there
are, in the order of the texts, only such as continue it after a dot as well. -/
namespace Library

def dotted (xs : List Nat) : String := String.intercalate "." (xs.map toString)

namespace Dotted

theorem digitsLeast (n : Nat) : ∀ c ∈ Nat.toDigits 10 n, '.' < c := by
  intro c mem
  have digit := Nat.isDigit_of_mem_toDigits (by decide) (by decide) mem
  rw [Char.isDigit,Bool.and_eq_true,decide_eq_true_eq] at digit
  exact lt_of_lt_of_le (by decide : '.'.val < 48) digit.1

theorem noDot (n : Nat) : '.' ∉ Nat.toDigits 10 n := fun mem => absurd (digitsLeast n '.' mem) (lt_irrefl _)

theorem toListDotted (xs : List Nat) : (dotted xs).toList = ['.'].intercalate (xs.map (Nat.toDigits 10)) := by
  have each : String.toList ∘ toString = Nat.toDigits 10 := by
    funext n
    rw [Function.comp_apply,Nat.toString_eq_repr,Nat.toList_repr]
  unfold dotted
  rw [String.toList_intercalate,List.map_map,each]
  rfl

theorem splitDotted {xs : List Nat} (written : xs ≠ []) : (dotted xs).toList.splitOn '.' = xs.map (Nat.toDigits 10) := by
  rw [toListDotted,List.splitOn_intercalate]
  · intro digits mem
    obtain ⟨n,_,rfl⟩ := List.mem_map.mp mem
    exact noDot n
  · exact fun none => written (List.map_eq_nil_iff.mp none)

theorem dottedEmpty {xs : List Nat} : dotted xs = "" ↔ xs = [] := by
  constructor
  · intro empty
    cases xs with
    | nil => rfl
    | cons n rest =>
      have texts := toListDotted (n :: rest)
      rw [empty] at texts
      cases rest <;> simp at texts
  · rintro rfl
    rfl

theorem digitsInjective {xs ys : List Nat} (same : xs.map (Nat.toDigits 10) = ys.map (Nat.toDigits 10)) : xs = ys := by
  refine List.map_injective_iff.mpr (fun a b texts => ?_) same
  rw [← Nat.ofDigitChars_ten_toDigits (n := a),texts,Nat.ofDigitChars_ten_toDigits]

theorem dottedInjective : Function.Injective dotted := by
  intro xs ys same
  by_cases none : xs = []
  · exact none.trans (dottedEmpty.mp (same.symm.trans (dottedEmpty.mpr none))).symm
  · have other : ys ≠ [] := fun empty => none (dottedEmpty.mp (same.trans (dottedEmpty.mpr empty)))
    refine digitsInjective ?_
    rw [← splitDotted none,← splitDotted other,same]

theorem dottedAppend {xs ys : List Nat} (written : xs ≠ []) (more : ys ≠ []) : dotted (xs ++ ys) = dotted xs ++ "." ++ dotted ys := by
  unfold dotted
  rw [List.map_append,String.intercalate_append_of_ne_nil (fun none => written (List.map_eq_nil_iff.mp none))
    (fun none => more (List.map_eq_nil_iff.mp none))]

theorem dottedOne (n : Nat) : dotted [n] = toString n := by simp [dotted]

theorem dottedSnoc {xs : List Nat} (written : xs ≠ []) (n : Nat) : dotted (xs ++ [n]) = dotted xs ++ "." ++ toString n := by
  rw [dottedAppend written (List.cons_ne_nil n []),dottedOne]

theorem dotToList (s rest : String) : (s ++ "." ++ rest).toList = s.toList ++ '.' :: rest.toList := by simp

theorem dottedBelow {xs ys : List Nat} {rest : String} (written : xs ≠ []) (longer : dotted ys = dotted xs ++ "." ++ rest) :
    ∃ n more, ys = xs ++ n :: more := by
  have texts : (dotted ys).toList = (dotted xs).toList ++ '.' :: rest.toList := by rw [longer,dotToList]
  have some : ys ≠ [] := by
    rintro rfl
    simp [dotted] at texts
  have digits : ys.map (Nat.toDigits 10) = xs.map (Nat.toDigits 10) ++ rest.toList.splitOn '.' := by
    rw [← splitDotted some,← splitDotted written,texts,List.splitOn_append_cons_self]
  obtain ⟨front,back,rfl,one,two⟩ := List.map_eq_append_iff.mp digits
  cases digitsInjective one
  cases back with
  | nil => exact absurd two.symm (List.splitOn_ne_nil '.' rest.toList)
  | cons n more => exact ⟨n,more,rfl⟩

section Order

/-- A list that comes between another one and one that continues that with the least item. -/
theorem between {α : Type} [LinearOrder α] {dot : α} {xs ys zs : List α} (least : ∀ c ∈ ys, dot ≤ c) (low : ¬ ys < xs)
    (high : ¬ xs ++ dot :: zs < ys) : ys = xs ∨ ∃ rest, ys = xs ++ dot :: rest := by
  induction xs generalizing ys with
  | nil =>
    cases ys with
    | nil => exact .inl rfl
    | cons y rest =>
      rw [List.nil_append,List.cons_lt_cons_iff,not_or] at high
      exact .inr ⟨rest,congrArg (· :: rest) ((not_lt.mp high.1).antisymm (least y List.mem_cons_self))⟩
  | cons x xs ih =>
    cases ys with
    | nil => exact absurd (List.nil_lt_cons x xs) low
    | cons y rest =>
      rw [List.cons_lt_cons_iff,not_or] at low
      rw [List.cons_append,List.cons_lt_cons_iff,not_or] at high
      obtain rfl : x = y := (not_lt.mp low.1).antisymm (not_lt.mp high.1)
      have step := ih (fun c mem => least c (List.mem_cons_of_mem x mem)) (fun less => low.2 ⟨rfl,less⟩) (fun less => high.2 ⟨rfl,less⟩)
      rcases step with rfl | ⟨tail,rfl⟩
      · exact .inl rfl
      · exact .inr ⟨tail,rfl⟩

theorem continued {α : Type} [LinearOrder α] (dot : α) (xs zs : List α) : xs < xs ++ dot :: zs := by
  induction xs with
  | nil => exact List.nil_lt_cons dot zs
  | cons x xs ih => exact List.cons_lt_cons_iff.mpr (.inr ⟨rfl,ih⟩)

theorem dottedLeast (xs : List Nat) : ∀ c ∈ (dotted xs).toList, '.' ≤ c := by
  induction xs with
  | nil => simp [dotted]
  | cons n rest ih =>
    have first : ∀ c ∈ (dotted [n]).toList, '.' ≤ c := by
      rw [dottedOne,Nat.toString_eq_repr,Nat.toList_repr]
      exact fun c mem => (digitsLeast n c mem).le
    by_cases last : rest = []
    · rw [last]
      exact first
    · rw [← List.singleton_append,dottedAppend (List.cons_ne_nil n []) last,dotToList]
      intro c mem
      rcases List.mem_append.mp mem with mem | mem
      · exact first c mem
      · rcases List.mem_cons.mp mem with rfl | mem
        · exact le_refl _
        · exact ih c mem

theorem dottedContinued (s rest : String) : s < s ++ "." ++ rest := by
  rw [String.lt_iff_toList_lt,dotToList]
  exact continued '.' s.toList rest.toList

theorem dottedBetween {xs ys : List Nat} {rest : String} (low : dotted xs ≤ dotted ys) (high : dotted ys ≤ dotted xs ++ "." ++ rest) :
    dotted ys = dotted xs ∨ ∃ more, dotted ys = dotted xs ++ "." ++ more := by
  rw [← not_lt,String.lt_iff_toList_lt] at low high
  rw [dotToList] at high
  rcases between (dottedLeast ys) low high with same | ⟨more,longer⟩
  · exact .inl (String.toList_inj.mp same)
  · refine .inr ⟨String.ofList more,String.toList_inj.mp ?_⟩
    rw [longer,dotToList,String.toList_ofList]

end Order

end Dotted
end Library
