import Mathlib

/-! An attempt that is repeated until one settles the matter, so many times at most. It is
settled by a value or by an exception that is not tolerated; an attempt that gives nothing,
or raises what is tolerated, is followed by the next one. -/
namespace Library

structure Tried (ε α : Type) where
  result : Except ε (Option α)
  attempts : Nat

namespace Retry
variable {ε α : Type}

def GoesOn (tolerated : ε → Bool) (x : Except ε (Option α)) : Prop := x = .ok none ∨ ∃ e, tolerated e = true ∧ x = .error e

def upTo (tolerated : ε → Bool) (attempt : Nat → Except ε (Option α)) : Nat → Nat → Tried ε α
  | 0, i => ⟨.ok none,i⟩
  | left+1, i => match attempt i with
    | .ok (some a) => ⟨.ok (some a),i+1⟩
    | .ok none => upTo tolerated attempt left (i+1)
    | .error e => if tolerated e then upTo tolerated attempt left (i+1) else ⟨.error e,i+1⟩

/-- What one attempt comes to, with so many left after it: the end, or nothing if the next one follows. -/
def ended (tolerated : ε → Bool) (left : Nat) (x : Except ε (Option α)) : Option (Except ε (Option α)) :=
  match x with
  | .ok (some a) => some (.ok (some a))
  | .ok none => if left = 0 then some (.ok none) else none
  | .error e => if tolerated e then if left = 0 then some (.ok none) else none else some (.error e)

theorem goesOnOk {tolerated : ε → Bool} {value : Option α} : GoesOn tolerated (.ok value) ↔ value = none := by
  unfold GoesOn
  simp

theorem goesOnError {tolerated : ε → Bool} {e : ε} : GoesOn (α := α) tolerated (.error e) ↔ tolerated e = true := by
  unfold GoesOn
  simp

theorem endedLast (tolerated : ε → Bool) (x : Except ε (Option α)) : ended tolerated 0 x ≠ none := by
  unfold ended
  split
  · simp
  · simp
  · split <;> simp

section Run
variable {tolerated : ε → Bool} {attempt : Nat → Except ε (Option α)} {left i : Nat}

theorem goneOn (on : GoesOn tolerated (attempt i)) : upTo tolerated attempt (left+1) i = upTo tolerated attempt left (i+1) := by
  rcases on with nothing | ⟨e,passed,raised⟩
  · rw [upTo,nothing]
  · rw [upTo,raised]
    exact if_pos passed

theorem settled (settles : ¬ GoesOn tolerated (attempt i)) : upTo tolerated attempt (left+1) i = ⟨attempt i,i+1⟩ := by
  rw [upTo]
  cases result : attempt i with
  | ok value =>
    cases value with
    | none => exact absurd (.inl result) settles
    | some a => rfl
  | error e =>
    rw [result,goesOnError] at settles
    exact if_neg settles

/-- The first attempt that settles the matter ends the run, and without one all are made. -/
theorem upToCases (tolerated : ε → Bool) (attempt : Nat → Except ε (Option α)) (left i : Nat) :
    (∃ k < left, (∀ j < k, GoesOn tolerated (attempt (i+j))) ∧ ¬ GoesOn tolerated (attempt (i+k)) ∧
      upTo tolerated attempt left i = ⟨attempt (i+k),i+k+1⟩) ∨
    (∀ j < left, GoesOn tolerated (attempt (i+j))) ∧ upTo tolerated attempt left i = ⟨.ok none,i+left⟩ := by
  induction left generalizing i with
  | zero => exact .inr ⟨fun j bound => absurd bound (Nat.not_lt_zero j),rfl⟩
  | succ left ih =>
    by_cases on : GoesOn tolerated (attempt i)
    · have later : ∀ {k}, (∀ j < k, GoesOn tolerated (attempt (i+1+j))) → ∀ j < k+1, GoesOn tolerated (attempt (i+j)) := by
        intro k rest j bound
        cases j with
        | zero => exact on
        | succ j => exact Nat.add_right_comm i 1 j ▸ rest j (Nat.lt_of_succ_lt_succ bound)
      rcases ih (i+1) with ⟨k,bound,before,settles,run⟩ | ⟨all,run⟩
      · have place : i + 1 + k = i + (k+1) := by omega
        rw [place] at settles run
        exact .inl ⟨k+1,Nat.succ_lt_succ bound,later before,settles,(goneOn on).trans run⟩
      · refine .inr ⟨later all,(goneOn on).trans (run.trans ?_)⟩
        rw [Nat.add_right_comm,Nat.add_assoc]
    · exact .inl ⟨0,Nat.succ_pos left,fun j bound => absurd bound (Nat.not_lt_zero j),on,settled on⟩

theorem upToStart (tolerated : ε → Bool) (attempt : Nat → Except ε (Option α)) (left : Nat) :
    (∃ k < left, (∀ j < k, GoesOn tolerated (attempt j)) ∧ ¬ GoesOn tolerated (attempt k) ∧
      upTo tolerated attempt left 0 = ⟨attempt k,k+1⟩) ∨
    (∀ j < left, GoesOn tolerated (attempt j)) ∧ upTo tolerated attempt left 0 = ⟨.ok none,left⟩ := by
  have counted := upToCases tolerated attempt left 0
  simpa only [Nat.zero_add] using counted

end Run
end Retry
end Library
