import Mathlib

/-! Runs of a machine that takes one input after another, and what is said of each of
their steps: an invariant that every step keeps, as long as the step meets a condition,
gives each step of a run what it gives one step. Of two machines that take the same inputs,
where every step of one is answered by a step of the other, every run is. -/
namespace Library
variable {σ ι : Type} {step : σ → ι → σ} {I : σ → Prop} {P Q : σ → ι → Prop}

def Along (step : σ → ι → σ) (P : σ → ι → Prop) : σ → List ι → Prop
  | _, [] => True
  | s, i :: rest => P s i ∧ Along step P (step s i) rest

theorem alongAnd {s : σ} {inputs : List ι} (first : Along step P s inputs) (second : Along step Q s inputs) :
    Along step (fun s i => P s i ∧ Q s i) s inputs := by
  induction inputs generalizing s with
  | nil => trivial
  | cons i rest ih => exact ⟨⟨first.1,second.1⟩,ih first.2 second.2⟩

theorem alongAll {C : ι → Prop} {s : σ} {inputs : List ι} (all : ∀ i ∈ inputs, C i) :
    Along step (fun _ i => C i) s inputs := by
  induction inputs generalizing s with
  | nil => trivial
  | cons i rest ih => exact ⟨all i List.mem_cons_self,ih fun j mem => all j (List.mem_cons_of_mem _ mem)⟩

theorem alongAppend {s : σ} {first later : List ι} (holds : Along step P s (first ++ later)) :
    Along step P (first.foldl step s) later := by
  induction first generalizing s with
  | nil => exact holds
  | cons i rest ih => exact ih holds.2

theorem alongSteps (keeps : ∀ s i, I s → P s i → I (step s i)) (gives : ∀ s i, I s → P s i → Q s i) {s : σ}
    (start : I s) {inputs : List ι} (holds : Along step P s inputs) : Along step Q s inputs := by
  induction inputs generalizing s with
  | nil => trivial
  | cons i rest ih => exact ⟨gives s i start holds.1,ih (keeps s i start holds.1) holds.2⟩

theorem alongIff {C : σ → ι → Prop} (keeps : ∀ s i, I s → C s i → I (step s i))
    (iff : ∀ s i, I s → C s i → (P s i ↔ Q s i)) {s : σ} (start : I s) {inputs : List ι}
    (holds : Along step C s inputs) : Along step P s inputs ↔ Along step Q s inputs := by
  induction inputs generalizing s with
  | nil => exact Iff.rfl
  | cons i rest ih => exact and_congr (iff s i start holds.1) (ih (keeps s i start holds.1) holds.2)

theorem alongKeeps (keeps : ∀ s i, I s → P s i → I (step s i)) {s : σ} (start : I s) {inputs : List ι}
    (holds : Along step P s inputs) : I (inputs.foldl step s) := by
  induction inputs generalizing s with
  | nil => exact start
  | cons i rest ih => exact ih (keeps s i start holds.1) holds.2

theorem keptAlways (keeps : ∀ s i, I s → I (step s i)) {s : σ} (start : I s) (inputs : List ι) : I (inputs.foldl step s) :=
  alongKeeps (P := fun _ _ => True) (fun s i holds _ => keeps s i holds) start (alongAll (C := fun _ => True) fun _ _ => trivial)

/-- What every input of one kind takes from, and no other adds to. -/
theorem runsDown {measure : σ → Nat} {mine : ι → Bool} (keeps : ∀ s i, I s → I (step s i))
    (down : ∀ s i, I s → measure (step s i) ≤ measure s - (if mine i then 1 else 0)) {s : σ} (start : I s) (inputs : List ι) :
    measure (inputs.foldl step s) ≤ measure s - inputs.countP mine := by
  induction inputs generalizing s with
  | nil => exact Nat.le_refl _
  | cons i rest ih =>
    have first := down s i start
    have later := ih (keeps s i start)
    rw [List.foldl_cons,List.countP_cons]
    omega

section Refinement
variable {α : Type} {R : α → σ → Prop} {spec : α → ι → α}

def Refines (R : α → σ → Prop) (spec : α → ι → α) (step : σ → ι → σ) : Prop :=
  ∀ a s i, R a s → R (spec a i) (step s i)

theorem refinesRun (refines : Refines R spec step) {a : α} {s : σ} (start : R a s) (inputs : List ι) :
    R (inputs.foldl spec a) (inputs.foldl step s) := by
  induction inputs generalizing a s with
  | nil => exact start
  | cons i rest ih => exact ih (refines a s i start)

end Refinement

end Library
