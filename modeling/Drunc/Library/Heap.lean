import Mathlib

/-! Objects that are changed in place and may be shared. A heap has a cell for each
reference below `next`; copying an object makes a new cell. `Keeps` holds of a heap and
a later one in which every old cell is as it was: what was written since is new. -/
namespace Library

structure Heap (α : Type) where
  cell : Nat → α
  next : Nat

namespace Heap
variable {α : Type}

def update (r : Nat) (f : α → α) (h : Heap α) : Heap α := ⟨Function.update h.cell r (f (h.cell r)),h.next⟩

def copy (r : Nat) (h : Heap α) : Heap α × Nat := (⟨Function.update h.cell h.next (h.cell r),h.next+1⟩,h.next)

structure Keeps (h later : Heap α) : Prop where
  room : h.next ≤ later.next
  same : ∀ r < h.next, later.cell r = h.cell r

variable {h mid later : Heap α} {r : Nat} {f g : α → α}

@[simp] theorem updateHere : (h.update r f).cell r = f (h.cell r) := Function.update_self ..

theorem updateTwice : (h.update r f).update r g = h.update r (g ∘ f) := by
  simp only [update,Function.update_self,Function.update_idem,Function.comp_apply]

theorem updateNothing : h.update r id = h := by
  simp only [update,id_eq,Function.update_eq_self]

@[simp] theorem copyHere : (h.copy r).1.cell h.next = h.cell r := Function.update_self ..

theorem keepsRefl (h : Heap α) : Keeps h h := ⟨Nat.le_refl _,fun _ _ => rfl⟩

theorem keepsTrans (one : Keeps h mid) (two : Keeps mid later) : Keeps h later :=
  ⟨one.room.trans two.room,fun r old => (two.same r (old.trans_le one.room)).trans (one.same r old)⟩

theorem keepsCopy (h : Heap α) (r : Nat) : Keeps h (h.copy r).1 :=
  ⟨Nat.le_succ _,fun _ old => Function.update_of_ne (Nat.ne_of_lt old) ..⟩

theorem keepsUpdate (kept : Keeps h mid) (new : h.next ≤ r) : Keeps h (mid.update r f) :=
  ⟨kept.room,fun i old => (Function.update_of_ne (Nat.ne_of_lt (old.trans_le new)) ..).trans (kept.same i old)⟩

end Heap
end Library
