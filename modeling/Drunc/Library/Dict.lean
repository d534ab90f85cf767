import Mathlib

/-! Dictionaries that keep the order of insertion: setting a key that is there
keeps its place, setting a new one adds it last. A dictionary with a repeated
key cannot be built. `fill` sets a key for each item of a list, in their order: where
the keys differ, each item is found at its key and nothing else has changed. -/
namespace Library

structure Dict (κ ν : Type) where
  entries : List (κ × ν)
  distinct : (entries.map Prod.fst).Nodup

namespace Dict
variable {κ ν : Type} [DecidableEq κ]

def keys (d : Dict κ ν) : List κ := d.entries.map Prod.fst

def lookup (k : κ) : List (κ × ν) → Option ν
  | [] => none
  | (a,v) :: rest => if a = k then some v else lookup k rest

def get? (d : Dict κ ν) (k : κ) : Option ν := lookup k d.entries

def assign (k : κ) (v : ν) : List (κ × ν) → List (κ × ν)
  | [] => [(k,v)]
  | (a,w) :: rest => if a = k then (k,v) :: rest else (a,w) :: assign k v rest

theorem assignKeys (k : κ) (v : ν) (entries : List (κ × ν)) :
    (assign k v entries).map Prod.fst =
      if k ∈ entries.map Prod.fst then entries.map Prod.fst else entries.map Prod.fst ++ [k] := by
  induction entries with
  | nil => simp [assign]
  | cons head rest ih =>
    obtain ⟨a,w⟩ := head
    by_cases same : a = k
    · simp [assign,same]
    · have other : k ≠ a := Ne.symm same
      simp only [assign,same,if_false,List.map_cons,ih,List.mem_cons,other,false_or]
      split <;> simp

def empty : Dict κ ν := ⟨[],List.nodup_nil⟩

def set (d : Dict κ ν) (k : κ) (v : ν) : Dict κ ν where
  entries := assign k v d.entries
  distinct := by
    rw [assignKeys]
    split
    · exact d.distinct
    · rename_i fresh
      simpa [List.nodup_append] using ⟨d.distinct,fun a w mem same => fresh (List.mem_map.mpr ⟨(a,w),mem,same⟩)⟩

def erase (d : Dict κ ν) (k : κ) : Dict κ ν where
  entries := d.entries.filter (fun e => !decide (e.1 = k))
  distinct := d.distinct.sublist (List.filter_sublist.map Prod.fst)

theorem lookupAssign (k j : κ) (v : ν) (entries : List (κ × ν)) :
    lookup j (assign k v entries) = if j = k then some v else lookup j entries := by
  induction entries with
  | nil => simp [assign,lookup,eq_comm]
  | cons head rest ih =>
    obtain ⟨a,w⟩ := head
    by_cases same : a = k
    · by_cases here : j = k
      · simp [assign,same,lookup,here]
      · simp [assign,same,lookup,here,Ne.symm here]
    · by_cases here : a = j
      · have other : j ≠ k := fun h => same (here.trans h)
        simp [assign,lookup,here,other]
      · simp only [assign,same,if_false,lookup,here,ih]

theorem lookupFilter (k j : κ) (entries : List (κ × ν)) :
    lookup j (entries.filter (fun e => !decide (e.1 = k))) = if j = k then none else lookup j entries := by
  induction entries with
  | nil => simp [lookup]
  | cons head rest ih =>
    obtain ⟨a,w⟩ := head
    by_cases same : a = k
    · by_cases here : j = k
      · simpa [same,here] using ih
      · simpa [same,here,lookup,Ne.symm here] using ih
    · by_cases here : a = j
      · have other : j ≠ k := fun h => same (here.trans h)
        simp [here,lookup,other]
      · simp [same,here,lookup,ih]

theorem lookupIsSome (k : κ) (entries : List (κ × ν)) :
    (lookup k entries).isSome = true ↔ k ∈ entries.map Prod.fst := by
  induction entries with
  | nil => simp [lookup]
  | cons head rest ih =>
    obtain ⟨a,w⟩ := head
    by_cases same : a = k
    · simp [lookup,same]
    · simp only [lookup,same,if_false,ih,List.map_cons,List.mem_cons,Ne.symm same,false_or]

@[simp] theorem getEmpty (k : κ) : (empty : Dict κ ν).get? k = none := rfl

@[simp] theorem getSet (d : Dict κ ν) (k j : κ) (v : ν) :
    (d.set k v).get? j = if j = k then some v else d.get? j := lookupAssign k j v d.entries

@[simp] theorem getErase (d : Dict κ ν) (k j : κ) :
    (d.erase k).get? j = if j = k then none else d.get? j := lookupFilter k j d.entries

theorem memKeys {d : Dict κ ν} {k : κ} : k ∈ d.keys ↔ ∃ v, d.get? k = some v := by
  rw [← Option.isSome_iff_exists]
  exact (lookupIsSome k d.entries).symm

section Fill
variable {α ε : Type} {name : α → κ} {f g : α → Except ε ν} {d filled : Dict κ ν}

def fill (name : α → κ) (f : α → Except ε ν) : List α → Dict κ ν → Except ε (Dict κ ν)
  | [], d => .ok d
  | a :: rest, d => f a >>= fun v => fill name f rest (d.set (name a) v)

theorem fillCons {a : α} {rest : List α} :
    fill name f (a :: rest) d = f a >>= fun v => fill name f rest (d.set (name a) v) := rfl

theorem fillCongr {xs : List α} (same : ∀ a ∈ xs, f a = g a) (d : Dict κ ν) : fill name f xs d = fill name g xs d := by
  induction xs generalizing d with
  | nil => rfl
  | cons a rest ih =>
    rw [fillCons,fillCons,same a List.mem_cons_self]
    exact congrArg _ (funext fun v => ih (fun b mem => same b (List.mem_cons_of_mem _ mem)) _)

theorem fillFound {xs : List α} (distinct : (xs.map name).Nodup) (ok : fill name f xs d = .ok filled) :
    (∀ a ∈ xs, ∃ v, f a = .ok v ∧ filled.get? (name a) = some v) ∧
    ∀ k, k ∉ xs.map name → filled.get? k = d.get? k := by
  induction xs generalizing d with
  | nil =>
    cases ok
    exact ⟨fun a mem => absurd mem List.not_mem_nil,fun k _ => rfl⟩
  | cons a rest ih =>
    rw [fillCons] at ok
    cases head : f a with
    | error e => rw [head] at ok; contradiction
    | ok v =>
      rw [head] at ok
      obtain ⟨fresh,others⟩ := List.nodup_cons.mp distinct
      obtain ⟨found,kept⟩ := ih others ok
      constructor
      · intro b mem
        rcases List.mem_cons.mp mem with rfl | inside
        · exact ⟨v,head,by rw [kept _ fresh,getSet,if_pos rfl]⟩
        · exact found b inside
      · intro k outside
        obtain ⟨other,outside⟩ := not_or.mp (fun mem => outside (List.mem_cons.mpr mem))
        rw [kept k outside,getSet,if_neg other]

theorem fillTotal {xs : List α} (all : ∀ a ∈ xs, ∃ v, f a = .ok v) (d : Dict κ ν) :
    ∃ filled, fill name f xs d = .ok filled := by
  induction xs generalizing d with
  | nil => exact ⟨d,rfl⟩
  | cons a rest ih =>
    obtain ⟨v,head⟩ := all a List.mem_cons_self
    obtain ⟨filled,ok⟩ := ih (fun b mem => all b (List.mem_cons_of_mem _ mem)) (d.set (name a) v)
    refine ⟨filled,?_⟩
    rw [fillCons,head]
    exact ok

theorem fillFails {xs : List α} {e : ε} (failed : fill name f xs d = .error e) : ∃ a ∈ xs, f a = .error e := by
  induction xs generalizing d with
  | nil => contradiction
  | cons a rest ih =>
    rw [fillCons] at failed
    cases head : f a with
    | error _ =>
      rw [head] at failed
      cases failed
      exact ⟨a,List.mem_cons_self,head⟩
    | ok v =>
      rw [head] at failed
      obtain ⟨b,mem,there⟩ := ih failed
      exact ⟨b,List.mem_cons_of_mem _ mem,there⟩

end Fill
end Dict
end Library
