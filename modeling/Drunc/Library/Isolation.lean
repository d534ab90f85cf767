import Drunc.Library.Act
import Drunc.Library.Dict
import Drunc.Library.Runs

/-! What can be seen of a machine through a view of its state. A computation is mirrored by
another one where that does the same on the view: it returns, raises and emits what the first
does, and ends in the view of its state; a hidden one leaves the view alone. Where every input
of a machine is either mirrored by itself or hidden, a run looks through the view as if the
hidden inputs had never come, and so do its outputs. `filter` is a view of a dictionary. -/
namespace Library

namespace Act
variable {ι ε σ τ α β : Type} {view : σ → τ} {s : σ}

def Mirrored (view : σ → τ) (x : Act ι ε σ α) (y : Act ι ε τ α) (s : σ) : Prop :=
  y (view s) = ⟨(x s).result,view (x s).state,(x s).events⟩

theorem mirroredPure (a : α) : Mirrored view (pure a : Act ι ε σ α) (pure a) s := rfl
theorem mirroredRaise (e : ε) : Mirrored view (raise e : Act ι ε σ α) (raise e) s := rfl
theorem mirroredEmit (i : ι) : Mirrored view (emit i : Act ι ε σ Unit) (emit i) s := rfl
theorem mirroredLift (x : Except ε α) : Mirrored view (lift x : Act ι ε σ α) (lift x) s := rfl

theorem mirroredUpdate {f : σ → σ} {g : τ → τ} (same : g (view s) = view (f s)) :
    Mirrored view (update f : Act ι ε σ Unit) (update g) s := by
  unfold Mirrored
  rw [updateRun,updateRun,same]

theorem mirroredBind {x : Act ι ε σ α} {y : Act ι ε τ α} {f : α → Act ι ε σ β} {g : α → Act ι ε τ β}
    (first : Mirrored view x y s) (rest : ∀ a, (x s).result = .ok a → Mirrored view (f a) (g a) (x s).state) :
    Mirrored view (x >>= f) (y >>= g) s := by
  unfold Mirrored at first rest ⊢
  cases result : (x s).result with
  | error e =>
    have other : (y (view s)).result = .error e := by rw [first,result]
    rw [bindError result,bindError other,first]
  | ok a =>
    have other : (y (view s)).result = .ok a := by rw [first,result]
    rw [bindOk result,bindOk other,first,rest a result]
    rfl

theorem mirroredRead {f : σ → Act ι ε σ α} {g : τ → Act ι ε τ α} (rest : Mirrored view (f s) (g (view s)) s) :
    Mirrored view (read >>= f) (read >>= g) s := rest

theorem mirroredAttempt {x : Act ι ε σ α} {y : Act ι ε τ α} (same : Mirrored view x y s) :
    Mirrored view (attempt x) (attempt y) s := by
  unfold Mirrored at same ⊢
  rw [attemptRun,attemptRun,same]

theorem mirroredEach {P : σ → Prop} {f : α → Act ι ε σ β} {g : α → Act ι ε τ β} {xs : List α}
    (one : ∀ a ∈ xs, ∀ s, P s → Mirrored view (f a) (g a) s) (keeps : ∀ a ∈ xs, ∀ s, P s → P (f a s).state) (start : P s) :
    Mirrored view (each f xs) (each g xs) s := by
  induction xs generalizing s with
  | nil => exact mirroredPure []
  | cons a rest ih =>
    refine mirroredBind (one a List.mem_cons_self s start) fun b _ => ?_
    refine mirroredBind (ih (fun c mem => one c (List.mem_cons_of_mem _ mem))
      (fun c mem => keeps c (List.mem_cons_of_mem _ mem)) (keeps a List.mem_cons_self s start)) fun bs _ => mirroredPure _

end Act

namespace Dict
variable {κ ν : Type} {p q : κ → ν → Bool} {d e : Dict κ ν} {k : κ} {v : ν}

def filter (p : κ → ν → Bool) (d : Dict κ ν) : Dict κ ν where
  entries := d.entries.filter fun e => p e.1 e.2
  distinct := d.distinct.sublist (List.filter_sublist.map Prod.fst)

theorem sameEntries (same : d.entries = e.entries) : d = e := by
  cases d; cases e
  cases same
  rfl

theorem filterKeys (p : κ → Bool) : (d.filter fun k _ => p k).keys = d.keys.filter p := by
  change (d.entries.filter fun e => p e.1).map Prod.fst = (d.entries.map Prod.fst).filter p
  rw [List.filter_map]
  rfl

variable [DecidableEq κ]

theorem lookupFiltered {entries : List (κ × ν)} (distinct : (entries.map Prod.fst).Nodup) :
    lookup k (entries.filter fun e => p e.1 e.2) = (lookup k entries).filter (p k) := by
  induction entries with
  | nil => rfl
  | cons head rest ih =>
    obtain ⟨a,w⟩ := head
    obtain ⟨fresh,others⟩ := List.nodup_cons.mp distinct
    by_cases same : a = k
    · subst same
      have gone : lookup a rest = none := by
        rw [← Option.not_isSome_iff_eq_none,lookupIsSome]
        exact fresh
      cases kept : p a w <;> simp [lookup,Option.filter_some,kept,ih others,gone]
    · cases kept : p a w <;> simp [lookup,kept,same,ih others]

@[simp] theorem getFilter : (d.filter p).get? k = (d.get? k).filter (p k) := lookupFiltered d.distinct

theorem filterErase : (d.erase k).filter p = (d.filter p).erase k :=
  sameEntries (by simp only [filter,erase,List.filter_filter,Bool.and_comm])

theorem eraseAbsent (absent : d.get? k = none) : d.erase k = d := by
  refine sameEntries (List.filter_eq_self.mpr fun e mem => ?_)
  have other : e.1 ≠ k := by
    rintro rfl
    obtain ⟨v,found⟩ := memKeys.mp (List.mem_map_of_mem mem : e.1 ∈ d.keys)
    exact nomatch absent.symm.trans found
  simp [other]

theorem assignFiltered {entries : List (κ × ν)} (same : ∀ w, lookup k entries = some w → p k w = p k v) :
    (assign k v entries).filter (fun e => p e.1 e.2) =
      if p k v then assign k v (entries.filter fun e => p e.1 e.2) else entries.filter fun e => p e.1 e.2 := by
  induction entries with
  | nil => cases kept : p k v <;> simp [assign,kept]
  | cons head rest ih =>
    obtain ⟨a,w⟩ := head
    by_cases here : a = k
    · subst here
      have kept : p a w = p a v := same w (by simp [lookup])
      cases there : p a v <;> simp [assign,kept,there]
    · have later := ih fun w found => same w (by simpa [lookup,here] using found)
      cases kept : p a w <;> cases there : p k v <;> simp [assign,here,kept,there,later]

theorem filterSet (same : ∀ w, d.get? k = some w → p k w = p k v) :
    (d.set k v).filter p = if p k v then (d.filter p).set k v else d.filter p := by
  refine sameEntries ((assignFiltered same).trans ?_)
  cases p k v <;> rfl

theorem getMember {e : κ × ν} (mem : e ∈ d.entries) : d.get? e.1 = some e.2 := by
  obtain ⟨entries,distinct⟩ := d
  change lookup e.1 entries = some e.2
  induction entries with
  | nil => exact absurd mem List.not_mem_nil
  | cons head rest ih =>
    obtain ⟨fresh,others⟩ := List.nodup_cons.mp distinct
    rcases List.mem_cons.mp mem with rfl | later
    · simp [lookup]
    · have other : head.1 ≠ e.1 := fun same => fresh (same ▸ List.mem_map_of_mem later)
      simp only [lookup,other,if_false]
      exact ih others later

theorem filterCongr (same : ∀ k v, d.get? k = some v → p k v = q k v) : d.filter p = d.filter q :=
  sameEntries (List.filter_congr fun _ mem => same _ _ (getMember mem))

end Dict

section Runs
variable {σ ι ο : Type} {step : σ → ι → σ} {out : σ → ι → ο} {view : σ → σ} {concerns : ι → Bool} {C : σ → ι → Prop}

def outputs (step : σ → ι → σ) (out : σ → ι → ο) (concerns : ι → Bool) : σ → List ι → List ο
  | _, [] => []
  | s, i :: rest =>
      if concerns i then out s i :: outputs step out concerns (step s i) rest else outputs step out concerns (step s i) rest

theorem purged (shown : ∀ s i, C s i → concerns i = true → step (view s) i = view (step s i) ∧ out (view s) i = out s i)
    (hidden : ∀ s i, C s i → concerns i = false → view (step s i) = view s) {s : σ} {inputs : List ι}
    (holds : Along step C s inputs) :
    view (inputs.foldl step s) = (inputs.filter concerns).foldl step (view s) ∧
    outputs step out concerns s inputs = outputs step out concerns (view s) (inputs.filter concerns) := by
  induction inputs generalizing s with
  | nil => exact ⟨rfl,rfl⟩
  | cons i rest ih =>
    obtain ⟨state,told⟩ := ih holds.2
    cases mine : concerns i with
    | true =>
      obtain ⟨same,answer⟩ := shown s i holds.1 mine
      simp only [List.filter_cons,mine,if_true,List.foldl_cons,outputs,same,answer]
      exact ⟨state,congrArg _ told⟩
    | false =>
      have same := hidden s i holds.1 mine
      rw [same] at state told
      simp only [List.filter_cons,mine,Bool.false_eq_true,if_false,List.foldl_cons,outputs]
      exact ⟨state,told⟩

end Runs
end Library
