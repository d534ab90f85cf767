import Drunc.Library.Act

/-! Computations that can be cut short at known points. From a given state, such
a computation is described by its checkpoints in order, each with the exception
that may cut it there and the state that is then kept, and by what it returns and
leaves when it passes all of them. `PassesAs` says the same of a computation whose
states are all seen through a view. -/
namespace Library

def failure {ε α : Type} : Except ε α → Option ε
  | .error e => some e
  | .ok _ => none

def value {ε α : Type} [Inhabited α] : Except ε α → α
  | .error _ => default
  | .ok a => a

def firstCut {ε σ : Type} : List (Option ε × σ) → Option (ε × σ)
  | [] => none
  | (some e,kept) :: _ => some (e,kept)
  | (none,_) :: rest => firstCut rest

section FirstCut
variable {ε σ τ : Type}

theorem firstCutAppend (xs ys : List (Option ε × σ)) :
    firstCut (xs ++ ys) = (firstCut xs).or (firstCut ys) := by
  induction xs with
  | nil => simp [firstCut]
  | cons x rest ih =>
    obtain ⟨cut,kept⟩ := x
    cases cut with
    | none => simpa [firstCut] using ih
    | some e => simp [firstCut]

theorem firstCutMap (f : σ → τ) (xs : List (Option ε × σ)) :
    firstCut (xs.map (Prod.map id f)) = (firstCut xs).map (Prod.map id f) := by
  induction xs with
  | nil => rfl
  | cons x rest ih =>
    obtain ⟨cut,kept⟩ := x
    cases cut with
    | none => simpa [firstCut] using ih
    | some e => rfl

theorem firstCutMem {xs : List (Option ε × σ)} {e : ε} {kept : σ} (h : firstCut xs = some (e,kept)) :
    (some e,kept) ∈ xs := by
  induction xs with
  | nil => contradiction
  | cons x rest ih =>
    obtain ⟨cut,here⟩ := x
    cases cut with
    | none => exact List.mem_cons_of_mem _ (ih h)
    | some e' =>
      simp only [firstCut,Option.some.injEq,Prod.mk.injEq] at h
      rw [h.1,h.2]
      exact List.mem_cons_self

theorem firstCutNone {xs : List (Option ε × σ)} : firstCut xs = none ↔ ∀ x ∈ xs, x.1 = none := by
  induction xs with
  | nil => simp [firstCut]
  | cons x rest ih =>
    obtain ⟨cut,kept⟩ := x
    cases cut with
    | none => simp [firstCut,ih]
    | some e => simp [firstCut]
end FirstCut

namespace Act
variable {ι ε σ τ α β : Type}

def Passes (x : Act ι ε σ α) (s : σ) (checks : List (Option ε × σ)) (a : α) (t : σ) : Prop :=
  match firstCut checks with
  | some (e,kept) => (x s).result = .error e ∧ (x s).state = kept
  | none => (x s).result = .ok a ∧ (x s).state = t

section Passes
variable {x : Act ι ε σ α} {f : α → Act ι ε σ β} {s t u : σ} {checks later : List (Option ε × σ)} {a : α} {b : β}

theorem passesCut {e : ε} {kept : σ} (h : Passes x s checks a t) (cut : firstCut checks = some (e,kept)) :
    (x s).result = .error e ∧ (x s).state = kept := by
  simpa only [Passes,cut] using h

theorem passesThrough (h : Passes x s checks a t) (uncut : firstCut checks = none) :
    (x s).result = .ok a ∧ (x s).state = t := by
  simpa only [Passes,uncut] using h

theorem passesEnds (h : Passes x s checks a t) :
    (∃ e kept, firstCut checks = some (e,kept) ∧ (x s).result = .error e ∧ (x s).state = kept) ∨
    (firstCut checks = none ∧ (x s).result = .ok a ∧ (x s).state = t) := by
  cases cut : firstCut checks with
  | none => exact .inr ⟨rfl,passesThrough h cut⟩
  | some pair => exact .inl ⟨pair.1,pair.2,rfl,passesCut h cut⟩

theorem passesState {P : σ → Prop} (h : Passes x s checks a t) (stops : ∀ c ∈ checks, P c.2) (last : P t) :
    P (x s).state := by
  rcases passesEnds h with ⟨e,kept,cut,_,state⟩ | ⟨_,_,state⟩
  · exact state ▸ stops _ (firstCutMem cut)
  · exact state ▸ last

theorem passesPure : Passes (pure a : Act ι ε σ α) s [] a s := ⟨rfl,rfl⟩

theorem passesUpdate {g : σ → σ} : Passes (update g : Act ι ε σ Unit) s [] () (g s) := ⟨rfl,rfl⟩

theorem passesSteady [Inhabited α] {r : Except ε α} (result : (x s).result = r) (state : (x s).state = s) :
    Passes x s [(failure r,s)] (value r) s := by
  cases r with
  | error e => exact ⟨result,state⟩
  | ok a => exact ⟨result,state⟩

theorem passesLift [Inhabited α] (r : Except ε α) : Passes (lift r : Act ι ε σ α) s [(failure r,s)] (value r) s :=
  passesSteady rfl rfl

theorem passesRead {f : σ → Act ι ε σ β} (h : Passes (f s) s checks b t) :
    Passes ((read : Act ι ε σ σ) >>= f) s checks b t := h

theorem passesBind {all : List (Option ε × σ)} (first : Passes x s checks a t) (split : all = checks ++ later)
    (rest : Passes (f a) t later b u) : Passes (x >>= f) s all b u := by
  subst split
  unfold Passes
  rw [firstCutAppend]
  rcases passesEnds first with ⟨e,kept,cut,result,state⟩ | ⟨uncut,result,state⟩
  · rw [cut,bindError result]
    exact ⟨rfl,state⟩
  · rw [uncut,bindOk result,state]
    exact rest

theorem passesZoom {get : σ → τ} {put : σ → τ → σ} {x : Act ι ε τ α} {checks : List (Option ε × τ)} {t : τ}
    (h : Passes x (get s) checks a t) :
    Passes (zoom get put x) s (checks.map (Prod.map id (put s))) a (put s t) := by
  unfold Passes
  rw [firstCutMap]
  rcases passesEnds h with ⟨e,kept,cut,result,state⟩ | ⟨uncut,result,state⟩
  · rw [cut]; exact ⟨result,congrArg (put s) state⟩
  · rw [uncut]; exact ⟨result,congrArg (put s) state⟩

def PassesAs (g : τ → σ) (x : Act ι ε σ α) (h : τ) (checks : List (Option ε × τ)) (a : α) (k : τ) : Prop :=
  Passes x (g h) (checks.map (Prod.map id g)) a (g k)

section PassesAs
variable {g : τ → σ} {h k l : τ} {checks later all : List (Option ε × τ)}

theorem passesAsPure : PassesAs g (pure a : Act ι ε σ α) h [] a h := passesPure

theorem passesAsLift [Inhabited α] (r : Except ε α) :
    PassesAs g (lift r : Act ι ε σ α) h [(failure r,h)] (value r) h := passesLift r

theorem passesAsRead {f : σ → Act ι ε σ β} (rest : PassesAs g (f (g h)) h checks b k) :
    PassesAs g ((read : Act ι ε σ σ) >>= f) h checks b k := rest

theorem passesAsBind (first : PassesAs g x h checks a k) (split : all = checks ++ later)
    (rest : PassesAs g (f a) k later b l) : PassesAs g (x >>= f) h all b l :=
  passesBind first (by rw [split,List.map_append]) rest

theorem passesAsZoom {ρ υ : Type} {get : σ → υ} {put : σ → υ → σ} {view : ρ → υ} (into : ρ → τ) {x : Act ι ε υ α}
    {i j : ρ} {checks : List (Option ε × ρ)} (part : PassesAs view x i checks a j)
    (got : get (g (into i)) = view i) (puts : ∀ r, put (g (into i)) (view r) = g (into r)) :
    PassesAs g (zoom get put x) (into i) (checks.map (Prod.map id into)) a (into j) := by
  unfold PassesAs Passes at part ⊢
  rw [firstCutMap] at part
  rw [firstCutMap,firstCutMap]
  cases cut : firstCut checks with
  | none =>
    simp only [cut,Option.map_none] at part ⊢
    rw [zoomRun,got]
    exact ⟨part.1,by rw [part.2,puts]⟩
  | some pair =>
    simp only [cut,Option.map_some,Prod.map] at part ⊢
    rw [zoomRun,got]
    exact ⟨part.1,by rw [part.2,puts]⟩
end PassesAs

end Passes
end Act
end Library
