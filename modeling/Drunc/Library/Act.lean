import Mathlib

/-! Computations on a state that survives an exception: a run always ends in a
state, whether it returns or raises, and lists what it did to the outside.
Events are output only, so no computation can depend on them. `Leaves` relates
the states at both ends of every run, `Emits` bounds the events of a run from one
state and `Utters` those of every run; a `Silent` computation changes and emits nothing, a `Steady` one always
has the same result and keeps the state. -/
namespace Library

theorem boundOk {ε α β : Type} {x : Except ε α} {f : α → Except ε β} {b : β} :
    (x >>= f) = .ok b ↔ ∃ a, x = .ok a ∧ f a = .ok b := by
  cases x with
  | error e => simp [bind,Except.bind]
  | ok a => simp [bind,Except.bind]

theorem boundError {ε α β : Type} {x : Except ε α} {f : α → Except ε β} {e : ε} :
    (x >>= f) = .error e ↔ x = .error e ∨ ∃ a, x = .ok a ∧ f a = .error e := by
  cases x with
  | error e => simp [bind,Except.bind]
  | ok a => simp [bind,Except.bind]

theorem mappedOk {ε α β : Type} {x : Except ε α} {f : α → β} {b : β} :
    x.map f = .ok b ↔ ∃ a, x = .ok a ∧ f a = b := by
  cases x with
  | error e => simp [Except.map]
  | ok a => simp [Except.map]

structure Outcome (ι ε σ α : Type) where
  result : Except ε α
  state : σ
  events : List ι

def Outcome.after {ι ε σ α : Type} (before : List ι) (o : Outcome ι ε σ α) : Outcome ι ε σ α :=
  { o with events := before ++ o.events }

def Act (ι ε σ α : Type) := σ → Outcome ι ε σ α

namespace Act
variable {ι ε σ τ α β : Type}

def ret (a : α) : Act ι ε σ α := fun s => ⟨.ok a,s,[]⟩

def seq (x : Act ι ε σ α) (f : α → Act ι ε σ β) : Act ι ε σ β := fun s =>
  match x s with
  | ⟨.ok a,t,events⟩ => (f a t).after events
  | ⟨.error e,t,events⟩ => ⟨.error e,t,events⟩

instance : Monad (Act ι ε σ) where
  pure := ret
  bind := seq

def raise (e : ε) : Act ι ε σ α := fun s => ⟨.error e,s,[]⟩
def read : Act ι ε σ σ := fun s => ⟨.ok s,s,[]⟩
def update (f : σ → σ) : Act ι ε σ Unit := fun s => ⟨.ok (),f s,[]⟩
def emit (i : ι) : Act ι ε σ Unit := fun s => ⟨.ok (),s,[i]⟩
def lift (x : Except ε α) : Act ι ε σ α := fun s => ⟨x,s,[]⟩

def attempt (x : Act ι ε σ α) : Act ι ε σ (Except ε α) := fun s =>
  ⟨.ok (x s).result,(x s).state,(x s).events⟩

def zoom (get : σ → τ) (put : σ → τ → σ) (x : Act ι ε τ α) : Act ι ε σ α := fun s =>
  ⟨(x (get s)).result,put s (x (get s)).state,(x (get s)).events⟩

def each (f : α → Act ι ε σ β) : List α → Act ι ε σ (List β)
  | [] => ret []
  | a :: rest => seq (f a) fun b => seq (each f rest) fun bs => ret (b :: bs)

@[simp] theorem pureRun (a : α) (s : σ) : (pure a : Act ι ε σ α) s = ⟨.ok a,s,[]⟩ := rfl
@[simp] theorem raiseRun (e : ε) (s : σ) : (raise e : Act ι ε σ α) s = ⟨.error e,s,[]⟩ := rfl
@[simp] theorem readRun (s : σ) : (read : Act ι ε σ σ) s = ⟨.ok s,s,[]⟩ := rfl
@[simp] theorem updateRun (f : σ → σ) (s : σ) : (update f : Act ι ε σ Unit) s = ⟨.ok (),f s,[]⟩ := rfl
@[simp] theorem emitRun (i : ι) (s : σ) : (emit i : Act ι ε σ Unit) s = ⟨.ok (),s,[i]⟩ := rfl
@[simp] theorem liftRun (x : Except ε α) (s : σ) : (lift x : Act ι ε σ α) s = ⟨x,s,[]⟩ := rfl
@[simp] theorem attemptRun (x : Act ι ε σ α) (s : σ) :
    attempt x s = ⟨.ok (x s).result,(x s).state,(x s).events⟩ := rfl
@[simp] theorem zoomRun (get : σ → τ) (put : σ → τ → σ) (x : Act ι ε τ α) (s : σ) :
    zoom get put x s = ⟨(x (get s)).result,put s (x (get s)).state,(x (get s)).events⟩ := rfl

@[simp] theorem afterResult (before : List ι) (o : Outcome ι ε σ α) : (o.after before).result = o.result := rfl
@[simp] theorem afterState (before : List ι) (o : Outcome ι ε σ α) : (o.after before).state = o.state := rfl
@[simp] theorem afterEvents (before : List ι) (o : Outcome ι ε σ α) :
    (o.after before).events = before ++ o.events := rfl

theorem bindOk {x : Act ι ε σ α} {f : α → Act ι ε σ β} {s : σ} {a : α} (h : (x s).result = .ok a) :
    (x >>= f) s = (f a (x s).state).after (x s).events := by
  change seq x f s = _
  unfold seq
  cases hx : x s with
  | mk result state events =>
    simp only [hx] at h
    subst h
    rfl

theorem bindError {x : Act ι ε σ α} {f : α → Act ι ε σ β} {s : σ} {e : ε} (h : (x s).result = .error e) :
    (x >>= f) s = ⟨.error e,(x s).state,(x s).events⟩ := by
  change seq x f s = _
  unfold seq
  cases hx : x s with
  | mk result state events =>
    simp only [hx] at h
    subst h
    rfl

@[simp] theorem afterNil (o : Outcome ι ε σ α) : o.after [] = o := rfl
theorem readBind (f : σ → Act ι ε σ β) (s : σ) : ((read : Act ι ε σ σ) >>= f) s = f s s := rfl
theorem liftOkBind (a : α) (f : α → Act ι ε σ β) (s : σ) :
    ((lift (.ok a) : Act ι ε σ α) >>= f) s = f a s := rfl
theorem emitBind (i : ι) (f : Unit → Act ι ε σ β) (s : σ) :
    ((emit i : Act ι ε σ Unit) >>= f) s = (f () s).after [i] := rfl
theorem updateBind (g : σ → σ) (f : Unit → Act ι ε σ β) (s : σ) :
    ((update g : Act ι ε σ Unit) >>= f) s = f () (g s) := rfl

theorem bindCases (x : Act ι ε σ α) (f : α → Act ι ε σ β) (s : σ) :
    (∃ e, (x s).result = .error e ∧ (x >>= f) s = ⟨.error e,(x s).state,(x s).events⟩) ∨
    (∃ a, (x s).result = .ok a ∧ (x >>= f) s = (f a (x s).state).after (x s).events) := by
  cases h : (x s).result with
  | error e => exact .inl ⟨e,rfl,bindError h⟩
  | ok a => exact .inr ⟨a,rfl,bindOk h⟩

theorem bindReturned {x : Act ι ε σ α} {f : α → Act ι ε σ β} {s : σ} {b : β} (returned : ((x >>= f) s).result = .ok b) :
    ∃ a, (x s).result = .ok a ∧ (f a (x s).state).result = .ok b := by
  rcases bindCases x f s with ⟨e,_,run⟩ | ⟨a,first,run⟩
  · rw [run] at returned
    contradiction
  · rw [run] at returned
    exact ⟨a,first,returned⟩

def Returns (P : σ → Prop) (x : Act ι ε σ α) : Prop := ∀ s a, (x s).result = .ok a → P (x s).state

theorem returnsBind {P : σ → Prop} {x : Act ι ε σ α} {f : α → Act ι ε σ β} (rest : ∀ a, Returns P (f a)) : Returns P (x >>= f) := by
  intro s b returned
  rcases bindCases x f s with ⟨e,_,run⟩ | ⟨a,_,run⟩
  · rw [run] at returned
    contradiction
  · rw [run] at returned ⊢
    exact rest a _ b returned

def Leaves (R : σ → σ → Prop) (x : Act ι ε σ α) : Prop := ∀ s, R s (x s).state

def Emits (p : ι → Prop) (x : Act ι ε σ α) (s : σ) : Prop := ∀ i ∈ (x s).events, p i

section Leaves
variable {R : σ → σ → Prop}

theorem leavesPure (refl : ∀ s, R s s) (a : α) : Leaves R (pure a : Act ι ε σ α) := fun s => refl s
theorem leavesRaise (refl : ∀ s, R s s) (e : ε) : Leaves R (raise e : Act ι ε σ α) := fun s => refl s
theorem leavesRead (refl : ∀ s, R s s) : Leaves R (read : Act ι ε σ σ) := fun s => refl s
theorem leavesEmit (refl : ∀ s, R s s) (i : ι) : Leaves R (emit i : Act ι ε σ Unit) := fun s => refl s
theorem leavesLift (refl : ∀ s, R s s) (r : Except ε α) : Leaves R (lift r : Act ι ε σ α) := fun s => refl s

theorem leavesSeq {S Q : σ → σ → Prop} (cut : ∀ {s t}, R s t → Q s t) (comp : ∀ {s t u}, R s t → S t u → Q s u)
    {x : Act ι ε σ α} {f : α → Act ι ε σ β} (first : Leaves R x) (rest : ∀ a, Leaves S (f a)) :
    Leaves Q (x >>= f) := by
  intro s
  rcases bindCases x f s with ⟨e,_,run⟩ | ⟨a,_,run⟩
  · rw [run]; exact cut (first s)
  · rw [run]; exact comp (first s) (rest a _)

theorem leavesBind (trans : ∀ s t u, R s t → R t u → R s u) {x : Act ι ε σ α} {f : α → Act ι ε σ β}
    (first : Leaves R x) (rest : ∀ a, Leaves R (f a)) : Leaves R (x >>= f) :=
  leavesSeq (fun h => h) (fun {s t u} => trans s t u) first rest

theorem leavesMono {S : σ → σ → Prop} {x : Act ι ε σ α} (sub : ∀ s t, R s t → S s t) (h : Leaves R x) :
    Leaves S x := fun s => sub _ _ (h s)

theorem leavesAttempt {x : Act ι ε σ α} (h : Leaves R x) : Leaves R (attempt x) := h

theorem leavesZoom {τ : Type} {S : τ → τ → Prop} {get : σ → τ} {put : σ → τ → σ} {x : Act ι ε τ α}
    (sub : ∀ s t, S (get s) t → R s (put s t)) (h : Leaves S x) : Leaves R (zoom get put x) := fun s => sub s _ (h (get s))
end Leaves

section Emits
variable {p : ι → Prop} {s : σ}

theorem emitsPure (a : α) : Emits p (pure a : Act ι ε σ α) s := by intro i mem; simp at mem
theorem emitsLift (r : Except ε α) : Emits p (lift r : Act ι ε σ α) s := by intro i mem; simp at mem
theorem emitsUpdate (f : σ → σ) : Emits p (update f : Act ι ε σ Unit) s := by intro i mem; simp at mem
theorem emitsEmit {i : ι} (h : p i) : Emits p (emit i : Act ι ε σ Unit) s := by
  intro j mem
  simp only [emitRun,List.mem_singleton] at mem
  exact mem ▸ h

theorem emitsBind {x : Act ι ε σ α} {f : α → Act ι ε σ β} (first : Emits p x s)
    (rest : ∀ a, (x s).result = .ok a → Emits p (f a) (x s).state) : Emits p (x >>= f) s := by
  intro i mem
  rcases bindCases x f s with ⟨e,_,run⟩ | ⟨a,returned,run⟩
  · rw [run] at mem; exact first i mem
  · rw [run] at mem
    simp only [afterEvents,List.mem_append] at mem
    rcases mem with mem | mem
    · exact first i mem
    · exact rest a returned i mem

theorem emitsRead {f : σ → Act ι ε σ β} (rest : Emits p (f s) s) : Emits p ((read : Act ι ε σ σ) >>= f) s := rest
end Emits

section Each
variable {R : σ → σ → Prop} {p : ι → Prop} {f : α → Act ι ε σ β}

theorem eachError {a : α} {rest : List α} {s t : σ} {e : ε} {events : List ι} (failed : f a s = ⟨.error e,t,events⟩) :
    each f (a :: rest) s = ⟨.error e,t,events⟩ := by
  refine (bindError (e := e) (by rw [failed])).trans ?_
  rw [failed]

theorem eachOk {a : α} {b : β} {rest : List α} {s t : σ} {events : List ι} (ran : f a s = ⟨.ok b,t,events⟩) :
    each f (a :: rest) s = ((each f rest >>= fun bs => pure (b :: bs)) t).after events := by
  refine (bindOk (a := b) (by rw [ran])).trans ?_
  rw [ran]
  rfl

theorem eachReturned {xs : List α} {bs : List β} {s : σ} (same : ∀ a, Leaves (fun s t => t = s) (f a))
    (returned : (each f xs s).result = .ok bs) : List.Forall₂ (fun a b => (f a s).result = .ok b) xs bs := by
  induction xs generalizing bs with
  | nil =>
    cases returned
    exact .nil
  | cons a rest ih =>
    obtain ⟨b,first,returned⟩ := bindReturned returned
    rw [same a s] at returned
    obtain ⟨later,others,returned⟩ := bindReturned returned
    cases returned
    exact .cons first (ih others)

theorem eachFolds {P : α → Prop} {g : σ → α → σ} (one : ∀ a s b, (f a s).result = .ok b → P a ∧ (f a s).state = g s a)
    {xs : List α} {bs : List β} {s : σ} (returned : (each f xs s).result = .ok bs) :
    (∀ a ∈ xs, P a) ∧ (each f xs s).state = xs.foldl g s := by
  induction xs generalizing bs s with
  | nil => exact ⟨fun _ mem => absurd mem List.not_mem_nil,rfl⟩
  | cons a rest ih =>
    obtain ⟨b,first,later⟩ := bindReturned returned
    obtain ⟨bs,others,_⟩ := bindReturned later
    obtain ⟨here,moved⟩ := one a s b first
    obtain ⟨each,ended⟩ := ih others
    refine ⟨List.forall_mem_cons.mpr ⟨here,each⟩,?_⟩
    change (((f a) >>= fun b => Act.each f rest >>= fun bs => pure (b :: bs)) s).state = _
    rw [bindOk first,afterState,bindOk others,afterState,pureRun,ended,moved]
    rfl

theorem leavesEach (refl : ∀ s, R s s) (trans : ∀ s t u, R s t → R t u → R s u) {xs : List α}
    (one : ∀ a ∈ xs, Leaves R (f a)) : Leaves R (each f xs) := by
  induction xs with
  | nil => exact leavesPure refl []
  | cons a rest ih =>
    refine leavesBind trans (one a List.mem_cons_self) fun b => ?_
    exact leavesBind trans (ih fun c mem => one c (List.mem_cons_of_mem _ mem)) fun bs => leavesPure refl _

theorem emitsEach {ready : α → σ → Prop} (one : ∀ a s, ready a s → Emits p (f a) s)
    (keeps : ∀ a b s, a ≠ b → ready b s → ready b (f a s).state) {xs : List α} (nodup : xs.Nodup) {s : σ}
    (start : ∀ a ∈ xs, ready a s) : Emits p (each f xs) s := by
  induction xs generalizing s with
  | nil => exact emitsPure []
  | cons a rest ih =>
    obtain ⟨fresh,nodup⟩ := List.nodup_cons.mp nodup
    refine emitsBind (one a s (start a List.mem_cons_self)) fun b _ => ?_
    refine emitsBind (ih nodup fun c mem => ?_) fun bs _ => emitsPure _
    exact keeps a c s (fun same => fresh (same ▸ mem)) (start c (List.mem_cons_of_mem _ mem))
end Each

def Utters (p : ι → Prop) (x : Act ι ε σ α) : Prop := ∀ s, Emits p x s

section Utters
variable {p : ι → Prop}

theorem uttersBind {x : Act ι ε σ α} {f : α → Act ι ε σ β} (first : Utters p x) (rest : ∀ a, Utters p (f a)) :
    Utters p (x >>= f) := fun s => emitsBind (first s) fun a _ => rest a _

theorem uttersZoom {get : σ → τ} {put : σ → τ → σ} {x : Act ι ε τ α} (inner : Utters p x) : Utters p (zoom get put x) :=
  fun s => inner (get s)

theorem uttersEach {f : α → Act ι ε σ β} (one : ∀ a, Utters p (f a)) (xs : List α) : Utters p (each f xs) := by
  induction xs with
  | nil => exact fun _ => emitsPure []
  | cons a rest ih => exact uttersBind (one a) fun b => uttersBind ih fun bs _ => emitsPure _
end Utters

def Silent (x : Act ι ε σ α) : Prop := ∀ s, (x s).state = s ∧ (x s).events = []

section Silent
theorem silentPure (a : α) : Silent (pure a : Act ι ε σ α) := fun _ => ⟨rfl,rfl⟩
theorem silentRaise (e : ε) : Silent (raise e : Act ι ε σ α) := fun _ => ⟨rfl,rfl⟩
theorem silentLift (r : Except ε α) : Silent (lift r : Act ι ε σ α) := fun _ => ⟨rfl,rfl⟩
theorem silentRead : Silent (read : Act ι ε σ σ) := fun _ => ⟨rfl,rfl⟩

theorem silentBind {x : Act ι ε σ α} {f : α → Act ι ε σ β} (first : Silent x) (rest : ∀ a, Silent (f a)) :
    Silent (x >>= f) := by
  intro s
  rcases bindCases x f s with ⟨e,_,run⟩ | ⟨a,_,run⟩
  · rw [run]; exact first s
  · rw [run,(first s).1]
    exact ⟨(rest a s).1,by simp [(first s).2,(rest a s).2]⟩

theorem silentLeaves {R : σ → σ → Prop} (refl : ∀ s, R s s) {x : Act ι ε σ α} (silent : Silent x) : Leaves R x :=
  fun s => by rw [(silent s).1]; exact refl s

theorem silentUtters {p : ι → Prop} {x : Act ι ε σ α} (silent : Silent x) : Utters p x := fun s i mem => by
  rw [(silent s).2] at mem
  contradiction

theorem silentEmits {p : ι → Prop} {x : Act ι ε σ α} {s : σ} (silent : Silent x) : Emits p x s := silentUtters silent s
end Silent

def Steady (r : Except ε α) (x : Act ι ε σ α) : Prop := ∀ s, (x s).result = r ∧ (x s).state = s

section Steady
theorem steadyPure (a : α) : Steady (.ok a) (pure a : Act ι ε σ α) := fun _ => ⟨rfl,rfl⟩
theorem steadyRaise (e : ε) : Steady (.error e) (raise e : Act ι ε σ α) := fun _ => ⟨rfl,rfl⟩
theorem steadyLift (r : Except ε α) : Steady r (lift r : Act ι ε σ α) := fun _ => ⟨rfl,rfl⟩
theorem steadyEmit (i : ι) : Steady (.ok ()) (emit i : Act ι ε σ Unit) := fun _ => ⟨rfl,rfl⟩

theorem steadyBind {x : Act ι ε σ α} {f : α → Act ι ε σ β} {r : Except ε α} {g : α → Except ε β}
    (first : Steady r x) (rest : ∀ a, Steady (g a) (f a)) : Steady (r >>= g) (x >>= f) := by
  intro s
  obtain ⟨result,state⟩ := first s
  cases r with
  | error e => rw [bindError result]; exact ⟨rfl,state⟩
  | ok a => rw [bindOk result,state]; exact rest a s
end Steady

end Act
end Library
