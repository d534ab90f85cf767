import Drunc.Library.Interleaving

/-! A pool of threads that share a state. A turn of a thread depends on what the others
have left in the state; which thread has the next turn is up to a schedule. `join` is
the end of a schedule in which every thread is waited for: threads whose number of
turns is bounded (`left`) are over after it. An invariant of a pool that does not care
for the order of the threads needs only what a turn does to one of them (`Turned`). -/
namespace Library.Sharing
open Interleaving (join joinCount)
variable {τ σ : Type}

structure Shared (τ σ : Type) where
  threads : List τ
  state : σ

def turn (next : τ → σ → Option (τ × σ)) (p : Shared τ σ) (i : Nat) : Shared τ σ :=
  match p.threads[i]? with
  | none => p
  | some t => match next t p.state with
    | none => p
    | some (t',s) => ⟨p.threads.set i t',s⟩

def run (next : τ → σ → Option (τ × σ)) (schedule : List Nat) (p : Shared τ σ) : Shared τ σ :=
  schedule.foldl (turn next) p

structure Turned (next : τ → σ → Option (τ × σ)) (p q : Shared τ σ) (before after : τ) (others : List τ) : Prop where
  step : next before p.state = some (after,q.state)
  was : p.threads.Perm (before :: others)
  is : q.threads.Perm (after :: others)

theorem turnMoves {next : τ → σ → Option (τ × σ)} {p : Shared τ σ} {i : Nat} {t t' : τ} {s : σ}
    (found : p.threads[i]? = some t) (step : next t p.state = some (t',s)) : turn next p i = ⟨p.threads.set i t',s⟩ := by
  simp only [turn,found,step]

theorem turnStays {next : τ → σ → Option (τ × σ)} {p : Shared τ σ} {i : Nat}
    (stops : ∀ t, p.threads[i]? = some t → next t p.state = none) : turn next p i = p := by
  unfold turn
  cases found : p.threads[i]? with
  | none => rfl
  | some t => simp only [stops t found]

theorem turnCases (next : τ → σ → Option (τ × σ)) (p : Shared τ σ) (i : Nat) :
    turn next p i = p ∨ ∃ before after others, Turned next p (turn next p i) before after others := by
  cases found : p.threads[i]? with
  | none => exact .inl (turnStays fun t here => by rw [found] at here; contradiction)
  | some t =>
    cases step : next t p.state with
    | none => exact .inl (turnStays fun u here => by rw [← Option.some.inj (found.symm.trans here)]; exact step)
    | some pair =>
      obtain ⟨inside,rfl⟩ := List.getElem?_eq_some_iff.mp found
      rw [turnMoves found step]
      exact .inr ⟨_,pair.1,p.threads.eraseIdx i,step,(List.getElem_cons_eraseIdx_perm inside).symm,
        List.set_perm_cons_eraseIdx inside pair.1⟩

theorem runKeeps {next : τ → σ → Option (τ × σ)} {I : Shared τ σ → Prop}
    (keeps : ∀ p q before after others, I p → Turned next p q before after others → I q) (schedule : List Nat)
    {p : Shared τ σ} (start : I p) : I (run next schedule p) := by
  unfold run
  induction schedule generalizing p with
  | nil => exact start
  | cons i rest ih =>
    refine ih ?_
    rcases turnCases next p i with same | ⟨before,after,others,turned⟩
    · rwa [same]
    · exact keeps p _ before after others start turned

theorem runLength (next : τ → σ → Option (τ × σ)) (schedule : List Nat) (p : Shared τ σ) :
    (run next schedule p).threads.length = p.threads.length :=
  runKeeps (I := fun q => q.threads.length = p.threads.length)
    (fun q r before after others same turned => by
      rw [turned.is.length_eq,← same,turned.was.length_eq]
      rfl) schedule rfl

section Each
variable {next : τ → σ → Option (τ × σ)} {C : τ → σ → Prop}

theorem turnEach (own : ∀ t s t' s', C t s → next t s = some (t',s') → C t' s')
    (stable : ∀ t s t' s' u, next t s = some (t',s') → C u s → C u s') {p q : Shared τ σ} {before after : τ} {others : List τ}
    (holds : ∀ t ∈ p.threads, C t p.state) (turned : Turned next p q before after others) : ∀ t ∈ q.threads, C t q.state := by
  intro t mem
  rcases List.mem_cons.mp (turned.is.mem_iff.mp mem) with rfl | other
  · exact own _ _ _ _ (holds before (turned.was.mem_iff.mpr List.mem_cons_self)) turned.step
  · exact stable _ _ _ _ t turned.step (holds t (turned.was.mem_iff.mpr (List.mem_cons_of_mem before other)))

theorem runEach (own : ∀ t s t' s', C t s → next t s = some (t',s') → C t' s')
    (stable : ∀ t s t' s' u, next t s = some (t',s') → C u s → C u s') (schedule : List Nat) {p : Shared τ σ}
    (start : ∀ t ∈ p.threads, C t p.state) : ∀ t ∈ (run next schedule p).threads, C t (run next schedule p).state :=
  runKeeps (I := fun q => ∀ t ∈ q.threads, C t q.state) (fun _ _ _ _ _ holds turned => turnEach own stable holds turned)
    schedule start

theorem runAccounts {α : Type} (ledger : σ → List α) (part : τ → List α)
    (own : ∀ t s t' s', C t s → next t s = some (t',s') → C t' s')
    (stable : ∀ t s t' s' u, next t s = some (t',s') → C u s → C u s')
    (books : ∀ t s t' s', C t s → next t s = some (t',s') → (ledger s' ++ part t).Perm (ledger s ++ part t'))
    (schedule : List Nat) {p : Shared τ σ} (start : ∀ t ∈ p.threads, C t p.state) (nothing : p.threads.flatMap part = []) :
    (ledger (run next schedule p).state).Perm (ledger p.state ++ (run next schedule p).threads.flatMap part) := by
  refine (runKeeps (I := fun q => (∀ t ∈ q.threads, C t q.state) ∧
    (ledger q.state).Perm (ledger p.state ++ q.threads.flatMap part)) ?_ schedule
    ⟨start,by rw [nothing,List.append_nil]⟩).2
  rintro q r before after others ⟨holds,same⟩ turned
  refine ⟨turnEach own stable holds turned,?_⟩
  have was := turned.was.flatMap_right part
  have now := turned.is.flatMap_right part
  have booked := books _ _ _ _ (holds before (turned.was.mem_iff.mpr List.mem_cons_self)) turned.step
  rw [List.flatMap_cons] at was now
  -- as multisets, where what the thread accounted for before its turn cancels
  rw [← Multiset.coe_eq_coe] at *
  simp only [← Multiset.coe_add] at *
  refine add_right_cancel (booked.trans ?_)
  rw [same,was,now]
  abel

end Each

section Join
variable {next : τ → σ → Option (τ × σ)} {left : τ → Nat}

theorem turnLeft (moves : ∀ t s, 0 < left t → ∃ t' s', next t s = some (t',s') ∧ left t' < left t)
    (stops : ∀ t s, left t = 0 → next t s = none) {p : Shared τ σ} {i j : Nat} {t : τ} (found : p.threads[j]? = some t) :
    ∃ t', (turn next p i).threads[j]? = some t' ∧ left t' ≤ left t - if i = j then 1 else 0 := by
  by_cases same : i = j
  · subst same
    rw [if_pos rfl]
    by_cases spent : left t = 0
    · refine ⟨t,?_,by omega⟩
      rwa [turnStays fun u here => by rw [← Option.some.inj (found.symm.trans here)]; exact stops t p.state spent]
    · obtain ⟨t',s',step,less⟩ := moves t p.state (by omega)
      have inside : i < p.threads.length := (List.getElem?_eq_some_iff.mp found).1
      refine ⟨t',?_,by omega⟩
      rw [turnMoves found step]
      exact List.getElem?_set_self inside
  · rw [if_neg same]
    refine ⟨t,?_,by omega⟩
    unfold turn
    split
    · exact found
    · split
      · exact found
      · exact (List.getElem?_set_ne same).trans found

theorem runLeft (moves : ∀ t s, 0 < left t → ∃ t' s', next t s = some (t',s') ∧ left t' < left t)
    (stops : ∀ t s, left t = 0 → next t s = none) (schedule : List Nat) {p : Shared τ σ} {j : Nat} {t : τ}
    (found : p.threads[j]? = some t) :
    ∃ t', (run next schedule p).threads[j]? = some t' ∧ left t' ≤ left t - schedule.count j := by
  induction schedule generalizing p t with
  | nil => exact ⟨t,found,by simp⟩
  | cons i rest ih =>
    obtain ⟨u,here,less⟩ := turnLeft moves stops (i := i) found
    obtain ⟨v,last,fewer⟩ := ih here
    refine ⟨v,last,?_⟩
    by_cases same : i = j
    · subst same
      rw [List.count_cons_self]
      rw [if_pos rfl] at less
      omega
    · rw [List.count_cons_of_ne same]
      rw [if_neg same] at less
      omega

theorem joinedOver (moves : ∀ t s, 0 < left t → ∃ t' s', next t s = some (t',s') ∧ left t' < left t)
    (stops : ∀ t s, left t = 0 → next t s = none) {bound : Nat} {p : Shared τ σ} (short : ∀ t ∈ p.threads, left t ≤ bound)
    (schedule : List Nat) : ∀ t ∈ (run next (schedule ++ join bound p.threads.length) p).threads, left t = 0 := by
  intro t mem
  obtain ⟨i,inside,rfl⟩ := List.getElem_of_mem mem
  rw [runLength] at inside
  obtain ⟨t',last,less⟩ := runLeft moves stops (schedule ++ join bound p.threads.length) (List.getElem?_eq_getElem inside)
  obtain ⟨_,same⟩ := List.getElem?_eq_some_iff.mp last
  have bounded := short _ (List.getElem_mem inside)
  rw [List.count_append,joinCount bound _ i inside] at less
  rw [same]
  omega

end Join
end Library.Sharing
