import Mathlib

/-! A pool of threads that share nothing but an append-only log. Each thread is
a deterministic machine; a schedule says whose turn it is. What a thread becomes
depends only on how often it had a turn, and the log of any schedule is, up to
order, what the threads append on their own. `advance` and `emitted` follow one
thread alone; `join` is the end of a schedule in which every thread is waited for,
and `pending` is what the rest of a schedule still lets each thread append. -/
namespace Library.Interleaving
variable {τ ο : Type}

structure Pool (τ ο : Type) where
  threads : List τ
  log : List ο

def turn (next : τ → Option (τ × List ο)) (p : Pool τ ο) (i : Nat) : Pool τ ο :=
  match p.threads[i]? with
  | none => p
  | some t => match next t with
    | none => p
    | some (t',out) => ⟨p.threads.set i t',p.log ++ out⟩

def run (next : τ → Option (τ × List ο)) (schedule : List Nat) (p : Pool τ ο) : Pool τ ο :=
  schedule.foldl (turn next) p

def advance (next : τ → Option (τ × List ο)) : Nat → τ → τ
  | 0,t => t
  | n+1,t => match next t with
    | none => t
    | some (t',_) => advance next n t'

def emitted (next : τ → Option (τ × List ο)) : Nat → τ → List ο
  | 0,_ => []
  | n+1,t => match next t with
    | none => []
    | some (t',out) => out ++ emitted next n t'

def join (bound : Nat) (threads : Nat) : List Nat :=
  (List.range threads).flatMap (List.replicate bound)

theorem turnAt {next : τ → Option (τ × List ο)} {p : Pool τ ο} {i : Nat} {t : τ}
    (found : p.threads[i]? = some t) :
    (turn next p i).threads = p.threads.set i (advance next 1 t) ∧
    (turn next p i).log = p.log ++ emitted next 1 t := by
  have stays : p.threads.set i t = p.threads := by
    obtain ⟨bound,same⟩ := List.getElem?_eq_some_iff.mp found
    rw [← same,List.set_getElem_self bound]
  simp only [turn,found,advance,emitted]
  cases next t with
  | none => simp [stays]
  | some pair => simp

theorem turnOutside {next : τ → Option (τ × List ο)} {p : Pool τ ο} {i : Nat}
    (absent : p.threads[i]? = none) : turn next p i = p := by
  simp only [turn,absent]

theorem advanceOver {next : τ → Option (τ × List ο)} {t : τ} (ended : next t = none) (n : Nat) :
    advance next n t = t ∧ emitted next n t = [] := by
  cases n <;> simp [advance,emitted,ended]

theorem advanceAdd (next : τ → Option (τ × List ο)) (m n : Nat) (t : τ) :
    advance next (m+n) t = advance next n (advance next m t) ∧
    emitted next (m+n) t = emitted next m t ++ emitted next n (advance next m t) := by
  induction m generalizing t with
  | zero => simp [advance,emitted]
  | succ m ih =>
    rw [Nat.succ_add]
    cases h : next t with
    | none => simp [advance,emitted,h,advanceOver h]
    | some pair => simp [advance,emitted,h,ih]

theorem runThreads (next : τ → Option (τ × List ο)) (schedule : List Nat) (p : Pool τ ο) (i : Nat) :
    (run next schedule p).threads[i]? = p.threads[i]?.map (advance next (schedule.count i)) := by
  induction schedule generalizing p with
  | nil => simp [run,advance]
  | cons j rest ih =>
    have later := ih (turn next p j)
    simp only [run,List.foldl_cons] at later ⊢
    rw [later]
    cases found : p.threads[j]? with
    | none =>
      rw [turnOutside found]
      by_cases same : j = i
      · subst same; simp [found]
      · rw [List.count_cons_of_ne same]
    | some t =>
      rw [(turnAt found).1]
      by_cases same : j = i
      · subst same
        have inside : j < p.threads.length := (List.getElem?_eq_some_iff.mp found).1
        rw [List.count_cons_self,Nat.add_comm,found]
        simp only [List.getElem?_set_self inside,Option.map_some,(advanceAdd next 1 _ t).1]
      · rw [List.getElem?_set_ne same,List.count_cons_of_ne same]

theorem flattenPullOut {xss : List (List ο)} {i : Nat} {head rest : List ο}
    (found : xss[i]? = some (head ++ rest)) : (head ++ (xss.set i rest).flatten).Perm xss.flatten := by
  induction xss generalizing i with
  | nil => simp at found
  | cons xs xss ih =>
    cases i with
    | zero =>
      simp only [List.getElem?_cons_zero,Option.some.injEq] at found
      subst found
      simp
    | succ i =>
      have inner := ih (i := i) (by simpa using found)
      simp only [List.set_cons_succ,List.flatten_cons]
      calc head ++ (xs ++ (xss.set i rest).flatten)
          = (head ++ xs) ++ (xss.set i rest).flatten := (List.append_assoc ..).symm
        List.Perm _ ((xs ++ head) ++ (xss.set i rest).flatten) := List.perm_append_comm.append_right _
        List.Perm _ (xs ++ (head ++ (xss.set i rest).flatten)) := by rw [List.append_assoc]
        List.Perm _ (xs ++ xss.flatten) := inner.append_left _

def pending (next : τ → Option (τ × List ο)) (schedule : List Nat) (threads : List τ) : List (List ο) :=
  threads.mapIdx fun i t => emitted next (schedule.count i) t

theorem pendingOutside {next : τ → Option (τ × List ο)} {threads : List τ} {i : Nat} (absent : threads[i]? = none)
    (rest : List Nat) : pending next (i :: rest) threads = pending next rest threads := by
  apply List.ext_getElem?
  intro j
  simp only [pending,List.getElem?_mapIdx]
  by_cases same : i = j
  · subst same; simp [absent]
  · rw [List.count_cons_of_ne same]

theorem pendingTurn {next : τ → Option (τ × List ο)} {p : Pool τ ο} {i : Nat} {t : τ}
    (found : p.threads[i]? = some t) (rest : List Nat) :
    (emitted next 1 t ++ (pending next rest (turn next p i).threads).flatten).Perm
      (pending next (i :: rest) p.threads).flatten := by
  have inside : i < p.threads.length := (List.getElem?_eq_some_iff.mp found).1
  have own : (pending next (i :: rest) p.threads)[i]? =
      some (emitted next 1 t ++ emitted next (rest.count i) (advance next 1 t)) := by
    simp only [pending,List.getElem?_mapIdx,found,Option.map_some,List.count_cons_self,
      Nat.add_comm _ 1,(advanceAdd next 1 _ t).2]
  have left : (pending next (i :: rest) p.threads).set i (emitted next (rest.count i) (advance next 1 t)) =
      pending next rest (turn next p i).threads := by
    apply List.ext_getElem?
    intro j
    simp only [pending,(turnAt found).1,List.getElem?_set,List.length_mapIdx,List.getElem?_mapIdx]
    by_cases same : i = j
    · subst same; simp [inside]
    · simp [same,List.count_cons_of_ne same]
  exact left ▸ flattenPullOut own

theorem runLog (next : τ → Option (τ × List ο)) (schedule : List Nat) (p : Pool τ ο) :
    (run next schedule p).log.Perm (p.log ++ (pending next schedule p.threads).flatten) := by
  induction schedule generalizing p with
  | nil =>
    have empty : (pending next [] p.threads).flatten = [] := by
      simp [pending,emitted,List.flatten_eq_nil_iff]
    simp [run,empty]
  | cons i rest ih =>
    have later := ih (turn next p i)
    simp only [run,List.foldl_cons] at later ⊢
    cases found : p.threads[i]? with
    | none =>
      rw [turnOutside found] at later ⊢
      rwa [pendingOutside found]
    | some t =>
      rw [(turnAt found).2,List.append_assoc] at later
      exact later.trans ((pendingTurn found rest).append_left _)

theorem joinCount (bound threads i : Nat) (inside : i < threads) : (join bound threads).count i = bound := by
  unfold join
  induction threads with
  | zero => omega
  | succ n ih =>
    rw [List.range_succ,List.flatMap_append,List.count_append]
    by_cases last : i = n
    · subst last
      have none : ((List.range i).flatMap (List.replicate bound)).count i = 0 := by
        rw [List.count_eq_zero]
        intro mem
        obtain ⟨j,less,here⟩ := List.mem_flatMap.mp mem
        have := List.eq_of_mem_replicate here
        have := List.mem_range.mp less
        omega
      simp [none]
    · rw [ih (by omega)]
      simp [List.count_replicate,Ne.symm last]

theorem joinedTurns {next : τ → Option (τ × List ο)} {bound : Nat} {threads : List τ}
    (short : ∀ t ∈ threads, next (advance next bound t) = none) (schedule : List Nat) {i : Nat} {t : τ} (found : threads[i]? = some t) :
    advance next ((schedule ++ join bound threads.length).count i) t = advance next bound t ∧
      emitted next ((schedule ++ join bound threads.length).count i) t = emitted next bound t := by
  obtain ⟨inside,same⟩ := List.getElem?_eq_some_iff.mp found
  have ended := short t (same ▸ List.getElem_mem inside)
  rw [List.count_append,joinCount bound _ i inside,Nat.add_comm _ bound,(advanceAdd next bound _ t).1,(advanceAdd next bound _ t).2,
    (advanceOver ended _).1,(advanceOver ended _).2,List.append_nil]
  exact ⟨rfl,rfl⟩

theorem joinedThreads {next : τ → Option (τ × List ο)} {bound : Nat} {threads : List τ}
    (short : ∀ t ∈ threads, next (advance next bound t) = none) (schedule : List Nat) (log : List ο) :
    (run next (schedule ++ join bound threads.length) ⟨threads,log⟩).threads = threads.map (advance next bound) := by
  apply List.ext_getElem?
  intro i
  rw [runThreads,List.getElem?_map]
  cases found : threads[i]? with
  | none => simp
  | some t => simp only [Option.map_some,(joinedTurns short schedule found).1]

theorem joinedLog {next : τ → Option (τ × List ο)} {bound : Nat} {threads : List τ}
    (short : ∀ t ∈ threads, next (advance next bound t) = none) (schedule : List Nat) (log : List ο) :
    (run next (schedule ++ join bound threads.length) ⟨threads,log⟩).log.Perm
      (log ++ threads.flatMap (emitted next bound)) := by
  have total : pending next (schedule ++ join bound threads.length) threads = threads.map (emitted next bound) := by
    apply List.ext_getElem?
    intro i
    simp only [pending,List.getElem?_mapIdx,List.getElem?_map]
    cases found : threads[i]? with
    | none => simp
    | some t => simp only [Option.map_some,(joinedTurns short schedule found).2]
  have perm := runLog next (schedule ++ join bound threads.length) ⟨threads,log⟩
  rwa [total,← List.flatMap_def] at perm

end Library.Interleaving
