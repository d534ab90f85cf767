import Mathlib

/-! A queue that one worker serves, first in, first out, until an item ends it. Items are
posted and served in any order of turns; a turn without an item to serve, or after the
end, does nothing. What is left once everything was served, or the worker ended, does not
depend on the order of the turns (`settled`): the items up to the first that is not
accepted have been worked on, and no others (`consumeAccepted`). -/
namespace Library

structure Worker (σ α : Type) where
  queue : List α
  state : σ
  running : Bool

inductive Turn (α : Type) where
  | post (item : α)
  | serve

namespace Worker
variable {σ α : Type} {work : σ → α → σ × Bool} {s : σ}

def idle (s : σ) : Worker σ α := ⟨[],s,true⟩

def turn (work : σ → α → σ × Bool) (w : Worker σ α) : Turn α → Worker σ α
  | .post item => { w with queue := w.queue ++ [item] }
  | .serve => match w.running, w.queue with
    | true, item :: rest => ⟨rest,(work w.state item).1,(work w.state item).2⟩
    | _, _ => w

def run (work : σ → α → σ × Bool) (s : σ) (turns : List (Turn α)) : Worker σ α := turns.foldl (turn work) (idle s)

def posted (turns : List (Turn α)) : List α :=
  turns.filterMap fun
    | .post item => some item
    | .serve => none

def consume (work : σ → α → σ × Bool) (now : σ × Bool) (item : α) : σ × Bool :=
  if now.2 then work now.1 item else now

def Served (work : σ → α → σ × Bool) (s : σ) (items : List α) (w : Worker σ α) : Prop :=
  ∃ served, items = served ++ w.queue ∧ (w.state,w.running) = served.foldl (consume work) (s,true)

theorem consumeEnded (items : List α) (s : σ) : items.foldl (consume work) (s,false) = (s,false) := by
  induction items with
  | nil => rfl
  | cons item rest ih => simpa [consume] using ih

theorem servedTurn {items : List α} {w : Worker σ α} (served : Served work s items w) (t : Turn α) :
    Served work s (items ++ posted [t]) (w.turn work t) := by
  obtain ⟨done,split,state⟩ := served
  cases t with
  | post item => exact ⟨done,by simp [split,turn,posted],state⟩
  | serve =>
    have same : items ++ posted [Turn.serve] = items := List.append_nil items
    rw [same]
    obtain ⟨queue,now,running⟩ := w
    cases running with
    | false => exact ⟨done,split,state⟩
    | true =>
      cases queue with
      | nil => exact ⟨done,split,state⟩
      | cons item rest =>
        refine ⟨done ++ [item],by simpa [turn] using split,?_⟩
        rw [List.foldl_append,← state]
        simp [turn,consume]

theorem servedTurns (turns : List (Turn α)) {items : List α} {w : Worker σ α} (served : Served work s items w) :
    Served work s (items ++ posted turns) (turns.foldl (turn work) w) := by
  induction turns generalizing items w with
  | nil => simpa [posted] using served
  | cons t rest ih =>
    have next := ih (servedTurn served t)
    rw [List.append_assoc] at next
    have joined : posted [t] ++ posted rest = posted (t :: rest) := by
      unfold posted
      rw [← List.filterMap_append]
      rfl
    rwa [joined] at next

theorem exhausts (work : σ → α → σ × Bool) (n : Nat) (w : Worker σ α) (enough : w.queue.length ≤ n) :
    ((List.replicate n Turn.serve).foldl (turn work) w).running = false ∨
    ((List.replicate n Turn.serve).foldl (turn work) w).queue = [] := by
  induction n generalizing w with
  | zero => exact .inr (List.length_eq_zero_iff.mp (Nat.le_zero.mp enough))
  | succ n ih =>
    rw [List.replicate_succ,List.foldl_cons]
    obtain ⟨queue,now,running⟩ := w
    cases running with
    | false =>
      have still : ∀ m, ((List.replicate m Turn.serve).foldl (turn work) ⟨queue,now,false⟩).running = false := by
        intro m
        induction m with
        | zero => rfl
        | succ m ih => exact ih
      exact .inl (still n)
    | true =>
      cases queue with
      | nil => exact ih ⟨[],now,true⟩ (Nat.zero_le n)
      | cons item rest => exact ih _ (by simpa [turn] using enough)

theorem settled (turns : List (Turn α)) {n : Nat} (enough : (posted turns).length ≤ n) :
    ((run work s (turns ++ List.replicate n Turn.serve)).state,
      (run work s (turns ++ List.replicate n Turn.serve)).running) =
      (posted turns).foldl (consume work) (s,true) := by
  have started : Served work s [] (idle s) := ⟨[],rfl,rfl⟩
  have before := servedTurns turns started
  have after := servedTurns (List.replicate n .serve) before
  have quiet : posted (List.replicate n (Turn.serve : Turn α)) = [] := by simp [posted]
  unfold run
  rw [List.nil_append] at before after
  rw [quiet,List.append_nil,← List.foldl_append] at after
  have few : (turns.foldl (turn work) (idle s)).queue.length ≤ n := by
    obtain ⟨done,split,_⟩ := before
    have total := congrArg List.length split
    rw [List.length_append] at total
    omega
  have last := exhausts work n _ few
  rw [← List.foldl_append] at last
  obtain ⟨done,split,state⟩ := after
  rcases last with ended | empty
  · rw [split,List.foldl_append (f := consume work),← state,ended,consumeEnded]
  · rw [split,empty,List.append_nil,state]

theorem consumeAccepted {I : σ → Prop} {accepts : α → Bool} {next : σ → α → σ}
    (goes : ∀ s item, I s → accepts item = true → work s item = (next s item,true) ∧ I (next s item))
    (ends : ∀ s item, I s → accepts item = false → work s item = (s,false)) (start : I s) (items : List α) :
    items.foldl (consume work) (s,true) = ((items.takeWhile accepts).foldl next s,items.all accepts) := by
  induction items generalizing s with
  | nil => rfl
  | cons item rest ih =>
    cases accepted : accepts item with
    | true =>
      obtain ⟨works,still⟩ := goes s item start accepted
      rw [List.foldl_cons,consume,if_pos rfl,works,ih still]
      simp [accepted]
    | false =>
      rw [List.foldl_cons,consume,if_pos rfl,ends s item start accepted,consumeEnded]
      simp [accepted]

theorem acceptedFirst {accepts : α → Bool} (items : List α) :
    (items.Pairwise fun earlier later => accepts later = true → accepts earlier = true) ↔
      ∀ item ∈ items.dropWhile accepts, accepts item = false := by
  induction items with
  | nil => simp
  | cons item rest ih =>
    rw [List.pairwise_cons]
    cases accepted : accepts item with
    | true => simpa [accepted] using ih
    | false =>
      have alike : (∀ later ∈ rest, accepts later = true → false = true) ↔ ∀ later ∈ rest, accepts later = false := by
        simp
      rw [alike,List.dropWhile_cons_of_neg (by simp [accepted])]
      constructor
      · rintro ⟨none,_⟩ later mem
        rcases List.mem_cons.mp mem with rfl | mem
        · exact accepted
        · exact none later mem
      · intro none
        refine ⟨fun later mem => none later (List.mem_cons_of_mem _ mem),List.pairwise_of_forall_mem_list ?_⟩
        intro earlier _ later mem accepted
        exact absurd accepted (by simp [none later (List.mem_cons_of_mem _ mem)])

end Worker
end Library
