import Drunc.StatefulNode

/-! Which transitions a state offers. A source pattern is looked for at the beginning of the
name of the state only; `Spans` adds to `re` where such a match may end, so that a pattern
matches the whole name where one of them ends with it. The functions that
depend on it agree with each other, and with the whole match where no source matches a mere
beginning; one source that is no pattern keeps the node from offering anything. -/
namespace Drunc
open Library (boundOk)
open Library.Act

class Spans extends Re where
  ends : String → String → List Nat
  found : ∀ regex string, (∃ pattern, compile regex = some pattern ∧ pattern.reMatch string = true) ↔ ends regex string ≠ []

def Valid [Re] (regex : String) : Prop := ∃ pattern, Re.compile regex = some pattern

section Executable
variable [Re] {fsm : FSM} {t : Transition} {state : String}

theorem executableIff : t.Executable state ↔ ∃ pattern, Re.compile t.source = some pattern ∧ pattern.reMatch state = true := by
  unfold Transition.Executable canExecuteTransition regexMatch
  cases Re.compile t.source <;> simp

theorem canExecuteCases (t : Transition) (state : String) :
    (∃ can, canExecuteTransition (some state) t = .ok can ∧ (t.Executable state ↔ can = true) ∧ Valid t.source) ∨
    (canExecuteTransition (some state) t = .error (.reError t.source) ∧ ¬ t.Executable state ∧ ¬ Valid t.source) := by
  unfold Valid
  rw [executableIff]
  unfold canExecuteTransition regexMatch
  cases Re.compile t.source with
  | none => exact .inr ⟨rfl,by simp,by simp⟩
  | some pattern => exact .inl ⟨_,rfl,by simp,pattern,rfl⟩

theorem destinationAmongFollows (transitions : List Transition) (same : ∀ u ∈ transitions, u = t) :
    destinationAmong (some state) t transitions =
      if transitions = [] then .ok none
      else (canExecuteTransition (some state) t).map fun can => if can then some (t.target state) else none := by
  induction transitions with
  | nil => rfl
  | cons u rest ih =>
    obtain rfl := same u List.mem_cons_self
    rw [destinationAmong,if_neg (List.cons_ne_nil _ _)]
    cases run : canExecuteTransition (some state) u with
    | error e => rfl
    | ok can =>
      cases can with
      | true =>
        by_cases stays : u.destination = "" <;> simp [stays,Transition.target,bind,Except.bind,Except.map]
      | false =>
        change destinationAmong (some state) u rest = _
        rw [ih fun v mem => same v (List.mem_cons_of_mem _ mem),run]
        split <;> rfl

theorem destinationFollows (mem : t ∈ fsm.transitions) :
    fsm.getDestinationState (some state) t =
      (canExecuteTransition (some state) t).map fun can => if can then some (t.target state) else none := by
  have here : t ∈ fsm.transitions.filter fun u => u.same t := by simp [mem,Transition.same]
  unfold FSM.getDestinationState
  rw [destinationAmongFollows _ fun u inside => ?_,if_neg (List.ne_nil_of_mem here)]
  obtain ⟨listed,same⟩ := List.mem_filter.mp inside
  exact sameTransition mem listed same

def Transition.executable (t : Transition) (state : String) : Bool :=
  match canExecuteTransition (some state) t with
  | .ok can => can
  | .error _ => false

theorem executableTrue : t.executable state = true ↔ t.Executable state := by
  unfold Transition.executable
  rcases canExecuteCases t state with ⟨can,run,executable,_⟩ | ⟨run,not,_⟩
  · rw [run,executable]
  · simp [run,not]

theorem executableAmongIff (transitions offered : List Transition) :
    StatefulNode.executableAmong (some state) transitions = .ok offered ↔
      (∀ t ∈ transitions, Valid t.source) ∧ offered = transitions.filter fun t => t.executable state := by
  induction transitions generalizing offered with
  | nil => simp [StatefulNode.executableAmong,eq_comm]
  | cons t rest ih =>
    unfold StatefulNode.executableAmong
    rw [boundOk,List.forall_mem_cons,List.filter_cons,Transition.executable]
    rcases canExecuteCases t state with ⟨can,run,_,valid⟩ | ⟨run,_,invalid⟩
    · simp only [run,Except.ok.injEq,exists_eq_left',boundOk,ih,valid,true_and]
      constructor
      · rintro ⟨others,⟨all,rfl⟩,rfl⟩
        exact ⟨all,rfl⟩
      · rintro ⟨all,rfl⟩
        exact ⟨_,⟨all,rfl⟩,rfl⟩
    · simp [run,invalid]

end Executable

section Whole
variable [Spans] {fsm : FSM} {state : String}

def fullmatch (regex string : String) : Bool := decide (string.length ∈ Spans.ends regex string)

def MatchesBeginning (regex string : String) : Prop := Spans.ends regex string ≠ [] ∧ fullmatch regex string = false

structure MatchesWhole (fsm : FSM) (state : String) : Prop where
  executable : ∀ t ∈ fsm.transitions, t.Executable state ↔ fullmatch t.source state = true
  leads : ∀ t ∈ fsm.transitions, ∀ destination, fsm.getDestinationState (some state) t = .ok (some destination) ↔
    fullmatch t.source state = true ∧ destination = t.target state
  offered : ∀ n : StatefulNode, n.fsm = fsm → n.operationalState = some state → ∀ t ∈ fsm.transitions,
    (∃ transitions, n.getFsmTransitions = .ok transitions ∧ t ∈ transitions) ↔ fullmatch t.source state = true
  taken : ∀ n : StatefulNode, n.fsm = fsm → n.operationalState = some state → n.Idle → ∀ t ∈ fsm.transitions,
    n.canTransition t = .ok true ↔ fullmatch t.source state = true

theorem executableWhole {t : Transition} (whole : ¬ MatchesBeginning t.source state) :
    t.Executable state ↔ fullmatch t.source state = true := by
  rw [executableIff,Spans.found]
  constructor
  · intro begins
    by_contra part
    exact whole ⟨begins,by simpa using part⟩
  · intro full none
    simp [fullmatch,none] at full

theorem matchesWholeIff (fsm : FSM) (state : String) :
    MatchesWhole fsm state ↔ (∀ t ∈ fsm.transitions, ¬ MatchesBeginning t.source state) ∧
      ((∃ t ∈ fsm.transitions, fullmatch t.source state = true) → ∀ t ∈ fsm.transitions, Valid t.source) := by
  constructor
  · intro whole
    refine ⟨fun t mem ⟨begins,part⟩ => ?_,fun ⟨t,mem,full⟩ => ?_⟩
    · have can : t.Executable state := executableIff.mpr ((Spans.found _ _).mpr begins)
      rw [(whole.executable t mem).mp can] at part
      contradiction
    · obtain ⟨transitions,offered,_⟩ := (whole.offered ⟨fsm,some state,some state,true,false⟩ rfl rfl t mem).mpr full
      exact ((executableAmongIff _ _).mp offered).1
  · rintro ⟨whole,valid⟩
    have executable : ∀ t ∈ fsm.transitions, t.Executable state ↔ fullmatch t.source state = true :=
      fun t mem => executableWhole (whole t mem)
    refine ⟨executable,fun t mem destination => ?_,fun n same here t mem => ?_,fun n _ here idle t mem => ?_⟩
    · rw [← executable t mem,destinationFollows mem]
      rcases canExecuteCases t state with ⟨can,run,iff,_⟩ | ⟨run,not,_⟩
      · cases can <;> simp [run,iff,Except.map,eq_comm]
      · simp [run,not,Except.map]
    · subst same
      unfold StatefulNode.getFsmTransitions
      rw [here]
      constructor
      · rintro ⟨transitions,offered,inside⟩
        rw [((executableAmongIff _ _).mp offered).2,List.mem_filter,executableTrue] at inside
        exact (executable t mem).mp inside.2
      · intro full
        refine ⟨_,(executableAmongIff _ _).mpr ⟨valid ⟨t,mem,full⟩,rfl⟩,List.mem_filter.mpr ⟨mem,?_⟩⟩
        exact executableTrue.mpr ((executable t mem).mpr full)
    · rw [StatefulNode.canTransition,if_neg (not_not_intro idle.symm),here]
      exact executable t mem

end Whole

namespace Sample

@[reducible] def literalSpans : Spans where
  toRe := literal
  ends regex string := match literal.compile regex with
    | some pattern => if pattern.reMatch string then [regex.length] else []
    | none => []
  found regex string := by
    cases literal.compile regex with
    | none => simp
    | some pattern => cases begins : pattern.reMatch string <;> simp [begins]

def start : Transition := ⟨"start","ready","running",[],""⟩
def reset : Transition := ⟨"reset","","initial",[],""⟩

def prefixedConf : FSMConf := ⟨"initial",["initial","ready","ready_x","running"],[start,reset],fun _ => [],fun _ => []⟩

def prefixed : FSM := { prefixedConf with unique := by decide }

end Sample

open Sample in
theorem readyAppliesBeyond :
    @StatefulNode.canTransition literal ⟨prefixed,some "ready_x",some "ready_x",true,false⟩ start = .ok true ∧
    @fullmatch literalSpans "ready" "ready_x" = false ∧ ¬ @MatchesWhole literalSpans prefixed "ready_x" ∧
    (∀ state ∈ prefixed.states, @Transition.Executable literal reset state) ∧
    ¬ @MatchesWhole literalSpans prefixed "initial" := by
  have beyond : @Transition.Executable literal start "ready_x" :=
    show @canExecuteTransition literal (some "ready_x") start = .ok true by decide
  have everywhere : ∀ state ∈ prefixed.states, @Transition.Executable literal reset state :=
    show ∀ state ∈ prefixed.states, @canExecuteTransition literal (some state) reset = .ok true by decide
  refine ⟨by decide,by decide,fun whole => ?_,everywhere,fun whole => ?_⟩
  · have full := ((@MatchesWhole.executable literalSpans _ _ whole) start (by decide)).mp beyond
    exact absurd full (by decide)
  · have full := ((@MatchesWhole.executable literalSpans _ _ whole) reset (by decide)).mp (everywhere "initial" (by decide))
    exact absurd full (by decide)

end Drunc
