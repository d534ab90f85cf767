import Drunc.Convergence
import Drunc.Library.Runs

/-! The phases of a transition, called in any order. A node remembers how far a
transition has come as the text of its sub-state alone, and a method is accepted
when that text is the one it expects, whoever wrote it. A `Journal` keeps the calls
that succeeded beside the node, the latest first, each with the state it was made
in. `Visits` follows the FSM through every text that calls may leave, and through
every text that is then taken for another. -/
namespace Drunc
open Library (Act Dict Along failure value firstCut firstCutMem)
open Library.Act

inductive PhaseMethod where
  | prepareTransition | propagateTransitionMark | finishPropagatingTransitionMark | startTransitionMark
  | terminateTransitionMark | finaliseTransition
  deriving DecidableEq, Repr

namespace PhaseMethod

def expects : PhaseMethod → Phase
  | .prepareTransition => .idle
  | .propagateTransitionMark => .ready
  | .finishPropagatingTransitionMark => .propagating
  | .startTransitionMark => .propagated
  | .terminateTransitionMark => .executing
  | .finaliseTransition => .terminated

def leaves : PhaseMethod → Phase
  | .prepareTransition => .ready
  | .propagateTransitionMark => .propagating
  | .finishPropagatingTransitionMark => .propagated
  | .startTransitionMark => .executing
  | .terminateTransitionMark => .terminated
  | .finaliseTransition => .idle

def halfway : PhaseMethod → Option Phase
  | .prepareTransition => some .preparing
  | .terminateTransitionMark => some .terminated
  | .finaliseTransition => some .finalising
  | _ => none

end PhaseMethod

structure PhaseCall where
  world : World
  method : PhaseMethod
  transition : Transition
  transitionData : JsonText
  transitionArgs : Dict String PyObj

abbrev Log := List (PhaseMethod × Transition × Option String)

structure Journal where
  node : StatefulNode
  log : Log

namespace StatefulNode
section Invoke
variable {n : StatefulNode} {w : World} {t : Transition} {state text : String} {data : JsonText}
  {args : Dict String PyObj}

def holding (n : StatefulNode) (state text : String) : StatefulNode :=
  { n with operationalState := some state, operationalSubState := some text }

def returned {α : Type} : Except Exn α → Bool
  | .ok _ => true
  | .error _ => false

theorem markRefused (n : StatefulNode) (w : World) (state : String) {before : Phase} (unexpected : text ≠ label t before) (after : Phase) (action : String) :
    ∃ e, (mark w t before after action (n.holding state text)).result = .error e ∧
      (mark w t before after action (n.holding state text)).state = n.holding state text := by
  unfold mark
  rw [readBind,if_pos (by simpa [holding] using unexpected)]
  exact ⟨_,rfl,rfl⟩

theorem markEnds {before after : Phase} {action : String} (under : before ≠ .idle) (way : after ≠ .idle) :
    (∃ e, (mark w t before after action (n.holding state text)).result = .error e ∧
      (mark w t before after action (n.holding state text)).state = n.holding state text) ∨
    (text = label t before ∧ (mark w t before after action (n.holding state text)).result = .ok () ∧
      (mark w t before after action (n.holding state text)).state = n.halted t ⟨state,after⟩) := by
  by_cases expected : text = label t before
  · have same : n.holding state text = n.halted t ⟨state,before⟩ := by
      subst expected
      cases before <;> first | rfl | contradiction
    have passes : PassesAs (n.halted t) (mark w t before after action) ⟨state,before⟩ _ _ _ := markPasses under way
    rw [same]
    rcases passesEnds passes with ⟨e,kept,cut,result,final⟩ | ⟨_,result,final⟩
    · obtain ⟨_,rfl⟩ : _ ∧ kept = n.halted t ⟨state,before⟩ := by simpa using firstCutMem cut
      exact .inl ⟨e,result,final⟩
    · exact .inr ⟨expected,result,final⟩
  · exact .inl (markRefused n w state expected after action)

variable [Re]

def invoke (call : PhaseCall) : Do StatefulNode (Option JsonText) :=
  match call.method with
  | .prepareTransition => do
      let data ← prepareTransition call.world call.transition call.transitionData call.transitionArgs
      pure (some data)
  | .propagateTransitionMark => do
      propagateTransitionMark call.world call.transition
      pure none
  | .finishPropagatingTransitionMark => do
      finishPropagatingTransitionMark call.world call.transition
      pure none
  | .startTransitionMark => do
      startTransitionMark call.world call.transition
      pure none
  | .terminateTransitionMark => do
      terminateTransitionMark call.world call.transition
      pure none
  | .finaliseTransition => do
      let data ← finaliseTransition call.world call.transition call.transitionData call.transitionArgs
      pure (some data)

def Destines (fsm : FSM) (t : Transition) (state : String) : PhaseMethod → Option String → Prop
  | .terminateTransitionMark, after => fsm.getDestinationState (some state) t = .ok after
  | _, after => after = some state

structure Accepts (method : PhaseMethod) (t : Transition) (state text : String) : Prop where
  expected : text = subStateAt t ⟨state,method.expects⟩
  able : method = .prepareTransition → t.Executable state

inductive Invoked (n : StatefulNode) (method : PhaseMethod) (t : Transition) (state text : String) :
    Bool → StatefulNode → Prop
  | refused : Invoked n method t state text false (n.holding state text)
  | cut {phase : Phase} (accepts : Accepts method t state text) (halfway : method.halfway = some phase) :
      Invoked n method t state text false (n.halted t ⟨state,phase⟩)
  | succeeded {after : Option String} (accepts : Accepts method t state text)
      (destined : Destines n.fsm t state method after) :
      Invoked n method t state text true { n.halted t ⟨state,method.leaves⟩ with operationalState := after }

theorem invokedMark (method : PhaseMethod) {action : String} (under : method.expects ≠ .idle)
    (way : method.leaves ≠ .idle) (stays : Destines n.fsm t state method (some state)) :
    Invoked n method t state text (returned (mark w t method.expects method.leaves action (n.holding state text)).result)
      (mark w t method.expects method.leaves action (n.holding state text)).state := by
  rcases markEnds under way with ⟨e,result,final⟩ | ⟨expected,result,final⟩
  · rw [result,final]
    exact .refused
  · rw [result,final]
    refine .succeeded ⟨expected.trans ?_,?_⟩ stays
    · cases method <;> first | rfl | contradiction
    · rintro rfl
      contradiction

theorem invokedChecks {method : PhaseMethod} {phase : Phase} {α : Type} {x : Do StatefulNode α}
    {checks : List (Option Exn × StatefulNode)} {a : α} {after : Option String} (accepts : Accepts method t state text)
    (halfway : method.halfway = some phase)
    (passes : Passes x (n.halted t ⟨state,method.expects⟩) checks a
      { n.halted t ⟨state,method.leaves⟩ with operationalState := after })
    (stops : ∀ c ∈ checks, c.2 = n.halted t ⟨state,method.expects⟩ ∨ c.2 = n.halted t ⟨state,phase⟩)
    (destined : firstCut checks = none → Destines n.fsm t state method after) :
    Invoked n method t state text (returned (x (n.holding state text)).result) (x (n.holding state text)).state := by
  have same : n.holding state text = n.halted t ⟨state,method.expects⟩ := by
    rw [accepts.expected]
    rfl
  rw [same]
  rcases passesEnds passes with ⟨e,kept,cut,result,final⟩ | ⟨uncut,result,final⟩
  · rw [result,final]
    rcases stops (some e,kept) (firstCutMem cut) with rfl | rfl
    · exact same ▸ .refused
    · exact .cut accepts halfway
  · rw [result,final]
    exact .succeeded accepts (destined uncut)

theorem invokedFinalise :
    Invoked n .finaliseTransition t state text (returned (finaliseTransition w t data args (n.holding state text)).result)
      (finaliseTransition w t data args (n.holding state text)).state := by
  by_cases expected : text = label t .terminated
  · have passes : PassesAs (n.halted t) (finaliseTransition w t data args) ⟨state,.terminated⟩ _ _ _ := finalisePasses
    exact invokedChecks ⟨expected,by simp⟩ rfl passes (by simp [PhaseMethod.expects]) fun _ => rfl
  · obtain ⟨e,result,final⟩ := markRefused n w state expected .finalising "finalise_transition"
    unfold finaliseTransition
    rw [bindError result,final]
    exact .refused

theorem terminateChecks (w : World) (t : Transition) (state : String) {fsm : FSM} (same : n.fsm = fsm) :
    Passes (terminateTransitionMark w t) (n.halted t ⟨state,.executing⟩)
      [(w.broadcast (.subState .terminated),n.halted t ⟨state,.executing⟩),
        (failure (fsm.getDestinationState (some state) t),n.halted t ⟨state,.terminated⟩),
        (w.broadcast .operationalState,n.halted t ⟨state,.terminated⟩)] ()
      { n.halted t ⟨state,.terminated⟩ with
        operationalState := value (fsm.getDestinationState (some state) t) } := by
  subst same
  have marked : PassesAs (n.halted t) (mark w t .executing .terminated "terminate_transition") ⟨state,.executing⟩ _ _ _ :=
    markPasses (by decide) (by decide)
  exact passesBind marked rfl (passesRead (passesBind (passesLift _) rfl observePasses))

theorem invokedTerminate :
    Invoked n .terminateTransitionMark t state text (returned (terminateTransitionMark w t (n.holding state text)).result)
      (terminateTransitionMark w t (n.holding state text)).state := by
  by_cases expected : text = label t .executing
  · refine invokedChecks ⟨expected,by simp⟩ rfl (terminateChecks w t state rfl) (by simp [PhaseMethod.expects]) fun uncut => ?_
    have found : failure (n.fsm.getDestinationState (some state) t) = none :=
      Library.firstCutNone.mp uncut (failure (n.fsm.getDestinationState (some state) t),n.halted t ⟨state,.terminated⟩)
        (by simp)
    cases destination : n.fsm.getDestinationState (some state) t with
    | error e =>
      rw [destination] at found
      contradiction
    | ok after => exact destination
  · obtain ⟨e,result,final⟩ := markRefused n w state expected .terminated "terminate_transition"
    unfold terminateTransitionMark
    rw [bindError result,final]
    exact .refused

theorem invokedPrepare :
    Invoked n .prepareTransition t state text (returned (prepareTransition w t data args (n.holding state text)).result)
      (prepareTransition w t data args (n.holding state text)).state := by
  by_cases idle : text = state
  · have refuses : ∀ e, prepareTransition w t data args (n.holding state text) = ⟨.error e,n.holding state text,[]⟩ →
        Invoked n .prepareTransition t state text
          (returned (prepareTransition w t data args (n.holding state text)).result)
          (prepareTransition w t data args (n.holding state text)).state := by
      intro e run
      rw [run]
      exact .refused
    have stays : ¬ (n.holding state text).operationalState ≠ (n.holding state text).operationalSubState := by
      simp [holding,idle]
    have held : ∀ r, canExecuteTransition (some state) t = r →
        canExecuteTransition (n.holding state text).operationalState t = r := fun _ same => same
    cases can : canExecuteTransition (some state) t with
    | error e =>
      refine refuses e ?_
      unfold prepareTransition
      rw [readBind,if_neg stays,held _ can]
      rfl
    | ok able =>
      cases able with
      | false =>
        refine refuses (.invalidTransition t.str (some state)) ?_
        unfold prepareTransition
        rw [readBind,if_neg stays,held _ can,liftOkBind]
        rfl
      | true =>
        have passes : PassesAs (n.halted t) (prepareTransition w t data args) ⟨state,.idle⟩ _ _ _ := preparePasses can
        exact invokedChecks ⟨idle,fun _ => can⟩ rfl passes (by simp [PhaseMethod.expects]) fun _ => rfl
  · unfold prepareTransition
    rw [readBind,if_pos (by simpa [holding] using fun same => idle same.symm)]
    exact .refused

theorem invokedAfter {method : PhaseMethod} {α β : Type} {x : Do StatefulNode α} (f : α → β)
    (run : Invoked n method t state text (returned (x (n.holding state text)).result) (x (n.holding state text)).state) :
    Invoked n method t state text (returned ((x >>= fun a => pure (f a)) (n.holding state text)).result)
      ((x >>= fun a => pure (f a)) (n.holding state text)).state := by
  rcases bindCases x (fun a => pure (f a)) (n.holding state text) with ⟨e,result,after⟩ | ⟨a,result,after⟩
  · rw [result] at run
    rwa [after]
  · rw [result] at run
    rwa [after]

theorem invoked (n : StatefulNode) (call : PhaseCall) (state text : String) :
    Invoked n call.method call.transition state text (returned (invoke call (n.holding state text)).result)
      (invoke call (n.holding state text)).state := by
  obtain ⟨w,method,t,data,args⟩ := call
  cases method with
  | prepareTransition => exact invokedAfter some invokedPrepare
  | propagateTransitionMark =>
    exact invokedAfter (fun _ => none) (invokedMark .propagateTransitionMark (by decide) (by decide) rfl)
  | finishPropagatingTransitionMark =>
    exact invokedAfter (fun _ => none)
      (invokedMark .finishPropagatingTransitionMark (by decide) (by decide) rfl)
  | startTransitionMark =>
    exact invokedAfter (fun _ => none) (invokedMark .startTransitionMark (by decide) (by decide) rfl)
  | terminateTransitionMark => exact invokedAfter (fun _ => none) invokedTerminate
  | finaliseTransition => exact invokedAfter some invokedFinalise

end Invoke

section Try
variable {t : Transition}

def complying (publishes : Bool) : World :=
  ⟨fun site => if site = .operationalState ∧ publishes = false then some .rpcError else none,
    fun _ _ data _ => ⟨data,.ok (.dict [])⟩,[]⟩

@[simp] theorem complyingPublishes (site : Site) : (complying true).broadcast site = none := by simp [complying]

def tried (t : Transition) (method : PhaseMethod) (through : Bool) : PhaseCall :=
  ⟨complying through,method,t,if through then .empty else .malformed "",Dict.empty⟩

theorem returnedThrough {α : Type} {x : Do StatefulNode α} {n after : StatefulNode} {checks : List (Option Exn × StatefulNode)}
    {a : α} (passes : Passes x n checks a after) (uncut : firstCut checks = none) : returned (x n).result = true := by
  rw [(passesThrough passes uncut).1]
  rfl

theorem markGoes {n : StatefulNode} {state action : String} (before : Phase) {after : Phase} (under : before ≠ .idle)
    (way : after ≠ .idle) :
    returned (mark (complying true) t before after action (n.halted t ⟨state,before⟩)).result = true :=
  returnedThrough (markPasses under way) rfl

theorem returnedAfter {α β : Type} {x : Do StatefulNode α} {n : StatefulNode} (f : α → β)
    (first : returned (x n).result = true) : returned ((x >>= fun a => pure (f a)) n).result = true := by
  cases result : (x n).result with
  | error e =>
    rw [result] at first
    contradiction
  | ok a =>
    rw [bindOk result]
    rfl

theorem cutAfter {α β : Type} {x : Do StatefulNode α} {n after kept : StatefulNode}
    {checks : List (Option Exn × StatefulNode)} {a : α} {e : Exn} (f : α → β) (passes : Passes x n checks a after)
    (cut : firstCut checks = some (e,kept)) :
    returned ((x >>= fun a => pure (f a)) n).result = false ∧ ((x >>= fun a => pure (f a)) n).state = kept := by
  obtain ⟨result,final⟩ := passesCut passes cut
  rw [bindError result]
  exact ⟨rfl,final⟩

theorem sequencePasses (side : PreOrPost) (sequence : List Callback) :
    failure (executeResult (complying true) side sequence .empty Dict.empty) = none := by
  have succeed : (complying true).CallbacksSucceed := fun _ _ _ _ => ⟨.dict [],rfl,rfl⟩
  have wellFormed : JsonText.empty.wellFormed = true := rfl
  obtain ⟨out,run⟩ := executeSucceeds succeed side Dict.empty sequence wellFormed
  rw [run]
  rfl

end Try

def underWay : List Phase := [.ready,.propagating,.propagated,.executing]

theorem subStateUnder {t : Transition} {state : String} {phase : Phase} (way : phase ∈ underWay) :
    subStateAt t ⟨state,phase⟩ = label t phase := by
  cases phase <;> first | rfl | exact absurd way (by decide)

def Apart (old new : String) : Prop :=
  old.length < new.length ∨ (old.length = new.length ∧ new.toList.count 't' < old.toList.count 't')

theorem apartTrans {a b c : String} (first : Apart a b) (second : Apart b c) : Apart a c := by
  unfold Apart at *
  omega

theorem apartIrrefl {a : String} : ¬ Apart a a := by
  unfold Apart
  omega

theorem apartTerminated (t : Transition) : Apart (label t .executing) (label t .terminated) := by
  left
  have first : "executing-".length = 10 := rfl
  have second : "-terminated".length = 11 := rfl
  simp only [label,String.length_append]
  omega

theorem apartFinalising (t : Transition) : Apart (label t .terminated) (label t .finalising) := by
  right
  have lengths : "-terminated".length = 11 ∧ "finalising-".length = 11 := ⟨rfl,rfl⟩
  have counts : "-terminated".toList.count 't' = 2 ∧ "finalising-".toList.count 't' = 0 := ⟨rfl,rfl⟩
  simp only [label,String.length_append,String.toList_append,List.count_append]
  omega

def Fresh (t : Transition) (s : Standing) (log : Log) : Prop :=
  ∀ method u a rest, log = (method,u,a) :: rest → method.leaves ∈ underWay →
    (s.phase = method.leaves ∧ t = u) ∨ Apart (label u method.leaves) (subStateAt t s)

theorem membersOnce {fsm : FSM} {calls : List PhaseCall} (members : ∀ call ∈ calls, call.transition ∈ fsm.transitions)
    (call : PhaseCall) (mem : call.transition ∈ fsm.transitions) : ∀ c ∈ calls ++ [call], c.transition ∈ fsm.transitions := by
  intro c inside
  rcases List.mem_append.mp inside with before | last
  · exact members c before
  · obtain rfl := List.mem_singleton.mp last
    exact mem

theorem freshWritten {u : Transition} {state : String} {log : Log} {method : PhaseMethod} {a : Option String} :
    Fresh u ⟨state,method.leaves⟩ ((method,u,a) :: log) := by
  intro m v b rest same _
  cases same
  exact .inl ⟨rfl,rfl⟩

section Order
variable [Re] {fsm : FSM} {t u : Transition} {s : Standing}

def advance (j : Journal) (call : PhaseCall) : Journal :=
  let o := invoke call j.node
  ⟨o.state,if returned o.result then (call.method,call.transition,j.node.operationalState) :: j.log else j.log⟩

def opened (fsm : FSM) : Journal := ⟨init fsm,[]⟩

/-- The latest four calls prepared, propagated, finished propagating and started the
transition, which was executable from the state that it was prepared in. -/
def InOrder (t : Transition) (log : Log) : Prop :=
  ∃ state a b c rest, log =
    (.startTransitionMark,t,a) :: (.finishPropagatingTransitionMark,t,b) :: (.propagateTransitionMark,t,c) ::
      (.prepareTransition,t,some state) :: rest ∧ t.Executable state

def ChangesInOrder (j : Journal) (call : PhaseCall) : Prop :=
  (advance j call).node.operationalState ≠ j.node.operationalState →
    call.method = .terminateTransitionMark ∧ InOrder call.transition j.log

/-- What calls may make of the FSM: the state, and the transition and the phase that
the last writer of the sub-state meant. -/
inductive Visits (fsm : FSM) : Transition → Standing → Prop
  | opened (t : Transition) : Visits fsm t ⟨fsm.initialState,.idle⟩
  | cut {t u : Transition} {s : Standing} {method : PhaseMethod} {phase : Phase} (here : Visits fsm t s)
      (mem : u ∈ fsm.transitions) (accepts : Accepts method u s.state (subStateAt t s))
      (halfway : method.halfway = some phase) : Visits fsm u ⟨s.state,phase⟩
  | succeeded {t u : Transition} {s : Standing} {method : PhaseMethod} {after : String} (here : Visits fsm t s)
      (mem : u ∈ fsm.transitions) (accepts : Accepts method u s.state (subStateAt t s))
      (destined : Destines fsm u s.state method (some after)) : Visits fsm u ⟨after,method.leaves⟩

def Still (fsm : FSM) (t : Transition) (state : String) : Prop :=
  ∀ after, fsm.getDestinationState (some state) t = .ok after → after = some state

/-- A text that a transition under way has in a visited state was written for it, or
the transition does not lead out of that state. -/
def Unmistakable (fsm : FSM) : Prop :=
  ∀ t s, Visits fsm t s → ∀ u ∈ fsm.transitions, ∀ phase ∈ underWay, subStateAt t s = label u phase →
    (s.phase = phase ∧ t = u) ∨ Still fsm u s.state

def taken : Phase → List PhaseMethod
  | .ready => [.prepareTransition]
  | .propagating => [.propagateTransitionMark,.prepareTransition]
  | .propagated => [.finishPropagatingTransitionMark,.propagateTransitionMark,.prepareTransition]
  | .executing =>
      [.startTransitionMark,.finishPropagatingTransitionMark,.propagateTransitionMark,.prepareTransition]
  | _ => []

def Backed (t : Transition) (state : String) : List PhaseMethod → Log → Prop
  | [], _ => True
  | method :: before, log => ∃ a rest, log = (method,t,a) :: rest ∧
      (method = .prepareTransition → a = some state ∧ t.Executable state) ∧ Backed t state before rest

theorem backedInOrder {t : Transition} {state : String} {log : Log} (backed : Backed t state (taken .executing) log) :
    InOrder t log ∧ t.Executable state := by
  obtain ⟨a,_,rfl,_,b,_,rfl,_,c,_,rfl,_,d,rest,rfl,prepared,_⟩ := backed
  obtain ⟨rfl,can⟩ := prepared rfl
  exact ⟨⟨state,a,b,c,rest,rfl,can⟩,can⟩

structure Traced (fsm : FSM) (t : Transition) (s : Standing) (j : Journal) : Prop where
  node : j.node = (init fsm).halted t s
  visits : Visits fsm t s
  backed : Backed t s.state (taken s.phase) j.log ∨ Still fsm t s.state

theorem backedNext {state : String} {log : Log} {method : PhaseMethod} (mark : method.expects ∈ underWay)
    (backed : Backed t state (taken method.expects) log) :
    Backed t state (taken method.leaves) ((method,t,some state) :: log) := by
  cases method with
  | prepareTransition => contradiction
  | propagateTransitionMark => exact ⟨_,_,rfl,by simp,backed⟩
  | finishPropagatingTransitionMark => exact ⟨_,_,rfl,by simp,backed⟩
  | startTransitionMark => exact ⟨_,_,rfl,by simp,backed⟩
  | terminateTransitionMark => trivial
  | finaliseTransition => contradiction

theorem acceptedBacked (clear : Unmistakable fsm) {j : Journal} (traced : Traced fsm t s j) {method : PhaseMethod}
    (mem : u ∈ fsm.transitions) (accepts : Accepts method u s.state (subStateAt t s))
    (mark : method.expects ∈ underWay) : Backed u s.state (taken method.expects) j.log ∨ Still fsm u s.state := by
  have text : subStateAt t s = label u method.expects := by
    rw [accepts.expected]
    cases method <;> first | rfl | contradiction
  rcases clear t s traced.visits u mem _ mark text with ⟨phase,rfl⟩ | still
  · exact phase ▸ traced.backed
  · exact .inr still

theorem succeededBacked (clear : Unmistakable fsm) {j : Journal} (traced : Traced fsm t s j) {method : PhaseMethod}
    (mem : u ∈ fsm.transitions) (accepts : Accepts method u s.state (subStateAt t s)) :
    Backed u s.state (taken method.leaves) ((method,u,some s.state) :: j.log) ∨ Still fsm u s.state := by
  by_cases mark : method.expects ∈ underWay
  · exact (acceptedBacked clear traced mem accepts mark).imp (backedNext mark) id
  · cases method with
    | prepareTransition => exact .inl ⟨_,_,rfl,fun _ => ⟨rfl,accepts.able rfl⟩,trivial⟩
    | finaliseTransition => exact .inl trivial
    | _ => exact absurd (by decide) mark

theorem tracedAdvance (clear : Unmistakable fsm) {j : Journal} (traced : Traced fsm t s j) {call : PhaseCall}
    (mem : call.transition ∈ fsm.transitions) :
    (∃ u r, Traced fsm u r (advance j call)) ∧ ChangesInOrder j call := by
  obtain ⟨node,log⟩ := j
  obtain ⟨rfl,visits,backed⟩ := id traced
  have run : Invoked (init fsm) call.method call.transition s.state (subStateAt t s)
      (returned (invoke call ((init fsm).halted t s)).result) (invoke call ((init fsm).halted t s)).state :=
    invoked (init fsm) call s.state (subStateAt t s)
  unfold ChangesInOrder advance
  simp only
  generalize (invoke call ((init fsm).halted t s)).state = after at run ⊢
  generalize returned (invoke call ((init fsm).halted t s)).result = done at run ⊢
  cases run with
  | refused => exact ⟨⟨t,s,rfl,visits,backed⟩,fun moved => absurd rfl moved⟩
  | cut accepts halfway =>
    refine ⟨⟨call.transition,_,rfl,.cut visits mem accepts halfway,.inl ?_⟩,fun moved => absurd rfl moved⟩
    cases method : call.method <;> rw [method] at halfway <;> cases halfway <;> trivial
  | @succeeded result accepts destined =>
    have next := succeededBacked clear traced mem accepts
    by_cases ends : call.method = .terminateTransitionMark
    · have before := acceptedBacked clear traced mem accepts (by rw [ends]; decide)
      rw [ends] at destined accepts before ⊢
      rcases before with inOrder | still
      · obtain ⟨order,can⟩ := backedInOrder inOrder
        have found := destinationOfExecutable mem can
        obtain rfl : some (call.transition.target s.state) = result := Except.ok.inj (found.symm.trans destined)
        exact ⟨⟨_,⟨_,.terminated⟩,rfl,.succeeded visits mem accepts destined,.inl trivial⟩,fun _ => ⟨rfl,order⟩⟩
      · obtain rfl : result = some s.state := still _ destined
        exact ⟨⟨_,⟨_,.terminated⟩,rfl,.succeeded visits mem accepts destined,.inl trivial⟩,fun moved => absurd rfl moved⟩
    · obtain rfl : result = some s.state := by
        cases method : call.method <;> rw [method] at destined <;> first | exact destined | contradiction
      exact ⟨⟨_,⟨_,_⟩,rfl,.succeeded visits mem accepts destined,next⟩,fun moved => absurd rfl moved⟩

theorem openedTraced (fsm : FSM) : Traced fsm t ⟨fsm.initialState,.idle⟩ (opened fsm) :=
  ⟨rfl,.opened t,.inl trivial⟩

theorem unmistakableInOrder (clear : Unmistakable fsm) {calls : List PhaseCall}
    (members : ∀ call ∈ calls, call.transition ∈ fsm.transitions) :
    Along advance ChangesInOrder (opened fsm) calls := by
  refine Library.alongSteps (I := fun j => ∃ t s, Traced fsm t s j) (P := fun _ call => call.transition ∈ fsm.transitions)
    ?_ ?_ ⟨⟨"","","",[],""⟩,_,openedTraced fsm⟩ (Library.alongAll members)
  · rintro j call ⟨t,s,traced⟩ mem
    exact (tracedAdvance clear traced mem).1
  · rintro j call ⟨t,s,traced⟩ mem
    exact (tracedAdvance clear traced mem).2

theorem goesThrough {n : StatefulNode} {state text : String} {method : PhaseMethod} {after : Option String}
    (accepts : Accepts method t state text) (destined : Destines n.fsm t state method after) :
    returned (invoke (tried t method true) (n.holding state text)).result = true := by
  obtain ⟨rfl,able⟩ := accepts
  cases method with
  | prepareTransition =>
    refine returnedAfter some (returnedThrough (preparePasses (n := n) (able rfl)) ?_)
    exact Library.firstCutNone.mpr (by simp [tried,sequencePasses])
  | propagateTransitionMark =>
    exact returnedAfter (fun _ => none) (markGoes .ready (by decide) (by decide))
  | finishPropagatingTransitionMark =>
    exact returnedAfter (fun _ => none) (markGoes .propagating (by decide) (by decide))
  | startTransitionMark =>
    exact returnedAfter (fun _ => none) (markGoes .propagated (by decide) (by decide))
  | terminateTransitionMark =>
    refine returnedAfter (fun _ => none) (returnedThrough (terminateChecks (n := n) _ t state rfl) ?_)
    have found : n.fsm.getDestinationState (some state) t = .ok after := destined
    exact Library.firstCutNone.mpr (by simp [tried,found,Library.failure])
  | finaliseTransition =>
    refine returnedAfter some (returnedThrough (finalisePasses (n := n)) ?_)
    exact Library.firstCutNone.mpr (by simp [tried,sequencePasses])

theorem triedSucceeds {n : StatefulNode} {state text : String} {method : PhaseMethod} {after : Option String}
    (accepts : Accepts method t state text) (destined : Destines n.fsm t state method after) (log : Log) :
    advance ⟨n.holding state text,log⟩ (tried t method true) =
      ⟨{ n.halted t ⟨state,method.leaves⟩ with operationalState := after },(method,t,some state) :: log⟩ := by
  have through := goesThrough accepts destined
  have run := invoked n (tried t method true) state text
  unfold advance
  simp only
  rw [through] at run ⊢
  generalize (invoke (tried t method true) (n.holding state text)).state = node at run ⊢
  cases run with
  | @succeeded other _ reached =>
    have same : other = after := by
      cases method with
      | terminateTransitionMark => exact Except.ok.inj (reached.symm.trans destined)
      | _ => exact reached.trans destined.symm
    subst same
    rfl

theorem stopsHalfway {n : StatefulNode} {state text : String} {method : PhaseMethod} {phase : Phase}
    (accepts : Accepts method t state text) (halfway : method.halfway = some phase) :
    returned (invoke (tried t method false) (n.holding state text)).result = false ∧
      (invoke (tried t method false) (n.holding state text)).state = n.halted t ⟨state,phase⟩ := by
  obtain ⟨rfl,able⟩ := accepts
  cases method with
  | prepareTransition =>
    cases halfway
    exact cutAfter some (preparePasses (n := n) (able rfl)) rfl
  | terminateTransitionMark =>
    cases halfway
    have passes := terminateChecks (n := n) (complying false) t state rfl
    cases destination : n.fsm.getDestinationState (some state) t with
    | error e =>
      rw [destination] at passes
      exact cutAfter (fun _ => none) passes rfl
    | ok after =>
      rw [destination] at passes
      exact cutAfter (fun _ => none) passes rfl
  | finaliseTransition =>
    cases halfway
    exact cutAfter some (finalisePasses (n := n)) rfl
  | _ => contradiction

theorem triedCut {n : StatefulNode} {state text : String} {method : PhaseMethod} {phase : Phase}
    (accepts : Accepts method t state text) (halfway : method.halfway = some phase) (log : Log) :
    advance ⟨n.holding state text,log⟩ (tried t method false) = ⟨n.halted t ⟨state,phase⟩,log⟩ := by
  obtain ⟨failed,final⟩ := stopsHalfway (n := n) accepts halfway
  unfold advance
  simp only
  rw [failed,final]
  rfl

def Sound (fsm : FSM) (j : Journal) : Prop :=
  ∀ calls : List PhaseCall, (∀ call ∈ calls, call.transition ∈ fsm.transitions) → Along advance ChangesInOrder j calls

theorem soundAdvance {j : Journal} (sound : Sound fsm j) (call : PhaseCall) (mem : call.transition ∈ fsm.transitions) :
    Sound fsm (advance j call) := fun calls members =>
  (sound (call :: calls) (fun c inside => by
    rcases List.mem_cons.mp inside with rfl | inside
    · exact mem
    · exact members c inside)).2

theorem soundSucceeded {state : String} (method : PhaseMethod) {log : Log} (mem : u ∈ fsm.transitions)
    (mark : method.expects ∈ underWay) (onward : method ≠ .terminateTransitionMark)
    (sound : Sound fsm ⟨(init fsm).halted u ⟨state,method.expects⟩,log⟩) :
    Sound fsm ⟨(init fsm).halted u ⟨state,method.leaves⟩,(method,u,some state) :: log⟩ := by
  have accepts : Accepts method u state (subStateAt u ⟨state,method.expects⟩) :=
    ⟨rfl,by rintro rfl; contradiction⟩
  have stays : Destines (init fsm).fsm u state method (some state) := by
    cases method <;> first | rfl | contradiction
  have next := soundAdvance sound (tried u method true) mem
  have run := triedSucceeds (n := init fsm) accepts stays log
  exact run ▸ next

theorem soundEnds {state : String} {log : Log} (mem : u ∈ fsm.transitions) (leads : ¬ Still fsm u state)
    (sound : Sound fsm ⟨(init fsm).halted u ⟨state,.executing⟩,log⟩) : InOrder u log := by
  simp only [Still,not_forall] at leads
  obtain ⟨after,destined,moves⟩ := leads
  have accepts : Accepts .terminateTransitionMark u state (subStateAt u ⟨state,.executing⟩) := ⟨rfl,by simp⟩
  have ends : Destines (init fsm).fsm u state .terminateTransitionMark after := destined
  have run := triedSucceeds accepts ends log
  have last := (sound [tried u .terminateTransitionMark true] (by simpa [tried] using mem)).1
  refine (last ?_).2
  change (advance ⟨(init fsm).holding state (subStateAt u ⟨state,.executing⟩),log⟩ _).node.operationalState ≠ some state
  rw [run]
  exact moves

theorem soundWritten {state : String} {phase : Phase} {log : Log} (mem : u ∈ fsm.transitions) (way : phase ∈ underWay)
    (leads : ¬ Still fsm u state) (sound : Sound fsm ⟨(init fsm).halted u ⟨state,phase⟩,log⟩) :
    ∃ method a rest, log = (method,u,a) :: rest ∧ method.leaves = phase := by
  have propagated : Sound fsm ⟨(init fsm).halted u ⟨state,.ready⟩,log⟩ →
      Sound fsm ⟨(init fsm).halted u ⟨state,.propagating⟩,(.propagateTransitionMark,u,some state) :: log⟩ :=
    soundSucceeded .propagateTransitionMark mem (by decide) (by decide)
  have finished : ∀ {log}, Sound fsm ⟨(init fsm).halted u ⟨state,.propagating⟩,log⟩ →
      Sound fsm ⟨(init fsm).halted u ⟨state,.propagated⟩,(.finishPropagatingTransitionMark,u,some state) :: log⟩ :=
    soundSucceeded .finishPropagatingTransitionMark mem (by decide) (by decide)
  have started : ∀ {log}, Sound fsm ⟨(init fsm).halted u ⟨state,.propagated⟩,log⟩ →
      Sound fsm ⟨(init fsm).halted u ⟨state,.executing⟩,(.startTransitionMark,u,some state) :: log⟩ :=
    soundSucceeded .startTransitionMark mem (by decide) (by decide)
  cases phase with
  | ready =>
    obtain ⟨_,_,_,_,_,same,_⟩ := soundEnds mem leads (started (finished (propagated sound)))
    simp only [List.cons.injEq] at same
    exact ⟨_,_,_,same.2.2.2,rfl⟩
  | propagating =>
    obtain ⟨_,_,_,_,_,same,_⟩ := soundEnds mem leads (started (finished sound))
    simp only [List.cons.injEq] at same
    exact ⟨_,_,_,same.2.2,rfl⟩
  | propagated =>
    obtain ⟨_,_,_,_,_,same,_⟩ := soundEnds mem leads (started sound)
    simp only [List.cons.injEq] at same
    exact ⟨_,_,_,same.2,rfl⟩
  | executing =>
    obtain ⟨_,_,_,_,_,same,_⟩ := soundEnds mem leads sound
    exact ⟨_,_,_,same,rfl⟩
  | _ => exact absurd way (by decide)

def Reached (fsm : FSM) (t : Transition) (s : Standing) : Prop :=
  ∃ calls : List PhaseCall, (∀ call ∈ calls, call.transition ∈ fsm.transitions) ∧
    ∃ log, calls.foldl advance (opened fsm) = ⟨(init fsm).halted t s,log⟩ ∧ Fresh t s log

def Rested (fsm : FSM) (state : String) : Prop :=
  ∃ calls : List PhaseCall, (∀ call ∈ calls, call.transition ∈ fsm.transitions) ∧
    ∃ log, calls.foldl advance (opened fsm) = ⟨(init fsm).holding state state,log⟩ ∧
      ∀ method u a rest, log = (method,u,a) :: rest → method.leaves ∉ underWay

theorem destinedHalted {n : StatefulNode} {state after : String} {method : PhaseMethod}
    (destined : Destines fsm t state method (some after)) :
    { n.halted t ⟨state,method.leaves⟩ with operationalState := some after } = n.halted t ⟨after,method.leaves⟩ := by
  cases method with
  | finaliseTransition =>
    cases destined
    rfl
  | _ => rfl

theorem ranOnce {calls : List PhaseCall} {j : Journal} {call : PhaseCall} (ran : calls.foldl advance (opened fsm) = j) :
    (calls ++ [call]).foldl advance (opened fsm) = advance j call := by
  rw [List.foldl_append,ran]
  rfl

theorem freshCut {log : Log} {method : PhaseMethod} {phase : Phase} (fresh : Fresh t s log)
    (accepts : Accepts method u s.state (subStateAt t s)) (halfway : method.halfway = some phase)
    (under : method ≠ .prepareTransition) : Fresh u ⟨s.state,phase⟩ log := by
  intro m v a rest same written
  have onward : Apart (subStateAt t s) (subStateAt u ⟨s.state,phase⟩) := by
    rw [accepts.expected]
    cases method <;> first | contradiction | skip
    · cases halfway
      exact apartTerminated u
    · cases halfway
      exact apartFinalising u
  rcases fresh m v a rest same written with ⟨here,rfl⟩ | apart
  · right
    have text : subStateAt t s = label t m.leaves := by
      obtain ⟨state,p⟩ := s
      obtain rfl : p = m.leaves := here
      cases m <;> first | rfl | exact absurd written (by decide)
    exact text ▸ onward
  · exact .inr (apartTrans apart onward)

theorem visitsReached (visits : Visits fsm t s) : Reached fsm t s ∧ Rested fsm s.state := by
  induction visits with
  | opened t => exact ⟨⟨[],by simp,[],rfl,by simp [Fresh]⟩,[],by simp,[],rfl,by simp⟩
  | @cut t u s method phase _ mem accepts halfway ih =>
    refine ⟨?_,ih.2⟩
    by_cases prepares : method = .prepareTransition
    · subst prepares
      cases halfway
      obtain ⟨calls,members,log,ran,settled⟩ := ih.2
      refine ⟨_,membersOnce members (tried u .prepareTransition false) mem,log,?_,?_⟩
      · rw [ranOnce ran]
        exact triedCut ⟨rfl,accepts.able⟩ rfl log
      · intro m v a rest same written
        exact absurd written (settled m v a rest same)
    · obtain ⟨calls,members,log,ran,fresh⟩ := ih.1
      refine ⟨_,membersOnce members (tried u method false) mem,log,?_,freshCut fresh accepts halfway prepares⟩
      rw [ranOnce ran]
      exact triedCut accepts halfway log
  | @succeeded t u s method after _ mem accepts destined ih =>
    obtain ⟨calls,members,log,ran,fresh⟩ := ih.1
    have next : (calls ++ [tried u method true]).foldl advance (opened fsm) =
        ⟨(init fsm).halted u ⟨after,method.leaves⟩,(method,u,some s.state) :: log⟩ := by
      rw [ranOnce ran]
      exact destinedHalted destined ▸ triedSucceeds (n := init fsm) accepts destined log
    have inside := membersOnce members (tried u method true) mem
    refine ⟨⟨_,inside,_,next,freshWritten⟩,?_⟩
    by_cases ends : method = .terminateTransitionMark
    · subst ends
      have accepts : Accepts .finaliseTransition u after (subStateAt u ⟨after,.terminated⟩) := ⟨rfl,by simp⟩
      refine ⟨_,membersOnce inside (tried u .finaliseTransition true) mem,
        (.finaliseTransition,u,some after) :: (.terminateTransitionMark,u,some s.state) :: log,?_,?_⟩
      · rw [ranOnce next]
        exact triedSucceeds (n := init fsm) accepts rfl _
      · intro m v a rest same
        cases same
        decide
    · obtain rfl : after = s.state := by
        cases method <;> first | exact Option.some.inj destined | contradiction
      exact ih.2

theorem stateChangesInOrderIff (fsm : FSM) :
    (∀ calls : List PhaseCall, (∀ call ∈ calls, call.transition ∈ fsm.transitions) →
      Along advance ChangesInOrder (opened fsm) calls) ↔ Unmistakable fsm := by
  refine ⟨fun sound => ?_,fun clear calls members => unmistakableInOrder clear members⟩
  intro t s visits u mem phase way text
  by_cases leads : Still fsm u s.state
  · exact .inr leads
  · obtain ⟨⟨calls,members,log,ran,fresh⟩,_⟩ := visitsReached visits
    have mistaken : (init fsm).halted t s = (init fsm).halted u ⟨s.state,phase⟩ := by
      simp only [halted,text,subStateUnder way]
    have onward : Sound fsm ⟨(init fsm).halted u ⟨s.state,phase⟩,log⟩ := by
      intro more inside
      rw [← mistaken,← ran]
      refine Library.alongAppend (sound (calls ++ more) fun call mem => ?_)
      exact (List.mem_append.mp mem).elim (members call) (inside call)
    obtain ⟨method,a,rest,same,leaves⟩ := soundWritten mem way leads onward
    rcases fresh method u a rest same (leaves ▸ way) with ⟨here,rfl⟩ | apart
    · exact .inl ⟨here.trans leaves,rfl⟩
    · rw [text,leaves] at apart
      exact absurd apart apartIrrefl

end Order
end StatefulNode

namespace Sample

def reconfigure : Transition := ⟨"conf","conf-ready","configured",[],""⟩

def confReady : FSM :=
  { initialState := "conf-ready", states := ["conf-ready","configured"], transitions := [reconfigure],
    preTransitionSequences := fun _ => [], postTransitionSequences := fun _ => [], unique := by decide }

def unprepared : List PhaseCall :=
  [.propagateTransitionMark,.finishPropagatingTransitionMark,.startTransitionMark,.terminateTransitionMark].map
    fun method => ⟨calm,method,reconfigure,.empty,Dict.empty⟩

end Sample

open Sample StatefulNode in
theorem unpreparedTransition :
    (∀ call ∈ unprepared, call.transition ∈ confReady.transitions) ∧
      ¬ Along advance ChangesInOrder (opened confReady) unprepared := by
  refine ⟨by decide,fun inOrder => ?_⟩
  obtain ⟨_,_,_,last,_⟩ := inOrder
  obtain ⟨_,_,_,_,_,_,same,_⟩ := last (by decide)
  exact nomatch (List.cons.inj (List.cons.inj (List.cons.inj same).2).2).2

end Drunc
