import Drunc.Fsm

/-! The node of a controller: its FSM state, the sub-state that marks how far a
transition has come, inclusion and error. Every observed value is published
before it is stored (`observe`), so a publication that raises leaves the old
value. A node is idle when its sub-state equals its state: no transition is under
way. The marks of the source differ in their labels only. -/
namespace Drunc
open Library (Act Dict)
open Library.Act

structure StatefulNode where
  fsm : FSM
  operationalState : Option String
  operationalSubState : Option String
  included : Bool
  inError : Bool

def StatefulNode.init (fsm : FSM) : StatefulNode :=
  ⟨fsm,some fsm.initialState,some fsm.initialState,true,false⟩

namespace StatefulNode

def Idle (n : StatefulNode) : Prop := n.operationalSubState = n.operationalState
instance (n : StatefulNode) : Decidable n.Idle := by unfold Idle; infer_instance

def observe (w : World) (site : Site) (btype : BroadcastType) (name : String) (old : StatefulNode → String)
    (new : String) (store : StatefulNode → StatefulNode) : Do StatefulNode Unit := do
  let n ← read
  broadcast w site ("Changing " ++ name ++ " from " ++ old n ++ " to " ++ new) btype
  update store

section Observe
variable {w : World} {site : Site} {btype : BroadcastType} {name : String} {old : StatefulNode → String}
  {new : String} {store : StatefulNode → StatefulNode} {n : StatefulNode}

theorem observePasses :
    Passes (observe w site btype name old new store) n [(w.broadcast site,n)] () (store n) :=
  passesRead (passesBind broadcastPasses rfl passesUpdate)
end Observe

def setOperationalState (w : World) (value : Option String) : Do StatefulNode Unit :=
  observe w .operationalState .fsmStatusUpdate "operational_state" (fun n => pyStr n.operationalState)
    (pyStr value) (fun n => { n with operationalState := value })

def setOperationalSubState (w : World) (phase : Phase) (value : Option String) : Do StatefulNode Unit :=
  observe w (.subState phase) .fsmStatusUpdate "operational_state" (fun n => pyStr n.operationalSubState)
    (pyStr value) (fun n => { n with operationalSubState := value })

def setIncluded (w : World) (value : Bool) : Do StatefulNode Unit :=
  observe w .inclusionState .statusUpdate "inclusion_state" (fun n => pyBool n.included)
    (pyBool value) (fun n => { n with included := value })

def setInError (w : World) (value : Bool) : Do StatefulNode Unit :=
  observe w .errorState .statusUpdate "error_state" (fun n => pyBool n.inError)
    (pyBool value) (fun n => { n with inError := value })

def includeNode (w : World) : Do StatefulNode Unit := do
  let n ← read
  if n.included then raise .cannotInclude else setIncluded w true

def excludeNode (w : World) : Do StatefulNode Unit := do
  let n ← read
  if !n.included then raise .cannotExclude else setIncluded w false

def toError (w : World) : Do StatefulNode Unit := setInError w true

def getFsmTransition (n : StatefulNode) (transitionName : String) : Except Exn Transition :=
  n.fsm.getTransition transitionName

def decodeArgumentsOf (n : StatefulNode) (fsmCommand : FSMCommand) : Except Exn (Dict String PyObj) := do
  let transition ← n.getFsmTransition fsmCommand.commandName
  decodeFsmArguments fsmCommand.arguments transition.arguments

section Transitions
variable [Re]

def canTransition (n : StatefulNode) (transition : Transition) : Except Exn Bool :=
  if n.operationalState ≠ n.operationalSubState then .ok false
  else canExecuteTransition n.operationalState transition

def executableAmong (sourceState : Option String) : List Transition → Except Exn (List Transition)
  | [] => .ok []
  | tr :: rest => do
      let can ← canExecuteTransition sourceState tr
      let others ← executableAmong sourceState rest
      .ok (if can then tr :: others else others)

def getFsmTransitions (n : StatefulNode) : Except Exn (List Transition) :=
  executableAmong n.operationalState n.fsm.transitions

def getAllFsmTransitions (n : StatefulNode) : List Transition := n.fsm.transitions

def label (t : Transition) : Phase → String
  | .preparing => "preparing-" ++ t.name
  | .ready => t.name ++ "-ready"
  | .propagating => "propagating-" ++ t.name
  | .propagated => t.name ++ "-propagated"
  | .executing => "executing-" ++ t.name
  | .terminated => t.name ++ "-terminated"
  | .finalising => "finalising-" ++ t.name
  | .idle => ""

def prepareTransition (w : World) (transition : Transition) (transitionData : JsonText)
    (transitionArgs : Dict String PyObj) : Do StatefulNode JsonText := do
  let n ← read
  if n.operationalState ≠ n.operationalSubState then
    -- `fsme` has no class of this name: looking it up fails
    raise (.attributeError "module 'drunc.fsm.exceptions' has no attribute 'InvalidSubTransition'")
  else
    let can ← lift (canExecuteTransition n.operationalState transition)
    if !can then raise (.invalidTransition transition.str n.operationalState)
    else
      setOperationalSubState w .preparing (some (label transition .preparing))
      let transitionData ←
        execute w .pre (n.fsm.preTransitionSequences transition) transitionData transitionArgs
      setOperationalSubState w .ready (some (label transition .ready))
      pure transitionData

def mark (w : World) (transition : Transition) (before after : Phase) (action : String) :
    Do StatefulNode Unit := do
  let n ← read
  if n.operationalSubState ≠ some (label transition before) then
    raise (.invalidSubTransition n.operationalSubState (label transition before) action)
  else setOperationalSubState w after (some (label transition after))

def propagateTransitionMark (w : World) (transition : Transition) : Do StatefulNode Unit :=
  mark w transition .ready .propagating "propagate_transition"

def finishPropagatingTransitionMark (w : World) (transition : Transition) : Do StatefulNode Unit :=
  mark w transition .propagating .propagated "finish_propagating_transition"

def startTransitionMark (w : World) (transition : Transition) : Do StatefulNode Unit :=
  mark w transition .propagated .executing "start_transition"

def terminateTransitionMark (w : World) (transition : Transition) : Do StatefulNode Unit := do
  mark w transition .executing .terminated "terminate_transition"
  let n ← read
  let destination ← lift (n.fsm.getDestinationState n.operationalState transition)
  setOperationalState w destination

def finaliseTransition (w : World) (transition : Transition) (transitionData : JsonText)
    (transitionArgs : Dict String PyObj) : Do StatefulNode JsonText := do
  mark w transition .terminated .finalising "finalise_transition"
  let n ← read
  let transitionData ←
    execute w .post (n.fsm.postTransitionSequences transition) transitionData transitionArgs
  let n ← read
  setOperationalSubState w .idle n.operationalState
  pure transitionData

end Transitions
end StatefulNode
end Drunc
