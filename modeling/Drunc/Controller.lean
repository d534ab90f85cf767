import Drunc.StatefulNode
import Drunc.Decorators
import Drunc.Propagation

/-! The controller: who is in control of it, and its endpoints. The server has
one worker, so requests are handled one after another. `askChildren` runs the
threads until they are all joined. The body of `execute_fsm_command` is cut in
three: up to the answer whether a transition can start (`executeFsmCommand`), to
the end of the transition (`transit`), and what the children's worst flags do to
the node (`carryOut`). `include` and `exclude` share a body, and so do
`take_control` and `surrender_control`. An endpoint is what `unpacked` says,
inside `in_control` where that guards it, inside the authorisation and the
broadcasts (`handle`). A `NodeConfiguration` is what a node reads of its own
object where it describes itself; `controller` is the application name and the id of
the controller in it, if that has an application name. -/
namespace Drunc
open Library (Act Dict)
open Library.Act (raise read update lift zoom)

structure NodeConfiguration where
  applicationName : Option String
  id : String
  controller : Option (String × String)
  contains : List String

def NodeConfiguration.bare (id : String) : NodeConfiguration := ⟨none,id,none,[]⟩

def getDetectorName (configuration : NodeConfiguration) : Option String :=
  configuration.contains.head?.map fun id => (id.replace "-" "_").replace "_" " "

structure Controller (κ : Type) where
  name : String
  session : String
  statefulNode : StatefulNode
  actor : Token
  childrenNodes : List κ
  uri : Option String := some ""
  configuration : NodeConfiguration := .bare name
  broadcastService : Option KafkaBroadcastHandlerConfiguration := none

def asPlainText : Payload → Option String
  | .plainText text => some text
  | _ => none

def asFsmCommand : Payload → Option FSMCommand
  | .fsmCommand command => some command
  | _ => none

def asFsmCommandResponse : Payload → Option FSMCommandResponse
  | .fsmCommandResponse response => some response
  | _ => none

namespace ControllerActor

def compareToken (token1 token2 : Token) : Bool :=
  token1.userName == token2.userName && token1.token == token2.token

def surrenderControl (token : Token) : Do Token (Option Nat) := do
  let actor ← read
  if compareToken actor token then
    update fun _ => Token.unset
    pure none -- returns without a status
  else raise (.cannotSurrenderControl token actor)

def takeControl (token : Token) : Do Token (Option Nat) := do
  update fun _ => token
  pure (some 0)

end ControllerActor

def isAuthorised (_ : Token) (_ : ActionType) (_ : SystemType) (_ : String) : Bool := true

namespace Controller
variable {κ : Type}

def onNode {α : Type} (x : Do StatefulNode α) : Do (Controller κ) α :=
  zoom statefulNode (fun c n => { c with statefulNode := n }) x

def onActor {α : Type} (x : Do Token α) : Do (Controller κ) α :=
  zoom actor (fun c t => { c with actor := t }) x

def servicer (c : Controller κ) : Servicer := ⟨c.name,"Controller",isAuthorised⟩

def respond (c : Controller κ) (token : Option Token) (data : Payload) (flag : ResponseFlag)
    (children : List Response) : Response :=
  ⟨c.name,token,some data,flag,children⟩

def constructErrorNodeResponse (c : Controller κ) (commandName : String) (token : Token)
    (cause : FSMResponseFlag) : Response :=
  c.respond (some token) (.fsmCommandResponse ⟨cause,commandName,none⟩) .executedSuccessfully []

def askChildren (w : World) (kids : ChildInterface κ) (command : Command) (commandData : Option Payload)
    (token : Token) : Do (Controller κ) (List Response) := fun c =>
  ⟨.ok (collected w kids command commandData token c.childrenNodes),
    { c with childrenNodes := childrenAfter w kids command commandData token c.childrenNodes },
    published w kids command commandData token c.childrenNodes⟩

def propagateToList (w : World) (kids : ChildInterface κ) (command : Command) (commandData : Option Payload)
    (token : Token) : Do (Controller κ) (List Response) := do
  broadcast w .propagation ("Propagating " ++ command.name ++ " to children") .commandExecutionStart
  askChildren w kids command commandData token

def worstFlags : List Response → ResponseFlag × FSMResponseFlag → Except Exn (ResponseFlag × FSMResponseFlag)
  | [], worst => .ok worst
  | response :: rest, worst =>
      if response.flag ≠ .executedSuccessfully then worstFlags rest (response.flag,worst.2)
      else match response.data.bind asFsmCommandResponse with
        | some fsmResponse =>
            if fsmResponse.flag ≠ .fsmExecutedSuccessfully then worstFlags rest (worst.1,fsmResponse.flag)
            else worstFlags rest worst
        | none => .error (.unpackingError "FSMCommandResponse")

def commands : List CommandDescription :=
  [⟨"describe",["None"],"Describe self (return a list of commands, the type of endpoint, the name and session).",
      "request_response_pb2.Description"⟩,
    ⟨"status",["None"],"Get the status of self","controller_pb2.Status"⟩,
    ⟨"describe_fsm",["generic_pb2.PlainText","None"],
      "Return a description of the FSM transitions:\n" ++
      "                    if a transition name is provided in its input, return that transition description;\n" ++
      "                    if a state is provided, return the transitions accessible from that state;\n" ++
      "                    if \"all-transitions\" is provided, return all the transitions;\n" ++
      "                    if nothing (None) is provided, return the transitions accessible from the current state.",
      "request_response_pb2.Description"⟩,
    ⟨"execute_fsm_command",["controller_pb2.FSMCommand"],"Execute an FSM command","controller_pb2.FSMCommandResponse"⟩,
    ⟨"include",["None"],"Include self in the current session, if a children is provided, include it and its eventual children",
      "controller_pb2.FSMCommandResponse"⟩,
    ⟨"exclude",["None"],"Exclude self in the current session, if a children is provided, exclude it and its eventual children",
      "controller_pb2.FSMCommandResponse"⟩,
    ⟨"take_control",["None"],"Take control of self and children","generic_pb2.PlainText"⟩,
    ⟨"surrender_control",["None"],"Surrender control of self and children","generic_pb2.PlainText"⟩,
    ⟨"who_is_in_charge",["None"],"Get who is in control of self","generic_pb2.PlainText"⟩]

def description (c : Controller κ) : Description :=
  ⟨some "controller",some c.name,some (c.uri.getD "unknown"),getDetectorName c.configuration,some c.session,commands,
    c.broadcastService⟩

def describe (w : World) (kids : ChildInterface κ) (token : Token) : Do (Controller κ) Response := do
  let c ← read
  let childrenDescription ← propagateToList w kids .describe none token
  pure (c.respond none (.description c.description) .executedSuccessfully childrenDescription)

section Fsm
variable [Re]

def transit (w : World) (kids : ChildInterface κ) (transition : Transition) (fsmCommand : FSMCommand)
    (token : Token) : Do (Controller κ) (List Response × ResponseFlag × FSMResponseFlag) := do
  let c ← read
  let fsmArgs ← lift (c.statefulNode.decodeArgumentsOf fsmCommand)
  let fsmData ← onNode (StatefulNode.prepareTransition w transition fsmCommand.data fsmArgs)
  onNode (StatefulNode.propagateTransitionMark w transition)
  let childrenFsmCommand := { fsmCommand with data := fsmData, childrenNodes := [] }
  let responseChildren ←
    propagateToList w kids .executeFsmCommand (some (.fsmCommand childrenFsmCommand)) token
  let worst ← lift (worstFlags responseChildren (.executedSuccessfully,.fsmExecutedSuccessfully))
  onNode (StatefulNode.finishPropagatingTransitionMark w transition)
  onNode (StatefulNode.startTransitionMark w transition)
  onNode (StatefulNode.terminateTransitionMark w transition)
  let _ ← onNode (StatefulNode.finaliseTransition w transition fsmData fsmArgs)
  pure (responseChildren,worst)

def carryOut (w : World) (kids : ChildInterface κ) (transition : Transition) (fsmCommand : FSMCommand)
    (token : Token) : Do (Controller κ) Response := do
  let (responseChildren,worst) ← transit w kids transition fsmCommand token
  if worst ≠ (.executedSuccessfully,.fsmExecutedSuccessfully) then onNode (StatefulNode.toError w)
  -- self has executed successfully, even if children have not
  let c ← read
  pure (c.respond (some token) (.fsmCommandResponse ⟨.fsmExecutedSuccessfully,fsmCommand.commandName,none⟩)
    .executedSuccessfully responseChildren)

def executeFsmCommand (w : World) (kids : ChildInterface κ) (fsmCommand : FSMCommand) (token : Token) :
    Do (Controller κ) Response := do
  let c ← read
  if c.statefulNode.inError then
    pure (c.constructErrorNodeResponse fsmCommand.commandName token .fsmNotExecutedInError)
  else if !c.statefulNode.included then
    pure (c.constructErrorNodeResponse fsmCommand.commandName token .fsmNotExecutedExcluded)
  else
    let transition ← lift (c.statefulNode.getFsmTransition fsmCommand.commandName)
    let can ← lift (c.statefulNode.canTransition transition)
    if !can then
      -- the message of the log names a method that the node does not have
      raise (.attributeError "'StatefulNode' object has no attribute 'node_operational_state'")
    else carryOut w kids transition fsmCommand token

def transitionsOf (n : StatefulNode) (key : String) : Except Exn (List Transition) :=
  if key = "all-transitions" then .ok n.getAllFsmTransitions
  else if key = "" then n.getFsmTransitions
  else .ok (n.getAllFsmTransitions.flatMap fun transition =>
    (if key = transition.source then [transition] else []) ++
    (if key = transition.name then [transition] else []))

def describeFsm (key : String) : Do (Controller κ) Response := do
  let c ← read
  let transitions ← lift (transitionsOf c.statefulNode key)
  pure (c.respond none
    (.fsmCommandsDescription ⟨"controller",c.name,c.session,convertFsmTransition transitions⟩)
    .executedSuccessfully [])

end Fsm

def changeInclusion (w : World) (kids : ChildInterface κ) (command : Command) (change : Do StatefulNode Unit)
    (changed : String) (token : Token) : Do (Controller κ) Response := do
  let c ← read
  let responseChildren ← propagateToList w kids command none token
  onNode change
  pure (c.respond (some token) (.plainText (c.name ++ " and children " ++ changed)) .executedSuccessfully
    responseChildren)

def includeSelf (w : World) (kids : ChildInterface κ) : Token → Do (Controller κ) Response :=
  changeInclusion w kids .include (StatefulNode.includeNode w) "included"

def excludeSelf (w : World) (kids : ChildInterface κ) : Token → Do (Controller κ) Response :=
  changeInclusion w kids .exclude (StatefulNode.excludeNode w) "excluded"

def childrenAnswered (responses : List Response) : Bool :=
  responses.all fun r => r.flag == .executedSuccessfully || r.flag == .notExecutedNotImplemented

def changeActor (w : World) (kids : ChildInterface κ) (command : Command) (change : Token → Do Token (Option Nat))
    (what : String) (done : Token → Token → String) (token : Token) : Do (Controller κ) Response := do
  let c ← read
  let status ← onActor (change token)
  if status ≠ some 0 then
    pure (c.respond (some token) (.plainText ("Could not " ++ what)) .failed [])
  else
    let responseChildren ← propagateToList w kids command none token
    if !childrenAnswered responseChildren then
      pure (c.respond (some token) (.plainText ("Could not " ++ what ++ " on all children")) .failed responseChildren)
    else
      pure (c.respond (some token) (.plainText (done c.actor token)) .executedSuccessfully responseChildren)

def takeControl (w : World) (kids : ChildInterface κ) : Token → Do (Controller κ) Response :=
  changeActor w kids .takeControl ControllerActor.takeControl "take control"
    (fun _ token => token.userName ++ " took control")

def surrenderControl (w : World) (kids : ChildInterface κ) : Token → Do (Controller κ) Response :=
  changeActor w kids .surrenderControl ControllerActor.surrenderControl "surrender control"
    (fun actor _ => actor.userName ++ " surrendered control")

def whoIsInCharge : Do (Controller κ) Response := do
  let c ← read
  pure (c.respond none (.plainText c.actor.userName) .executedSuccessfully [])

def getStatusMessage (n : StatefulNode) : Except Exn Status :=
  let subState := (n.operationalSubState).getD ""
  if n.operationalState = n.operationalSubState then
    .ok ⟨n.operationalState.getD "",subState,n.inError,n.included⟩
  else match n.operationalState with
    | none => .error (.typeError "unsupported operand type(s) for +=: 'NoneType' and 'str'")
    | some state => .ok ⟨state ++ " (" ++ pyStr n.operationalSubState ++ ")",subState,n.inError,n.included⟩

def childStatuses (kids : ChildInterface κ) (token : Token) : List (Nat × κ) → Except Exn (List Response)
  | [] => .ok []
  | (i,child) :: rest => do
      let response ← kids.getStatus i child token
      let others ← childStatuses kids token rest
      match response with
      | none => .error (.typeError "bad argument type for built-in operation")
      | some r => .ok (r :: others)

def status (kids : ChildInterface κ) (token : Token) : Do (Controller κ) Response := do
  let c ← read
  let message ← lift (getStatusMessage c.statefulNode)
  let children ← lift (childStatuses kids token (c.childrenNodes.mapIdx fun i child => (i,child)))
  pure (c.respond (some token) (.status message) .executedSuccessfully children)

def inControl (cmd : Request → Do (Controller κ) Response) (request : Request) : Do (Controller κ) Response := do
  let c ← read
  if !ControllerActor.compareToken request.token c.actor then
    pure (c.respond (some request.token)
      (.plainText ("User " ++ request.token.userName ++ " is not in control of Controller"))
      .notExecutedNotInControl [])
  else cmd request

def endpoint (command : Command) : Endpoint :=
  ⟨command.name,
    match command with
    | .status | .describe | .describeFsm | .whoIsInCharge => .read
    | .executeFsmCommand | .include | .exclude | .takeControl | .surrenderControl => .update,
    .controller⟩

def guarded : Command → Bool
  | .executeFsmCommand | .include | .exclude | .surrenderControl => true
  | .status | .describe | .describeFsm | .takeControl | .whoIsInCharge => false

variable [Re]

def unpacked (w : World) (kids : ChildInterface κ) (obj : Servicer) (command : Command) (request : Request) :
    Do (Controller κ) Response :=
  match command with
  | .status => unpackRequestDataTo obj unpackNone (fun _ token => status kids token) request
  | .describe => unpackRequestDataTo obj unpackNone (fun _ token => describe w kids token) request
  | .describeFsm =>
      unpackRequestDataTo obj (unpackTo "PlainText" asPlainText) (fun text _ => describeFsm text) request
  | .executeFsmCommand =>
      unpackRequestDataTo obj (unpackTo "FSMCommand" asFsmCommand) (executeFsmCommand w kids) request
  | .include => unpackRequestDataTo obj unpackNone (fun _ token => includeSelf w kids token) request
  | .exclude => unpackRequestDataTo obj unpackNone (fun _ token => excludeSelf w kids token) request
  | .takeControl => unpackRequestDataTo obj unpackNone (fun _ token => takeControl w kids token) request
  | .surrenderControl => unpackRequestDataTo obj unpackNone (fun _ token => surrenderControl w kids token) request
  | .whoIsInCharge => unpackRequestDataTo obj unpackNone (fun _ _ => whoIsInCharge) request

def handle (w : World) (kids : ChildInterface κ) (command : Command) (request : Request) :
    Do (Controller κ) Response := do
  let c ← read
  let obj := c.servicer
  let inner := unpacked w kids obj command
  broadcasted obj (endpoint command) w
    (authentifiedAndAuthorised obj (endpoint command) (if guarded command then inControl inner else inner)) request

end Controller
end Drunc
