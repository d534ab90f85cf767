import Drunc.Replies

/-! The children of a controller. A child without a server of its own keeps its
state on the side of its parent, which assumes that it follows the FSM; behind a
REST child there is an application, behind a gRPC child another controller. A
child that was built without an FSM configuration has no `fsm`, and one that is no
REST child no `commander`; `dunedaqSession` is what the environment holds under that name. An `Application` is what one command meets: what sending
raises, what comes back within the time, and whether it can be reached at all. A
call to a controller goes through, is not delivered, or is delivered with its reply
lost (`Link`); an exception that the server did not answer for is a plain RPC error
to its caller. -/
namespace Drunc
open Library (Dict)
open Library.Act

structure ClientSideState where
  executingCommand : Bool
  assumedOperationalState : Option String
  included : Bool
  errored : Bool
  deriving DecidableEq, Repr

def ClientSideState.init : ClientSideState := ⟨false,some "initial",true,false⟩

structure ClientSideChild where
  name : String
  fsm : Option FSM
  state : ClientSideState
  configuration : Option NodeConfiguration := none
  endpoint : Option String := none
  dunedaqSession : Option String := none

def ClientSideChild.init (name : String) (fsm : Option FSM) : ClientSideChild := { name, fsm, state := ClientSideState.init }

structure AppReply where
  success : Option Bool
  result : Option String
  text : String

structure Application where
  send : Option Exn
  reply : Except Exn AppReply
  pings : Bool

namespace ClientSideChild

def setState (f : ClientSideState → ClientSideState) : Do ClientSideChild Unit :=
  update fun child => { child with state := f child.state }

def executingCommandMark : Do ClientSideChild Unit := setState fun s => { s with executingCommand := true }
def endCommandExecutionMark : Do ClientSideChild Unit := setState fun s => { s with executingCommand := false }
def newOperationalState (newState : Option String) : Do ClientSideChild Unit :=
  setState fun s => { s with assumedOperationalState := newState }
def includeChild : Do ClientSideChild Unit := setState fun s => { s with included := true }
def excludeChild : Do ClientSideChild Unit := setState fun s => { s with included := false }
def toError : Do ClientSideChild Unit := setState fun s => { s with errored := true }

def respond (child : ClientSideChild) (token : Token) (data : Option Payload) (flag : ResponseFlag) : Response :=
  ⟨child.name,some token,data,flag,[]⟩

def fsmResponse (child : ClientSideChild) (token : Token) (fsmCommand : FSMCommand) (flag : FSMResponseFlag)
    (text : Option String) : Response :=
  child.respond token (some (.fsmCommandResponse ⟨flag,fsmCommand.commandName,text⟩)) .executedSuccessfully

def getFsm (child : ClientSideChild) : Except Exn FSM :=
  match child.fsm with
  | some fsm => .ok fsm
  | none => .error (.attributeError "object has no attribute 'fsm'")

def typeAndName (configuration : NodeConfiguration) : Option String × Option String :=
  match configuration.applicationName, configuration.controller with
  | some applicationName, _ => (some applicationName,some configuration.id)
  | none, some (applicationName,id) => (some applicationName,some id)
  | none, none => (none,none)

def description (child : ClientSideChild) : Description :=
  let (type,name) := (child.configuration.map typeAndName).getD (none,none)
  ⟨type,name,child.endpoint,child.configuration.bind getDetectorName,child.dunedaqSession,[],none⟩

def describe (child : ClientSideChild) (token : Token) : Response :=
  child.respond token (some (.description child.description)) .executedSuccessfully

variable [Re]

def propagateFsmCommand (fsmCommand : FSMCommand) (token : Token) : Do ClientSideChild Response := do
  let child ← read
  let fsm ← lift child.getFsm
  let transition ← lift (fsm.getTransition fsmCommand.commandName)
  let exitState ← lift (fsm.getDestinationState child.state.assumedOperationalState transition)
  executingCommandMark
  endCommandExecutionMark
  newOperationalState exitState
  pure (child.fsmResponse token fsmCommand .fsmExecutedSuccessfully (some "successful"))

def exchange (app : Application) (data : JsonText) (entryState exitState : Option String) :
    Except Exn (AppReply × Bool) := do
  let _ ← loads data
  match entryState, exitState with
  | some _, some _ =>
    match app.send with
    | some e => .error e
    | none => do
      let r ← app.reply
      match r.success, r.result with
      | none, _ => .error (.keyError "success")
      | some true, _ => .ok (r,true)
      | some false, some _ => .ok (r,false)
      | some false, none => .error (.keyError "result")
  | _, _ => .error (.attributeError "'NoneType' object has no attribute 'upper'")

def propagateToApplication (app : Application) (fsmCommand : FSMCommand) (token : Token) :
    Do ClientSideChild Response := do
  let child ← read
  let fsm ← lift child.getFsm
  let transition ← lift (fsm.getTransition fsmCommand.commandName)
  let exitState ← lift (fsm.getDestinationState child.state.assumedOperationalState transition)
  executingCommandMark
  match exchange app fsmCommand.data child.state.assumedOperationalState exitState with
  -- the mark of the execution is left where the application did not succeed
  | .error e => do
      toError
      raise e
  | .ok (r,false) => do
      toError
      pure (child.fsmResponse token fsmCommand .fsmFailed (some r.text))
  | .ok (r,true) => do
      endCommandExecutionMark
      newOperationalState exitState
      pure (child.fsmResponse token fsmCommand .fsmExecutedSuccessfully (some r.text))

def fsmCommandOf : Option Payload → Except Exn FSMCommand
  | some (.fsmCommand fsmCommand) => .ok fsmCommand
  | _ => .error (.attributeError "'NoneType' object has no attribute 'command_name'")

def propagateCommand (execute : FSMCommand → Token → Do ClientSideChild Response) (command : Command)
    (data : Option Payload) (token : Token) : Do ClientSideChild Response := do
  let child ← read
  match command with
  | .exclude => do
      excludeChild
      pure (child.respond token (some (.plainText ("'" ++ child.name ++ "' excluded"))) .executedSuccessfully)
  | .include => do
      includeChild
      pure (child.respond token (some (.plainText ("'" ++ child.name ++ "' included"))) .executedSuccessfully)
  | _ =>
    if !child.state.included then do
      let fsmCommand ← lift (fsmCommandOf data)
      pure (child.fsmResponse token fsmCommand .fsmNotExecutedExcluded none)
    else match command with
      | .executeFsmCommand => do
          let fsmCommand ← lift (fsmCommandOf data)
          execute fsmCommand token
      | .describe => pure (child.describe token)
      | _ => pure (child.respond token none .notExecutedNotImplemented)

def getStatus (app : Option Application) (child : ClientSideChild) : Except Exn Response := do
  let inError ←
    if child.state.errored then .ok true
    else match app with
      | some app => .ok !app.pings
      | none => .error (.attributeError "object has no attribute 'commander'")
  .ok ⟨child.name,none,some (.status ⟨child.state.assumedOperationalState.getD "",
    if child.state.executingCommand then "executing_cmd" else "idle",inError,child.state.included⟩),
    .executedSuccessfully,[]⟩

end ClientSideChild

inductive Link where
  | up | unreachable | replyLost
  deriving DecidableEq, Repr

structure Surroundings where
  world : World
  link : Link
  application : Application

inductive ChildNode (κ : Type) where
  | clientSide (child : ClientSideChild)
  | restApi (child : ClientSideChild)
  | grpc (name : String) (controller : Controller κ)

namespace ChildNode
variable {κ : Type}

def name : ChildNode κ → String
  | .clientSide child => child.name
  | .restApi child => child.name
  | .grpc name _ => name

def sendCommand (link : Link) (controller : Controller κ) (x : Do (Controller κ) Response) :
    Except Exn Response × Controller κ :=
  match link, (x controller).result with
  | .unreachable, _ => (.error .serverUnreachable,controller)
  | .replyLost, _ => (.error .serverUnreachable,(x controller).state)
  | .up, .error _ => (.error .rpcError,(x controller).state)
  | .up, .ok response => (.ok response,(x controller).state)

theorem sendCommandOk {link : Link} {controller : Controller κ} {x : Do (Controller κ) Response} {r : Response}
    (replied : (sendCommand link controller x).1 = .ok r) :
    link = .up ∧ (x controller).result = .ok r ∧ (sendCommand link controller x).2 = (x controller).state := by
  unfold sendCommand at replied ⊢
  cases link with
  | unreachable => contradiction
  | replyLost => contradiction
  | up =>
    cases result : (x controller).result with
    | error e => rw [result] at replied; contradiction
    | ok response => rw [result] at replied; exact ⟨rfl,replied,rfl⟩

theorem sendCommandUp {link : Link} {controller : Controller κ} {x : Do (Controller κ) Response} {r : Response}
    (up : link = .up) (replied : (x controller).result = .ok r) :
    sendCommand link controller x = (.ok r,(x controller).state) := by
  simp only [sendCommand,up,replied]

theorem sendCommandReached {link : Link} {controller : Controller κ} {x : Do (Controller κ) Response}
    (reached : link ≠ .unreachable) : (sendCommand link controller x).2 = (x controller).state := by
  unfold sendCommand
  cases link with
  | unreachable => contradiction
  | replyLost => rfl
  | up => cases (x controller).result <;> rfl

variable [Re]

def propagateCommand (s : Surroundings) (below : ChildInterface κ) (command : Command) (data : Option Payload)
    (token : Token) : ChildNode κ → Except Exn Response × ChildNode κ
  | .clientSide child =>
      let run := ClientSideChild.propagateCommand ClientSideChild.propagateFsmCommand command data token child
      (run.result,.clientSide run.state)
  | .restApi child =>
      let run := ClientSideChild.propagateCommand (ClientSideChild.propagateToApplication s.application)
        command data token child
      (run.result,.restApi run.state)
  | .grpc name controller =>
      let sent := sendCommand s.link controller (Controller.handle s.world below command ⟨token,data⟩)
      (sent.1,.grpc name sent.2)

def getStatus (s : Surroundings) (below : ChildInterface κ) (token : Token) :
    ChildNode κ → Except Exn (Option Response)
  | .clientSide child => (child.getStatus none).map some
  | .restApi child => (child.getStatus (some s.application)).map some
  | .grpc _ controller =>
      match sendCommand s.link controller (Controller.handle s.world below .status ⟨token,none⟩) with
      | (.ok response,_) => .ok (some response)
      | (.error .rpcError,_) => .ok none
      | (.error e,_) => .error e

end ChildNode
end Drunc
