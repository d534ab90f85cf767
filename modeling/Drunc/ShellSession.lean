import Drunc.DatalessCommands
import Drunc.Unison
import Drunc.ShellOptions

/-! The shell of a controller, where a user types the commands. Each request of the shell meets
surroundings of its own (`envs`), and what it prints are its events, also where it raises later.
The table of the statuses has a row for each node, below it the rows of its children, in the
order of the statuses; `printers` is what it gets of the children of a node, each under its name
with what adds its rows. The report of an FSM command has a row for each node of the reply; its
third column asks for the flag of the FSM where the flag of the response has the number of the
other enumeration's success. `ProtoText` is what protobuf says of a message as a text. -/
namespace Drunc
open Library (Act Dict)
open Library.Act (read lift emit update raise)
open GRPCDriver (handleResponse handleChildren)

class ProtoText where
  typeName : Payload → String
  statusText : Status → String

/-- Of the two enumerations, the numbers: the first value of an enumeration is zero. -/
class ProtoEnums where
  number : ResponseFlag → Nat
  fsmNumber : FSMResponseFlag → Nat
  apart : Function.Injective number
  fsmApart : Function.Injective fsmNumber
  first : number .executedSuccessfully = 0
  fsmFirst : fsmNumber .fsmExecutedSuccessfully = 0

def DecodedResponse.data {δ : Type} : DecodedResponse δ → Option (DecodedData δ)
  | .mk _ _ _ data _ => data

structure TableRow where
  name : String
  info : String
  state : String
  subState : String
  inError : String
  included : String
  endpoint : String
  deriving DecidableEq, Repr

structure ReportRow where
  name : String
  execution : String
  transition : String
  deriving DecidableEq, Repr

inductive Printed where
  | text (message : String)
  | error (message : String)
  | statusTable (title : String) (rows : List TableRow)
  | report (title : String) (rows : List ReportRow)
  deriving DecidableEq, Repr

def ControllerDriver.executeFsmCommand : Outformat FSMCommandResponse := ⟨"FSMCommandResponse",asFsmCommandResponse⟩

def ControllerDriver.describeFsm : Outformat FSMCommandsDescription := ⟨"FSMCommandsDescription",fun data => match data with
  | .fsmCommandsDescription description => some description
  | _ => none⟩

structure ShellSession (n : Nat) where
  tree : Controller (Tree n)
  asked : Nat

abbrev ShellDo (n : Nat) (α : Type) := Act Printed Exn (ShellSession n) α

namespace GRPCDriver
variable {κ δ : Type}

def unboundResponse : Exn := .other "UnboundLocalError"
  "cannot access local variable 'response' where it is not associated with a value"

/-- An error of the server itself is not rethrown, and there is no response to go on with. -/
def sendCommand (outformat : Outformat δ) (link : Link) (x : Do (Controller κ) Response) (controller : Controller κ) :
    Except Exn (Option (DecodedResponse δ)) × Controller κ :=
  let sent := ChildNode.sendCommand link controller x
  (match sent.1 with
    | .ok response => handleResponse outformat response
    | .error .rpcError => .error unboundResponse
    | .error e => .error e,sent.2)

end GRPCDriver

namespace ShellUtils

def formatBool (b falseIsGood : Bool) : String :=
  let indexTrue := if falseIsGood then "red" else "dark_green"
  let indexFalse := if falseIsGood then "dark_green" else "red"
  if b then "[" ++ indexTrue ++ "]Yes[/]" else "[" ++ indexFalse ++ "]No[/]"

def noAttribute (type name : String) : Exn := .attributeError ("'" ++ type ++ "' object has no attribute '" ++ name ++ "'")

section Given
variable {σ δ : Type}

def matchChildGiven (status : ChildMessage σ) :
    List (Option (ChildMessage δ)) → Except Exn (Option (ChildMessage σ × ChildMessage δ))
  | [] => .ok none
  | none :: _ => .error (noAttribute "NoneType" "name")
  | some description :: rest =>
      if description.name = status.name then do
        checkMessageType description "Description"
        return some (status,description)
      else matchChildGiven status rest

def matchEachGiven (descriptions : List (Option (ChildMessage δ))) :
    List (Option (ChildMessage σ)) → Except Exn (List (ChildMessage σ × ChildMessage δ))
  | [] => .ok []
  | none :: _ => .error (noAttribute "NoneType" "data")
  | some status :: rest => do
      checkMessageType status "Status"
      let child ← matchChildGiven status descriptions
      let children ← matchEachGiven descriptions rest
      return child.toList ++ children

def matchChildrenGiven (statuses : List (Option (ChildMessage σ))) (descriptions : List (Option (ChildMessage δ))) :
    Except Exn (List (ChildMessage σ × ChildMessage δ)) := do
  let children ← matchEachGiven descriptions statuses
  if descriptions.length ≠ children.length then .error malformedCommand
  else .ok children

end Given

def readAttr {δ α : Type} (name : String) (get : δ → α) : Option (DecodedData δ) → Except Exn α
  | some (.decoded message) => .ok (get message)
  | some (.raw _) => .error (noAttribute "Any" name)
  | none => .error (noAttribute "NoneType" name)

def tableRow (pre name : String) (status : Option (DecodedData Status)) (description : Option (DecodedData Description)) :
    Except Exn TableRow := do
  let info ← readAttr "info" (fun d => d.info.getD "") description
  let state ← readAttr "state" Status.state status
  let subState ← readAttr "sub_state" Status.subState status
  let inError ← readAttr "in_error" Status.inError status
  let included ← readAttr "included" Status.included status
  let endpoint ← readAttr "endpoint" (fun d => d.endpoint.getD "") description
  return ⟨pre ++ name,info,state,subState,formatBool inError true,formatBool included false,endpoint⟩

abbrev Printer := DecodedResponse Description → String → Except Exn (List TableRow)

abbrev DescriptionMessage := ChildMessage (DecodedResponse Description)

def descriptionMessage (d : DecodedResponse Description) : DescriptionMessage :=
  ⟨(childMessage ControllerDriver.describe d).name,(childMessage ControllerDriver.describe d).descriptor,d⟩

def addEach (pre : String) : List (ChildMessage Printer × DescriptionMessage) → Except Exn (List TableRow)
  | [] => .ok []
  | child :: rest => do
      let rows ← child.1.data child.2.data pre
      let others ← addEach pre rest
      return rows ++ others

mutual
def addStatusToTable : DecodedResponse Status → Printer
  | .mk name _ _ data children, description, pre => do
      let row ← tableRow pre name data description.data
      let matched ← matchChildrenGiven (printers children) (description.children.map fun d => d.map descriptionMessage)
      let rows ← addEach (pre ++ "  ") matched
      return row :: rows
def printers : List (Option (DecodedResponse Status)) → List (Option (ChildMessage Printer))
  | [] => []
  | none :: rest => none :: printers rest
  | some child :: rest =>
      some ⟨(childMessage ControllerDriver.status child).name,(childMessage ControllerDriver.status child).descriptor,
        addStatusToTable child⟩ :: printers rest
end

end ShellUtils

namespace ShellUtils

def boolToSuccess (flag : Bool) : String := if flag then "[dark_green]success[/]" else "[red]failed[/]"

section Report
variable [ProtoEnums]
open ProtoEnums (number fsmNumber)

mutual
def addToTable : DecodedResponse FSMCommandResponse → String → Except Exn (List ReportRow)
  | .mk name _ flag data children, pre => do
      let transition ←
        if number flag = fsmNumber .fsmExecutedSuccessfully then
          (readAttr "flag" FSMCommandResponse.flag data).map fun fsmFlag =>
            boolToSuccess (fsmNumber fsmFlag = fsmNumber .fsmExecutedSuccessfully)
        else .ok "[red]failed[/]"
      let rows ← addChildren children ("  " ++ pre)
      return ⟨pre ++ name,boolToSuccess (number flag = number .executedSuccessfully),transition⟩ :: rows
def addChildren : List (Option (DecodedResponse FSMCommandResponse)) → String → Except Exn (List ReportRow)
  | [], _ => .ok []
  | none :: _, _ => .error (noAttribute "NoneType" "name")
  | some response :: rest, pre => do
      let rows ← addToTable response pre
      let others ← addChildren rest pre
      return rows ++ others
end

end Report
end ShellUtils

theorem Tree.readsKeep [Re] {n : Nat} {env : Surrounded} (command : Command)
    (reads : (Controller.endpoint command).action = .read) (request : Request) (root : Controller (Tree n)) :
    (Tree.handle env command request root).state = root :=
  Controller.readsKeep reads root fun _ child => Tree.describesKeep env child

namespace ShellContext
variable {n : Nat} {δ : Type}

def statusNotGot (dataType : String) : String :=
  "Could not get the status of the controller, got a '" ++ dataType ++ "' instead"

def statusSummary (state : String) (availableActions : List String) : String :=
  "Current FSM status is [green]" ++ state ++ "[/green]. Available transitions are [green]" ++
    "[/green], [green]".intercalate availableActions ++ "[/green]."

def dataOf : Option (DecodedResponse δ) → Except Exn (Option (DecodedData δ))
  | none => .error (ShellUtils.noAttribute "NoneType" "data")
  | some response => .ok response.data

variable [Re] (envs : Nat → Surrounded) (token : Token)

def request (outformat : Outformat δ) (command : Command) (data : Option Payload) : ShellDo n (Option (DecodedResponse δ)) :=
  fun s =>
    let env := envs s.asked
    let sent := GRPCDriver.sendCommand outformat (env []).link (Tree.handle env command ⟨token,data⟩) s.tree
    ⟨sent.1,⟨sent.2,s.asked+1⟩,[]⟩

variable {envs token}

theorem requestBind {α : Type} {outformat : Outformat δ} {command : Command} {data : Option Payload} {s : ShellSession n}
    {r : Response} {d : Option (DecodedResponse δ)} (f : Option (DecodedResponse δ) → ShellDo n α)
    (up : (envs s.asked []).link = .up) (replied : (Tree.handle (envs s.asked) command ⟨token,data⟩ s.tree).result = .ok r)
    (handled : handleResponse outformat r = .ok d) : (request envs token outformat command data >>= f) s =
      f d ⟨(Tree.handle (envs s.asked) command ⟨token,data⟩ s.tree).state,s.asked+1⟩ := by
  have sent : GRPCDriver.sendCommand outformat (envs s.asked []).link (Tree.handle (envs s.asked) command ⟨token,data⟩) s.tree =
      (.ok d,(Tree.handle (envs s.asked) command ⟨token,data⟩ s.tree).state) := by
    unfold GRPCDriver.sendCommand
    rw [ChildNode.sendCommandUp up replied,← handled]
  have ran : request envs token outformat command data s =
      ⟨.ok d,⟨(Tree.handle (envs s.asked) command ⟨token,data⟩ s.tree).state,s.asked+1⟩,[]⟩ := by
    unfold request
    dsimp only
    rw [sent]
  rw [Act.bindOk (show (request envs token outformat command data s).result = .ok d by rw [ran]),ran,Act.afterNil]

variable (envs token)

variable [ProtoText]

def printStatusSummary : ShellDo n Unit := do
  let response ← request envs token ControllerDriver.status .status none
  let data ← lift (dataOf response)
  -- the first thing that is read of it is `in_error`
  let status ← lift (ShellUtils.readAttr "in_error" id data)
  if status.inError then
    emit (.text ("[red] FSM is in error (" ++ ProtoText.statusText status ++ ")[/red], not currently accepting new commands."))
  else do
    let described ← request envs token ControllerDriver.describeFsm .describeFsm (some (.plainText ""))
    let data ← lift (dataOf described)
    let commands ← lift (ShellUtils.readAttr "commands" FSMCommandsDescription.commands data)
    emit (.text (statusSummary status.state (commands.map fun command => command.name.map ShellUtils.hyphened)))

def printStatusTable (statuses : Option (DecodedResponse Status)) (descriptions : Option (DecodedResponse Description)) :
    ShellDo n Unit :=
  match statuses with
  | none => pure ()
  | some statuses => match statuses.data with
    | some (.raw data) => emit (.text (statusNotGot (ProtoText.typeName data)))
    | none => emit (.text (statusNotGot "<class 'NoneType'>"))
    | some (.decoded _) => match descriptions with
      | none => raise (ShellUtils.noAttribute "NoneType" "data")
      | some descriptions => do
          let session ← lift (ShellUtils.readAttr "session" (fun d => d.session.getD "") descriptions.data)
          let rows ← lift (ShellUtils.addStatusToTable statuses descriptions "")
          emit (.statusTable ("[dark_green]" ++ session ++ "[/dark_green] status") rows)
          printStatusSummary envs token

def status : ShellDo n Unit := do
  let statuses ← request envs token ControllerDriver.status .status none
  let descriptions ← request envs token ControllerDriver.describe .describe none
  printStatusTable envs token statuses descriptions

variable [Builtins] [DruncSchema] [ProtoEnums]

def isArgumentException : Exn → Bool
  | .drunc name _ => name ∈ ["MissingArgument","DuplicateArgument","InvalidArgumentType","UnhandledArgumentType"]
  | _ => false

/-- The end of `run_one_fsm_command`, from where the arguments are formatted. -/
def sendFsmCommand (transitionName : String) (arguments : Dict String ArgumentValue) : ShellDo n Unit := do
  let result ← request envs token ControllerDriver.executeFsmCommand .executeFsmCommand
    (some (.fsmCommand ⟨transitionName,arguments,[],.empty⟩))
  match result with
  | none => pure ()
  | some result => do
      let rows ← lift (ShellUtils.addToTable result "")
      emit (.report (transitionName ++ " execution report") rows)
      status envs token

def runOneFsmCommand (controllerName transitionName : String) (kwargs : Dict String PyObj) : ShellDo n Unit := do
  emit (.text ("Running transition '" ++ transitionName ++ "' on controller '" ++ controllerName ++ "'"))
  let described ← request envs token ControllerDriver.describeFsm .describeFsm (some (.plainText ""))
  let data ← lift (dataOf described)
  let commands ← lift (ShellUtils.readAttr "commands" FSMCommandsDescription.commands data)
  match ShellUtils.searchFsmCommand transitionName commands with
  | none => emit (.error ("Command \"" ++ transitionName ++ "\" does not exist, or is not accessible right now"))
  | some commandDesc =>
    match (validateAndFormatFsmArguments commandDesc.arguments kwargs).result with
    | .error e => if isArgumentException e then emit (.text e.text) else raise e
    | .ok arguments => sendFsmCommand envs token transitionName arguments

end ShellContext
end Drunc
