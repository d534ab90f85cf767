import Drunc.Fsm
import Drunc.Decorators

/-! The process manager that launches its processes over ssh. What it launched is in one
dictionary, what it was asked to boot in another; both are keyed by uuid, and a lookup
that fails leaves its mark. `Machines` has the processes and hosts during one request: a
process has a number of its own, a launch is told by the place of its host among the
allowed ones, and each point of the code that asks whether a process is alive asks at
most once about a process in one request. The endpoints are those without the logs and
the self-description; an implementation (`bootImpl`) is what its endpoint packs. -/
namespace Drunc
open Library (Dict)
open Library.Act

inductive Signal where
  | sigquit | sigkill
  deriving DecidableEq, Repr

inductive LivenessCheck where
  | beforeKill
  | beforeSignal (sig : Signal)
  | afterSignal (sig : Signal)
  | afterKill
  | booted
  | restart
  | ps
  | psStatus
  | flushCode
  | flush
  | flushStatus
  deriving DecidableEq, Repr

structure Machines where
  isAlive : LivenessCheck → Nat → Except Exn Bool
  signalGroup : Signal → Nat → Except Exn Unit
  terminate : Nat → Except Exn Unit
  exitCode : Nat → Except Exn (Option Int)
  ssh : Nat → List String → Except Exn Nat
  watch : Nat → Nat → Except Exn Unit
  uuid4 : String

structure SSHProcessManager where
  name : String
  processStore : Dict String Nat
  bootRequest : Dict String BootRequest

inductive ManagerCommand where
  | boot | terminate | restart | kill | ps | flush
  deriving DecidableEq, Repr

def ProcessDescription.empty : ProcessDescription := ⟨⟨"","","","",""⟩,[],[],"",""⟩

def ProcessInstance.unknown (uuid : String) : ProcessInstance := ⟨ProcessDescription.empty,⟨[]⟩,.dead,none,uuid⟩

namespace BootRequest

def userHost (br : BootRequest) (host : String) : String :=
  if br.processDescription.metadata.user = "" then host else br.processDescription.metadata.user ++ "@" ++ host

def exports (br : BootRequest) : String :=
  String.intercalate ";" (br.processDescription.env.map fun (n,v) => "export " ++ n ++ "=\"" ++ v ++ "\"")

def commandLine (br : BootRequest) : String :=
  let cmd := "echo \"SSHPM: Starting process $$ on host $HOSTNAME as user $USER\";" ++
    (if br.exports = "" then "" else br.exports ++ ";") ++
    "cd " ++ br.processDescription.processExecutionDirectory ++ " ; " ++
    String.join (br.processDescription.executableAndArguments.map fun exeArg =>
      exeArg.exec ++ String.join (exeArg.args.map (" " ++ ·)) ++ ";")
  -- the last semicolon, of the last executable, is cut off
  if cmd.endsWith ";" then String.ofList cmd.toList.dropLast else cmd

def sshArguments (br : BootRequest) (host : String) : List String :=
  [br.userHost host,"-tt","-o StrictHostKeyChecking=no",
    "\x7b " ++ br.commandLine ++ " ; \x7d &> " ++ br.processDescription.processLogsPath]

def withHostname (br : BootRequest) (hostname : String) : BootRequest :=
  { br with processDescription := { br.processDescription with
      metadata := { br.processDescription.metadata with hostname := hostname } } }

end BootRequest

namespace SSHProcessManager

def lookup {ν : Type} (dict : SSHProcessManager → Dict String ν) (uuid : String) : Do SSHProcessManager ν := do
  let pm ← read
  match (dict pm).get? uuid with
  | some v => pure v
  | none => do
      emit (.missingKey uuid)
      raise (.keyError uuid)

def deleteProcess (uuid : String) : Do SSHProcessManager Unit := do
  let _ ← lookup processStore uuid
  update fun pm => { pm with processStore := pm.processStore.erase uuid }

def deleteBootRequest (uuid : String) : Do SSHProcessManager Unit := do
  let _ ← lookup bootRequest uuid
  update fun pm => { pm with bootRequest := pm.bootRequest.erase uuid }

def storeProcess (uuid : String) (process : Nat) : Do SSHProcessManager Unit :=
  update fun pm => { pm with processStore := pm.processStore.set uuid process }

def storeBootRequest (uuid : String) (br : BootRequest) : Do SSHProcessManager Unit :=
  update fun pm => { pm with bootRequest := pm.bootRequest.set uuid br }

section Selection
variable [Re]

def anyFound (name : String) : List String → Except Exn Bool
  | [] => .ok false
  | nameReg :: rest => match Re.compile nameReg with
    | none => .error (.reError nameReg)
    | some pattern => do
        let others ← anyFound name rest
        .ok (pattern.reSearch name || others)

def accepted (query : ProcessQuery) (uuid : String) (metadata : ProcessMetadata) : Except Exn Bool := do
  let named ← anyFound metadata.name query.names
  .ok (decide (uuid ∈ query.uuids) || named || query.session == metadata.session || query.user == metadata.user)

def selectAmong (query : ProcessQuery) : List String → Do SSHProcessManager (List String)
  | [] => pure []
  | uuid :: rest => do
      let request ← lookup bootRequest uuid
      let chosen ← lift (accepted query uuid request.processDescription.metadata)
      let others ← selectAmong query rest
      pure (if chosen then uuid :: others else others)

def getProcessUid (query : ProcessQuery) (inBootRequest : Bool) : Do SSHProcessManager (List String) := do
  let pm ← read
  selectAmong query (if inBootRequest then pm.bootRequest.keys else pm.processStore.keys)

end Selection

def ensureOneProcess (uuids : List String) (inBootRequest : Bool) : Do SSHProcessManager String := do
  let pm ← read
  match uuids with
  | [] => raise (.badQuery "The process corresponding to the query doesn't exist")
  | [uuid] =>
      if inBootRequest then
        if uuid ∈ pm.bootRequest.keys then pure uuid
        else raise (.badQuery ("Couldn't find the process corresponding to the UUID " ++ uuid ++ " in the boot requests"))
      else
        if uuid ∈ pm.processStore.keys then pure uuid
        else raise (.badQuery ("Couldn't find the process corresponding to the UUID " ++ uuid ++ " in the process store"))
  | _ => raise (.badQuery "There are more than 1 processes corresponding to the query")

section Operations
variable (m : Machines)

def exitCode (process : Nat) : Option Int :=
  match m.exitCode process with
  | .ok code => code
  | .error _ => none

def instanceOf (request : BootRequest) (uuid : String) (statusCode : StatusCode) (returnCode : Option Int) :
    ProcessInstance :=
  ⟨request.processDescription,request.processRestriction,statusCode,returnCode,uuid⟩

def sendSignals (process : Nat) : List Signal → Do SSHProcessManager Unit
  | [] => pure ()
  | sig :: rest => do
      if ← lift (m.isAlive (.beforeSignal sig) process) then
        lift (m.signalGroup sig process)
        if ← lift (m.isAlive (.afterSignal sig) process) then sendSignals process rest

def stopProcess (process : Nat) : Do SSHProcessManager Unit := do
  if ← lift (m.isAlive .beforeKill process) then sendSignals m process [.sigquit,.sigkill]

def killProcess (uuid : String) : Do SSHProcessManager ProcessInstance := do
  let process ← lookup processStore uuid
  let request ← lookup bootRequest uuid
  stopProcess m process
  let alive ← lift (m.isAlive .afterKill process)
  let returnCode := if alive then none else exitCode m process
  deleteProcess uuid
  pure (instanceOf request uuid .dead returnCode)

def killProcesses (uuids : List String) : Do SSHProcessManager (List ProcessInstance) := each (killProcess m) uuids

def terminateImpl : Do SSHProcessManager (List ProcessInstance) := do
  let pm ← read
  killProcesses m pm.processStore.keys

def tryHosts (br : BootRequest) (uuid : String) : Nat → String → List String → Do SSHProcessManager String
  | _, hostname, [] => pure hostname
  | i, _, host :: rest =>
      match m.ssh i (br.sshArguments host) with
      | .error _ => tryHosts br uuid (i+1) host rest
      | .ok process => do
          emit (.launched uuid process)
          storeProcess uuid process
          match m.watch i process with
          -- the process stays in the store, also when the next host is tried
          | .error _ => tryHosts br uuid (i+1) host rest
          | .ok () => pure host

def bootedStatus (process : Nat) : StatusCode × Option Int :=
  match m.isAlive .booted process with
  | .ok true => (.running,none)
  | .ok false => (.dead,exitCode m process)
  | .error _ => (.dead,none)

def boot (br : BootRequest) (uuid : String) : Do SSHProcessManager ProcessInstance := do
  let pm ← read
  if br.processRestriction.allowedHosts = [] then raise (.commandException "No allowed host provided! bailing")
  else if uuid ∈ pm.bootRequest.keys then raise (.commandException ("Process " ++ uuid ++ " already exists!"))
  else
    storeBootRequest uuid br
    let hostname ← tryHosts m br uuid 0 "" br.processRestriction.allowedHosts
    let request ← lookup bootRequest uuid
    let request := request.withHostname hostname
    storeBootRequest uuid request
    let pm ← read
    match pm.processStore.get? uuid with
    | none => pure (instanceOf request uuid .dead none)
    | some process => pure (instanceOf request uuid (bootedStatus m process).1 (bootedStatus m process).2)

def bootImpl (br : BootRequest) : Do SSHProcessManager ProcessInstance := boot m br m.uuid4

section Queries
variable [Re]

def terminateProcess (uuid : String) : Do SSHProcessManager Unit := do
  let pm ← read
  match pm.processStore.get? uuid with
  | some process => if ← lift (m.isAlive .restart process) then lift (m.terminate process)
  | none => pure ()

def restartImpl (query : ProcessQuery) : Do SSHProcessManager ProcessInstance := do
  let uuids ← getProcessUid query true
  let uuid ← ensureOneProcess uuids true
  let sameUuidBr ← lookup bootRequest uuid
  terminateProcess m uuid
  -- raises where the process was killed or never started
  deleteProcess uuid
  deleteBootRequest uuid
  boot m sameUuidBr uuid

def killImpl (query : ProcessQuery) : Do SSHProcessManager (List ProcessInstance) := do
  let pm ← read
  if pm.processStore.entries = [] then pure []
  else
    let uuids ← getProcessUid query false
    killProcesses m uuids

def psOne (uuid : String) : Do SSHProcessManager ProcessInstance := do
  let pm ← read
  match pm.processStore.get? uuid with
  | none => do
      emit (.unknownUuid uuid)
      pure (.unknown uuid)
  | some process => do
      let request ← lookup bootRequest uuid
      let alive ← lift (m.isAlive .ps process)
      let returnCode := if alive then none else exitCode m process
      let still ← lift (m.isAlive .psStatus process)
      pure (instanceOf request uuid (if still then .running else .dead) returnCode)

def psImpl (query : ProcessQuery) : Do SSHProcessManager (List ProcessInstance) := do
  let uuids ← getProcessUid query false
  each (psOne m) uuids

def flushOne (uuid : String) : Do SSHProcessManager (List ProcessInstance) := do
  let pm ← read
  match pm.bootRequest.get? uuid with
  | none => do
      emit (.unknownUuid uuid)
      pure [.unknown uuid]
  | some request => do
      let returnCode := (pm.processStore.get? uuid).bind fun process =>
        match m.isAlive .flushCode process with
        | .ok false => exitCode m process
        | _ => none
      let process ← lookup processStore uuid
      if ← lift (m.isAlive .flush process) then pure []
      else
        let still ← lift (m.isAlive .flushStatus process)
        deleteProcess uuid
        pure [instanceOf request uuid (if still then .running else .dead) returnCode]

def flushImpl (query : ProcessQuery) : Do SSHProcessManager (List ProcessInstance) := do
  let uuids ← getProcessUid query false
  let gone ← each (flushOne m) uuids
  pure gone.flatten

end Queries
end Operations

def asBootRequest : Payload → Option BootRequest
  | .bootRequest request => some request
  | _ => none

def asProcessQuery : Payload → Option ProcessQuery
  | .processQuery query => some query
  | _ => none

def endpoint (command : ManagerCommand) : Endpoint :=
  match command with
  | .boot => ⟨"boot",.create,.processManager⟩
  | .terminate => ⟨"terminate",.delete,.processManager⟩
  | .restart => ⟨"restart",.delete,.processManager⟩
  | .kill => ⟨"kill",.delete,.processManager⟩
  | .ps => ⟨"ps",.read,.processManager⟩
  | .flush => ⟨"flush",.delete,.processManager⟩

def packed {α : Type} (pack : α → Payload) (impl : Do SSHProcessManager α) : Do SSHProcessManager Response := do
  let resp ← impl
  let pm ← read
  pure ⟨pm.name,none,some (pack resp),.executedSuccessfully,[]⟩

variable [Re]

def handle (w : World) (m : Machines) (isAuthorised : Token → ActionType → SystemType → String → Bool)
    (command : ManagerCommand) (request : Request) : Do SSHProcessManager Response := do
  let pm ← read
  let obj : Servicer := ⟨pm.name,"SSHProcessManager",isAuthorised⟩
  let boots := unpackTo "BootRequest" asBootRequest
  let queries := unpackTo "ProcessQuery" asProcessQuery
  match command with
  | .boot => stack obj (endpoint .boot) w boots (fun br _ => packed .processInstance (bootImpl m br)) request
  | .terminate =>
      stack obj (endpoint .terminate) w unpackNone (fun _ _ => packed .processInstanceList (terminateImpl m)) request
  | .restart => stack obj (endpoint .restart) w queries (fun q _ => packed .processInstance (restartImpl m q)) request
  | .kill => stack obj (endpoint .kill) w queries (fun q _ => packed .processInstanceList (killImpl m q)) request
  | .ps => stack obj (endpoint .ps) w queries (fun q _ => packed .processInstanceList (psImpl m q)) request
  | .flush => stack obj (endpoint .flush) w queries (fun q _ => packed .processInstanceList (flushImpl m q)) request

end SSHProcessManager
end Drunc
