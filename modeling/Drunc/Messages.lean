import Drunc.Library.Act
import Drunc.Library.Dict

/-! The messages that the parties exchange, the exceptions of the modelled code
and the Python values that pass through it. A text is kept where the code
compares or returns it, a JSON document by what parsing it gives, a stack trace by
its exception. `PyObj` is what `json.loads` can give, or an `object` that
`json.dumps` refuses. `Exn` lists what the code raises and, under `drunc` and
`other`, what a callback, a child or a library may raise; its text leaves out the
value that an action returned. `Payload` is what a `google.protobuf.Any` holds.
`Command` is an endpoint of the controller. Calls over HTTP are as `requests` makes
them: one gets a response, whose body is JSON, cannot connect, or waits for too long. -/
namespace Drunc

structure Token where
  token : String
  userName : String
  deriving DecidableEq, Repr

def Token.unset : Token := ⟨"",""⟩

inductive ResponseFlag where
  | executedSuccessfully | failed | notExecutedNotImplemented | notExecutedNotInControl
  | notExecutedNotAuthorised | druncExceptionThrown | unhandledExceptionThrown
  | notExecutedBadRequestFormat
  deriving DecidableEq, Repr

def ResponseFlag.protoName : ResponseFlag → String
  | .executedSuccessfully => "EXECUTED_SUCCESSFULLY"
  | .failed => "FAILED"
  | .notExecutedNotImplemented => "NOT_EXECUTED_NOT_IMPLEMENTED"
  | .notExecutedNotInControl => "NOT_EXECUTED_NOT_IN_CONTROL"
  | .notExecutedNotAuthorised => "NOT_EXECUTED_NOT_AUTHORISED"
  | .druncExceptionThrown => "DRUNC_EXCEPTION_THROWN"
  | .unhandledExceptionThrown => "UNHANDLED_EXCEPTION_THROWN"
  | .notExecutedBadRequestFormat => "NOT_EXECUTED_BAD_REQUEST_FORMAT"

inductive FSMResponseFlag where
  | fsmExecutedSuccessfully | fsmFailed | fsmInvalidTransition | fsmNotExecutedExcluded
  | fsmNotExecutedInError
  deriving DecidableEq, Repr

inductive ActionType where
  | create | read | update | delete
  deriving DecidableEq, Repr

inductive SystemType where
  | controller | processManager
  deriving DecidableEq, Repr

inductive BroadcastType where
  | ack | commandExecutionStart | commandExecutionSuccess | statusUpdate | subprocessStatusUpdate
  | debug | childCommandExecutionStart | childCommandExecutionSuccess
  | childCommandExecutionFailed | fsmStatusUpdate
  deriving DecidableEq, Repr

inductive PyObj where
  | none
  | bool (b : Bool)
  | int (n : Int)
  | float (q : Rat)
  | str (s : String)
  | list (items : List PyObj)
  | dict (items : List (String × PyObj))
  | object (repr : String)
  deriving Repr

def pyStr : Option String → String
  | none => "None"
  | some s => s

def pyBool (b : Bool) : String := if b then "True" else "False"

inductive Exn where
  | duplicateTransition (name : String)
  | invalidTransition (transition : String) (state : Option String)
  | missingArgument (param : String) (name : String)
  | invalidDataReturnByFSMAction
  | invalidSubTransition (current : Option String) (expected : String) (action : String)
  | cannotInclude
  | cannotExclude
  | cannotSurrenderControl (token : Token) (actor : Token)
  | unpackingError (format : String)
  | couldnotSendCommand (text : String)
  | responseTimeout (text : String)
  | serverUnreachable
  | badQuery (text : String)
  | commandException (text : String)
  | drunc (name : String) (text : String)
  | indexError
  | keyError (key : String)
  | typeError (text : String)
  | valueError (text : String)
  | attributeError (text : String)
  | reError (pattern : String)
  | rpcError
  | other (name : String) (text : String)
  deriving DecidableEq, Repr

def Exn.isDrunc : Exn → Bool
  | .indexError | .keyError _ | .typeError _ | .valueError _ | .attributeError _ | .reError _
  | .rpcError | .other _ _ => false
  | _ => true

def Exn.text : Exn → String
  | .duplicateTransition name => "Transition \"" ++ name ++ "\" is a duplicate"
  | .invalidTransition transition state =>
      "Transition " ++ transition ++ " is not allowed from the state " ++ pyStr state ++ "."
  | .missingArgument param name =>
      "The mandatory argument \"" ++ param ++ "\" was not provided to the transition " ++ name
  | .invalidDataReturnByFSMAction => "The action returns an incorrect object which isn't serialisable"
  | .invalidSubTransition current expected action =>
      "SubTransition \"" ++ action ++ "\" cannot be executed, state needs to be \"" ++ expected ++
        "\", it is now \"" ++ pyStr current ++ "\""
  | .cannotInclude => "Cannot include node (most likely, it is already included)"
  | .cannotExclude => "Cannot exclude node (most likely, it is already excluded)"
  | .cannotSurrenderControl token actor =>
      "Token " ++ token.userName ++ " cannot release control of " ++ actor.userName
  | .unpackingError format => "Cannot unpack to " ++ format
  | .serverUnreachable => "failed to connect to all addresses"
  | .indexError => "list index out of range"
  | .reError pattern => "bad pattern " ++ pattern
  | .rpcError => "StatusCode.UNKNOWN"
  | .keyError text | .couldnotSendCommand text | .responseTimeout text | .badQuery text
  | .commandException text | .typeError text | .valueError text | .attributeError text
  | .drunc _ text | .other _ text => text

def exceptionFlag (e : Exn) : ResponseFlag :=
  if e.isDrunc then .druncExceptionThrown else .unhandledExceptionThrown

mutual
def PyObj.serialisable : PyObj → Bool
  | .list items => PyObj.serialisableItems items
  | .dict items => PyObj.serialisableFields items
  | .object _ => false
  | _ => true
def PyObj.serialisableItems : List PyObj → Bool
  | [] => true
  | x :: xs => x.serialisable && PyObj.serialisableItems xs
def PyObj.serialisableFields : List (String × PyObj) → Bool
  | [] => true
  | (_,x) :: xs => x.serialisable && PyObj.serialisableFields xs
end

inductive JsonText where
  | empty
  | malformed (text : String)
  | json (value : { v : PyObj // v.serialisable = true })

def dumps (value : PyObj) : Except Exn JsonText :=
  if ok : value.serialisable = true then .ok (.json ⟨value,ok⟩)
  else .error (.typeError "Object is not JSON serializable")

def loads : JsonText → Except Exn PyObj
  | .empty => .error (.valueError "Expecting value")
  | .malformed _ => .error (.valueError "Expecting value")
  | .json value => .ok value

theorem dumpsLoaded {value : PyObj} (ok : value.serialisable = true) : dumps value = .ok (.json ⟨value,ok⟩) :=
  dif_pos ok

inductive ArgumentValue where
  | intMsg (value : Int)
  | floatMsg (value : Rat)
  | stringMsg (value : String)
  | boolMsg (value : Bool)
  | other (typeUrl : String)
  deriving DecidableEq, Repr

structure FSMCommand where
  commandName : String
  arguments : Library.Dict String ArgumentValue
  childrenNodes : List String
  data : JsonText

structure FSMCommandResponse where
  flag : FSMResponseFlag
  commandName : String
  data : Option String
  deriving DecidableEq, Repr

structure Status where
  state : String
  subState : String
  inError : Bool
  included : Bool
  deriving DecidableEq, Repr

inductive Presence where
  | mandatory | optional
  deriving DecidableEq, Repr

inductive ArgumentType where
  | int | float | string | bool
  deriving DecidableEq, Repr

structure Argument where
  name : String
  presence : Presence
  type : ArgumentType
  defaultValue : Option ArgumentValue
  deriving DecidableEq, Repr

structure FSMCommandDescription where
  name : String
  dataType : List String
  help : String
  returnType : String
  arguments : List Argument
  deriving DecidableEq, Repr

structure FSMCommandsDescription where
  type : String
  name : String
  session : String
  commands : List FSMCommandDescription
  deriving DecidableEq, Repr

structure CommandDescription where
  name : String
  dataType : List String
  help : String
  returnType : String
  deriving DecidableEq, Repr

structure KafkaBroadcastHandlerConfiguration where
  topic : String
  kafkaAddress : String
  deriving DecidableEq, Repr

structure Description where
  type : Option String
  name : Option String
  endpoint : Option String
  info : Option String
  session : Option String
  commands : List CommandDescription
  broadcast : Option KafkaBroadcastHandlerConfiguration
  deriving DecidableEq, Repr

structure ProcessMetadata where
  name : String
  user : String
  session : String
  hostname : String
  treeId : String
  deriving DecidableEq, Repr

structure ExecAndArgs where
  exec : String
  args : List String
  deriving DecidableEq, Repr

structure ProcessDescription where
  metadata : ProcessMetadata
  env : List (String × String)
  executableAndArguments : List ExecAndArgs
  processExecutionDirectory : String
  processLogsPath : String
  deriving DecidableEq, Repr

structure ProcessRestriction where
  allowedHosts : List String
  deriving DecidableEq, Repr

structure BootRequest where
  processDescription : ProcessDescription
  processRestriction : ProcessRestriction
  deriving DecidableEq, Repr

structure ProcessQuery where
  names : List String
  user : String
  session : String
  uuids : List String
  deriving DecidableEq, Repr

inductive StatusCode where
  | running | dead
  deriving DecidableEq, Repr

structure ProcessInstance where
  processDescription : ProcessDescription
  processRestriction : ProcessRestriction
  statusCode : StatusCode
  returnCode : Option Int
  uuid : String
  deriving DecidableEq, Repr

inductive Payload where
  | plainText (text : String)
  | fsmCommand (command : FSMCommand)
  | fsmCommandResponse (response : FSMCommandResponse)
  | fsmCommandsDescription (description : FSMCommandsDescription)
  | status (status : Status)
  | description (description : Description)
  | stacktrace (e : Exn)
  | bootRequest (request : BootRequest)
  | processQuery (query : ProcessQuery)
  | processInstance (instance' : ProcessInstance)
  | processInstanceList (values : List ProcessInstance)
  | other (typeUrl : String)

structure Response where
  name : String
  token : Option Token
  data : Option Payload
  flag : ResponseFlag
  children : List Response

structure Request where
  token : Token
  data : Option Payload

inductive Command where
  | status | describe | describeFsm | executeFsmCommand | include | exclude
  | takeControl | surrenderControl | whoIsInCharge
  deriving DecidableEq, Repr

def Command.name : Command → String
  | .status => "status"
  | .describe => "describe"
  | .describeFsm => "describe_fsm"
  | .executeFsmCommand => "execute_fsm_command"
  | .include => "include"
  | .exclude => "exclude"
  | .takeControl => "take_control"
  | .surrenderControl => "surrender_control"
  | .whoIsInCharge => "who_is_in_charge"

inductive RequestException where
  | httpError (statusCode : Nat)
  | connectionError
  | readTimeout
  deriving DecidableEq, Repr

def RequestException.exn : RequestException → Exn
  | .httpError statusCode => .other "HTTPError" (toString statusCode)
  | .connectionError => .other "ConnectionError" ""
  | .readTimeout => .other "ReadTimeout" ""

structure HttpResponse where
  statusCode : Nat
  json : { v : PyObj // v.serialisable = true }

theorem emptyPlain : PyObj.none.serialisable = true := rfl

inductive HttpOutcome where
  | response (r : HttpResponse)
  | connectionError
  | readTimeout

def HttpOutcome.received : HttpOutcome → Except RequestException HttpResponse
  | .response r => .ok r
  | .connectionError => .error .connectionError
  | .readTimeout => .error .readTimeout

def HttpResponse.failed (r : HttpResponse) : Bool := 400 ≤ r.statusCode && r.statusCode < 600

def HttpResponse.raiseForStatus (r : HttpResponse) : Except RequestException Unit :=
  if r.failed then .error (.httpError r.statusCode) else .ok ()

end Drunc
