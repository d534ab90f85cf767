import Drunc.World

/-! The wrappers around the body of an endpoint, synchronous and asynchronous.
An asynchronous endpoint is a generator: its caller keeps what it has yielded,
also when it raises (`Generating`), and nothing but an exception stops it after a
yield. The arguments of a `Response(...)` call are kept as written, and `build` is
the protobuf constructor: another message in the `Any` field `data`, or a field
that the message does not have, raises. A `DataType` is what an endpoint takes
from the data of a request. -/
namespace Drunc
open Library (Outcome)
open Library.Act

inductive DataField where
  | any (data : Payload)
  | plainText (text : String)

structure ResponseFields where
  name : String
  token : Token
  data : DataField
  flag : ResponseFlag
  unknownFields : List String

def ResponseFields.build (fields : ResponseFields) : Except Exn Response :=
  match fields.data, fields.unknownFields with
  | .plainText _, _ => .error (.typeError "expected google.protobuf.Any got PlainText")
  | .any _, field :: _ => .error (.valueError ("Protocol message Response has no \"" ++ field ++ "\" field."))
  | .any data, [] => .ok ⟨fields.name,some fields.token,some data,fields.flag,[]⟩

structure Servicer where
  name : String
  className : String
  isAuthorised : Token → ActionType → SystemType → String → Bool

structure Endpoint where
  name : String
  action : ActionType
  system : SystemType

structure DataType (α : Type) where
  format : String
  read : Option Payload → Option α

def unpackNone : DataType Unit := ⟨"None",fun _ => some ()⟩

def unpackTo {α : Type} (format : String) (read : Payload → Option α) : DataType α :=
  ⟨format,fun data => data.bind read⟩

def unpackAny {α : Type} (data : Option Payload) (dataType : DataType α) : Except Exn α :=
  match dataType.read data with
  | some a => .ok a
  | none => .error (.unpackingError dataType.format)

structure Generating (σ : Type) where
  inner : σ
  yielded : List Response

def attemptMessage (endpoint : Endpoint) (request : Request) : String :=
  "User '" ++ request.token.userName ++ "' attempting to execute '" ++ endpoint.name ++ "'"

def successMessage (endpoint : Endpoint) (request : Request) : String :=
  "User '" ++ request.token.userName ++ "' successfully executed '" ++ endpoint.name ++ "'"

section Wrappers
variable {σ α : Type} (obj : Servicer) (endpoint : Endpoint) (w : World)

def attempting (request : Request) : Do σ Unit :=
  broadcast w .ack (attemptMessage endpoint request) .ack

def successfully (request : Request) : Do σ Unit :=
  broadcast w .success (successMessage endpoint request) .commandExecutionSuccess

def exceptionResponse (request : Request) (e : Exn) : Response :=
  ⟨obj.name,some request.token,some (.stacktrace e),exceptionFlag e,[]⟩

def notAuthorised (request : Request) (unknownFields : List String) : ResponseFields :=
  -- without the numbers of the action and of the system at the end of the text
  ⟨obj.name,request.token,
    .plainText ("User " ++ request.token.userName ++ " is not authorised to execute " ++ endpoint.name ++
      " on " ++ obj.name),
    .notExecutedNotAuthorised,unknownFields⟩

def badRequestFormat (request : Request) (e : Exn) : ResponseFields :=
  ⟨obj.className,request.token,.plainText e.text,.notExecutedBadRequestFormat,[]⟩

def broadcasted (cmd : Request → Do σ Response) (request : Request) : Do σ Response := do
  attempting endpoint w request
  match ← attempt (cmd request) with
  | .error e => pure (exceptionResponse obj request e)
  | .ok ret => do
      successfully endpoint w request
      pure ret

def authentifiedAndAuthorised (cmd : Request → Do σ Response) (request : Request) : Do σ Response :=
  if obj.isAuthorised request.token endpoint.action endpoint.system endpoint.name then cmd request
  else lift (notAuthorised obj endpoint request ["responses"]).build

def unpackRequestDataTo (dataType : DataType α) (cmd : α → Token → Do σ Response) (request : Request) :
    Do σ Response :=
  match unpackAny request.data dataType with
  | .ok data => cmd data request.token
  | .error e => lift (badRequestFormat obj request e).build

def yieldResponse (response : Response) : Do (Generating σ) Unit :=
  update fun g => { g with yielded := g.yielded ++ [response] }

def asyncBroadcasted (cmd : Request → Do (Generating σ) Unit) (request : Request) : Do (Generating σ) Unit := do
  attempting endpoint w request
  match ← attempt (cmd request) with
  | .error e => yieldResponse (exceptionResponse obj request e)
  | .ok () => pure ()
  successfully endpoint w request

def asyncAuthentifiedAndAuthorised (cmd : Request → Do (Generating σ) Unit) (request : Request) :
    Do (Generating σ) Unit := do
  if !obj.isAuthorised request.token endpoint.action endpoint.system endpoint.name then
    let response ← lift (notAuthorised obj endpoint request []).build
    yieldResponse response
  -- no return after the refusal
  cmd request

def asyncUnpackRequestDataTo (dataType : DataType α) (cmd : α → Token → Do (Generating σ) Unit) (request : Request) :
    Do (Generating σ) Unit := do
  match unpackAny request.data dataType with
  | .ok data => cmd data request.token
  | .error e => do
      let response ← lift (badRequestFormat obj request e).build
      yieldResponse response
      -- the command is called without its data, which a body that declares data refuses
      raise (.typeError ("missing a required positional argument of " ++ endpoint.name))

def stack (dataType : DataType α) (cmd : α → Token → Do σ Response) : Request → Do σ Response :=
  broadcasted obj endpoint w (authentifiedAndAuthorised obj endpoint (unpackRequestDataTo obj dataType cmd))

def asyncStack (dataType : DataType α) (cmd : α → Token → Do (Generating σ) Unit) : Request → Do (Generating σ) Unit :=
  asyncBroadcasted obj endpoint w
    (asyncAuthentifiedAndAuthorised obj endpoint (asyncUnpackRequestDataTo obj endpoint dataType cmd))

end Wrappers

section Broadcasted
variable {σ : Type} {obj : Servicer} {endpoint : Endpoint} {w : World} {cmd : Request → Do σ Response}
  {request : Request} {s : σ}

def answered (obj : Servicer) (w : World) (request : Request) : Except Exn Response → Except Exn Response
  | .error e => .ok (exceptionResponse obj request e)
  | .ok ret => match w.broadcast .success with
    | none => .ok ret
    | some e => .error e

theorem answeredOk {result : Except Exn Response} {r : Response} (replied : answered obj w request result = .ok r) :
    (∃ e, result = .error e ∧ r = exceptionResponse obj request e) ∨
    (result = .ok r ∧ w.broadcast .success = none) := by
  unfold answered at replied
  split at replied
  · exact .inl ⟨_,rfl,(Except.ok.inj replied).symm⟩
  · split at replied
    · rename_i announced
      exact .inr ⟨replied,announced⟩
    · contradiction

theorem broadcastedUnacknowledged {e : Exn} (raised : w.broadcast .ack = some e) :
    broadcasted obj endpoint w cmd request s =
      ⟨.error e,s,[.broadcast (attemptMessage endpoint request) .ack]⟩ := by
  have cut : (attempting endpoint w request s).result = .error e := by simp [attempting,raised]
  unfold broadcasted
  rw [bindError cut]
  simp [attempting,attemptMessage]

def announced (endpoint : Endpoint) (request : Request) : Except Exn Response → List Event
  | .ok _ => [.broadcast (successMessage endpoint request) .commandExecutionSuccess]
  | .error _ => []

theorem broadcastedAcknowledged (published : w.broadcast .ack = none) :
    broadcasted obj endpoint w cmd request s =
      ⟨answered obj w request (cmd request s).result,(cmd request s).state,
        .broadcast (attemptMessage endpoint request) .ack :: (cmd request s).events ++
          announced endpoint request (cmd request s).result⟩ := by
  have passed : (attempting endpoint w request s).result = .ok () := by simp [attempting,published]
  have ran : (attempt (cmd request) s).result = .ok (cmd request s).result := rfl
  unfold broadcasted
  rw [bindOk passed]
  simp only [attempting,broadcastState,broadcastEvents]
  rw [bindOk ran]
  simp only [attemptRun]
  cases body : (cmd request s).result with
  | error e => simp [Outcome.after,answered,announced]
  | ok ret =>
    cases success : w.broadcast .success with
    | none =>
      have done : (successfully endpoint w request (cmd request s).state).result = .ok () := by
        simp [successfully,success]
      simp only [bindOk done]
      simp [Outcome.after,answered,announced,success,successfully]
    | some e =>
      have raised : (successfully endpoint w request (cmd request s).state).result = .error e := by
        simp [successfully,success]
      simp only [bindError raised]
      simp [Outcome.after,answered,announced,success,successfully]

end Broadcasted
end Drunc
