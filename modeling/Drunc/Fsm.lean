import Drunc.World

/-! Transitions, callback sequences and the FSM that a configuration describes; an
`FSM` is one that `FSM.__init__` accepted. Python's `re` is a parameter (`Re`: a
pattern that does not compile gives nothing), and `literal` is the instance that
knows the patterns without special characters, which match themselves. A failed
optional callback is passed over, and the object it was given, or the value it
returned, stays in use. A sequence works on the data alone: `executeResult` says
what `execute` returns, whatever the node. -/
namespace Drunc
open Library (Act Dict)
open Library.Act (emit raise lift Steady steadyPure steadyRaise steadyLift steadyEmit steadyBind)

structure Pattern where
  reMatch : String → Bool
  reSearch : String → Bool

class Re where
  compile : String → Option Pattern

@[reducible] def literal : Re where
  compile regex :=
    if regex.toList.all (fun ch => ch.isAlphanum || ch == '-' || ch == '_') then
      some ⟨fun s => regex.toList.isPrefixOf s.toList,fun s => s.toList.tails.any regex.toList.isPrefixOf⟩
    else none

structure Transition where
  name : String
  source : String
  destination : String
  arguments : List Argument
  help : String
  deriving DecidableEq, Repr

def Transition.same (a b : Transition) : Bool :=
  -- `__eq__` compares neither arguments nor help
  a.name == b.name && a.destination == b.destination && a.source == b.source

def Transition.str (t : Transition) : String :=
  "\"" ++ t.name ++ "\": \"" ++ t.source ++ "\" → \"" ++ t.destination ++ "\""

structure Callback where
  method : String
  mandatory : Bool
  deriving DecidableEq, Repr

structure FSMConf where
  initialState : String
  states : List String
  transitions : List Transition
  preTransitionSequences : Transition → List Callback
  postTransitionSequences : Transition → List Callback

structure FSM extends FSMConf where
  unique : (transitions.map Transition.name).Nodup

def ensureUniqueTransition (seen : List String) : List Transition → Except Exn Unit
  | [] => .ok ()
  | t :: rest =>
      if t.name ∈ seen then .error (.duplicateTransition t.name)
      else ensureUniqueTransition (t.name :: seen) rest

theorem ensuredUnique {seen : List String} {transitions : List Transition}
    (ok : ensureUniqueTransition seen transitions = .ok ()) :
    (transitions.map Transition.name).Nodup ∧ ∀ t ∈ transitions, t.name ∉ seen := by
  induction transitions generalizing seen with
  | nil => simp
  | cons t rest ih =>
    simp only [ensureUniqueTransition] at ok
    split at ok
    · contradiction
    · rename_i fresh
      obtain ⟨nodup,outside⟩ := ih ok
      constructor
      · simp only [List.map_cons,List.nodup_cons]
        refine ⟨fun mem => ?_,nodup⟩
        obtain ⟨u,hu,same⟩ := List.mem_map.mp mem
        exact outside u hu (by simp [same])
      · intro u mem
        rcases List.mem_cons.mp mem with rfl | inside
        · exact fresh
        · exact fun old => outside u inside (List.mem_cons_of_mem _ old)

def FSM.init (conf : FSMConf) : Except Exn FSM :=
  match ok : ensureUniqueTransition [] conf.transitions with
  | .error e => .error e
  | .ok () => .ok { conf with unique := (ensuredUnique ok).1 }

theorem initAccepts {conf : FSMConf} {fsm : FSM} (ok : FSM.init conf = .ok fsm) : fsm.toFSMConf = conf := by
  unfold FSM.init at ok
  split at ok
  · contradiction
  · cases ok; rfl

section Matching
variable [Re]

def regexMatch (regex : String) (string : Option String) : Except Exn Bool :=
  match Re.compile regex with
  | none => .error (.reError regex)
  | some pattern => match string with
    | none => .error (.typeError "expected string or bytes-like object, got 'NoneType'")
    | some s => .ok (pattern.reMatch s)

def canExecuteTransition (sourceState : Option String) (transition : Transition) : Except Exn Bool :=
  regexMatch transition.source sourceState

def destinationAmong (sourceState : Option String) (transition : Transition) :
    List Transition → Except Exn (Option String)
  | [] => .ok none
  | tr :: rest => do
      if ← canExecuteTransition sourceState transition then
        if tr.destination = "" then .ok sourceState else .ok (some tr.destination)
      else destinationAmong sourceState transition rest

def FSM.getDestinationState (fsm : FSM) (sourceState : Option String) (transition : Transition) :
    Except Exn (Option String) :=
  destinationAmong sourceState transition (fsm.transitions.filter (fun t => t.same transition))

def Transition.target (t : Transition) (state : String) : String :=
  if t.destination = "" then state else t.destination

def Transition.Executable (t : Transition) (state : String) : Prop :=
  canExecuteTransition (some state) t = .ok true

end Matching

def FSM.getTransition (fsm : FSM) (transitionName : String) : Except Exn Transition :=
  match fsm.transitions.filter (fun t => t.name == transitionName) with
  -- `NoTransitionOfName` is built but not raised, and `transition[0]` fails
  | [] => .error .indexError
  | t :: _ => .ok t

theorem gotTransition {fsm : FSM} {name : String} {t : Transition} (ok : fsm.getTransition name = .ok t) :
    t ∈ fsm.transitions ∧ t.name = name := by
  unfold FSM.getTransition at ok
  split at ok
  · contradiction
  · rename_i head tail found
    cases ok
    have mem : t ∈ fsm.transitions.filter (fun t => t.name == name) := found ▸ List.mem_cons_self
    simpa using mem

theorem sameTransition {fsm : FSM} {t u : Transition} (ht : t ∈ fsm.transitions) (hu : u ∈ fsm.transitions)
    (same : u.same t = true) : u = t := by
  have names : u.name = t.name := by
    simp only [Transition.same,Bool.and_eq_true,beq_iff_eq] at same
    exact same.1.1
  exact List.inj_on_of_nodup_map fsm.unique hu ht names

section Destination
variable [Re]

theorem destinationOfExecutable {fsm : FSM} {t : Transition} {state : String}
    (mem : t ∈ fsm.transitions) (can : t.Executable state) :
    fsm.getDestinationState (some state) t = .ok (some (t.target state)) := by
  unfold FSM.getDestinationState
  have inside : t ∈ fsm.transitions.filter (fun u => u.same t) := by
    simp [List.mem_filter,mem,Transition.same]
  cases found : fsm.transitions.filter (fun u => u.same t) with
  | nil => rw [found] at inside; contradiction
  | cons head tail =>
    have member : head ∈ fsm.transitions ∧ head.same t = true :=
      List.mem_filter.mp (found ▸ List.mem_cons_self)
    have same : head = t := sameTransition mem member.1 member.2
    subst same
    have run : canExecuteTransition (some state) head = .ok true := can
    simp only [destinationAmong,run,Transition.target]
    by_cases stays : head.destination = "" <;> simp [stays,bind,Except.bind]
end Destination

section Sequence
variable {σ : Type}

def callbackResult (w : World) (side : PreOrPost) (args : Dict String PyObj) (index : Nat) (callback : Callback)
    (inputData : PyObj) : Except Exn PyObj :=
  let outcome := w.callback side index inputData args
  match outcome.result with
  | .error e =>
      if e.isDrunc && !callback.mandatory then .ok outcome.input else .error e
  | .ok data =>
      if data.serialisable || !callback.mandatory then .ok data else .error .invalidDataReturnByFSMAction

def executeCallback (w : World) (side : PreOrPost) (args : Dict String PyObj) (index : Nat) (callback : Callback)
    (inputData : PyObj) : Do σ PyObj := do
  emit (.callback callback.method)
  lift (callbackResult w side args index callback inputData)

def executeCallbacks (w : World) (side : PreOrPost) (args : Dict String PyObj) :
    Nat → List Callback → PyObj → Do σ PyObj
  | _, [], inputData => pure inputData
  | index, callback :: rest, inputData => do
      let inputData ← executeCallback w side args index callback inputData
      executeCallbacks w side args (index+1) rest inputData

def orEmpty : JsonText → JsonText
  | .empty => .json ⟨.dict [],rfl⟩
  | text => text

def execute (w : World) (side : PreOrPost) (sequence : List Callback) (transitionData : JsonText)
    (transitionArgs : Dict String PyObj) : Do σ JsonText :=
  match loads (orEmpty transitionData) with
  -- the constructor of `TransitionDataOfIncorrectFormat` calls `super` on another class
  | .error _ => raise (.typeError "super(type, obj): obj must be an instance or subtype of type")
  | .ok inputData => do
      let inputData ← executeCallbacks w side transitionArgs 0 sequence inputData
      lift (dumps inputData)

def sequenceResult (w : World) (side : PreOrPost) (args : Dict String PyObj) :
    Nat → List Callback → PyObj → Except Exn PyObj
  | _, [], inputData => .ok inputData
  | index, callback :: rest, inputData => do
      let inputData ← callbackResult w side args index callback inputData
      sequenceResult w side args (index+1) rest inputData

def executeResult (w : World) (side : PreOrPost) (sequence : List Callback) (transitionData : JsonText)
    (transitionArgs : Dict String PyObj) : Except Exn JsonText :=
  match loads (orEmpty transitionData) with
  | .error _ => .error (.typeError "super(type, obj): obj must be an instance or subtype of type")
  | .ok inputData => do
      let inputData ← sequenceResult w side transitionArgs 0 sequence inputData
      dumps inputData

theorem sequenceScheduled (w : World) (schedule : List Nat) (side : PreOrPost) (args : Dict String PyObj) (index : Nat)
    (sequence : List Callback) (inputData : PyObj) :
    sequenceResult (w.scheduled schedule) side args index sequence inputData =
      sequenceResult w side args index sequence inputData := by
  induction sequence generalizing index inputData with
  | nil => rfl
  | cons callback rest ih => exact congrArg _ (funext fun data => ih (index+1) data)

@[simp] theorem executeScheduled (w : World) (schedule : List Nat) (side : PreOrPost) (sequence : List Callback)
    (data : JsonText) (args : Dict String PyObj) :
    executeResult (w.scheduled schedule) side sequence data args = executeResult w side sequence data args := by
  simp only [executeResult,sequenceScheduled]

theorem executeCallbacksSteady (w : World) (side : PreOrPost) (args : Dict String PyObj) (index : Nat)
    (sequence : List Callback) (inputData : PyObj) :
    Steady (sequenceResult w side args index sequence inputData)
      (executeCallbacks w side args index sequence inputData : Do σ PyObj) := by
  induction sequence generalizing index inputData with
  | nil => exact steadyPure inputData
  | cons callback rest ih =>
    refine steadyBind ?_ (fun data => ih (index+1) data)
    exact steadyBind (steadyEmit _) (fun _ => steadyLift (callbackResult w side args index callback inputData))

theorem executeSteady (w : World) (side : PreOrPost) (sequence : List Callback) (transitionData : JsonText)
    (transitionArgs : Dict String PyObj) :
    Steady (executeResult w side sequence transitionData transitionArgs)
      (execute w side sequence transitionData transitionArgs : Do σ JsonText) := by
  unfold executeResult execute
  cases loads (orEmpty transitionData) with
  | error e => exact steadyRaise _
  | ok inputData =>
    exact steadyBind (executeCallbacksSteady w side transitionArgs 0 sequence inputData) (fun data => steadyLift _)
end Sequence

def unpackArgument (type : ArgumentType) (value : Option ArgumentValue) : Except Exn PyObj :=
  match type, value with
  | .int, some (.intMsg v) => .ok (.int v)
  | .float, some (.floatMsg v) => .ok (.float v)
  | .string, some (.stringMsg v) => .ok (.str v)
  | .bool, some (.boolMsg v) => .ok (.bool v)
  | .int, _ => .error (.unpackingError "int_msg")
  | .float, _ => .error (.unpackingError "float_msg")
  | .string, _ => .error (.unpackingError "string_msg")
  | .bool, _ => .error (.unpackingError "bool_msg")

def decodeArguments (arguments : Dict String ArgumentValue) :
    List Argument → Dict String PyObj → Except Exn (Dict String PyObj)
  | [], out => .ok out
  | arg :: rest, out => do
      let given := arguments.get? arg.name
      if arg.presence = .mandatory ∧ given = none then .error (.missingArgument arg.name "")
      else
        let value ← unpackArgument arg.type (given.or arg.defaultValue)
        decodeArguments arguments rest (out.set arg.name value)

def decodeFsmArguments (arguments : Dict String ArgumentValue) (argumentsFormat : List Argument) :
    Except Exn (Dict String PyObj) :=
  decodeArguments arguments argumentsFormat Dict.empty

def convertFsmTransition (transitions : List Transition) : List FSMCommandDescription :=
  transitions.map fun t =>
    ⟨t.name,["controller_pb2.FSMCommand"],t.help,"controller_pb2.FSMCommandResponse",t.arguments⟩

end Drunc
