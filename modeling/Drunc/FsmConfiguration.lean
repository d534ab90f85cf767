import Drunc.Arguments

/-! From the configuration of an FSM to its transitions with their arguments. The actions are set
up first, and what their classes need for it is a parameter; the sequences of a transition name
actions, whose methods become its callbacks; the parameters of these methods are the arguments of
the transition. A method cannot declare a parameter twice, but two methods can declare one of the
same name. The check for that keeps the parameters that it has seen, not their names, so it never
finds one, and the shell refuses the transition instead. -/
namespace Drunc
open Library (Dict boundOk boundError)

inductive Annotation where
  | str | float | int | bool | empty
  | other (text : String)

def Annotation.text : Annotation → String
  | .str => "<class 'str'>"
  | .float => "<class 'float'>"
  | .int => "<class 'int'>"
  | .bool => "<class 'bool'>"
  | .empty => "<class 'inspect._empty'>"
  | .other text => text

structure Parameter where
  name : String
  annotation : Annotation
  default : Option PyObj

structure Method where
  name : String
  parameters : List Parameter
  distinct : (parameters.map Parameter.name).Nodup

structure FSMAction where
  name : String
  className : String
  methods : Dict String Method

structure BoundCallback where
  method : Method
  mandatory : Bool

def BoundCallback.callback (b : BoundCallback) : Callback := ⟨b.method.name,b.mandatory⟩

structure ActionConf where
  id : String
  parameters : PyObj

structure SequenceConf where
  transition : String
  order : List String
  mandatory : List String

structure TransitionConf where
  id : String
  source : String
  dest : String

structure FSMData where
  states : List String
  initialState : String
  actions : List ActionConf
  transitions : List TransitionConf
  preTransitions : Option (List SequenceConf)
  postTransitions : Option (List SequenceConf)

def PreOrPost.word : PreOrPost → String
  | .pre => "pre"
  | .post => "post"

def unnamed : List String := ["_input_data","_context","args","kwargs"]

def declared (parameters : List Parameter) : List String :=
  (parameters.map Parameter.name).filter fun pname => !unnamed.contains pname

namespace FSMActionFactory

def membersNamed (start : String) (action : FSMAction) : List (String × Method) :=
  action.methods.entries.filter fun entry => start.toList.isPrefixOf entry.1.toList

def validateSignature (name : String) (method : Method) (action : String) : Except Exn Unit :=
  let names := method.parameters.map Parameter.name
  if !names.contains "kwargs" || !names.contains "_input_data" || !names.contains "_context" then
    .error (.drunc "InvalidActionMethod" ("The action \"" ++ action ++ "\" method " ++ name ++
      " does not have the correct arguements, each one should have at least \"_input_data\" and \"**kwargs\"," ++
      " and have type annotations"))
  else method.parameters.forM fun p =>
    if unnamed.contains p.name then .ok ()
    else match p.annotation with
      | .empty => .error (.drunc "MethodSignatureMissingAnnotation" ("The action \"" ++ action ++ "\" method " ++ name ++
          " does not have the correct arguement annotation for \"" ++ p.name ++
          "\", provide \"argument:int\" to your pre/post methods."))
      | _ => .ok ()

def validateAction (action : FSMAction) : Except Exn Unit := do
  let preTransition := membersNamed "pre_" action
  let postTransition := membersNamed "post_" action
  if preTransition.isEmpty && postTransition.isEmpty then
    .error (.drunc "InvalidAction" ("The action \"" ++ action.name ++ "\" does not have any pre or post transition method"))
  else (preTransition ++ postTransition).forM fun entry => validateSignature entry.1 entry.2 action.name

def getAction (make : ActionConf → Except Exn FSMAction) (configuration : ActionConf) : Except Exn FSMAction := do
  let iface ← make configuration
  validateAction iface
  .ok iface

end FSMActionFactory

namespace PreOrPostTransitionSequence

def addCallback (side : PreOrPost) (transition : String) (action : FSMAction) (mandatory : Bool) :
    Except Exn BoundCallback :=
  let methodName := side.word ++ "_" ++ transition
  match action.methods.get? methodName with
  | some method => .ok ⟨method,mandatory⟩
  | none => .error (.attributeError ("'" ++ action.className ++ "' object has no attribute '" ++ methodName ++ "'"))

inductive Listed where
  | name (pname : String)
  | parameter (p : Parameter)

def Listed.is (pname : String) : Listed → Bool
  | .name other => other == pname
  | .parameter _ => false -- a `Parameter` is not equal to any text

def Seen (listed : List Listed) : Prop := ∀ pname, listed.any (Listed.is pname) = false

theorem seenNext {listed : List Listed} (seen : Seen listed) (p : Parameter) : Seen (listed ++ [.parameter p]) := by
  intro pname
  simp [List.any_append,seen pname,Listed.is]

def Unmistaken (e : Exn) : Prop := e.isDrunc = false ∨ ∃ text, e = .drunc "UnhandledArgumentType" text

section Arguments
variable [DruncSchema]

def argumentType : Annotation → Option ArgumentType
  | .str => some .string
  | .float => some .float
  | .int => some .int
  | .bool => some .bool
  | _ => none

def argumentOf (p : Parameter) : Except Exn Argument :=
  match argumentType p.annotation with
  | none => .error (.drunc "UnhandledArgumentType" ("The argument \"" ++ p.annotation.text ++ "\" cannot be handled"))
  | some t => match p.default with
    | none => .ok ⟨p.name,.mandatory,t,none⟩
    | some default => do
        let message ← DruncSchema.packed t default
        .ok ⟨p.name,.optional,t,some message⟩

def argumentsOf : List Listed → List Parameter → Except Exn (List Argument)
  | _, [] => .ok []
  | allTheParameterNames, p :: rest =>
      if unnamed.contains p.name then argumentsOf allTheParameterNames rest
      else if allTheParameterNames.any (Listed.is p.name) then
        .error (.drunc "DoubleArgument" ("Parameter " ++ p.name ++ " is already in the list of parameters"))
      else do
        let a ← argumentOf p
        let others ← argumentsOf (allTheParameterNames ++ [.parameter p]) rest
        .ok (a :: others)

def getArguments (sequence : List BoundCallback) : Except Exn (List Argument) :=
  argumentsOf [] (sequence.flatMap fun callback => callback.method.parameters)

theorem argumentNamed {p : Parameter} {a : Argument} (ok : argumentOf p = .ok a) : a.name = p.name := by
  unfold argumentOf at ok
  split at ok
  · contradiction
  · split at ok
    · cases ok; rfl
    · obtain ⟨message,_,last⟩ := boundOk.mp ok
      cases last; rfl

theorem argumentFails {p : Parameter} {e : Exn} (failed : argumentOf p = .error e) : Unmistaken e := by
  unfold argumentOf at failed
  split at failed
  · cases failed
    exact .inr ⟨_,rfl⟩
  · split at failed
    · contradiction
    · rcases boundError.mp failed with packed | ⟨_,_,last⟩
      · exact .inl (DruncSchema.foreign _ _ _ packed)
      · contradiction

theorem argumentsNamed {listed : List Listed} {parameters : List Parameter} {args : List Argument}
    (ok : argumentsOf listed parameters = .ok args) : args.map Argument.name = declared parameters := by
  induction parameters generalizing listed args with
  | nil => cases ok; rfl
  | cons p rest ih =>
    unfold argumentsOf at ok
    unfold declared
    rw [List.map_cons,List.filter_cons]
    split at ok
    · rename_i skipped
      rw [if_neg (by simpa using skipped)]
      exact ih ok
    · rename_i kept
      rw [if_pos (by simpa using kept)]
      split at ok
      · contradiction
      · obtain ⟨a,one,ok⟩ := boundOk.mp ok
        obtain ⟨others,more,last⟩ := boundOk.mp ok
        cases last
        rw [List.map_cons,argumentNamed one,ih more]
        rfl

theorem argumentsFrom {listed : List Listed} {parameters : List Parameter} {args : List Argument} {a : Argument}
    (ok : argumentsOf listed parameters = .ok args) (mem : a ∈ args) : ∃ p ∈ parameters, argumentOf p = .ok a := by
  induction parameters generalizing listed args with
  | nil => cases ok; contradiction
  | cons p rest ih =>
    unfold argumentsOf at ok
    split at ok
    · obtain ⟨q,inside,there⟩ := ih ok mem
      exact ⟨q,List.mem_cons_of_mem _ inside,there⟩
    · split at ok
      · contradiction
      · obtain ⟨one,here,ok⟩ := boundOk.mp ok
        obtain ⟨others,more,last⟩ := boundOk.mp ok
        cases last
        rcases List.mem_cons.mp mem with rfl | later
        · exact ⟨p,List.mem_cons_self,here⟩
        · obtain ⟨q,inside,there⟩ := ih more later
          exact ⟨q,List.mem_cons_of_mem _ inside,there⟩

def FitsOwn (p : Parameter) : Prop :=
  ∀ t default, argumentType p.annotation = some t → p.default = some default → DruncSchema.fits t default

theorem argumentDefault {p : Parameter} {a : Argument} (ok : argumentOf p = .ok a) (fits : FitsOwn p)
    (optional : a.presence = .optional) : ∃ value, unpackArgument a.type a.defaultValue = .ok value := by
  unfold argumentOf at ok
  split at ok
  · contradiction
  · rename_i t typed
    split at ok
    · cases ok; contradiction
    · rename_i default given
      obtain ⟨message,packed,last⟩ := boundOk.mp ok
      cases last
      obtain ⟨carried,same,unpacked⟩ := DruncSchema.carried _ _ (fits t default typed given)
      rw [packed] at same
      cases same
      exact ⟨default,unpacked⟩

theorem argumentsFail {listed : List Listed} {parameters : List Parameter} {e : Exn} (seen : Seen listed)
    (failed : argumentsOf listed parameters = .error e) : Unmistaken e := by
  induction parameters generalizing listed with
  | nil => contradiction
  | cons p rest ih =>
    unfold argumentsOf at failed
    rw [seen p.name] at failed
    split at failed
    · exact ih seen failed
    · rw [if_neg (by simp)] at failed
      rcases boundError.mp failed with one | ⟨a,_,failed⟩
      · exact argumentFails one
      · rcases boundError.mp failed with more | ⟨others,_,last⟩
        · exact ih (seenNext seen p) more
        · contradiction

end Arguments
end PreOrPostTransitionSequence

namespace FSMConfHandler
open PreOrPostTransitionSequence

def addCallbacks (actions : Dict String FSMAction) (side : PreOrPost) (transition : String) (mandatory : List String) :
    List String → Except Exn (List BoundCallback)
  | [] => .ok []
  | actionName :: rest => match actions.get? actionName with
    | none => .error (.keyError actionName)
    | some action => do
        let callback ← addCallback side transition action (mandatory.contains actionName)
        let others ← addCallbacks actions side transition mandatory rest
        .ok (callback :: others)

def fillPrePostTransitionSequenceOks (actions : Dict String FSMAction) (side : PreOrPost) (transition : String)
    (data : Option (List SequenceConf)) : Except Exn (List BoundCallback) :=
  match data with
  | none => .ok []
  | some confs =>
      let seqConf := ((confs.filter fun conf => conf.transition == transition).getLast?).getD ⟨transition,[],[]⟩
      addCallbacks actions side transition seqConf.mandatory seqConf.order

structure Sequenced where
  transition : Transition
  pre : List BoundCallback
  post : List BoundCallback

def setUp (make : ActionConf → Except Exn FSMAction) (data : FSMData) : Except Exn (Dict String FSMAction) :=
  Dict.fill ActionConf.id (FSMActionFactory.getAction make) data.actions Dict.empty

section Sequences
variable {actions : Dict String FSMAction}

theorem addFails {side : PreOrPost} {transition : String} {mandatory order : List String} {e : Exn}
    (failed : addCallbacks actions side transition mandatory order = .error e) : e.isDrunc = false := by
  induction order with
  | nil => contradiction
  | cons actionName rest ih =>
    unfold addCallbacks at failed
    split at failed
    · cases failed; rfl
    · rcases boundError.mp failed with one | ⟨callback,_,failed⟩
      · unfold addCallback at one
        dsimp only at one
        split at one
        · contradiction
        · cases one; rfl
      · rcases boundError.mp failed with more | ⟨others,_,last⟩
        · exact ih more
        · contradiction

theorem fillFails {side : PreOrPost} {transition : String} {confs : Option (List SequenceConf)} {e : Exn}
    (failed : fillPrePostTransitionSequenceOks actions side transition confs = .error e) : e.isDrunc = false := by
  unfold fillPrePostTransitionSequenceOks at failed
  split at failed
  · contradiction
  · exact addFails failed

def callbacksOf (make : ActionConf → Except Exn FSMAction) (data : FSMData) (conf : TransitionConf) :
    List BoundCallback :=
  match setUp make data with
  | .error _ => []
  | .ok actions =>
      (fillPrePostTransitionSequenceOks actions .pre conf.id data.preTransitions).toOption.getD [] ++
      (fillPrePostTransitionSequenceOks actions .post conf.id data.postTransitions).toOption.getD []

def Apart (callbacks : List BoundCallback) : Prop := callbacks.Pairwise fun a b =>
  ∀ pname ∈ declared a.method.parameters, pname ∉ declared b.method.parameters

theorem apartNodup {callbacks : List BoundCallback} (apart : Apart callbacks) :
    (declared (callbacks.flatMap fun callback => callback.method.parameters)).Nodup := by
  have flat : declared (callbacks.flatMap fun callback => callback.method.parameters) =
      callbacks.flatMap fun callback => declared callback.method.parameters := by
    simp [declared,List.map_flatMap,List.filter_flatMap]
  rw [flat,List.nodup_flatMap]
  refine ⟨fun callback _ => callback.method.distinct.filter _,apart.imp fun separate => ?_⟩
  exact fun pname here there => separate pname here there

end Sequences

section Process
variable [DruncSchema]

def processTransition (data : FSMData) (actions : Dict String FSMAction) (conf : TransitionConf) :
    Except Exn Sequenced := do
  let pre ← fillPrePostTransitionSequenceOks actions .pre conf.id data.preTransitions
  let post ← fillPrePostTransitionSequenceOks actions .post conf.id data.postTransitions
  let preArguments ← getArguments pre
  let postArguments ← getArguments post
  .ok ⟨⟨conf.id,conf.source,conf.dest,preArguments ++ postArguments,""⟩,pre,post⟩

def processTransitions (data : FSMData) (actions : Dict String FSMAction) :
    List TransitionConf → Except Exn (List Sequenced)
  | [] => .ok []
  | conf :: rest => do
      let sequenced ← processTransition data actions conf
      let others ← processTransitions data actions rest
      .ok (sequenced :: others)

def sequencesBy (side : Sequenced → List BoundCallback) (sequenced : List Sequenced) (t : Transition) : List Callback :=
  match (sequenced.filter fun s => s.transition.same t).getLast? with
  | some s => (side s).map BoundCallback.callback
  | none => []

def postProcessOks (make : ActionConf → Except Exn FSMAction) (data : FSMData) : Except Exn FSMConf := do
  let actions ← setUp make data
  let sequenced ← processTransitions data actions data.transitions
  .ok ⟨data.initialState,data.states,sequenced.map Sequenced.transition,
    sequencesBy Sequenced.pre sequenced,sequencesBy Sequenced.post sequenced⟩

variable {make : ActionConf → Except Exn FSMAction} {data : FSMData} {actions : Dict String FSMAction}

theorem processFails {conf : TransitionConf} {e : Exn} (failed : processTransition data actions conf = .error e) :
    Unmistaken e := by
  rcases boundError.mp failed with pre | ⟨pre,_,failed⟩
  · exact .inl (fillFails pre)
  · rcases boundError.mp failed with post | ⟨post,_,failed⟩
    · exact .inl (fillFails post)
    · rcases boundError.mp failed with preArguments | ⟨preArguments,_,failed⟩
      · exact argumentsFail (fun _ => rfl) preArguments
      · rcases boundError.mp failed with postArguments | ⟨postArguments,_,last⟩
        · exact argumentsFail (fun _ => rfl) postArguments
        · contradiction

theorem processAllFails {confs : List TransitionConf} {e : Exn} (failed : processTransitions data actions confs = .error e) :
    Unmistaken e := by
  induction confs with
  | nil => contradiction
  | cons conf rest ih =>
    rcases boundError.mp failed with one | ⟨sequenced,_,failed⟩
    · exact processFails one
    · rcases boundError.mp failed with more | ⟨others,_,last⟩
      · exact ih more
      · contradiction

theorem processedFrom {confs : List TransitionConf} {all : List Sequenced} {s : Sequenced}
    (ok : processTransitions data actions confs = .ok all) (mem : s ∈ all) :
    ∃ conf ∈ confs, processTransition data actions conf = .ok s := by
  induction confs generalizing all with
  | nil => cases ok; contradiction
  | cons conf rest ih =>
    obtain ⟨sequenced,one,ok⟩ := boundOk.mp ok
    obtain ⟨others,more,last⟩ := boundOk.mp ok
    cases last
    rcases List.mem_cons.mp mem with rfl | inside
    · exact ⟨conf,List.mem_cons_self,one⟩
    · obtain ⟨other,listed,there⟩ := ih more inside
      exact ⟨other,List.mem_cons_of_mem _ listed,there⟩

theorem processedParts {conf : TransitionConf} {s : Sequenced} (ok : processTransition data actions conf = .ok s) :
    fillPrePostTransitionSequenceOks actions .pre conf.id data.preTransitions = .ok s.pre ∧
    fillPrePostTransitionSequenceOks actions .post conf.id data.postTransitions = .ok s.post ∧
    ∃ preArguments postArguments, getArguments s.pre = .ok preArguments ∧ getArguments s.post = .ok postArguments ∧
      s.transition.arguments = preArguments ++ postArguments := by
  obtain ⟨pre,preFilled,ok⟩ := boundOk.mp ok
  obtain ⟨post,postFilled,ok⟩ := boundOk.mp ok
  obtain ⟨preArguments,preNamed,ok⟩ := boundOk.mp ok
  obtain ⟨postArguments,postNamed,last⟩ := boundOk.mp ok
  cases last
  exact ⟨preFilled,postFilled,preArguments,postArguments,preNamed,postNamed,rfl⟩

theorem processedNames {conf : TransitionConf} {s : Sequenced} (set : setUp make data = .ok actions)
    (ok : processTransition data actions conf = .ok s) : s.transition.arguments.map Argument.name =
      declared ((callbacksOf make data conf).flatMap fun callback => callback.method.parameters) := by
  obtain ⟨preFilled,postFilled,preArguments,postArguments,preNamed,postNamed,joined⟩ := processedParts ok
  unfold callbacksOf
  rw [set]
  simp only [preFilled,postFilled,Except.toOption,Option.getD_some]
  rw [joined,List.map_append,argumentsNamed preNamed,argumentsNamed postNamed]
  simp [declared]

theorem processedDescribed {conf : TransitionConf} {s : Sequenced} (set : setUp make data = .ok actions)
    (ok : processTransition data actions conf = .ok s) (apart : Apart (callbacksOf make data conf))
    (fits : ∀ callback ∈ s.pre ++ s.post, ∀ p ∈ callback.method.parameters, FitsOwn p) :
    Described s.transition.arguments := by
  refine ⟨by rw [processedNames set ok]; exact apartNodup apart,fun arg mem optional => ?_⟩
  obtain ⟨_,_,preArguments,postArguments,preNamed,postNamed,joined⟩ := processedParts ok
  rw [joined] at mem
  rcases List.mem_append.mp mem with inside | inside
  · obtain ⟨p,listed,one⟩ := argumentsFrom preNamed inside
    obtain ⟨callback,bound,declares⟩ := List.mem_flatMap.mp listed
    exact argumentDefault one (fits callback (List.mem_append_left _ bound) p declares) optional
  · obtain ⟨p,listed,one⟩ := argumentsFrom postNamed inside
    obtain ⟨callback,bound,declares⟩ := List.mem_flatMap.mp listed
    exact argumentDefault one (fits callback (List.mem_append_right _ bound) p declares) optional

variable [Builtins]

/-- What the check for doubles is there for. -/
structure DoublesRefused (make : ActionConf → Except Exn FSMAction) (data : FSMData) : Prop where
  distinct : ∀ conf, postProcessOks make data = .ok conf → ∀ t ∈ conf.transitions, (t.arguments.map Argument.name).Nodup
  rejected : ∀ t ∈ data.transitions, ¬ Apart (callbacksOf make data t) →
    ∃ text, postProcessOks make data = .error (.drunc "DoubleArgument" text)
  usable : ∀ conf, postProcessOks make data = .ok conf → ∀ t ∈ conf.transitions, ∀ given pname,
    (validateAndFormatFsmArguments t.arguments given).result ≠ .error (duplicateArgument pname)

theorem doublesRefusedIff (make : ActionConf → Except Exn FSMAction) (data : FSMData) :
    DoublesRefused make data ↔ ∀ t ∈ data.transitions, Apart (callbacksOf make data t) := by
  constructor
  · intro refused t mem
    by_contra shared
    obtain ⟨text,failed⟩ := refused.rejected t mem shared
    rcases boundError.mp failed with set | ⟨actions,set,failed⟩
    · refine shared ?_
      unfold callbacksOf
      rw [set]
      exact List.Pairwise.nil
    · rcases boundError.mp failed with processed | ⟨sequenced,_,last⟩
      · rcases processAllFails processed with unhandled | ⟨other,same⟩
        · contradiction
        · simp at same
      · contradiction
  · intro apart
    have distinct : ∀ conf, postProcessOks make data = .ok conf → ∀ t ∈ conf.transitions,
        (t.arguments.map Argument.name).Nodup := by
      intro conf ok t mem
      obtain ⟨actions,set,ok⟩ := boundOk.mp ok
      obtain ⟨sequenced,processed,last⟩ := boundOk.mp ok
      cases last
      obtain ⟨s,inside,rfl⟩ := List.mem_map.mp mem
      obtain ⟨source,listed,there⟩ := processedFrom processed inside
      rw [processedNames set there]
      exact apartNodup (apart source listed)
    refine ⟨distinct,fun t mem shared => absurd (apart t mem) shared,fun conf ok t mem given pname => ?_⟩
    exact notDuplicate (distinct conf ok t mem)

end Process
end FSMConfHandler

namespace Sample

def inputData : Parameter := ⟨"_input_data",.other "<class 'dict'>",none⟩
def context : Parameter := ⟨"_context",.empty,none⟩
def kwargs : Parameter := ⟨"kwargs",.empty,none⟩
def runTypeParameter : Parameter := ⟨"run_type",.str,some (.str "TEST")⟩
def storageParameter : Parameter := ⟨"disable_data_storage",.bool,some (.bool false)⟩

def triggerRateParameter : Parameter := ⟨"trigger_rate",.float,some (.float 0)⟩

def userProvided : FSMAction := ⟨"run-number","UserProvidedRunNumber",
  ⟨[("pre_start",⟨"pre_start",[inputData,context,⟨"run_number",.int,none⟩,storageParameter,triggerRateParameter,runTypeParameter,
    kwargs],by decide⟩)],by decide⟩⟩

def usvcProvided : FSMAction := ⟨"usvc-provided-run-number","UsvcProvidedRunNumber",
  ⟨[("pre_start",⟨"pre_start",[inputData,context,runTypeParameter,storageParameter,triggerRateParameter,kwargs],by decide⟩)],
    by decide⟩⟩

def makeAction (configuration : ActionConf) : Except Exn FSMAction :=
  if configuration.id = "user-provided-run-number" then .ok userProvided
  else if configuration.id = "usvc-provided-run-number" then .ok usvcProvided
  else .error (.drunc "UnknownAction" ("\"" ++ configuration.id ++ "\" is not a known plugin."))

def doubled : FSMData where
  states := ["ready","running"]
  initialState := "ready"
  actions := [⟨"user-provided-run-number",.none⟩,⟨"usvc-provided-run-number",.none⟩]
  transitions := [⟨"start","ready","running"⟩]
  preTransitions := some [⟨"start",["user-provided-run-number","usvc-provided-run-number"],["user-provided-run-number"]⟩]
  postTransitions := none

def runNumberGiven : Dict String PyObj := ⟨[("run_number",.int 7)],by decide⟩

end Sample

open Sample FSMConfHandler in
theorem doublesAccepted :
    (∃ conf t, @postProcessOks generic makeAction doubled = .ok conf ∧ t ∈ conf.transitions ∧
      t.arguments.map Argument.name =
        ["run_number","disable_data_storage","trigger_rate","run_type","run_type","disable_data_storage","trigger_rate"] ∧
      (@validateAndFormatFsmArguments texts generic t.arguments runNumberGiven).result =
        .error (duplicateArgument "run_type")) ∧
    ¬ @DoublesRefused generic texts makeAction doubled := by
  refine ⟨⟨_,_,rfl,List.mem_cons_self,rfl,rfl⟩,fun refused => ?_⟩
  exact absurd (@DoublesRefused.distinct generic texts _ _ refused _ rfl _ List.mem_cons_self) (by decide)

end Drunc
