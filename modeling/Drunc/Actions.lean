import Drunc.Arguments
import Drunc.History

/-! The methods of the FSM actions, as callbacks of a sequence. Each is given the data of
the transition as an object that it may change, and what it returns is the data from there
on: all return the object but one, which returns nothing. `ActionSurroundings` has what a
call meets, and what the action's own object holds by then. Of Python's `str.upper`, only
which texts become ones of ASCII letters matters. -/
namespace Drunc
open Library (Dict)
open Library.Act (raise read update lift Leaves)

structure ActionObject where
  apiSocket : String
  confDict : Dict String String
  runNumber : Option PyObj
  runNum : Option PyObj
  runType : Option PyObj
  detId : Option PyObj
  threadId : Option PyObj

structure ActionSurroundings where
  self : ActionObject
  userName : String
  configuration : Except Exn String
  detectorId : Except Exn String
  softwareVersion : Option String
  files : Except Exn Unit
  removal : Except Exn Unit
  pinThread : Except Exn Unit
  answer : String → PyObj → HttpOutcome

inductive ActionMethod where
  | dbRunRegistryPreStart | dbRunRegistryPostDrainDataflow
  | fileLogbookPostStart | fileLogbookPostDrainDataflow
  | fileRunRegistryPreStart
  | someTestActionPreConf
  | threadPinningPreConf | threadPinningPostConf | threadPinningPostStart
  | triggerRateSpecifierPreChangeRate
  | userProvidedRunNumberPreStart
  | elisaLogbookPostStart | elisaLogbookPostDrainDataflow
  | usvcProvidedRunNumberPreStart
  | masterSendFLCommandPreMasterSendFLCommand
  deriving DecidableEq, Repr

def ActionMethod.name : ActionMethod → String
  | .dbRunRegistryPreStart | .fileRunRegistryPreStart | .userProvidedRunNumberPreStart | .usvcProvidedRunNumberPreStart => "pre_start"
  | .fileLogbookPostStart | .threadPinningPostStart | .elisaLogbookPostStart => "post_start"
  | .dbRunRegistryPostDrainDataflow | .fileLogbookPostDrainDataflow | .elisaLogbookPostDrainDataflow => "post_drain_dataflow"
  | .someTestActionPreConf | .threadPinningPreConf => "pre_conf"
  | .threadPinningPostConf => "post_conf"
  | .triggerRateSpecifierPreChangeRate => "pre_change_rate"
  | .masterSendFLCommandPreMasterSendFLCommand => "pre_master_send_fl_command"

namespace ActionMethod

def subscript (data : PyObj) (key : String) : Except Exn PyObj :=
  match data with
  | .dict items => match Dict.lookup key items with
    | some value => .ok value
    | none => .error (.keyError key)
  | .list _ => .error (.typeError "list indices must be integers or slices, not str")
  | .str _ => .error (.typeError "string indices must be integers, not 'str'")
  | _ => .error (.typeError "object is not subscriptable")

def first : PyObj → Except Exn PyObj
  | .list [] => .error .indexError
  | .list (item :: _) => .ok item
  | .str s => match s.toList with
    | [] => .error .indexError
    | ch :: _ => .ok (.str (String.singleton ch))
  | .dict _ => .error (.keyError "0")
  | _ => .error (.typeError "object is not subscriptable")

def item (key : String) : Do PyObj PyObj := do
  let data ← read
  lift (subscript data key)

def itemOr (key : String) (default : PyObj) : Do PyObj PyObj := do
  let data ← read
  match data with
  | .dict items => pure ((Dict.lookup key items).getD default)
  | _ => raise (.attributeError "object has no attribute 'get'")

def setItem (key : String) (value : PyObj) : Do PyObj Unit := do
  let data ← read
  match data with
  | .dict items => update fun _ => .dict (Dict.assign key value items)
  | _ => raise (.typeError "object does not support item assignment")

def required (args : Dict String PyObj) (name : String) : Except Exn PyObj :=
  match args.get? name with
  | some value => .ok value
  | none => .error (.typeError ("missing 1 required positional argument: '" ++ name ++ "'"))

def optional (args : Dict String PyObj) (name : String) (default : PyObj) : PyObj := (args.get? name).getD default

def isEmptyText : PyObj → Bool
  | .str s => s == ""
  | _ => false

def upperChar (ch : Char) : List Char :=
  if ch = 'ı' then ['I'] else if ch = 'ſ' then ['S'] else if ch = 'ß' then ['S','S']
  else if ch = 'ﬀ' then ['F','F'] else if ch = 'ﬁ' then ['F','I'] else if ch = 'ﬂ' then ['F','L']
  else if ch = 'ﬃ' then ['F','F','I'] else if ch = 'ﬄ' then ['F','F','L'] else if ch = 'ﬅ' ∨ ch = 'ﬆ' then ['S','T']
  else [ch.toUpper]

def upper : PyObj → Except Exn String
  | .str s => .ok (String.ofList (s.toList.flatMap upperChar))
  | _ => .error (.attributeError "object has no attribute 'upper'")

def hasLower : PyObj → Except Exn Unit
  | .str _ => .ok ()
  | _ => .error (.attributeError "object has no attribute 'lower'")

def validateRunType (runType : String) : Except Exn String :=
  if runType ∈ ["PROD","TEST"] then .ok runType
  else .error (.drunc "InvalidRunType" ("Invalid run type: '" ++ runType ++ "'. Must be one of ['PROD', 'TEST']"))

def requestError (apiSocket module : String) : RequestException → String
  | .httpError _ => "of HTTP Error (maybe failed auth, maybe ill-formed post message, ...) using " ++ module
  | .connectionError => "connection to " ++ apiSocket ++ " wasn't successful using " ++ module
  | .readTimeout => "connection to " ++ apiSocket ++ " timed out using " ++ module

def reported {α : Type} (cls message : String) (text : RequestException → String) : Except RequestException α → Except Exn α
  | .ok a => .ok a
  | .error e => .error (.drunc cls (message ++ text e))

def heldBy (cls name : String) : Option PyObj → Except Exn PyObj
  | some value => .ok value
  | none => .error (.attributeError ("'" ++ cls ++ "' object has no attribute '" ++ name ++ "'"))

section Methods
variable [Builtins] (env : ActionSurroundings) (args : Dict String PyObj)

def accepted (url : String) (data : PyObj) : Except RequestException HttpResponse := do
  let r ← (env.answer url data).received
  r.raiseForStatus
  pure r

def dbRunRegistryPreStartMethod : Do PyObj PyObj := do
  let runNumber ← item "run"
  let _ ← lift env.configuration
  let runType ← itemOr "production_vs_test" (.str "TEST")
  let detId ← lift env.detectorId
  match env.softwareVersion with
  | none => raise (.drunc "CannotGetSoftwareVersion" ("RunRegistryDB: dunedaq version not in the variable env " ++
      "DUNE_DAQ_BASE_RELEASE! Exit drunc and export DUNE_DAQ_BASE_RELEASE=dunedaq-vX.XX.XX\n"))
  | some softwareVersion =>
      lift env.files
      let _ ← lift (reported "CannotInsertRunNumber" "Could not insert Run into RunRegistryDB because "
        (requestError env.self.apiSocket "drunc.fsm.actions.db_run_registry")
        (accepted env (env.self.apiSocket ++ "/runregistry/insertRun/") (.dict [("run_num",runNumber),("det_id",.str detId),
          ("run_type",runType),("software_version",.str softwareVersion)])))
      lift env.removal
      read

def dbRunRegistryPostDrainDataflowMethod : Do PyObj PyObj := do
  let runNumber ← lift (heldBy "DBRunRegistry" "run_number" env.self.runNumber)
  let _ ← lift (reported "CannotUpdateStopTime" "Could not update stop time in RunRegistryDB because "
    (requestError env.self.apiSocket "drunc.fsm.actions.db_run_registry")
    (env.answer (env.self.apiSocket ++ "/runregistry/updateStopTime/" ++ Builtins.str runNumber) .none).received)
  -- there is no return statement
  pure .none

def logged : Do PyObj Unit :=
  match optional args "file_logbook_post" (.str "") with
  | .str _ => pure ()
  | _ => raise (.typeError "write() argument must be str")

def fileLogbookPostStartMethod : Do PyObj PyObj := do
  lift env.files
  let _ ← item "run"
  logged args
  read

def fileLogbookPostDrainDataflowMethod : Do PyObj PyObj := do
  lift env.files
  logged args
  read

def fileRunRegistryPreStartMethod : Do PyObj PyObj := do
  let _ ← item "run"
  let _ ← lift env.configuration
  lift env.files
  read

def someTestActionPreConfMethod : Do PyObj PyObj := do
  let someInt ← lift (required args "some_int")
  let someStr ← lift (required args "some_str")
  setItem "some_int" someInt
  setItem "some_str" someStr
  setItem "some_float" (optional args "some_float" (.float (1/5)))
  read

def threadPinningMethod (method : String) : Do PyObj PyObj := do
  let _ ← lift env.configuration
  if method ∈ env.self.confDict.keys then lift env.pinThread
  read

def triggerRateSpecifierPreChangeRateMethod : Do PyObj PyObj := do
  let triggerRate ← lift (required args "trigger_rate")
  setItem "trigger_rate" triggerRate
  read

def userProvidedRunNumberPreStartMethod : Do PyObj PyObj := do
  let runNumber ← lift (required args "run_number")
  let runType ← lift (upper (optional args "run_type" (.str "TEST")) >>= validateRunType)
  setItem "production_vs_test" (.str runType)
  setItem "run" runNumber
  setItem "disable_data_storage" (optional args "disable_data_storage" (.bool false))
  setItem "trigger_rate" (optional args "trigger_rate" (.float 0))
  read

def getnewRunNumber : Except Exn PyObj := do
  let req ← reported "CannotGetRunNumber" "Could not get Run Number because "
    (requestError env.self.apiSocket "drunc.fsm.actions.usvc_provided_run_number")
    (accepted env (env.self.apiSocket ++ "/runnumber/getnew") .none)
  let row ← first req.json.val
  let cell ← first row
  first cell

def usvcProvidedRunNumberPreStartMethod : Do PyObj PyObj := do
  let runType ← lift (upper (optional args "run_type" (.str "TEST")) >>= validateRunType)
  setItem "production_vs_test" (.str runType)
  let runNumber ← lift (getnewRunNumber env)
  setItem "run" runNumber
  setItem "disable_data_storage" (optional args "disable_data_storage" (.bool false))
  setItem "trigger_rate" (optional args "trigger_rate" (.float 0))
  read

def elisaText (elisaPost : PyObj) : String :=
  if isEmptyText elisaPost then "" else "\n<p>" ++ Builtins.str elisaPost ++ "</p>"

/-- What the logbook refuses is only written to the log; its answer is read outside of that. -/
def sentMessage (url : String) (data : List (String × PyObj)) : Except Exn Unit :=
  match accepted env url (.dict data) with
  | .error _ => .ok ()
  | .ok r => (subscript r.json.val "thread_id").map fun _ => ()

def elisaLogbookPostStartMethod : Do PyObj PyObj := do
  let elisaPost := optional args "elisa_post" (.str "")
  let runNum ← item "run"
  let runType ← itemOr "production_vs_test" (.str "TEST")
  let runConfiguration ← lift env.configuration
  let text := elisaText elisaPost ++ "Configuration: " ++ runConfiguration ++ "\n<p>log automatically generated by DRunC.</p>"
  if !isEmptyText elisaPost then lift (hasLower runType)
  let detId ← lift env.detectorId
  let title := "Run " ++ Builtins.str runNum ++ " (" ++ Builtins.str runType ++ ") started on " ++ detId
  lift (sentMessage env (env.self.apiSocket ++ "/v1/elisaLogbook/new_message/") [("author",.str env.userName),
    ("title",.str title),("body",.str text),("command",.str "start"),("systems",.list [.str "daq"])])
  read

def elisaLogbookPostDrainDataflowMethod : Do PyObj PyObj := do
  let runNum ← lift (heldBy "ElisaLogbook" "run_num" env.self.runNum)
  let runType ← lift (heldBy "ElisaLogbook" "run_type" env.self.runType)
  let detId ← lift (heldBy "ElisaLogbook" "det_id" env.self.detId)
  let text := elisaText (optional args "elisa_post" (.str "")) ++ "Run " ++ Builtins.str runNum ++ " (" ++ Builtins.str runType ++
    ") stopped on " ++ Builtins.str detId ++ "\n<p>log automatically generated by DRunC.</p>"
  let threadId ← lift (heldBy "ElisaLogbook" "thread_id" env.self.threadId)
  lift (sentMessage env (env.self.apiSocket ++ "/v1/elisaLogbook/reply_to_message/") [("author",.str env.userName),
    ("title",.str "User comment"),("body",.str text),("command",.str "stop"),("systems",.list [.str "daq"]),("id",threadId)])
  read

def masterSendFLCommandMethod : Do PyObj PyObj := do
  let flCmdId ← lift (required args "fl_cmd_id")
  let channel ← lift (required args "channel")
  let numberOfCommandsToSend ← lift (required args "number_of_commands_to_send")
  setItem "fl_cmd_id" flCmdId
  setItem "channel" channel
  setItem "number_of_commands_to_send" numberOfCommandsToSend
  read

def body : ActionMethod → Do PyObj PyObj
  | .dbRunRegistryPreStart => dbRunRegistryPreStartMethod env
  | .dbRunRegistryPostDrainDataflow => dbRunRegistryPostDrainDataflowMethod env
  | .fileLogbookPostStart => fileLogbookPostStartMethod env args
  | .fileLogbookPostDrainDataflow => fileLogbookPostDrainDataflowMethod env args
  | .fileRunRegistryPreStart => fileRunRegistryPreStartMethod env
  | .someTestActionPreConf => someTestActionPreConfMethod args
  | .threadPinningPreConf => threadPinningMethod env "pre_conf"
  | .threadPinningPostConf => threadPinningMethod env "post_conf"
  | .threadPinningPostStart => threadPinningMethod env "post_start"
  | .triggerRateSpecifierPreChangeRate => triggerRateSpecifierPreChangeRateMethod args
  | .userProvidedRunNumberPreStart => userProvidedRunNumberPreStartMethod args
  | .elisaLogbookPostStart => elisaLogbookPostStartMethod env args
  | .elisaLogbookPostDrainDataflow => elisaLogbookPostDrainDataflowMethod env args
  | .usvcProvidedRunNumberPreStart => usvcProvidedRunNumberPreStartMethod env args
  | .masterSendFLCommandPreMasterSendFLCommand => masterSendFLCommandMethod args

def call (a : ActionMethod) : Do PyObj PyObj :=
  match ["self","_input_data","_context"].find? (· ∈ args.keys) with
  | some name => raise (.typeError ("got multiple values for keyword argument '" ++ name ++ "'"))
  | none => a.body env args

end Methods

def sets : ActionMethod → List String
  | .someTestActionPreConf => ["some_int","some_str","some_float"]
  | .triggerRateSpecifierPreChangeRate => ["trigger_rate"]
  | .userProvidedRunNumberPreStart | .usvcProvidedRunNumberPreStart =>
      ["production_vs_test","run","disable_data_storage","trigger_rate"]
  | .masterSendFLCommandPreMasterSendFLCommand => ["fl_cmd_id","channel","number_of_commands_to_send"]
  | _ => []

end ActionMethod

def Extends (sets : List String) (before after : PyObj) : Prop :=
  (before.serialisable = true → after.serialisable = true) ∧
  (∀ items, before = .dict items → ∃ fields, after = .dict fields ∧
    (∀ key, key ∉ sets → Dict.lookup key fields = Dict.lookup key items) ∧
    ∀ key value, Dict.lookup key items = some value → ∃ later, Dict.lookup key fields = some later) ∧
  ((∀ items, before ≠ .dict items) → after = before)

def HandsOn (sets : List String) (x : Do PyObj PyObj) : Prop :=
  ∀ data, Extends sets data (x data).state ∧ ∀ out, (x data).result = .ok out → out = (x data).state

def PlainArguments (args : Dict String PyObj) : Prop := ∀ name value, args.get? name = some value → value.serialisable = true

section Extends
variable {sets : List String} {α : Type}

theorem extendsRefl (sets : List String) (data : PyObj) : Extends sets data data :=
  ⟨fun plain => plain,fun items same => ⟨items,same,fun _ _ => rfl,fun _ value found => ⟨value,found⟩⟩,fun _ => rfl⟩

theorem extendsMono {more : List String} {a b : PyObj} (sub : sets ⊆ more) (extended : Extends sets a b) : Extends more a b := by
  refine ⟨extended.1,fun items same => ?_,extended.2.2⟩
  obtain ⟨fields,is,others,kept⟩ := extended.2.1 items same
  exact ⟨fields,is,fun key fresh => others key fun mem => fresh (sub mem),kept⟩

theorem extendsTrans {a b c : PyObj} (one : Extends sets a b) (two : Extends sets b c) : Extends sets a c := by
  refine ⟨fun plain => two.1 (one.1 plain),fun items same => ?_,fun other => ?_⟩
  · obtain ⟨fields,is,others,kept⟩ := one.2.1 items same
    obtain ⟨later,isLater,othersLater,keptLater⟩ := two.2.1 fields is
    refine ⟨later,isLater,fun key fresh => (othersLater key fresh).trans (others key fresh),fun key value found => ?_⟩
    obtain ⟨between,there⟩ := kept key value found
    exact keptLater key between there
  · have same := one.2.2 other
    rw [two.2.2 (same ▸ other),same]

theorem extendsSame {x : Do PyObj α} (same : ∀ data, (x data).state = data) : Leaves (Extends sets) x := by
  intro data
  rw [same data]
  exact extendsRefl sets data

theorem handsOnBind {x : Do PyObj α} {f : α → Do PyObj PyObj} (first : Leaves (Extends sets) x) (rest : ∀ a, HandsOn sets (f a)) :
    HandsOn sets (x >>= f) := by
  intro data
  rcases Library.Act.bindCases x f data with ⟨e,_,run⟩ | ⟨a,_,run⟩
  · rw [run]
    exact ⟨first data,fun out returned => by contradiction⟩
  · rw [run]
    exact ⟨extendsTrans (first data) (rest a _).1,(rest a _).2⟩

theorem handsOnLift {r : Except Exn α} {f : α → Do PyObj PyObj} (rest : ∀ a, r = .ok a → HandsOn sets (f a)) :
    HandsOn sets (lift r >>= f) := by
  cases r with
  | error e => exact fun data => ⟨extendsRefl sets data,fun out returned => by contradiction⟩
  | ok a => exact rest a rfl

theorem handsOnRaise (e : Exn) : HandsOn sets (raise e) := fun data => ⟨extendsRefl sets data,fun out returned => by contradiction⟩

theorem handsOnRead : HandsOn sets read := fun data => ⟨extendsRefl sets data,fun _ returned => (Except.ok.inj returned).symm⟩

end Extends

namespace ActionMethod
section Steps
variable {sets : List String} {args : Dict String PyObj} {key name : String} {value : PyObj}

theorem itemLeaves (key : String) : Leaves (Extends sets) (item key) := extendsSame fun _ => rfl

theorem itemOrLeaves (key : String) (default : PyObj) : Leaves (Extends sets) (itemOr key default) :=
  extendsSame fun data => by cases data <;> rfl

theorem assignPlain (items : List (String × PyObj)) (plain : PyObj.serialisableFields items = true) (ok : value.serialisable = true) :
    PyObj.serialisableFields (Dict.assign key value items) = true := by
  induction items with
  | nil => simp [Dict.assign,PyObj.serialisableFields,ok]
  | cons head rest ih =>
    obtain ⟨k,v⟩ := head
    simp only [PyObj.serialisableFields,Bool.and_eq_true] at plain
    rw [Dict.assign]
    split
    · simp [PyObj.serialisableFields,ok,plain.2]
    · simp [PyObj.serialisableFields,plain.1,ih plain.2]

theorem setItemLeaves (mem : key ∈ sets) (ok : value.serialisable = true) : Leaves (Extends sets) (setItem key value) := by
  intro data
  cases data with
  | dict items =>
    have assigned : (setItem key value (.dict items)).state = .dict (Dict.assign key value items) := rfl
    rw [assigned]
    refine ⟨fun plain => assignPlain items plain ok,fun old same => ?_,fun other => absurd rfl (other items)⟩
    cases same
    refine ⟨_,rfl,fun other fresh => ?_,fun other before found => ?_⟩
    · rw [Dict.lookupAssign,if_neg fun same : other = key => fresh (same ▸ mem)]
    · rw [Dict.lookupAssign]
      split
      · exact ⟨value,rfl⟩
      · exact ⟨before,found⟩
  | _ => exact extendsRefl sets _

theorem handsOnSet {f : Unit → Do PyObj PyObj} (mem : key ∈ sets) (ok : value.serialisable = true) (rest : HandsOn sets (f ())) :
    HandsOn sets (setItem key value >>= f) := handsOnBind (setItemLeaves mem ok) fun _ => rest

theorem requiredPlain (plain : PlainArguments args) (got : required args name = .ok value) : value.serialisable = true := by
  unfold required at got
  split at got
  · rename_i found
    cases got
    exact plain name _ found
  · contradiction

theorem optionalPlain (plain : PlainArguments args) (ok : value.serialisable = true) :
    (optional args name value).serialisable = true := by
  unfold optional
  cases found : args.get? name with
  | none => exact ok
  | some given => exact plain name given found

theorem firstPlain {out : PyObj} (plain : value.serialisable = true) (got : first value = .ok out) : out.serialisable = true := by
  unfold first at got
  split at got <;> try contradiction
  · cases got
    simp only [PyObj.serialisable,PyObj.serialisableItems,Bool.and_eq_true] at plain
    exact plain.1
  · split at got
    · contradiction
    · cases got
      rfl

theorem runNumberPlain {env : ActionSurroundings} {out : PyObj} (got : getnewRunNumber env = .ok out) :
    out.serialisable = true := by
  obtain ⟨req,_,got⟩ := Library.boundOk.mp got
  obtain ⟨row,atRow,got⟩ := Library.boundOk.mp got
  obtain ⟨cell,atCell,got⟩ := Library.boundOk.mp got
  exact firstPlain (firstPlain (firstPlain req.json.2 atRow) atCell) got

end Steps

section Methods
variable {env : ActionSurroundings} {args : Dict String PyObj}

theorem preStartHandsOn : HandsOn [] (dbRunRegistryPreStartMethod env) := by
  refine handsOnBind (itemLeaves "run") fun runNumber => handsOnLift fun _ _ => ?_
  refine handsOnBind (itemOrLeaves _ _) fun runType => handsOnLift fun detId _ => ?_
  cases env.softwareVersion with
  | none => exact handsOnRaise _
  | some softwareVersion => exact handsOnLift fun _ _ => handsOnLift fun _ _ => handsOnLift fun _ _ => handsOnRead

theorem loggedLeaves {sets : List String} : Leaves (Extends sets) (logged args) := by
  refine extendsSame fun data => ?_
  unfold logged
  cases optional args "file_logbook_post" (.str "") <;> rfl

theorem fileLogbookHandsOn : HandsOn [] (fileLogbookPostStartMethod env args) ∧
    HandsOn [] (fileLogbookPostDrainDataflowMethod env args) :=
  ⟨handsOnLift fun _ _ => handsOnBind (itemLeaves "run") fun _ => handsOnBind loggedLeaves fun _ => handsOnRead,
    handsOnLift fun _ _ => handsOnBind loggedLeaves fun _ => handsOnRead⟩

theorem fileRunRegistryHandsOn : HandsOn [] (fileRunRegistryPreStartMethod env) :=
  handsOnBind (itemLeaves "run") fun _ => handsOnLift fun _ _ => handsOnLift fun _ _ => handsOnRead

theorem threadPinningHandsOn (method : String) : HandsOn [] (threadPinningMethod env method) := by
  refine handsOnLift fun _ _ => ?_
  split
  · exact handsOnLift fun _ _ => handsOnRead
  · exact handsOnRead

theorem someTestHandsOn (plain : PlainArguments args) : HandsOn (sets .someTestActionPreConf) (someTestActionPreConfMethod args) := by
  refine handsOnLift fun someInt one => handsOnLift fun someStr two => ?_
  refine handsOnSet (by decide) (requiredPlain plain one) ?_
  refine handsOnSet (by decide) (requiredPlain plain two) ?_
  exact handsOnSet (by decide) (optionalPlain plain rfl) handsOnRead

theorem triggerRateHandsOn (plain : PlainArguments args) :
    HandsOn (sets .triggerRateSpecifierPreChangeRate) (triggerRateSpecifierPreChangeRateMethod args) := by
  refine handsOnLift fun triggerRate given => ?_
  exact handsOnSet (by decide) (requiredPlain plain given) handsOnRead

theorem userProvidedHandsOn (plain : PlainArguments args) :
    HandsOn (sets .userProvidedRunNumberPreStart) (userProvidedRunNumberPreStartMethod args) := by
  refine handsOnLift fun runNumber given => handsOnLift fun runType _ => ?_
  refine handsOnSet (by decide) rfl ?_
  refine handsOnSet (by decide) (requiredPlain plain given) ?_
  refine handsOnSet (by decide) (optionalPlain plain rfl) ?_
  exact handsOnSet (by decide) (optionalPlain plain rfl) handsOnRead

theorem usvcProvidedHandsOn (plain : PlainArguments args) :
    HandsOn (sets .usvcProvidedRunNumberPreStart) (usvcProvidedRunNumberPreStartMethod env args) := by
  refine handsOnLift fun runType _ => handsOnSet (by decide) rfl (handsOnLift fun runNumber got => ?_)
  refine handsOnSet (by decide) (runNumberPlain got) ?_
  refine handsOnSet (by decide) (optionalPlain plain rfl) ?_
  exact handsOnSet (by decide) (optionalPlain plain rfl) handsOnRead

theorem masterSendHandsOn (plain : PlainArguments args) :
    HandsOn (sets .masterSendFLCommandPreMasterSendFLCommand) (masterSendFLCommandMethod args) := by
  refine handsOnLift fun flCmdId one => handsOnLift fun channel two => handsOnLift fun number three => ?_
  refine handsOnSet (by decide) (requiredPlain plain one) ?_
  refine handsOnSet (by decide) (requiredPlain plain two) ?_
  exact handsOnSet (by decide) (requiredPlain plain three) handsOnRead

variable [Builtins]

theorem elisaStartHandsOn : HandsOn [] (elisaLogbookPostStartMethod env args) := by
  refine handsOnBind (itemLeaves "run") fun runNum => handsOnBind (itemOrLeaves _ _) fun runType => handsOnLift fun _ _ => ?_
  split
  · exact handsOnLift fun _ _ => handsOnLift fun detId _ => handsOnLift fun _ _ => handsOnRead
  · exact handsOnLift fun detId _ => handsOnLift fun _ _ => handsOnRead

theorem elisaDrainHandsOn : HandsOn [] (elisaLogbookPostDrainDataflowMethod env args) :=
  handsOnLift fun _ _ => handsOnLift fun _ _ => handsOnLift fun _ _ => handsOnLift fun _ _ => handsOnLift fun _ _ => handsOnRead

theorem bodyHandsOn (plain : PlainArguments args) (a : ActionMethod) (returns : a ≠ .dbRunRegistryPostDrainDataflow) :
    HandsOn a.sets (a.body env args) := by
  cases a with
  | dbRunRegistryPreStart => exact preStartHandsOn
  | dbRunRegistryPostDrainDataflow => contradiction
  | fileLogbookPostStart => exact fileLogbookHandsOn.1
  | fileLogbookPostDrainDataflow => exact fileLogbookHandsOn.2
  | fileRunRegistryPreStart => exact fileRunRegistryHandsOn
  | someTestActionPreConf => exact someTestHandsOn plain
  | threadPinningPreConf => exact threadPinningHandsOn "pre_conf"
  | threadPinningPostConf => exact threadPinningHandsOn "post_conf"
  | threadPinningPostStart => exact threadPinningHandsOn "post_start"
  | triggerRateSpecifierPreChangeRate => exact triggerRateHandsOn plain
  | userProvidedRunNumberPreStart => exact userProvidedHandsOn plain
  | elisaLogbookPostStart => exact elisaStartHandsOn
  | elisaLogbookPostDrainDataflow => exact elisaDrainHandsOn
  | usvcProvidedRunNumberPreStart => exact usvcProvidedHandsOn plain
  | masterSendFLCommandPreMasterSendFLCommand => exact masterSendHandsOn plain

theorem callCases (env : ActionSurroundings) (args : Dict String PyObj) (a : ActionMethod) :
    (∃ e, a.call env args = raise e) ∨ a.call env args = a.body env args := by
  unfold call
  split
  · exact .inl ⟨_,rfl⟩
  · exact .inr rfl

theorem callHandsOn (env : ActionSurroundings) (plain : PlainArguments args) (a : ActionMethod) (returns : a ≠ .dbRunRegistryPostDrainDataflow) :
    HandsOn a.sets (a.call env args) := by
  rcases callCases env args a with ⟨e,raises⟩ | runs
  · rw [raises]
    exact handsOnRaise e
  · rw [runs]
    exact bodyHandsOn plain a returns

theorem callForgets {data out : PyObj}
    (returned : (call env args .dbRunRegistryPostDrainDataflow data).result = .ok out) : out = .none := by
  rcases callCases env args .dbRunRegistryPostDrainDataflow with ⟨e,raises⟩ | runs
  · rw [raises] at returned
    contradiction
  · rw [runs] at returned
    obtain ⟨_,_,returned⟩ := Library.Act.bindReturned returned
    obtain ⟨_,_,returned⟩ := Library.Act.bindReturned returned
    exact (Except.ok.inj returned).symm

end Methods
end ActionMethod

theorem unpackedPlain {type : ArgumentType} {given : Option ArgumentValue} {value : PyObj}
    (unpacked : unpackArgument type given = .ok value) : value.serialisable = true := by
  unfold unpackArgument at unpacked
  split at unpacked <;> cases unpacked <;> rfl

theorem decodedPlain {given : Dict String ArgumentValue} {format : List Argument} {out decoded : Dict String PyObj}
    (plain : PlainArguments out) (ok : decodeArguments given format out = .ok decoded) : PlainArguments decoded := by
  induction format generalizing out with
  | nil =>
    cases ok
    exact plain
  | cons arg rest ih =>
    rw [decodeArguments] at ok
    split at ok
    · contradiction
    · obtain ⟨value,unpacked,ok⟩ := Library.boundOk.mp ok
      refine ih (fun name found there => ?_) ok
      rw [Dict.getSet] at there
      split at there
      · cases there
        exact unpackedPlain unpacked
      · exact plain name found there

structure ActionCallback where
  method : ActionMethod
  mandatory : Bool

def ActionCallback.callback (cb : ActionCallback) : Callback := ⟨cb.method.name,cb.mandatory⟩

def NoneRaises (w : World) (side : PreOrPost) (args : Dict String PyObj) : Nat → List Callback → PyObj → Prop
  | _, [], _ => True
  | index, _ :: rest, inputData => ∃ outputData, (w.callback side index inputData args).result = .ok outputData ∧
      NoneRaises w side args (index+1) rest outputData

def DataKept (sequence : List ActionCallback) (items : List (String × PyObj)) (returned : Except Exn JsonText) : Prop :=
  ∃ fields ok, returned = .ok (.json ⟨.dict fields,ok⟩) ∧ ∀ key value, Dict.lookup key items = some value →
    (∃ later, Dict.lookup key fields = some later) ∧
      ((∀ cb ∈ sequence, key ∉ cb.method.sets) → Dict.lookup key fields = some value)

section Sequence
variable [Builtins]

def actionWorld (w : World) (env : Nat → ActionSurroundings) (sequence : List ActionCallback) : World :=
  { w with callback := fun _ index inputData args => match sequence[index]? with
    | none => ⟨inputData,.ok inputData⟩
    | some cb => ⟨(cb.method.call (env index) args inputData).state,(cb.method.call (env index) args inputData).result⟩ }

variable {w : World} {env : Nat → ActionSurroundings} {sequence : List ActionCallback} {side : PreOrPost} {args : Dict String PyObj}

theorem actionCalled {index : Nat} {cb : ActionCallback} (here : sequence[index]? = some cb) (data : PyObj) :
    (actionWorld w env sequence).callback side index data args =
      ⟨(cb.method.call (env index) args data).state,(cb.method.call (env index) args data).result⟩ := by
  simp only [actionWorld,here]

theorem actionStep (plain : PlainArguments args) {index : Nat} {cb : ActionCallback} (here : sequence[index]? = some cb)
    {data out : PyObj} (ok : data.serialisable = true)
    (returned : ((actionWorld w env sequence).callback side index data args).result = .ok out) :
    callbackResult (actionWorld w env sequence) side args index cb.callback data = .ok out ∧ out.serialisable = true ∧
      (cb.method ≠ .dbRunRegistryPostDrainDataflow → Extends cb.method.sets data out) ∧
      (cb.method = .dbRunRegistryPostDrainDataflow → out = .none) := by
  have ran : (cb.method.call (env index) args data).result = .ok out := by
    rw [← returned,actionCalled here]
  have extended : cb.method ≠ .dbRunRegistryPostDrainDataflow → Extends cb.method.sets data out := by
    intro returns
    obtain ⟨extended,handed⟩ := ActionMethod.callHandsOn (env index) plain cb.method returns data
    rwa [handed out ran]
  have forgot : cb.method = .dbRunRegistryPostDrainDataflow → out = .none :=
    fun forgets => ActionMethod.callForgets (forgets ▸ ran)
  have plainOut : out.serialisable = true := by
    by_cases forgets : cb.method = .dbRunRegistryPostDrainDataflow
    · rw [forgot forgets]
      rfl
    · exact (extended forgets).1 ok
  refine ⟨?_,plainOut,extended,forgot⟩
  unfold callbackResult
  dsimp only
  rw [returned]
  dsimp only
  rw [plainOut]
  rfl

theorem sequenceCarries (plain : PlainArguments args) {index : Nat} {rest : List ActionCallback}
    (suffix : sequence.drop index = rest) {data : PyObj} (ok : data.serialisable = true)
    (clean : NoneRaises (actionWorld w env sequence) side args index (rest.map ActionCallback.callback) data) :
    ∃ out, sequenceResult (actionWorld w env sequence) side args index (rest.map ActionCallback.callback) data = .ok out ∧
      out.serialisable = true ∧
      ((∀ cb ∈ rest, cb.method ≠ .dbRunRegistryPostDrainDataflow) →
        Extends (rest.flatMap fun cb => cb.method.sets) data out) ∧
      (data = .none ∨ (∃ cb ∈ rest, cb.method = .dbRunRegistryPostDrainDataflow) → out = .none) := by
  induction rest generalizing index data with
  | nil => exact ⟨data,rfl,ok,fun _ => extendsRefl _ data,by simp⟩
  | cons cb rest ih =>
    have here : sequence[index]? = some cb := by
      have first : (sequence.drop index)[0]? = sequence[index]? := List.getElem?_drop
      rw [suffix] at first
      exact first.symm
    have after : sequence.drop (index+1) = rest := by rw [← List.drop_drop,suffix]; rfl
    obtain ⟨next,returned,clean⟩ := clean
    obtain ⟨result,plainNext,extended,forgot⟩ := actionStep plain here ok returned
    obtain ⟨out,run,plainOut,carried,lost⟩ := ih after plainNext clean
    refine ⟨out,?_,plainOut,fun all => ?_,fun gone => lost ?_⟩
    · rw [List.map_cons,sequenceResult,result]
      exact run
    · have first := extended (all cb List.mem_cons_self)
      have later := carried fun other mem => all other (List.mem_cons_of_mem cb mem)
      rw [List.flatMap_cons]
      exact extendsTrans (extendsMono (List.subset_append_left _ _) first) (extendsMono (List.subset_append_right _ _) later)
    · by_cases forgets : cb.method = .dbRunRegistryPostDrainDataflow
      · exact .inl (forgot forgets)
      · rcases gone with rfl | ⟨other,mem,bad⟩
        · exact .inl ((extended forgets).2.2 (by simp))
        · rcases List.mem_cons.mp mem with rfl | mem
          · exact absurd bad forgets
          · exact .inr ⟨other,mem,bad⟩

theorem executeKeeps {σ : Type} (w : World) (env : Nat → ActionSurroundings) (sequence : List ActionCallback) (side : PreOrPost)
    {given : Dict String ArgumentValue} {format : List Argument} (decoded : decodeFsmArguments given format = .ok args)
    {items : List (String × PyObj)} (ok : (PyObj.dict items).serialisable = true)
    (clean : NoneRaises (actionWorld w env sequence) side args 0 (sequence.map ActionCallback.callback) (.dict items)) (s : σ) :
    DataKept sequence items
        (execute (actionWorld w env sequence) side (sequence.map ActionCallback.callback) (.json ⟨.dict items,ok⟩) args s).result ↔
      ∀ cb ∈ sequence, cb.method ≠ .dbRunRegistryPostDrainDataflow := by
  have plain : PlainArguments args := decodedPlain (fun name value found => by contradiction) decoded
  obtain ⟨out,run,plainOut,carried,lost⟩ := sequenceCarries plain List.drop_zero ok clean
  have returned : executeResult (actionWorld w env sequence) side (sequence.map ActionCallback.callback) (.json ⟨.dict items,ok⟩) args =
      .ok (.json ⟨out,plainOut⟩) := by
    change (sequenceResult _ side args 0 _ (.dict items) >>= dumps) = _
    rw [run]
    exact dumpsLoaded plainOut
  rw [(executeSteady _ side _ _ args s).1,returned]
  constructor
  · rintro ⟨fields,_,same,_⟩ cb mem forgets
    have nothing := lost (.inr ⟨cb,mem,forgets⟩)
    cases same
    contradiction
  · intro all
    obtain ⟨fields,rfl,others,kept⟩ := (carried all).2.1 items rfl
    refine ⟨fields,plainOut,rfl,fun key value found => ⟨kept key value found,fun unset => ?_⟩⟩
    rw [others key (by simpa using unset),found]

end Sequence

namespace Sample

def registrySurroundings : ActionSurroundings :=
  { self := ⟨"http://np04-srv-021:30015",Dict.empty,some (.int 7),some (.int 7),some (.str "TEST"),some (.str "np02"),none⟩
    userName := "user", configuration := .ok "np02-session.data.xml", detectorId := .ok "np02"
    softwareVersion := some "fddaq-v5.2.0", files := .ok (), removal := .ok (), pinThread := .ok ()
    answer := fun _ _ => .response ⟨200,.none,emptyPlain⟩ }

def drainSequence : List ActionCallback := [⟨.fileLogbookPostDrainDataflow,false⟩,⟨.dbRunRegistryPostDrainDataflow,true⟩]

def startSequence : List ActionCallback := [⟨.userProvidedRunNumberPreStart,true⟩,⟨.dbRunRegistryPreStart,true⟩]

def startGiven : Dict String ArgumentValue := ⟨[("run_number",.intMsg 8)],by decide⟩

def startDecoded : Dict String PyObj := ⟨[("run_number",.int 8),("run_type",.str "TEST"),("trigger_rate",.float 0)],by decide⟩

def runItems : List (String × PyObj) := [("run",.int 7)]

theorem registryForgets :
    NoneRaises (@actionWorld texts calm (fun _ => registrySurroundings) drainSequence) .post Dict.empty 0
        (drainSequence.map ActionCallback.callback) (.dict runItems) ∧
      ¬ DataKept drainSequence runItems (execute (@actionWorld texts calm (fun _ => registrySurroundings) drainSequence) .post
        (drainSequence.map ActionCallback.callback) (.json ⟨.dict runItems,rfl⟩) Dict.empty ()).result := by
  refine ⟨⟨_,rfl,_,rfl,trivial⟩,?_⟩
  rintro ⟨fields,_,returned,_⟩
  have lost : (execute (@actionWorld texts calm (fun _ => registrySurroundings) drainSequence) .post
      (drainSequence.map ActionCallback.callback) (.json ⟨.dict runItems,rfl⟩) Dict.empty ()).result = .ok (.json ⟨.none,rfl⟩) := rfl
  rw [lost] at returned
  cases returned

theorem startKeeps :
    DataKept startSequence runItems (execute (@actionWorld texts calm (fun _ => registrySurroundings) startSequence) .pre
      (startSequence.map ActionCallback.callback) (.json ⟨.dict runItems,rfl⟩) startDecoded ()).result :=
  (@executeKeeps texts startDecoded Unit calm (fun _ => registrySurroundings) startSequence .pre startGiven startArguments rfl runItems rfl
    ⟨_,rfl,_,rfl,trivial⟩ ()).mpr (by decide)

end Sample
end Drunc
