import Drunc.Fsm

/-! What a callback leaves behind that is allowed to fail. The reference is the sequence
without the optional callbacks that fail (`surviving`); the others keep their places, by
which `World` knows them. The code goes on with the object that a failed callback was
given, as the callback left it, or with the value that it returned. `received` lists the
data that the callbacks are called with, `intended` the data that they would be called with
had no failed callback left a trace. -/
namespace Drunc
open Library (Dict)

def CallbackOutcome.fails (outcome : CallbackOutcome) : Bool :=
  match outcome.result with
  | .error e => e.isDrunc
  | .ok data => !data.serialisable

section Tolerated
variable (w : World) (side : PreOrPost) (args : Dict String PyObj)

def ignored (callback : Callback × Nat) (inputData : PyObj) : Bool :=
  (w.callback side callback.2 inputData args).fails && !callback.1.mandatory

def executeListed : List (Callback × Nat) → PyObj → Except Exn PyObj
  | [], inputData => .ok inputData
  | (callback,index) :: rest, inputData => do
      let inputData ← callbackResult w side args index callback inputData
      executeListed rest inputData

def surviving : List (Callback × Nat) → PyObj → List (Callback × Nat)
  | [], _ => []
  | callback :: rest, inputData =>
      if ignored w side args callback inputData then surviving rest inputData
      else match callbackResult w side args callback.2 callback.1 inputData with
        | .ok data => callback :: surviving rest data
        | .error _ => callback :: rest

def executeSurviving (sequence : List Callback) (transitionData : JsonText) : Except Exn JsonText :=
  match loads (orEmpty transitionData) with
  | .error _ => .error (.typeError "super(type, obj): obj must be an instance or subtype of type")
  | .ok inputData => do
      let inputData ← executeListed w side args (surviving w side args sequence.zipIdx inputData) inputData
      dumps inputData

def tolerated (callback : Callback × Nat) (inputData : PyObj) : Except Exn PyObj :=
  if ignored w side args callback inputData then .ok inputData
  else callbackResult w side args callback.2 callback.1 inputData

def toleratedResult : List (Callback × Nat) → PyObj → Except Exn PyObj
  | [], inputData => .ok inputData
  | callback :: rest, inputData => do
      let inputData ← tolerated w side args callback inputData
      toleratedResult rest inputData

def received : List (Callback × Nat) → PyObj → List PyObj
  | [], _ => []
  | (callback,index) :: rest, inputData => inputData ::
      match callbackResult w side args index callback inputData with
      | .ok data => received rest data
      | .error _ => []

def intended : List (Callback × Nat) → PyObj → List PyObj
  | [], _ => []
  | callback :: rest, inputData => inputData ::
      match tolerated w side args callback inputData with
      | .ok data => intended rest data
      | .error _ => []

structure Tolerates (sequence : List Callback) (transitionData : JsonText) : Prop where
  result : executeResult w side sequence transitionData args = executeSurviving w side args sequence transitionData
  passed : ∀ inputData, loads (orEmpty transitionData) = .ok inputData →
    received w side args sequence.zipIdx inputData = intended w side args sequence.zipIdx inputData

def Traceless (callback : Callback × Nat) (inputData : PyObj) : Prop :=
  (∃ e, (w.callback side callback.2 inputData args).result = .error e) ∧
  (w.callback side callback.2 inputData args).input = inputData

def FailTraceless : List (Callback × Nat) → PyObj → Prop
  | [], _ => True
  | callback :: rest, inputData =>
      (ignored w side args callback inputData = true → Traceless w side args callback inputData) ∧
      ∀ data, tolerated w side args callback inputData = .ok data → FailTraceless rest data

end Tolerated

section Sequence
variable {w : World} {side : PreOrPost} {args : Dict String PyObj}

theorem sequenceListed (index : Nat) (sequence : List Callback) (inputData : PyObj) :
    sequenceResult w side args index sequence inputData =
      executeListed w side args (sequence.zipIdx index) inputData := by
  induction sequence generalizing index inputData with
  | nil => rfl
  | cons callback rest ih => exact congrArg _ (funext fun data => ih (index+1) data)

theorem survivingRuns (callbacks : List (Callback × Nat)) (inputData : PyObj) :
    executeListed w side args (surviving w side args callbacks inputData) inputData =
      toleratedResult w side args callbacks inputData := by
  induction callbacks generalizing inputData with
  | nil => rfl
  | cons callback rest ih =>
    obtain ⟨callback,index⟩ := callback
    unfold surviving toleratedResult tolerated
    split
    · exact ih inputData
    · cases run : callbackResult w side args index callback inputData with
      | error e =>
        unfold executeListed
        rw [run]
        rfl
      | ok data =>
        unfold executeListed
        rw [run]
        exact ih data

theorem callbackCases (w : World) (side : PreOrPost) (args : Dict String PyObj) (callback : Callback × Nat) {inputData : PyObj} (written : inputData.serialisable = true) :
    (ignored w side args callback inputData = true ∧ ∃ data,
      callbackResult w side args callback.2 callback.1 inputData = .ok data ∧
      (data = inputData ↔ Traceless w side args callback inputData)) ∨
    (ignored w side args callback inputData = false ∧
      ∀ data, callbackResult w side args callback.2 callback.1 inputData = .ok data → data.serialisable = true) := by
  unfold ignored CallbackOutcome.fails callbackResult Traceless
  obtain ⟨callback,index⟩ := callback
  cases w.callback side index inputData args with
  | mk input result =>
    cases optional : callback.mandatory with
    | true => cases result with
      | error e => simp
      | ok data => cases good : data.serialisable <;> simp [good]
    | false => cases result with
      | error e => cases drunc : e.isDrunc <;> simp [drunc]
      | ok data => cases good : data.serialisable with
        | true => simp [good]
        | false =>
          have other : data ≠ inputData := fun same => by rw [same,written] at good; contradiction
          simp [good,other]

theorem dumpsInj {value other : PyObj} (written : other.serialisable = true) (same : dumps value = dumps other) :
    value = other := by
  rw [dumpsLoaded written] at same
  unfold dumps at same
  split at same
  · exact congrArg Subtype.val (JsonText.json.inj (Except.ok.inj same))
  · contradiction

theorem loadsWritten {text : JsonText} {value : PyObj} (loaded : loads text = .ok value) : value.serialisable = true := by
  cases text with
  | json document => exact Except.ok.inj loaded ▸ document.2
  | empty => contradiction
  | malformed => contradiction

theorem headShows {callbacks : List (Callback × Nat)} {value inputData : PyObj} (written : inputData.serialisable = true)
    (same : received w side args callbacks value = intended w side args callbacks inputData)
    (ends : (executeListed w side args callbacks value >>= dumps) = (toleratedResult w side args callbacks inputData >>= dumps)) :
    value = inputData := by
  cases callbacks with
  | nil => exact dumpsInj written ends
  | cons callback rest => exact (List.cons.inj same).1

theorem sequenceToleratesIff (callbacks : List (Callback × Nat)) {inputData : PyObj} (written : inputData.serialisable = true) :
    (received w side args callbacks inputData = intended w side args callbacks inputData ∧
      (executeListed w side args callbacks inputData >>= dumps) =
        (toleratedResult w side args callbacks inputData >>= dumps)) ↔
    FailTraceless w side args callbacks inputData := by
  induction callbacks generalizing inputData with
  | nil => simp [received,intended,executeListed,toleratedResult,FailTraceless]
  | cons callback rest ih =>
    unfold received intended executeListed toleratedResult FailTraceless tolerated
    rcases callbackCases w side args callback written with ⟨skipped,data,run,kept⟩ | ⟨called,keeps⟩
    · simp only [skipped,run,if_true,List.cons.injEq,true_and,forall_const,Except.ok.injEq,forall_eq']
      change (received w side args rest data = _ ∧ (executeListed w side args rest data >>= dumps) =
        (toleratedResult w side args rest inputData >>= dumps)) ↔ _
      constructor
      · rintro ⟨same,ends⟩
        obtain rfl := headShows written same ends
        exact ⟨kept.mp rfl,(ih written).mp ⟨same,ends⟩⟩
      · rintro ⟨traceless,later⟩
        rw [kept.mpr traceless]
        exact (ih written).mpr later
    · simp only [called,Bool.false_eq_true,if_false,List.cons.injEq,true_and,false_implies]
      cases run : callbackResult w side args callback.2 callback.1 inputData with
      | error e => simp [bind,Except.bind]
      | ok data =>
        simp only [Except.ok.injEq,forall_eq']
        exact ih (keeps data run)

end Sequence

theorem toleratesIff (w : World) (side : PreOrPost) (sequence : List Callback) (transitionData : JsonText)
    (args : Dict String PyObj) :
    Tolerates w side args sequence transitionData ↔ ∀ inputData, loads (orEmpty transitionData) = .ok inputData →
      FailTraceless w side args sequence.zipIdx inputData := by
  have result : ∀ inputData, loads (orEmpty transitionData) = .ok inputData →
      ((executeResult w side sequence transitionData args = executeSurviving w side args sequence transitionData) ↔
        (executeListed w side args sequence.zipIdx inputData >>= dumps) =
          (toleratedResult w side args sequence.zipIdx inputData >>= dumps)) := by
    intro inputData loaded
    unfold executeResult executeSurviving
    rw [loaded]
    dsimp only
    rw [sequenceListed,survivingRuns]
  constructor
  · intro tolerates inputData loaded
    exact (sequenceToleratesIff _ (loadsWritten loaded)).mp ⟨tolerates.passed inputData loaded,
      (result inputData loaded).mp tolerates.result⟩
  · intro traceless
    cases loaded : loads (orEmpty transitionData) with
    | error e =>
      refine ⟨?_,fun inputData here => nomatch loaded.symm.trans here⟩
      unfold executeResult executeSurviving
      rw [loaded]
    | ok inputData =>
      obtain ⟨passed,ends⟩ := (sequenceToleratesIff _ (loadsWritten loaded)).mpr (traceless inputData loaded)
      refine ⟨(result inputData loaded).mpr ends,fun other here => ?_⟩
      obtain rfl : inputData = other := by simpa [loaded] using here
      exact passed

namespace Sample

def preStart : List Callback := [⟨"pre_start",false⟩]

def withOutcome (outcome : CallbackOutcome) : World := ⟨fun _ => none,fun _ _ _ _ => outcome,[]⟩

def numberless : World :=
  withOutcome ⟨.dict [("production_vs_test",.str "TEST")],.error (.drunc "CannotGetRunNumber" "timed out")⟩

def unwritable : World := withOutcome ⟨.dict [],.ok (.object "datetime.now()")⟩

def writtenKeys : Except Exn JsonText → Option (List String)
  | .ok (.json ⟨.dict items,_⟩) => some (items.map Prod.fst)
  | _ => none

end Sample

open Sample in
theorem failedCallbackLeaks :
    writtenKeys (executeResult numberless .pre preStart .empty Dict.empty) = some ["production_vs_test"] ∧
    writtenKeys (executeSurviving numberless .pre Dict.empty preStart .empty) = some [] ∧
    writtenKeys (executeResult unwritable .pre preStart .empty Dict.empty) = none ∧
    ¬ Tolerates numberless .pre Dict.empty preStart .empty ∧ ¬ Tolerates unwritable .pre Dict.empty preStart .empty :=
  ⟨by decide,by decide,by decide,fun tolerates => absurd (congrArg writtenKeys tolerates.result) (by decide),
    fun tolerates => absurd (congrArg writtenKeys tolerates.result) (by decide)⟩

end Drunc
