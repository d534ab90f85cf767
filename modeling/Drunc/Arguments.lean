import Drunc.Fsm

/-! The arguments of an FSM command, from the shell to the controller. The shell formats what the
user gave by the description of the command, and takes each value that is not falsy out of the
dictionary as it goes; the controller decodes what it receives by the same description. Where no
name is described twice, both loops fill a dictionary, one key for each description.
`DruncSchema` is what packing a value into a message of `druncschema` gives, which keeps the
values that fit it, and `Builtins` what Python's `int`, `float` and `str` make of a value. -/
namespace Drunc
open Library (Dict boundOk)
open Library.Act

class Builtins where
  intOfText : String → Option Int
  floatOfText : String → Option Rat
  str : PyObj → String

class DruncSchema where
  packed : ArgumentType → PyObj → Except Exn ArgumentValue
  fits : ArgumentType → PyObj → Prop
  carried : ∀ type value, fits type value →
    ∃ message, packed type value = .ok message ∧ unpackArgument type (some message) = .ok value
  foreign : ∀ type value e, packed type value = .error e → e.isDrunc = false

def PyObj.truthy : PyObj → Bool
  | .none => false
  | .bool b => b
  | .int n => n != 0
  | .float q => q != 0
  | .str s => s != ""
  | .list items => !items.isEmpty
  | .dict items => !items.isEmpty
  | .object _ => true

def PyObj.isNone : PyObj → Bool
  | .none => true
  | _ => false

def ArgumentType.protoName : ArgumentType → String
  | .int => "INT"
  | .float => "FLOAT"
  | .string => "STRING"
  | .bool => "BOOL"

def duplicateArgument (argumentName : String) : Exn :=
  .drunc "DuplicateArgument" ("Duplicate argument: \"" ++ argumentName ++ "\"")

def missingArgument (argumentName argumentType : String) : Exn :=
  .drunc "MissingArgument" ("Missing argument: \"" ++ argumentName ++ "\" of type \"" ++ argumentType ++ "\"")

def emptyAny : ArgumentValue := .other ""

section Shell
variable [Builtins]

def invalidArgumentType (argumentName : String) (value : PyObj) (expectedType : String) : Exn :=
  .drunc "InvalidArgumentType" ("Argument: \"" ++ argumentName ++ "\" (" ++ Builtins.str value ++
    ") does not have the expected type " ++ expectedType)

def intOf : PyObj → Option Int
  | .bool b => some (if b then 1 else 0)
  | .int n => some n
  | .float q => some (if q < 0 then q.ceil else q.floor)
  | .str s => Builtins.intOfText s
  | _ => none

def floatOf : PyObj → Option Rat
  | .bool b => some (if b then 1 else 0)
  | .int n => some n
  | .float q => some q
  | .str s => Builtins.floatOfText s
  | _ => none

variable [DruncSchema]

def formatValue (argumentDesc : Argument) (value : PyObj) : Except Exn ArgumentValue :=
  let invalid := invalidArgumentType argumentDesc.name value argumentDesc.type.protoName
  match argumentDesc.type with
  | .int => match intOf value with
    | some n => DruncSchema.packed .int (.int n)
    | none => .error invalid
  | .float => match floatOf value with
    | some q => DruncSchema.packed .float (.float q)
    | none => .error invalid
  | .string => DruncSchema.packed .string value
  | .bool => match DruncSchema.packed .bool value with
    | .ok message => .ok message
    | .error _ => .error invalid

def valueGiven (arguments : Dict String PyObj) (argumentDesc : Argument) : PyObj :=
  (arguments.get? argumentDesc.name).getD .none

def formatArguments : List Argument → Dict String ArgumentValue → Do (Dict String PyObj) (Dict String ArgumentValue)
  | [], outDict => pure outDict
  | argumentDesc :: rest, outDict => do
      let aname := argumentDesc.name
      let arguments ← read
      if (outDict.get? aname).isSome then raise (duplicateArgument aname)
      else if argumentDesc.presence = .mandatory ∧ (arguments.get? aname).isNone then
        raise (missingArgument aname argumentDesc.type.protoName)
      else
        let value := valueGiven arguments argumentDesc
        if value.isNone then formatArguments rest (outDict.set aname (argumentDesc.defaultValue.getD emptyAny))
        else do
          -- `arguments_left` is the dictionary of the caller itself
          update fun argumentsLeft => if value.truthy then argumentsLeft.erase aname else argumentsLeft
          let message ← lift (formatValue argumentDesc value)
          formatArguments rest (outDict.set aname message)

def validateAndFormatFsmArguments (commandArguments : List Argument) :
    Do (Dict String PyObj) (Dict String ArgumentValue) := do
  let arguments ← read
  if arguments.entries.isEmpty then pure Dict.empty else formatArguments commandArguments Dict.empty

def formatted (arguments : Dict String PyObj) (arg : Argument) : Except Exn ArgumentValue :=
  if arg.presence = .mandatory ∧ (arguments.get? arg.name).isNone then
    .error (missingArgument arg.name arg.type.protoName)
  else if (valueGiven arguments arg).isNone then .ok (arg.defaultValue.getD emptyAny)
  else formatValue arg (valueGiven arguments arg)

section Formatting
variable {args rest : List Argument} {arg : Argument} {arguments left : Dict String PyObj} {out : Dict String ArgumentValue}

theorem formatFails {e : Exn} (fresh : out.get? arg.name = none) (failed : formatted arguments arg = .error e) :
    (formatArguments (arg :: rest) out arguments).result = .error e := by
  unfold formatted at failed
  rw [formatArguments,readBind,if_neg (by simp [fresh])]
  split at failed
  · rename_i missing
    cases failed
    rw [if_pos missing]
    rfl
  · rename_i present
    rw [if_neg present]
    split at failed
    · contradiction
    · rename_i value
      simp only [if_neg value,updateBind,failed]
      rfl

theorem formatNext (rest : List Argument) {message : ArgumentValue} (fresh : out.get? arg.name = none)
    (ok : formatted arguments arg = .ok message) :
    ∃ left, (∀ other, other ≠ arg.name → left.get? other = arguments.get? other) ∧
      (formatArguments (arg :: rest) out arguments).result =
        (formatArguments rest (out.set arg.name message) left).result := by
  unfold formatted at ok
  rw [formatArguments,readBind,if_neg (by simp [fresh])]
  split at ok
  · contradiction
  · rename_i present
    rw [if_neg present]
    split at ok
    · rename_i none
      cases ok
      exact ⟨arguments,fun _ _ => rfl,by simp only [if_pos none]⟩
    · rename_i value
      simp only [if_neg value,updateBind,ok,liftOkBind]
      refine ⟨_,fun other distinct => ?_,rfl⟩
      split <;> simp [distinct]

theorem formattedSame (same : left.get? arg.name = arguments.get? arg.name) :
    formatted left arg = formatted arguments arg := by
  unfold formatted valueGiven
  rw [same]

theorem formatFills (distinct : (args.map Argument.name).Nodup) (fresh : ∀ arg ∈ args, out.get? arg.name = none) :
    (formatArguments args out arguments).result = Dict.fill Argument.name (formatted arguments) args out := by
  induction args generalizing out arguments with
  | nil => rfl
  | cons arg rest ih =>
    obtain ⟨unseen,others⟩ := List.nodup_cons.mp distinct
    have apart : ∀ other ∈ rest, other.name ≠ arg.name := fun other mem same =>
      unseen (same ▸ List.mem_map_of_mem mem)
    have here := fresh arg List.mem_cons_self
    rw [Dict.fillCons]
    cases head : formatted arguments arg with
    | error e => exact formatFails here head
    | ok message =>
      obtain ⟨left,kept,next⟩ := formatNext rest here head
      rw [next,ih others]
      · exact Dict.fillCongr (fun other mem => formattedSame (kept _ (apart other mem))) _
      · intro other mem
        rw [Dict.getSet,if_neg (apart other mem)]
        exact fresh other (List.mem_cons_of_mem _ mem)

theorem formatFaulty {value : PyObj} {e : Exn} (failed : formatValue arg value = .error e) :
    e.isDrunc = false ∨ e = invalidArgumentType arg.name value arg.type.protoName := by
  unfold formatValue at failed
  dsimp only at failed
  split at failed
  · split at failed
    · exact .inl (DruncSchema.foreign _ _ _ failed)
    · cases failed; exact .inr rfl
  · split at failed
    · exact .inl (DruncSchema.foreign _ _ _ failed)
    · cases failed; exact .inr rfl
  · exact .inl (DruncSchema.foreign _ _ _ failed)
  · split at failed
    · contradiction
    · cases failed; exact .inr rfl

theorem notDuplicate {pname : String} (distinct : (args.map Argument.name).Nodup) :
    (validateAndFormatFsmArguments args arguments).result ≠ .error (duplicateArgument pname) := by
  intro failed
  unfold validateAndFormatFsmArguments at failed
  rw [readBind] at failed
  split at failed
  · contradiction
  · rw [formatFills distinct fun _ _ => rfl] at failed
    obtain ⟨arg,_,failed⟩ := Dict.fillFails failed
    unfold formatted at failed
    split at failed
    · simp [missingArgument,duplicateArgument] at failed
    · split at failed
      · contradiction
      · rcases formatFaulty failed with foreign | invalid
        · contradiction
        · simp [invalidArgumentType,duplicateArgument] at invalid

end Formatting
end Shell

def decodedAs (arguments : Dict String ArgumentValue) (arg : Argument) : Except Exn PyObj :=
  if arg.presence = .mandatory ∧ arguments.get? arg.name = none then .error (.missingArgument arg.name "")
  else unpackArgument arg.type ((arguments.get? arg.name).or arg.defaultValue)

theorem decodeFills (arguments : Dict String ArgumentValue) (args : List Argument) (out : Dict String PyObj) :
    decodeArguments arguments args out = Dict.fill Argument.name (decodedAs arguments) args out := by
  induction args generalizing out with
  | nil => rfl
  | cons arg rest ih =>
    rw [decodeArguments,Dict.fillCons,funext ih]
    by_cases missing : arg.presence = .mandatory ∧ arguments.get? arg.name = none
    · rw [if_pos missing,decodedAs,if_pos missing]
      rfl
    · rw [if_neg missing,decodedAs,if_neg missing]

inductive OfType : ArgumentType → PyObj → Prop
  | int (n : Int) : OfType .int (.int n)
  | float (q : Rat) : OfType .float (.float q)
  | string (s : String) : OfType .string (.str s)
  | bool (b : Bool) : OfType .bool (.bool b)

structure Described (args : List Argument) : Prop where
  distinct : (args.map Argument.name).Nodup
  defaults : ∀ arg ∈ args, arg.presence = .optional → ∃ value, unpackArgument arg.type arg.defaultValue = .ok value

/-- What an argument comes to: the value that was given, or else the declared default. -/
def Carries (arguments : Dict String PyObj) (arg : Argument) (value : PyObj) : Prop :=
  if (valueGiven arguments arg).isNone then unpackArgument arg.type arg.defaultValue = .ok value
  else value = valueGiven arguments arg

section RoundTrip
variable {args : List Argument} {arg : Argument} {arguments : Dict String PyObj} {message : ArgumentValue} {value : PyObj}

theorem unpackDefault : unpackArgument arg.type (some (arg.defaultValue.getD emptyAny)) = unpackArgument arg.type arg.defaultValue := by
  cases arg.defaultValue with
  | some default => rfl
  | none => cases arg.type <;> rfl

theorem decodedValue {received : Dict String ArgumentValue} {sent : Option ArgumentValue}
    (found : received.get? arg.name = sent) (decoded : decodedAs received arg = .ok value) :
    unpackArgument arg.type (sent.or arg.defaultValue) = .ok value := by
  unfold decodedAs at decoded
  split at decoded
  · contradiction
  · rwa [found] at decoded

theorem emptyGiven (empty : arguments.entries.isEmpty = true) (arg : Argument) : arguments.get? arg.name = none := by
  unfold Dict.get?
  rw [List.isEmpty_iff.mp empty]
  rfl

def Provided (args : List Argument) (arguments : Dict String PyObj) : Prop :=
  ∀ arg ∈ args, arg.presence = .mandatory → (valueGiven arguments arg).isNone = false

theorem notProvided (provided : Provided args arguments) (mem : arg ∈ args)
    (none : (valueGiven arguments arg).isNone = true) : arg.presence = .optional := by
  cases presence : arg.presence with
  | optional => rfl
  | mandatory => rw [provided arg mem presence] at none; contradiction

variable [Builtins] [DruncSchema]

def Fitting (args : List Argument) (arguments : Dict String PyObj) : Prop :=
  ∀ arg ∈ args, (valueGiven arguments arg).isNone = false →
    OfType arg.type (valueGiven arguments arg) ∧ DruncSchema.fits arg.type (valueGiven arguments arg)

theorem formatsOwn (own : OfType arg.type value) (fits : DruncSchema.fits arg.type value) :
    ∃ message, formatValue arg value = .ok message ∧ unpackArgument arg.type (some message) = .ok value := by
  obtain ⟨message,packed,carried⟩ := DruncSchema.carried _ _ fits
  refine ⟨message,?_,carried⟩
  obtain ⟨name,presence,type,default⟩ := arg
  cases own with
  | int n => exact packed
  | float q => exact packed
  | string s => exact packed
  | bool b => simp only [formatValue,packed]

theorem formattedCarries (fitting : Fitting args arguments) (mem : arg ∈ args) (ok : formatted arguments arg = .ok message)
    (unpacked : unpackArgument arg.type (some message) = .ok value) : Carries arguments arg value := by
  unfold Carries
  unfold formatted at ok
  split at ok
  · contradiction
  · split at ok
    · rename_i none
      cases ok
      rw [if_pos none,← unpackDefault,unpacked]
    · rename_i given
      obtain ⟨own,fits⟩ := fitting arg mem (by simpa using given)
      obtain ⟨sent,formatted,carried⟩ := formatsOwn own fits
      rw [formatted] at ok
      cases ok
      rw [if_neg given]
      exact Except.ok.inj (unpacked.symm.trans carried)

theorem formattedTotal (described : Described args) (fitting : Fitting args arguments) (provided : Provided args arguments)
    (mem : arg ∈ args) :
    ∃ message value, formatted arguments arg = .ok message ∧ unpackArgument arg.type (some message) = .ok value := by
  cases none : (valueGiven arguments arg).isNone with
  | true =>
    have optional := notProvided provided mem none
    obtain ⟨value,default⟩ := described.defaults arg mem optional
    refine ⟨_,value,?_,unpackDefault.trans default⟩
    rw [formatted,if_neg (by simp [optional]),if_pos none]
  | false =>
    obtain ⟨own,fits⟩ := fitting arg mem none
    obtain ⟨message,formats,carried⟩ := formatsOwn own fits
    have present : (arguments.get? arg.name).isNone = false := by
      unfold valueGiven at none
      cases given : arguments.get? arg.name with
      | none => rw [given] at none; contradiction
      | some value => rfl
    refine ⟨message,_,?_,carried⟩
    rw [formatted,if_neg (by simp [present]),if_neg (by simp [none]),formats]

theorem sentFound (distinct : (args.map Argument.name).Nodup) {sent : Dict String ArgumentValue}
    (ok : (validateAndFormatFsmArguments args arguments).result = .ok sent) (mem : arg ∈ args) :
    (∃ message, formatted arguments arg = .ok message ∧ sent.get? arg.name = some message) ∨
    (valueGiven arguments arg).isNone = true ∧ sent.get? arg.name = none := by
  unfold validateAndFormatFsmArguments at ok
  rw [readBind] at ok
  split at ok
  · rename_i empty
    cases ok
    exact .inr ⟨by rw [valueGiven,emptyGiven empty]; rfl,rfl⟩
  · rw [formatFills distinct fun _ _ => rfl] at ok
    exact .inl ((Dict.fillFound distinct ok).1 arg mem)

theorem decodedCarries (described : Described args) (fitting : Fitting args arguments)
    {sent : Dict String ArgumentValue} {decoded : Dict String PyObj}
    (ok : (validateAndFormatFsmArguments args arguments).result = .ok sent)
    (received : decodeFsmArguments sent args = .ok decoded) :
    (∀ arg ∈ args, ∃ value, decoded.get? arg.name = some value ∧ Carries arguments arg value) ∧
    ∀ name, name ∉ args.map Argument.name → decoded.get? name = none := by
  rw [decodeFsmArguments,decodeFills] at received
  obtain ⟨found,others⟩ := Dict.fillFound described.distinct received
  refine ⟨fun arg mem => ?_,others⟩
  obtain ⟨value,unpacked,there⟩ := found arg mem
  refine ⟨value,there,?_⟩
  rcases sentFound described.distinct ok mem with ⟨message,formats,here⟩ | ⟨none,missing⟩
  · exact formattedCarries fitting mem formats (decodedValue here unpacked)
  · rw [Carries,if_pos none]
    exact decodedValue missing unpacked

theorem sentTotal (described : Described args) (fitting : Fitting args arguments) (provided : Provided args arguments) :
    ∃ sent, (validateAndFormatFsmArguments args arguments).result = .ok sent := by
  unfold validateAndFormatFsmArguments
  rw [readBind]
  split
  · exact ⟨_,rfl⟩
  · rw [formatFills described.distinct fun _ _ => rfl]
    refine Dict.fillTotal (fun arg mem => ?_) _
    obtain ⟨message,_,formats,_⟩ := formattedTotal described fitting provided mem
    exact ⟨message,formats⟩

theorem decodedTotal (described : Described args) (fitting : Fitting args arguments) (provided : Provided args arguments)
    {sent : Dict String ArgumentValue} (ok : (validateAndFormatFsmArguments args arguments).result = .ok sent) :
    ∃ decoded, decodeFsmArguments sent args = .ok decoded := by
  rw [decodeFsmArguments,decodeFills]
  refine Dict.fillTotal (fun arg mem => ?_) _
  unfold decodedAs
  rcases sentFound described.distinct ok mem with ⟨message,formats,here⟩ | ⟨none,missing⟩
  · obtain ⟨_,value,same,unpacked⟩ := formattedTotal described fitting provided mem
    rw [formats] at same
    cases same
    exact ⟨value,by rw [here,if_neg (by simp)]; exact unpacked⟩
  · have optional := notProvided provided mem none
    rw [missing,if_neg (by simp [optional])]
    exact described.defaults arg mem optional

theorem argumentsRoundTrip (described : Described args) (fitting : Fitting args arguments) :
    (∀ sent decoded, (validateAndFormatFsmArguments args arguments).result = .ok sent →
      decodeFsmArguments sent args = .ok decoded →
      (∀ arg ∈ args, ∃ value, decoded.get? arg.name = some value ∧ Carries arguments arg value) ∧
      ∀ name, name ∉ args.map Argument.name → decoded.get? name = none) ∧
    ((∀ arg ∈ args, arg.presence = .mandatory → (valueGiven arguments arg).isNone = false) →
      ∃ sent decoded, (validateAndFormatFsmArguments args arguments).result = .ok sent ∧
        decodeFsmArguments sent args = .ok decoded) := by
  refine ⟨fun sent decoded ok received => decodedCarries described fitting ok received,fun provided => ?_⟩
  obtain ⟨sent,ok⟩ := sentTotal described fitting provided
  obtain ⟨decoded,received⟩ := decodedTotal described fitting provided ok
  exact ⟨sent,decoded,ok,received⟩

end RoundTrip

namespace Sample

@[reducible] def texts : Builtins := ⟨fun s => s.toInt?,fun s => s.toInt?.map Int.cast,fun _ => ""⟩

@[reducible] def generic : DruncSchema where
  packed
    | .int, .int n =>
        if -2147483648 ≤ n ∧ n < 2147483648 then .ok (.intMsg n) else .error (.valueError "Value out of range")
    | .float, .float q => .ok (.floatMsg q)
    | .string, .str s => .ok (.stringMsg s)
    | .bool, .bool b => .ok (.boolMsg b)
    | _, _ => .error (.typeError "bad argument type for built-in operation")
  fits
    | .int, .int n => -2147483648 ≤ n ∧ n < 2147483648
    | .float, .float _ | .string, .str _ | .bool, .bool _ => True
    | _, _ => False
  carried type value fits := by
    cases type <;> cases value <;> first | exact fits.elim | exact ⟨_,rfl,rfl⟩ | exact ⟨_,if_pos fits,rfl⟩
  foreign type value e failed := by
    cases type <;> cases value <;> first | contradiction | (cases failed; rfl) | (dsimp only at failed; split at failed <;> cases failed; rfl)

def runNumber : Argument := ⟨"run_number",.mandatory,.int,none⟩
def runType : Argument := ⟨"run_type",.optional,.string,some (.stringMsg "TEST")⟩
def triggerRate : Argument := ⟨"trigger_rate",.optional,.float,some (.floatMsg 0)⟩

def startArguments : List Argument := [runNumber,runType,triggerRate]

def falsyGiven : Dict String PyObj := ⟨[("run_number",.int 0),("run_type",.str ""),("trigger_rate",.none)],by decide⟩

theorem startDescribed : Described startArguments := by
  refine ⟨by decide,fun arg mem optional => ?_⟩
  simp only [startArguments,List.mem_cons,List.not_mem_nil,or_false] at mem
  rcases mem with rfl | rfl | rfl
  · contradiction
  · exact ⟨_,rfl⟩
  · exact ⟨_,rfl⟩

theorem falsyFits : @Fitting generic startArguments falsyGiven := by
  intro arg mem given
  simp only [startArguments,List.mem_cons,List.not_mem_nil,or_false] at mem
  rcases mem with rfl | rfl | rfl
  · exact ⟨.int 0,show -2147483648 ≤ (0 : Int) ∧ (0 : Int) < 2147483648 by decide⟩
  · exact ⟨.string "",trivial⟩
  · contradiction

end Sample

open Sample in
theorem falsyArgumentsArrive :
    ∃ sent decoded, (@validateAndFormatFsmArguments texts generic startArguments falsyGiven).result = .ok sent ∧
      decodeFsmArguments sent startArguments = .ok decoded ∧
      ∀ arg ∈ startArguments, ∃ value, decoded.get? arg.name = some value ∧ Carries falsyGiven arg value := by
  obtain ⟨carries,total⟩ := @argumentsRoundTrip _ _ texts generic startDescribed falsyFits
  obtain ⟨sent,decoded,ok,received⟩ := total (by decide)
  exact ⟨sent,decoded,ok,received,(carries sent decoded ok received).1⟩

end Drunc
