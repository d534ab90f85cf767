import Drunc.Arguments

/-! The shell command that is made for a transition: one option for each argument, named
after it in lower case and with hyphens. The command line library hands what was typed on the
option `--a-b` to the command as the keyword `a_b`, so an argument is found again if its name
is what `str.lower` makes of it; and the function that runs the command has three
parameters of its own. `PyText` has what Python's `str` makes of a text. -/
namespace Drunc
open Library (Dict boundOk)

class PyText where
  lower : String → String
  isidentifier : String → Bool
  lowerTwice : ∀ s, lower (lower s) = lower s
  noHyphen : ∀ s, isidentifier s = true → '-' ∉ (lower s).toList

/-- An argument with the help text that only its option shows. -/
structure HelpedArgument extends Argument where
  help : String

structure ClickOption where
  flag : String
  type : ArgumentType
  default : Option PyObj
  required : Bool
  help : String

structure ClickCommand where
  name : String
  help : String
  options : List ClickOption
  controllerName : String
  transitionName : String

structure Validation where
  arguments : Dict String PyObj
  commandArguments : List Argument

namespace ShellUtils

def hyphened (c : Char) : Char := if c = '_' then '-' else c

def underscored (c : Char) : Char := if c = '-' then '_' else c

def searchFsmCommand (commandName : String) : List FSMCommandDescription → Option FSMCommandDescription
  | [] => none
  | command :: rest => if commandName = command.name then some command else searchFsmCommand commandName rest

def multipleValues (parameter : String) : Exn :=
  .typeError ("run_one_fsm_command() got multiple values for argument '" ++ parameter ++ "'")

def parameters : List String := ["controller_name","transition_name","obj"]

def bindKwargs (kwargs : Dict String PyObj) : Except Exn (Dict String PyObj) :=
  match parameters.find? fun parameter => (kwargs.get? parameter).isSome with
  | some parameter => .error (multipleValues parameter)
  | none => .ok kwargs

/-- Up to the call of `validate_and_format_fsm_arguments`: what it is called with, if it is. -/
def runOneFsmCommand (commands : List FSMCommandDescription) (transitionName : String) (kwargs : Dict String PyObj) :
    Except Exn (Option Validation) := do
  let kwargs ← bindKwargs kwargs
  match searchFsmCommand transitionName commands with
  | none => return none
  | some commandDesc => return some ⟨kwargs,commandDesc.arguments⟩

def keyword (flag : String) : String := String.ofList ((flag.toList.drop 2).map underscored)

def optionValue (typed : Dict String PyObj) (option : ClickOption) : Except Exn PyObj :=
  match typed.get? option.flag with
  | some value => .ok value
  | none => if option.required then .error (.other "MissingParameter" option.flag) else .ok (option.default.getD .none)

def invoke (command : ClickCommand) (typed : Dict String PyObj) : Except Exn (Dict String PyObj) :=
  Dict.fill (fun option => keyword option.flag) (optionValue typed) command.options Dict.empty

def typedRun (commands : List FSMCommandDescription) (command : ClickCommand) (typed : Dict String PyObj) :
    Except Exn (Option Validation) := do
  let kwargs ← invoke command typed
  runOneFsmCommand commands command.transitionName kwargs

section Run
variable {command : ClickCommand} {typed kwargs : Dict String PyObj} {commands : List FSMCommandDescription}
  {commandDesc : FSMCommandDescription}

theorem bindOk : bindKwargs kwargs = .ok kwargs ↔ ∀ parameter ∈ parameters, kwargs.get? parameter = none := by
  unfold bindKwargs
  cases found : parameters.find? fun parameter => (kwargs.get? parameter).isSome with
  | none =>
    refine iff_of_true rfl fun parameter mem => ?_
    simpa using List.find?_eq_none.mp found parameter mem
  | some parameter =>
    refine iff_of_false (by simp) fun none => ?_
    have there := List.find?_some found
    rw [none parameter (List.mem_of_find?_eq_some found)] at there
    contradiction

theorem bindSame {bound : Dict String PyObj} (ok : bindKwargs kwargs = .ok bound) : bound = kwargs := by
  unfold bindKwargs at ok
  split at ok
  · contradiction
  · exact (Except.ok.inj ok).symm

theorem typedRunOk (found : searchFsmCommand command.transitionName commands = some commandDesc)
    (invoked : invoke command typed = .ok kwargs) (free : ∀ parameter ∈ parameters, kwargs.get? parameter = none) :
    typedRun commands command typed = .ok (some ⟨kwargs,commandDesc.arguments⟩) := by
  unfold typedRun runOneFsmCommand
  rw [invoked]
  show (bindKwargs kwargs >>= _) = _
  rw [bindOk.mpr free,found]
  rfl

theorem typedRunFrom {call : Validation} (ok : typedRun commands command typed = .ok (some call)) :
    invoke command typed = .ok call.arguments ∧ ∀ parameter ∈ parameters, call.arguments.get? parameter = none := by
  obtain ⟨kwargs,invoked,ok⟩ := boundOk.mp ok
  obtain ⟨bound,binds,found⟩ := boundOk.mp ok
  rw [bindSame binds] at found binds
  split at found
  · cases Except.ok.inj found
  · cases found
    exact ⟨invoked,bindOk.mp binds⟩

theorem invokedTotal (required : ∀ option ∈ command.options, option.required = true → ∃ value, typed.get? option.flag = some value) :
    ∃ kwargs, invoke command typed = .ok kwargs := by
  refine Dict.fillTotal (fun option mem => ?_) _
  unfold optionValue
  cases given : typed.get? option.flag with
  | some value => exact ⟨value,rfl⟩
  | none =>
    by_cases needed : option.required = true
    · obtain ⟨value,there⟩ := required option mem needed
      rw [given] at there
      contradiction
    · exact ⟨_,if_neg needed⟩
end Run

variable [PyText]

def optionName (name : String) : String := "--" ++ (PyText.lower name).map hyphened

def unpackedDefault (argument : HelpedArgument) : Except Exn (Option PyObj) :=
  match argument.defaultValue with
  | none => .ok none
  | some value => some <$> unpackArgument argument.type (some value)

def optionDefault (argument : HelpedArgument) (defaultValue : Option PyObj) : Except Exn (Option PyObj) :=
  match argument.presence, defaultValue with
  | .mandatory, _ => .ok none
  | .optional, none => .error (.attributeError "'NoneType' object has no attribute 'value'")
  | .optional, some value => .ok (some value)

def generateOption (argument : HelpedArgument) : Except Exn ClickOption := do
  let defaultValue ← unpackedDefault argument
  let default ← optionDefault argument defaultValue
  return ⟨optionName argument.name,argument.type,default,argument.presence = .mandatory,argument.help⟩

def generateOptions : List HelpedArgument → Except Exn (List ClickOption)
  | [] => .ok []
  | argument :: rest => do
      let option ← generateOption argument
      let options ← generateOptions rest
      return option :: options

def generateFsmCommand (transitionName : String) (arguments : List HelpedArgument) (controllerName : String) :
    Except Exn (ClickCommand × String) := do
  let options ← generateOptions arguments
  let name := PyText.lower (transitionName.map hyphened)
  return (⟨name,"Execute the transition " ++ transitionName ++ " on the controller " ++ controllerName,options,
    controllerName,transitionName⟩,name)

/-- Every value typed on an option comes under the name of its argument, where it is all that it changes. -/
structure Reaches (command : ClickCommand) (arguments : List HelpedArgument) : Prop where
  apart : (arguments.map fun argument => optionName argument.name).Nodup
  own : ∀ commands commandDesc, searchFsmCommand command.transitionName commands = some commandDesc →
    ∀ typed, (∀ option ∈ command.options, option.required = true → ∃ value, typed.get? option.flag = some value) →
      ∀ argument ∈ arguments, ∀ value, typed.get? (optionName argument.name) = some value →
        ∃ call, typedRun commands command typed = .ok (some call) ∧ call.arguments.get? argument.name = some value ∧
          ∀ other, ∃ changed, typedRun commands command (typed.set (optionName argument.name) other) = .ok (some changed) ∧
            ∀ key, key ≠ argument.name → changed.arguments.get? key = call.arguments.get? key

section Options
variable {arguments : List HelpedArgument} {argument : HelpedArgument} {command : ClickCommand} {transitionName controllerName name : String}

theorem optionKeyword (identifier : PyText.isidentifier name = true) : keyword (optionName name) = PyText.lower name := by
  have back : ∀ cs : List Char, '-' ∉ cs → (cs.map hyphened).map underscored = cs := by
    intro cs clean
    rw [List.map_map]
    refine (List.map_congr_left fun c mem => ?_).trans (List.map_id cs)
    have other : c ≠ '-' := fun same => clean (same ▸ mem)
    by_cases bar : c = '_' <;> simp [hyphened,underscored,bar,other]
  unfold keyword optionName
  rw [String.toList_append,String.toList_map]
  show String.ofList (((PyText.lower name).toList.map hyphened).map underscored) = PyText.lower name
  rw [back _ (PyText.noHyphen name identifier),String.ofList_toList]

theorem generatedOption {option : ClickOption} (ok : generateOption argument = .ok option) : option.flag = optionName argument.name := by
  unfold generateOption at ok
  obtain ⟨_,_,ok⟩ := boundOk.mp ok
  obtain ⟨_,_,ok⟩ := boundOk.mp ok
  cases ok
  rfl

theorem generatedFlags {options : List ClickOption} (ok : generateOptions arguments = .ok options) :
    options.map ClickOption.flag = arguments.map fun argument => optionName argument.name := by
  induction arguments generalizing options with
  | nil => cases ok; rfl
  | cons argument rest ih =>
    obtain ⟨option,head,ok⟩ := boundOk.mp ok
    obtain ⟨others,tail,ok⟩ := boundOk.mp ok
    cases ok
    rw [List.map_cons,List.map_cons,generatedOption head,ih tail]

theorem generated (ok : generateFsmCommand transitionName arguments controllerName = .ok (command,name)) :
    command.transitionName = transitionName ∧ command.options.map ClickOption.flag = arguments.map fun argument => optionName argument.name := by
  obtain ⟨options,made,ok⟩ := boundOk.mp ok
  cases ok
  exact ⟨rfl,generatedFlags made⟩

section Iff
variable {typed kwargs : Dict String PyObj} {commands : List FSMCommandDescription} {commandDesc : FSMCommandDescription}
  (identifiers : ∀ argument ∈ arguments, PyText.isidentifier argument.name = true)
  (flags : command.options.map ClickOption.flag = arguments.map fun argument => optionName argument.name)
include identifiers flags

theorem optionKeywords : command.options.map (fun option => keyword option.flag) = arguments.map fun argument => PyText.lower argument.name := by
  have same := congrArg (List.map keyword) flags
  rw [List.map_map,List.map_map] at same
  exact same.trans (List.map_congr_left fun argument mem => optionKeyword (identifiers argument mem))

theorem ownOption (mem : argument ∈ arguments) : ∃ option ∈ command.options, option.flag = optionName argument.name ∧
    keyword option.flag = PyText.lower argument.name := by
  have there : optionName argument.name ∈ command.options.map ClickOption.flag := by
    rw [flags]
    exact List.mem_map_of_mem (f := fun argument => optionName argument.name) mem
  obtain ⟨option,inside,same⟩ := List.mem_map.mp there
  exact ⟨option,inside,same,by rw [same]; exact optionKeyword (identifiers argument mem)⟩

theorem optionsFound (apart : (arguments.map fun argument => PyText.lower argument.name).Nodup) (invoked : invoke command typed = .ok kwargs) :
    (∀ option ∈ command.options, ∃ value, optionValue typed option = .ok value ∧ kwargs.get? (keyword option.flag) = some value) ∧
    ∀ key, key ∉ arguments.map (fun argument => PyText.lower argument.name) → kwargs.get? key = none := by
  rw [← optionKeywords identifiers flags] at apart ⊢
  exact Dict.fillFound apart invoked

theorem typedKwargs (apart : (arguments.map fun argument => PyText.lower argument.name).Nodup)
    (invoked : invoke command typed = .ok kwargs) {value : PyObj} (mem : argument ∈ arguments)
    (given : typed.get? (optionName argument.name) = some value) : kwargs.get? (PyText.lower argument.name) = some value := by
  obtain ⟨option,inside,named,keyed⟩ := ownOption identifiers flags mem
  obtain ⟨held,same,found⟩ := (optionsFound identifiers flags apart invoked).1 option inside
  unfold optionValue at same
  rw [named,given] at same
  cases same
  exact keyed ▸ found

theorem keptKwargs (apart : (arguments.map fun argument => PyText.lower argument.name).Nodup) {typed' kwargs' : Dict String PyObj}
    (invoked : invoke command typed = .ok kwargs) (invoked' : invoke command typed' = .ok kwargs') {name key : String}
    (same : ∀ argument ∈ arguments, PyText.lower argument.name ≠ name →
      typed'.get? (optionName argument.name) = typed.get? (optionName argument.name)) (other : key ≠ name) :
    kwargs'.get? key = kwargs.get? key := by
  obtain ⟨found,others⟩ := optionsFound identifiers flags apart invoked
  obtain ⟨found',others'⟩ := optionsFound identifiers flags apart invoked'
  by_cases mem : key ∈ arguments.map fun argument => PyText.lower argument.name
  · obtain ⟨argument,inside,rfl⟩ := List.mem_map.mp mem
    obtain ⟨option,there,named,keyed⟩ := ownOption identifiers flags inside
    obtain ⟨value,given,held⟩ := found option there
    obtain ⟨value',given',held'⟩ := found' option there
    have equal : optionValue typed' option = optionValue typed option := by
      unfold optionValue
      rw [named,same argument inside other]
    rw [given,given'] at equal
    cases equal
    rw [← keyed,held,held']
  · rw [others key mem,others' key mem]

theorem reachesNamed (distinct : (arguments.map fun argument => argument.name).Nodup)
    (plain : ∀ argument ∈ arguments, PyText.lower argument.name = argument.name ∧ argument.name ∉ parameters) :
    Reaches command arguments := by
  have lowers : arguments.map (fun argument => PyText.lower argument.name) = arguments.map fun argument => argument.name :=
    List.map_congr_left fun argument mem => (plain argument mem).1
  have apart : (arguments.map fun argument => PyText.lower argument.name).Nodup := lowers ▸ distinct
  refine ⟨?_,fun commands commandDesc found typed required argument mem value given => ?_⟩
  · have keywords : (arguments.map fun argument => optionName argument.name).map keyword = arguments.map fun argument => PyText.lower argument.name := by
      rw [List.map_map]
      exact List.map_congr_left fun argument mem => optionKeyword (identifiers argument mem)
    exact (keywords ▸ apart).of_map
  · have free : ∀ {typed kwargs}, invoke command typed = .ok kwargs → ∀ parameter ∈ parameters, kwargs.get? parameter = none := by
      intro typed kwargs invoked parameter reserved
      refine (optionsFound identifiers flags apart invoked).2 parameter fun there => ?_
      obtain ⟨other,inside,rfl⟩ := List.mem_map.mp (lowers ▸ there)
      exact (plain other inside).2 reserved
    obtain ⟨kwargs,invoked⟩ := invokedTotal required
    refine ⟨_,typedRunOk found invoked (free invoked),?_,fun other => ?_⟩
    · rw [← (plain argument mem).1]
      exact typedKwargs identifiers flags apart invoked mem given
    have again : ∃ changed, invoke command (typed.set (optionName argument.name) other) = .ok changed := by
      refine invokedTotal fun option inside needed => ?_
      obtain ⟨old,there⟩ := required option inside needed
      by_cases same : option.flag = optionName argument.name <;> simp [same,there]
    obtain ⟨changed,invoked'⟩ := again
    refine ⟨_,typedRunOk found invoked' (free invoked'),fun key differs => ?_⟩
    refine keptKwargs identifiers flags apart invoked invoked' (fun next inside apartFrom => ?_) differs
    rw [Dict.getSet,if_neg fun same => apartFrom ?_]
    have keys := congrArg keyword same
    rw [optionKeyword (identifiers next inside),optionKeyword (identifiers argument mem),(plain argument mem).1] at keys
    exact keys

theorem reachedNames (reaches : Reaches command arguments) (described : ∃ commands commandDesc,
      searchFsmCommand command.transitionName commands = some commandDesc) :
    ∀ argument ∈ arguments, PyText.lower argument.name = argument.name ∧ argument.name ∉ parameters := by
  intro argument mem
  obtain ⟨commands,commandDesc,found⟩ := described
  have flagged : (arguments.map fun argument => optionName argument.name) =
      (arguments.map fun argument => PyText.lower argument.name).map fun name => "--" ++ name.map hyphened := by
    rw [List.map_map]
    rfl
  have apart := (flagged ▸ reaches.apart).of_map
  -- a value is typed on every option
  have everywhere : ∃ typed, Dict.fill (fun argument : HelpedArgument => optionName argument.name)
      (fun _ => (.ok (.int 0) : Except Exn PyObj)) arguments Dict.empty = .ok typed := Dict.fillTotal (fun _ _ => ⟨_,rfl⟩) _
  obtain ⟨typed,all⟩ := everywhere
  have given : ∀ argument ∈ arguments, typed.get? (optionName argument.name) = some (.int 0) := by
    intro other inside
    obtain ⟨_,⟨⟩,there⟩ := (Dict.fillFound reaches.apart all).1 other inside
    exact there
  have required : ∀ option ∈ command.options, option.required = true → ∃ value, typed.get? option.flag = some value := by
    intro option inside _
    have there : option.flag ∈ arguments.map fun argument => optionName argument.name := flags ▸ List.mem_map_of_mem inside
    obtain ⟨other,listed,same⟩ := List.mem_map.mp there
    exact ⟨_,same ▸ given other listed⟩
  obtain ⟨call,ran,held,_⟩ := reaches.own commands commandDesc found typed required argument mem _ (given argument mem)
  obtain ⟨invoked,free⟩ := typedRunFrom ran
  have listed : argument.name ∈ arguments.map fun argument => PyText.lower argument.name := by
    by_contra absent
    rw [(optionsFound identifiers flags apart invoked).2 _ absent] at held
    contradiction
  obtain ⟨other,_,same⟩ := List.mem_map.mp listed
  refine ⟨by rw [← same,PyText.lowerTwice],fun reserved => ?_⟩
  rw [free argument.name reserved] at held
  contradiction

end Iff

theorem reachesIff (identifiers : ∀ argument ∈ arguments, PyText.isidentifier argument.name = true)
    (distinct : (arguments.map fun argument => argument.name).Nodup)
    (ok : generateFsmCommand transitionName arguments controllerName = .ok (command,name)) : Reaches command arguments ↔
      ∀ argument ∈ arguments, PyText.lower argument.name = argument.name ∧ argument.name ∉ parameters := by
  obtain ⟨named,flags⟩ := generated ok
  constructor
  · have described : searchFsmCommand command.transitionName [⟨transitionName,[],"","",[]⟩] =
        some ⟨transitionName,[],"","",[]⟩ := if_pos named
    exact fun reaches => reachedNames identifiers flags reaches ⟨_,_,described⟩
  · exact reachesNamed identifiers flags distinct


end Options
end ShellUtils

namespace Sample
open ShellUtils

def wordCharacter (c : Char) : Bool := c.isAlpha || c == '_'

theorem lowerWord {c : Char} (word : wordCharacter c = true) : c.toLower ≠ '-' := by
  intro hyphen
  rcases Bool.or_eq_true_iff.mp word with letter | bar
  · rw [← Char.isAlpha_toLower_eq_isAlpha,hyphen] at letter
    contradiction
  · rw [beq_iff_eq.mp bar] at hyphen
    contradiction

@[reducible] def englishText : PyText where
  lower s := String.ofList (s.toList.map Char.toLower)
  isidentifier s := s != "" && s.toList.all wordCharacter
  lowerTwice s := by
    rw [String.toList_ofList,List.map_map]
    exact congrArg (fun f => String.ofList (s.toList.map f)) (funext Char.toLower_toLower_eq_toLower)
  noHyphen s identifier := by
    rw [String.toList_ofList]
    intro mem
    obtain ⟨c,inside,same⟩ := List.mem_map.mp mem
    exact lowerWord (List.all_eq_true.mp (Bool.and_eq_true_iff.mp identifier).2 c inside) same

def helped (argument : Argument) : HelpedArgument := ⟨argument,""⟩

theorem startReaches : ∃ command name,
    @generateFsmCommand englishText "start" (startArguments.map helped) "root-controller" = .ok (command,name) ∧
      @Reaches englishText command (startArguments.map helped) :=
  ⟨_,_,rfl,(@reachesIff englishText _ _ "start" "root-controller" _ (by decide) (by decide) rfl).mpr (by decide)⟩

theorem runNumberLost : ∃ command name,
    @generateFsmCommand englishText "start" [helped ⟨"runNumber",.mandatory,.int,none⟩] "root-controller" = .ok (command,name) ∧
      ¬ @Reaches englishText command [helped ⟨"runNumber",.mandatory,.int,none⟩] := by
  refine ⟨_,_,rfl,fun reaches => ?_⟩
  have plain := @reachedNames englishText _ _ (by decide) rfl reaches ⟨[⟨"start",[],"","",[]⟩],_,rfl⟩
  exact absurd (plain _ List.mem_cons_self).1 (by decide)

end Sample
end Drunc
