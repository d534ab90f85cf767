import Drunc.Controller

/-! The checkpoints of an FSM command: everything that can cut a transition that
is under way, in the order of the code, and what the node keeps where it is cut.
A `Standing` is a state and the phase of the transition in it; a `Halt` has the
children, too. `prepared`, `worst` and `finalised` are what the callbacks before
the transition make of the command's data, what the children's flags come to, and
what the callbacks after it make of the data. A command that starts a transition
runs through one of the four cases of `CarriedOut`; any other one changes nothing
and does not claim success. -/
namespace Drunc
open Library (Act Dict failure value firstCut firstCutMap)
open Library.Act

instance : Inhabited JsonText := ⟨.empty⟩
instance : Inhabited (Dict String PyObj) := ⟨Dict.empty⟩
instance : Inhabited ResponseFlag := ⟨.executedSuccessfully⟩
instance : Inhabited FSMResponseFlag := ⟨.fsmExecutedSuccessfully⟩

structure Standing where
  state : String
  phase : Phase

namespace StatefulNode

def subStateAt (t : Transition) : Standing → String
  | ⟨state,.idle⟩ => state
  | ⟨_,phase⟩ => label t phase

def halted (n : StatefulNode) (t : Transition) (s : Standing) : StatefulNode :=
  { n with operationalState := some s.state, operationalSubState := some (subStateAt t s) }

structure IdleAt (n : StatefulNode) (state : String) : Prop where
  operational : n.operationalState = some state
  subState : n.operationalSubState = some state

theorem idleHalted {n : StatefulNode} {state : String} (idle : n.IdleAt state) (t : Transition) :
    n.halted t ⟨state,.idle⟩ = n := by
  obtain ⟨fsm,operational,subState,included,inError⟩ := n
  obtain ⟨rfl,rfl⟩ := idle
  rfl

theorem foundFaulty {n : StatefulNode} {name : String} {e : Exn} (failed : n.getFsmTransition name = .error e) :
    e.isDrunc = false := by
  unfold getFsmTransition FSM.getTransition at failed
  split at failed
  · cases failed; rfl
  · contradiction

theorem canFaulty [Re] {n : StatefulNode} {t : Transition} {e : Exn} (failed : n.canTransition t = .error e) :
    e.isDrunc = false := by
  unfold canTransition canExecuteTransition regexMatch at failed
  split at failed
  · contradiction
  · split at failed
    · cases failed; rfl
    · split at failed
      · cases failed; rfl
      · contradiction

theorem canTransitionIff [Re] {n : StatefulNode} {t : Transition} :
    n.canTransition t = .ok true ↔ ∃ state, n.IdleAt state ∧ t.Executable state := by
  constructor
  · intro can
    unfold canTransition at can
    split at can
    · contradiction
    · rename_i same
      cases operational : n.operationalState with
      | none =>
        rw [operational] at can
        unfold canExecuteTransition regexMatch at can
        split at can <;> contradiction
      | some state =>
        rw [operational] at can
        exact ⟨state,⟨operational,(not_not.mp same) ▸ operational⟩,can⟩
  · rintro ⟨state,idle,can⟩
    unfold canTransition
    rw [if_neg (by rw [idle.operational,idle.subState]; simp),idle.operational]
    exact can

section Phases
variable {w : World} {n : StatefulNode} {t : Transition} {state : String} {data : JsonText} {args : Dict String PyObj}

theorem storePasses {site : Site} {btype : BroadcastType} {name : String} {old : StatefulNode → String}
    {new : String} {store : StatefulNode → StatefulNode} {s r : Standing}
    (stores : store (n.halted t s) = n.halted t r) :
    PassesAs (n.halted t) (observe w site btype name old new store) s [(w.broadcast site,s)] () r := by
  unfold PassesAs
  rw [← stores]
  exact observePasses

theorem subStatePasses {before after : Phase} (way : after ≠ .idle) :
    PassesAs (n.halted t) (setOperationalSubState w after (some (label t after))) ⟨state,before⟩
      [(w.broadcast (.subState after),⟨state,before⟩)] () ⟨state,after⟩ := by
  refine storePasses ?_
  cases after <;> first | rfl | contradiction

theorem markPasses {before after : Phase} {action : String} (under : before ≠ .idle) (way : after ≠ .idle) :
    PassesAs (n.halted t) (mark w t before after action) ⟨state,before⟩
      [(w.broadcast (.subState after),⟨state,before⟩)] () ⟨state,after⟩ := by
  have there : (n.halted t ⟨state,before⟩).operationalSubState = some (label t before) := by
    cases before <;> first | rfl | contradiction
  refine passesAsRead ?_
  rw [if_neg (not_not.mpr there)]
  exact subStatePasses way

theorem executePasses {side : PreOrPost} {sequence : List Callback} {s : Standing} :
    PassesAs (n.halted t) (execute w side sequence data args) s
      [(failure (executeResult w side sequence data args),s)] (value (executeResult w side sequence data args)) s :=
  have steady := executeSteady w side sequence data args (n.halted t s)
  passesSteady steady.1 steady.2

theorem finalisePasses :
    PassesAs (n.halted t) (finaliseTransition w t data args) ⟨state,.terminated⟩
      [(w.broadcast (.subState .finalising),⟨state,.terminated⟩),
        (failure (executeResult w .post (n.fsm.postTransitionSequences t) data args),⟨state,.finalising⟩),
        (w.broadcast (.subState .idle),⟨state,.finalising⟩)]
      (value (executeResult w .post (n.fsm.postTransitionSequences t) data args)) ⟨state,.idle⟩ := by
  refine passesAsBind (markPasses (by decide) (by decide)) rfl (passesAsRead ?_)
  refine passesAsBind executePasses rfl (passesAsRead ?_)
  exact passesAsBind (storePasses rfl) rfl passesAsPure

variable [Re]

theorem preparePasses (can : t.Executable state) :
    PassesAs (n.halted t) (prepareTransition w t data args) ⟨state,.idle⟩
      [(w.broadcast (.subState .preparing),⟨state,.idle⟩),
        (failure (executeResult w .pre (n.fsm.preTransitionSequences t) data args),⟨state,.preparing⟩),
        (w.broadcast (.subState .ready),⟨state,.preparing⟩)]
      (value (executeResult w .pre (n.fsm.preTransitionSequences t) data args)) ⟨state,.ready⟩ := by
  have ran : canExecuteTransition (n.halted t ⟨state,.idle⟩).operationalState t = .ok true := can
  have idle : (n.halted t ⟨state,.idle⟩).operationalState = (n.halted t ⟨state,.idle⟩).operationalSubState := rfl
  refine passesAsRead ?_
  rw [if_neg (not_not.mpr idle),ran]
  change PassesAs _ (setOperationalSubState w .preparing (some (label t .preparing)) >>= _) _ _ _ _
  refine passesAsBind (subStatePasses (by decide)) rfl ?_
  exact passesAsBind executePasses rfl (passesAsBind (subStatePasses (by decide)) rfl passesAsPure)

theorem terminatePasses (mem : t ∈ n.fsm.transitions) (can : t.Executable state) :
    PassesAs (n.halted t) (terminateTransitionMark w t) ⟨state,.executing⟩
      [(w.broadcast (.subState .terminated),⟨state,.executing⟩),(w.broadcast .operationalState,⟨state,.terminated⟩)]
      () ⟨t.target state,.terminated⟩ := by
  have destination : (n.halted t ⟨state,.terminated⟩).fsm.getDestinationState
      (n.halted t ⟨state,.terminated⟩).operationalState t = .ok (some (t.target state)) :=
    destinationOfExecutable mem can
  refine passesAsBind (markPasses (by decide) (by decide)) rfl (passesAsRead ?_)
  rw [destination]
  exact storePasses rfl

end Phases
end StatefulNode

namespace Controller
variable {κ : Type}

structure Halt (κ : Type) where
  node : Standing
  children : List κ

def halted (c : Controller κ) (t : Transition) (h : Halt κ) : Controller κ :=
  { c with statefulNode := c.statefulNode.halted t h.node, childrenNodes := h.children }

theorem idleHalted {c : Controller κ} {state : String} (idle : c.statefulNode.IdleAt state) (t : Transition) :
    c.halted t ⟨⟨state,.idle⟩,c.childrenNodes⟩ = c := by
  unfold halted
  rw [StatefulNode.idleHalted idle]

section Parts
variable (w : World) (kids : ChildInterface κ) (t : Transition) (fsmCommand : FSMCommand) (token : Token)
  (c : Controller κ)

def decoded : Except Exn (Dict String PyObj) := c.statefulNode.decodeArgumentsOf fsmCommand

def prepared : Except Exn JsonText :=
  executeResult w .pre (c.statefulNode.fsm.preTransitionSequences t) fsmCommand.data (value (decoded fsmCommand c))

def childrenFsmCommand : FSMCommand :=
  { fsmCommand with data := value (prepared w t fsmCommand c), childrenNodes := [] }

def answers : List Response :=
  collected w kids .executeFsmCommand (some (.fsmCommand (childrenFsmCommand w t fsmCommand c))) token c.childrenNodes

def childrenMoved : List κ :=
  childrenAfter w kids .executeFsmCommand (some (.fsmCommand (childrenFsmCommand w t fsmCommand c))) token
    c.childrenNodes

def worst : Except Exn (ResponseFlag × FSMResponseFlag) :=
  worstFlags (answers w kids t fsmCommand token c) (.executedSuccessfully,.fsmExecutedSuccessfully)

def finalised : Except Exn JsonText :=
  executeResult w .post (c.statefulNode.fsm.postTransitionSequences t) (value (prepared w t fsmCommand c))
    (value (decoded fsmCommand c))

def childFailed : Bool :=
  decide (value (worst w kids t fsmCommand token c) ≠ (.executedSuccessfully,.fsmExecutedSuccessfully))

def checkpointsBefore (state : String) : List (Option Exn × Halt κ) :=
  [(failure (decoded fsmCommand c),⟨⟨state,.idle⟩,c.childrenNodes⟩),
    (w.broadcast (.subState .preparing),⟨⟨state,.idle⟩,c.childrenNodes⟩),
    (failure (prepared w t fsmCommand c),⟨⟨state,.preparing⟩,c.childrenNodes⟩),
    (w.broadcast (.subState .ready),⟨⟨state,.preparing⟩,c.childrenNodes⟩),
    (w.broadcast (.subState .propagating),⟨⟨state,.ready⟩,c.childrenNodes⟩),
    (w.broadcast .propagation,⟨⟨state,.propagating⟩,c.childrenNodes⟩)]

def checkpointsAfter [Re] (state : String) : List (Option Exn × Halt κ) :=
  let moved := childrenMoved w kids t fsmCommand token c
  [(failure (worst w kids t fsmCommand token c),⟨⟨state,.propagating⟩,moved⟩),
    (w.broadcast (.subState .propagated),⟨⟨state,.propagating⟩,moved⟩),
    (w.broadcast (.subState .executing),⟨⟨state,.propagated⟩,moved⟩),
    (w.broadcast (.subState .terminated),⟨⟨state,.executing⟩,moved⟩),
    (w.broadcast .operationalState,⟨⟨state,.terminated⟩,moved⟩),
    (w.broadcast (.subState .finalising),⟨⟨t.target state,.terminated⟩,moved⟩),
    (failure (finalised w t fsmCommand c),⟨⟨t.target state,.finalising⟩,moved⟩),
    (w.broadcast (.subState .idle),⟨⟨t.target state,.finalising⟩,moved⟩)]

def checkpoints [Re] (state : String) : List (Option Exn × Halt κ) :=
  checkpointsBefore w t fsmCommand c state ++ checkpointsAfter w kids t fsmCommand token c state

def moved (state : String) : Controller κ :=
  c.halted t ⟨⟨t.target state,.idle⟩,childrenMoved w kids t fsmCommand token c⟩

def erred (c : Controller κ) : Controller κ :=
  { c with statefulNode := { c.statefulNode with inError := true } }

def executedResponse : Response :=
  c.respond (some token) (.fsmCommandResponse ⟨.fsmExecutedSuccessfully,fsmCommand.commandName,none⟩)
    .executedSuccessfully (answers w kids t fsmCommand token c)
end Parts

section CarryOut
variable {w : World} {kids : ChildInterface κ} {t : Transition} {fsmCommand : FSMCommand} {token : Token}
  {c : Controller κ} {state : String}

theorem nodePasses {α : Type} {x : Do StatefulNode α} {children : List κ} {s r : Standing}
    {checks : List (Option Exn × Standing)} {a : α} (part : PassesAs (c.statefulNode.halted t) x s checks a r) :
    PassesAs (c.halted t) (onNode x) ⟨s,children⟩ (checks.map (Prod.map id fun q => ⟨q,children⟩)) a ⟨r,children⟩ :=
  passesAsZoom (fun q => (⟨q,children⟩ : Halt κ)) part rfl (fun _ => rfl)

theorem propagateRuns {command : Command} {data : Option Payload} :
    Passes (propagateToList w kids command data token) c [(w.broadcast .propagation,c)]
      (collected w kids command data token c.childrenNodes)
      { c with childrenNodes := childrenAfter w kids command data token c.childrenNodes } :=
  passesBind broadcastPasses rfl ⟨rfl,rfl⟩

theorem propagatePasses {command : Command} {data : Option Payload} {s : Standing} {children : List κ} :
    PassesAs (c.halted t) (propagateToList w kids command data token) ⟨s,children⟩
      [(w.broadcast .propagation,⟨s,children⟩)] (collected w kids command data token children)
      ⟨s,childrenAfter w kids command data token children⟩ :=
  propagateRuns

theorem toErrorPasses (w : World) (c : Controller κ) :
    Passes (onNode (StatefulNode.toError w)) c [(w.broadcast .errorState,c)] () c.erred :=
  passesZoom StatefulNode.observePasses

variable [Re]

theorem transitPasses (mem : t ∈ c.statefulNode.fsm.transitions) (can : t.Executable state) :
    PassesAs (c.halted t) (transit w kids t fsmCommand token) ⟨⟨state,.idle⟩,c.childrenNodes⟩
      (checkpoints w kids t fsmCommand token c state)
      (answers w kids t fsmCommand token c,value (worst w kids t fsmCommand token c))
      ⟨⟨t.target state,.idle⟩,childrenMoved w kids t fsmCommand token c⟩ := by
  refine passesAsRead (passesAsBind (passesAsLift _) rfl ?_)
  refine passesAsBind (nodePasses (StatefulNode.preparePasses can)) rfl ?_
  refine passesAsBind (nodePasses (StatefulNode.markPasses (by decide) (by decide))) rfl ?_
  refine passesAsBind propagatePasses rfl ?_
  refine passesAsBind (passesAsLift _) rfl ?_
  refine passesAsBind (nodePasses (StatefulNode.markPasses (by decide) (by decide))) rfl ?_
  refine passesAsBind (nodePasses (StatefulNode.markPasses (by decide) (by decide))) rfl ?_
  refine passesAsBind (nodePasses (StatefulNode.terminatePasses mem can)) rfl ?_
  exact passesAsBind (nodePasses StatefulNode.finalisePasses) rfl passesAsPure

inductive CarriedOut (w : World) (kids : ChildInterface κ) (t : Transition) (fsmCommand : FSMCommand) (token : Token)
    (c : Controller κ) (state : String) : Except Exn Response → Controller κ → Prop
  | cut {e : Exn} {h : Halt κ} (here : firstCut (checkpoints w kids t fsmCommand token c state) = some (e,h)) :
      CarriedOut w kids t fsmCommand token c state (.error e) (c.halted t h)
  | succeeded (through : firstCut (checkpoints w kids t fsmCommand token c state) = none)
      (good : childFailed w kids t fsmCommand token c = false) :
      CarriedOut w kids t fsmCommand token c state (.ok (executedResponse w kids t fsmCommand token c))
        (moved w kids t fsmCommand token c state)
  | flagged (through : firstCut (checkpoints w kids t fsmCommand token c state) = none)
      (bad : childFailed w kids t fsmCommand token c = true) (published : w.broadcast .errorState = none) :
      CarriedOut w kids t fsmCommand token c state (.ok (executedResponse w kids t fsmCommand token c))
        (moved w kids t fsmCommand token c state).erred
  | unflagged {e : Exn} (through : firstCut (checkpoints w kids t fsmCommand token c state) = none)
      (bad : childFailed w kids t fsmCommand token c = true) (unpublished : w.broadcast .errorState = some e) :
      CarriedOut w kids t fsmCommand token c state (.error e) (moved w kids t fsmCommand token c state)

theorem carriesOut (mem : t ∈ c.statefulNode.fsm.transitions) (can : t.Executable state)
    (idle : c.statefulNode.IdleAt state) :
    CarriedOut w kids t fsmCommand token c state (carryOut w kids t fsmCommand token c).result
      (carryOut w kids t fsmCommand token c).state := by
  have passes : PassesAs (c.halted t) (transit w kids t fsmCommand token) ⟨⟨state,.idle⟩,c.childrenNodes⟩ _ _ _ :=
    transitPasses mem can
  unfold PassesAs at passes
  rw [idleHalted idle] at passes
  unfold carryOut
  rcases passesEnds passes with ⟨e,kept,cut,result,final⟩ | ⟨uncut,result,final⟩
  · rw [firstCutMap] at cut
    obtain ⟨⟨e,h⟩,here,same⟩ := Option.map_eq_some_iff.mp cut
    simp only [Prod.map,id_eq,Prod.mk.injEq] at same
    obtain ⟨rfl,rfl⟩ := same
    rw [bindError result,final]
    exact .cut here
  · rw [firstCutMap,Option.map_eq_none_iff] at uncut
    rw [bindOk result,final]
    simp only [afterResult,afterState]
    cases bad : childFailed w kids t fsmCommand token c with
    | false =>
      have good : ¬ value (worst w kids t fsmCommand token c) ≠ (.executedSuccessfully,.fsmExecutedSuccessfully) := by
        simpa [childFailed] using bad
      rw [if_neg good]
      exact .succeeded uncut bad
    | true =>
      have failed : value (worst w kids t fsmCommand token c) ≠ (.executedSuccessfully,.fsmExecutedSuccessfully) := by
        simpa [childFailed] using bad
      have passed := toErrorPasses w (moved w kids t fsmCommand token c state)
      rw [if_pos failed]
      cases published : w.broadcast .errorState with
      | some e =>
        rw [published] at passed
        have raised := passesCut passed rfl
        unfold moved at raised
        rw [bindError raised.1,raised.2]
        exact .unflagged uncut bad published
      | none =>
        rw [published] at passed
        have set := passesThrough passed rfl
        unfold moved at set
        rw [bindOk set.1,set.2]
        exact .flagged uncut bad published

structure Starts (c : Controller κ) (fsmCommand : FSMCommand) (t : Transition) (state : String) : Prop where
  sound : c.statefulNode.inError = false
  included : c.statefulNode.included = true
  found : c.statefulNode.getFsmTransition fsmCommand.commandName = .ok t
  idle : c.statefulNode.IdleAt state
  can : t.Executable state

theorem startsCarriesOut (start : Starts c fsmCommand t state) :
    executeFsmCommand w kids fsmCommand token c = carryOut w kids t fsmCommand token c := by
  have can : c.statefulNode.canTransition t = .ok true :=
    StatefulNode.canTransitionIff.mpr ⟨state,start.idle,start.can⟩
  unfold executeFsmCommand
  rw [readBind,if_neg (by simp [start.sound]),if_neg (by simp [start.included]),start.found,liftOkBind,can,liftOkBind]
  rfl

theorem startedMember (start : Starts c fsmCommand t state) : t ∈ c.statefulNode.fsm.transitions :=
  (gotTransition start.found).1

theorem startsRun (w : World) (kids : ChildInterface κ) (token : Token) (start : Starts c fsmCommand t state) :
    CarriedOut w kids t fsmCommand token c state (executeFsmCommand w kids fsmCommand token c).result
      (executeFsmCommand w kids fsmCommand token c).state := by
  rw [startsCarriesOut start]
  exact carriesOut (startedMember start) start.can start.idle

theorem startsUnique {u : Transition} {other : String} (start : Starts c fsmCommand t state)
    (again : Starts c fsmCommand u other) : u = t ∧ other = state := by
  have transitions := again.found.symm.trans start.found
  have states := again.idle.operational.symm.trans start.idle.operational
  exact ⟨by simpa using transitions,by simpa using states⟩

inductive Refused (c : Controller κ) (fsmCommand : FSMCommand) (token : Token) : Except Exn Response → Prop
  | inError (bad : c.statefulNode.inError = true) :
      Refused c fsmCommand token (.ok (c.constructErrorNodeResponse fsmCommand.commandName token .fsmNotExecutedInError))
  | excluded (sound : c.statefulNode.inError = false) (out : c.statefulNode.included = false) :
      Refused c fsmCommand token (.ok (c.constructErrorNodeResponse fsmCommand.commandName token .fsmNotExecutedExcluded))
  | faulty {e : Exn} (sound : c.statefulNode.inError = false) (inside : c.statefulNode.included = true)
      (unhandled : e.isDrunc = false) : Refused c fsmCommand token (.error e)

theorem refusedRun (w : World) (kids : ChildInterface κ) (token : Token) (none : ¬ ∃ t state, Starts c fsmCommand t state) :
    ∃ result, Refused c fsmCommand token result ∧ executeFsmCommand w kids fsmCommand token c = ⟨result,c,[]⟩ := by
  unfold executeFsmCommand
  rw [readBind]
  cases bad : c.statefulNode.inError with
  | true => exact ⟨_,.inError bad,by rw [if_pos rfl]; rfl⟩
  | false =>
    rw [if_neg (by simp)]
    cases inside : c.statefulNode.included with
    | false => exact ⟨_,.excluded bad inside,rfl⟩
    | true =>
      rw [if_neg (by simp)]
      cases found : c.statefulNode.getFsmTransition fsmCommand.commandName with
      | error e => exact ⟨_,.faulty bad inside (StatefulNode.foundFaulty found),rfl⟩
      | ok t =>
        rw [liftOkBind]
        cases can : c.statefulNode.canTransition t with
        | error e => exact ⟨_,.faulty bad inside (StatefulNode.canFaulty can),rfl⟩
        | ok allowed =>
          rw [liftOkBind]
          cases allowed with
          | false => exact ⟨_,.faulty bad inside rfl,rfl⟩
          | true =>
            obtain ⟨state,idle,executable⟩ := StatefulNode.canTransitionIff.mp can
            exact absurd ⟨t,state,bad,inside,found,idle,executable⟩ none

theorem refuses (none : ¬ ∃ t state, Starts c fsmCommand t state) :
    (executeFsmCommand w kids fsmCommand token c).state = c ∧
    ((∃ e, (executeFsmCommand w kids fsmCommand token c).result = .error e) ∨
      ∃ cause, cause ≠ .fsmExecutedSuccessfully ∧ (executeFsmCommand w kids fsmCommand token c).result =
        .ok (c.constructErrorNodeResponse fsmCommand.commandName token cause)) := by
  obtain ⟨result,refused,run⟩ := refusedRun w kids token none
  rw [run]
  cases refused with
  | inError => exact ⟨rfl,.inr ⟨_,by decide,rfl⟩⟩
  | excluded => exact ⟨rfl,.inr ⟨_,by decide,rfl⟩⟩
  | faulty => exact ⟨rfl,.inl ⟨_,rfl⟩⟩

end CarryOut
end Controller
end Drunc
