import Drunc.Requests

/-! Histories of requests to one controller. Whatever the callbacks, the children
and the publications do, the operational state only moves along the transition
that was asked for, from a node that was free to take it. A history begins with a
controller as `Controller.__init__` leaves it (`Started`): a child that could not
be added has put it in error. -/
namespace Drunc
open Library.Act

structure Round (κ : Type) where
  world : World
  kids : ChildInterface κ
  command : Command
  request : Request

namespace Controller
variable {κ : Type}

def Started (fsm : FSM) (c : Controller κ) : Prop :=
  ∃ inError, c.statefulNode = { StatefulNode.init fsm with inError := inError }

def Follows (fsm : FSM) (c : Controller κ) : Prop :=
  c.statefulNode.fsm = fsm ∧ ∃ state, c.statefulNode.operationalState = some state

theorem startedFollows {fsm : FSM} {c : Controller κ} (started : Started fsm c) : Follows fsm c := by
  obtain ⟨inError,node⟩ := started
  rw [Follows,node]
  exact ⟨rfl,fsm.initialState,rfl⟩

variable [Re]

def serve (c : Controller κ) (r : Round κ) : Controller κ :=
  (handle r.world r.kids r.command r.request c).state

def serveAll (c : Controller κ) (rounds : List (Round κ)) : Controller κ := rounds.foldl serve c

section Step
variable {w : World} {kids : ChildInterface κ} {t : Transition} {fsmCommand : FSMCommand} {token : Token}
  {c : Controller κ} {state : String}

theorem checkpointStates : ∀ x ∈ checkpoints w kids t fsmCommand token c state,
    x.2.node.state = state ∨ x.2.node.state = t.target state := by
  simp [checkpoints,checkpointsBefore,checkpointsAfter]

theorem carriedOutState {result : Except Exn Response} {d : Controller κ}
    (run : CarriedOut w kids t fsmCommand token c state result d) :
    d.statefulNode.fsm = c.statefulNode.fsm ∧
    (d.statefulNode.operationalState = some state ∨ d.statefulNode.operationalState = some (t.target state)) := by
  cases run with
  | cut here =>
    have kept := checkpointStates _ (Library.firstCutMem here)
    exact ⟨rfl,kept.imp (congrArg some) (congrArg some)⟩
  | succeeded => exact ⟨rfl,.inr rfl⟩
  | flagged => exact ⟨rfl,.inr rfl⟩
  | unflagged => exact ⟨rfl,.inr rfl⟩

theorem executeState (w : World) (kids : ChildInterface κ) (fsmCommand : FSMCommand) (token : Token)
    (c : Controller κ) :
    SameState c (executeFsmCommand w kids fsmCommand token c).state ∨
    ∃ t state, Starts c fsmCommand t state ∧
      (executeFsmCommand w kids fsmCommand token c).state.statefulNode.fsm = c.statefulNode.fsm ∧
      (executeFsmCommand w kids fsmCommand token c).state.statefulNode.operationalState = some (t.target state) := by
  by_cases starts : ∃ t state, Starts c fsmCommand t state
  · obtain ⟨t,state,start⟩ := starts
    obtain ⟨fsm,kept | gone⟩ := carriedOutState (startsRun w kids token start)
    · exact .inl ⟨fsm,kept.trans start.idle.operational.symm⟩
    · exact .inr ⟨t,state,start,fsm,gone⟩
  · exact .inl (by rw [(refuses starts).1]; exact sameRefl c)

theorem serveState (c : Controller κ) (r : Round κ) :
    SameState c (c.serve r) ∨
    ∃ fsmCommand t state, r.command = .executeFsmCommand ∧ r.request.data = some (.fsmCommand fsmCommand) ∧
      Starts c fsmCommand t state ∧ (c.serve r).statefulNode.fsm = c.statefulNode.fsm ∧
      (c.serve r).statefulNode.operationalState = some (t.target state) := by
  obtain ⟨w,kids,command,request⟩ := r
  unfold serve
  rcases handleState w kids command request c with same | same
  · exact .inl (by rw [same]; exact sameRefl c)
  · rw [same]
    by_cases fsm : command = .executeFsmCommand
    · subst fsm
      by_cases holds : ∃ fsmCommand, request.data = some (.fsmCommand fsmCommand)
      · obtain ⟨fsmCommand,data⟩ := holds
        rw [unpackedFsmCommand data]
        rcases executeState w kids fsmCommand request.token c with kept | ⟨t,state,start,moved⟩
        · exact .inl kept
        · exact .inr ⟨fsmCommand,t,state,rfl,data,start,moved⟩
      · rw [unpackedOther (fun fsmCommand data => holds ⟨fsmCommand,data⟩)]
        exact .inl (sameRefl c)
    · exact .inl (unpackedSame fsm c)

theorem serveFollows {fsm : FSM} {c : Controller κ} (follows : Follows fsm c) (r : Round κ) :
    Follows fsm (c.serve r) := by
  obtain ⟨same,state,here⟩ := follows
  rcases serveState c r with kept | ⟨_,t,_,_,_,_,kept,gone⟩
  · exact ⟨kept.1.trans same,state,kept.2.trans here⟩
  · exact ⟨kept.trans same,_,gone⟩

theorem serveAllFollows {fsm : FSM} {c : Controller κ} (started : Started fsm c) (history : List (Round κ)) :
    Follows fsm (c.serveAll history) :=
  List.foldlRecOn (motive := Follows fsm) history serve (startedFollows started)
    (fun _ follows r _ => serveFollows follows r)

end Step

/-- The operational state stays, or becomes the destination of the transition that
the request names, whose source matches the old state; it only changes in a command
received by a node that is included, not in error and idle. -/
def MovesBy (conf : FSMConf) (r : Round κ) (c d : Controller κ) : Prop :=
  ∃ before after,
    c.statefulNode.operationalState = some before ∧ d.statefulNode.operationalState = some after ∧
    (after = before ∨ ∃ fsmCommand, ∃ t ∈ conf.transitions,
      r.request.data = some (.fsmCommand fsmCommand) ∧ t.name = fsmCommand.commandName ∧
      regexMatch t.source (some before) = .ok true ∧
      after = if t.destination = "" then before else t.destination) ∧
    (after ≠ before → r.command = .executeFsmCommand ∧ c.statefulNode.included = true ∧
      c.statefulNode.inError = false ∧ c.statefulNode.Idle)

theorem operationalStateFollowsTransitions {conf : FSMConf} {fsm : FSM} (accepted : FSM.init conf = .ok fsm)
    {c : Controller κ} (started : Started fsm c) (history : List (Round κ)) (r : Round κ) :
    MovesBy conf r (c.serveAll history) ((c.serveAll history).serve r) := by
  obtain ⟨same,before,here⟩ := serveAllFollows started history
  rcases serveState (c.serveAll history) r with kept | ⟨fsmCommand,t,state,command,data,start,_,gone⟩
  · exact ⟨before,before,here,kept.2.trans here,.inl rfl,fun moved => absurd rfl moved⟩
  · obtain rfl : state = before := Option.some.inj (start.idle.operational.symm.trans here)
    obtain ⟨mem,name⟩ := gotTransition start.found
    rw [same] at mem
    refine ⟨state,t.target state,here,gone,.inr ⟨fsmCommand,t,?_,data,name,start.can,rfl⟩,fun _ => ?_⟩
    · rwa [← initAccepts accepted]
    · exact ⟨command,start.included,start.sound,start.idle.subState.trans here.symm⟩

end Controller

namespace Sample
open Library (Dict)

scoped instance : Re := literal

def configure : Transition := ⟨"conf","initial","configured",[],""⟩

def conf : FSMConf := ⟨"initial",["initial","configured"],[configure],fun _ => [],fun _ => []⟩

def fsm : FSM := { conf with unique := by decide }

def user : Token := ⟨"user-token","user"⟩

def root {κ : Type} (children : List κ) : Controller κ :=
  { name := "root", session := "session", statefulNode := StatefulNode.init fsm, actor := user, childrenNodes := children }

def calm : World := ⟨fun _ => none,fun _ _ data _ => ⟨data,.ok data⟩,[]⟩

def confRequest : Request := ⟨user,some (.fsmCommand ⟨"conf",Dict.empty,[],.empty⟩)⟩

def confRound : Round Empty := ⟨calm,childless,.executeFsmCommand,confRequest⟩

end Sample

open Sample in
theorem confFollowsTransitions :
    Controller.MovesBy conf confRound ((root []).serveAll [confRound]) (((root []).serveAll [confRound]).serve confRound) :=
  Controller.operationalStateFollowsTransitions (show FSM.init conf = .ok fsm from rfl) ⟨false,rfl⟩ [confRound] confRound

open Sample in
example : ((root []).serve confRound).statefulNode.operationalState = some "configured" := by decide

end Drunc
