import Drunc.History

/-! A transition that is cut short. Where a REST application is put in error after
an exception, the controller keeps the sub-state it had: it is then neither idle
nor in error, and takes no command any more. From an idle and sound node, exactly
the cut transitions leave one that is stuck. -/
namespace Drunc
open Library (firstCut)
open Library.Act

namespace Controller
variable {κ : Type}

def Recovered (c : Controller κ) : Prop := c.statefulNode.Idle ∨ c.statefulNode.inError = true
instance (c : Controller κ) : Decidable c.Recovered := by unfold Recovered; infer_instance

theorem haltedIdleIff {c : Controller κ} {t : Transition} {h : Halt κ} :
    (c.halted t h).statefulNode.Idle ↔ StatefulNode.subStateAt t h.node = h.node.state := by
  simp [halted,StatefulNode.halted,StatefulNode.Idle]

theorem movedIdle {w : World} {kids : ChildInterface κ} {t : Transition} {fsmCommand : FSMCommand} {token : Token}
    {c : Controller κ} {state : String} : (moved w kids t fsmCommand token c state).statefulNode.Idle := rfl

variable [Re]

/-- The request starts no transition, or nothing cuts the transition that it starts:
no argument is missing, no mandatory callback fails, the data is JSON, no publication
raises and every successful child replies with an FSM response. A cut is harmless
only where the sub-state that is kept is the very name of the state. -/
def Unharmed (w : World) (kids : ChildInterface κ) (request : Request) (c : Controller κ) : Prop :=
  ∀ fsmCommand t state e h,
    w.broadcast .ack = none → admitted .executeFsmCommand request c = true →
    request.data = some (.fsmCommand fsmCommand) → Starts c fsmCommand t state →
    firstCut (checkpoints w kids t fsmCommand request.token c state) = some (e,h) →
    StatefulNode.subStateAt t h.node = h.node.state

section Recovery
variable {w : World} {kids : ChildInterface κ} {request : Request} {c : Controller κ}

theorem unstarted (quiet : ¬ ∃ fsmCommand t state, w.broadcast .ack = none ∧
      admitted .executeFsmCommand request c = true ∧ request.data = some (.fsmCommand fsmCommand) ∧
      Starts c fsmCommand t state) :
    (handle w kids .executeFsmCommand request c).state = c := by
  cases published : w.broadcast .ack with
  | some e => rw [handleUnacknowledged published]
  | none =>
    cases accepted : admitted .executeFsmCommand request c with
    | false => rw [handleDeclined published accepted]
    | true =>
      rw [handleAdmitted published accepted]
      by_cases holds : ∃ fsmCommand, request.data = some (.fsmCommand fsmCommand)
      · obtain ⟨fsmCommand,data⟩ := holds
        rw [unpackedFsmCommand data]
        exact (refuses fun ⟨t,state,start⟩ => quiet ⟨fsmCommand,t,state,published,accepted,data,start⟩).1
      · rw [unpackedOther fun fsmCommand data => holds ⟨fsmCommand,data⟩]
        rfl

theorem stranded (stuck : ¬ c.statefulNode.Idle) : (handle w kids .executeFsmCommand request c).state = c := by
  refine unstarted fun ⟨_,_,_,_,_,_,start⟩ => stuck ?_
  exact start.idle.subState.trans start.idle.operational.symm

theorem carriedOutRecovers {t : Transition} {fsmCommand : FSMCommand} {token : Token} {state : String}
    {result : Except Exn Response} {d : Controller κ} (run : CarriedOut w kids t fsmCommand token c state result d)
    (sound : c.statefulNode.inError = false) :
    d.Recovered ↔ ∀ e h, firstCut (checkpoints w kids t fsmCommand token c state) = some (e,h) →
      StatefulNode.subStateAt t h.node = h.node.state := by
  cases run with
  | @cut e h here =>
    have flag : (c.halted t h).statefulNode.inError = false := sound
    rw [Recovered,flag,haltedIdleIff,here]
    simp
  | succeeded through => simp [through,Recovered,movedIdle]
  | flagged through => simp [through,Recovered,erred]
  | unflagged through => simp [through,Recovered,movedIdle]

theorem recoversIffUnharmed (idle : c.statefulNode.Idle) (sound : c.statefulNode.inError = false) :
    Recovered (handle w kids .executeFsmCommand request c).state ↔ Unharmed w kids request c := by
  by_cases starts : ∃ fsmCommand t state, w.broadcast .ack = none ∧
      admitted .executeFsmCommand request c = true ∧ request.data = some (.fsmCommand fsmCommand) ∧
      Starts c fsmCommand t state
  · obtain ⟨fsmCommand,t,state,published,accepted,data,start⟩ := starts
    rw [handleAdmitted published accepted,unpackedFsmCommand data]
    have only : Unharmed w kids request c ↔
        ∀ e h, firstCut (checkpoints w kids t fsmCommand request.token c state) = some (e,h) →
          StatefulNode.subStateAt t h.node = h.node.state := by
      refine ⟨fun all e h => all fsmCommand t state e h published accepted data start,
        fun all other u there e h _ _ again begun cut => ?_⟩
      obtain rfl : fsmCommand = other := by simpa using data.symm.trans again
      obtain ⟨rfl,rfl⟩ := startsUnique start begun
      exact all e h cut
    rw [only]
    exact carriedOutRecovers (startsRun w kids request.token start) sound
  · rw [unstarted starts]
    refine ⟨fun _ fsmCommand t state e h published accepted data start _ =>
      absurd ⟨fsmCommand,t,state,published,accepted,data,start⟩ starts,fun _ => .inl idle⟩

end Recovery
end Controller

namespace Sample
open Library (Dict)

def checkedConf : FSMConf := { conf with preTransitionSequences := fun _ => [⟨"pre_conf",true⟩] }

def checkedRoot : Controller Empty :=
  { root [] with statefulNode := StatefulNode.init { checkedConf with unique := by decide } }

def failing : World := { calm with callback := fun _ _ data _ => ⟨data,.error (.drunc "FSMException" "failed")⟩ }

end Sample

open Sample in
theorem checkedRootRecovers : Controller.Recovered (Controller.handle calm childless .executeFsmCommand confRequest checkedRoot).state ↔
    Controller.Unharmed calm childless confRequest checkedRoot :=
  Controller.recoversIffUnharmed rfl rfl

open Sample in
theorem failedCallbackStrands :
    checkedRoot.statefulNode.Idle ∧ checkedRoot.statefulNode.included = true ∧
    checkedRoot.statefulNode.inError = false ∧
    ¬ (Controller.handle failing childless .executeFsmCommand confRequest checkedRoot).state.Recovered ∧
    ∀ w request, (Controller.handle w childless .executeFsmCommand request
      (Controller.handle failing childless .executeFsmCommand confRequest checkedRoot).state).state =
      (Controller.handle failing childless .executeFsmCommand confRequest checkedRoot).state := by
  have stuck : ¬ (Controller.handle failing childless .executeFsmCommand confRequest checkedRoot).state.Recovered := by
    decide
  exact ⟨rfl,rfl,rfl,stuck,fun w request => Controller.stranded fun idle => stuck (.inl idle)⟩

end Drunc
