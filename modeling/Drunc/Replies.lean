import Drunc.ChildOutcomes

/-! What the reply of a controller to an FSM command tells: it can always be taken
by the loop of the parent, and it tells of success only after a whole transition,
one that ran to its end and whose outcome was published (`Completes`). -/
namespace Drunc
open Library (firstCut)
open Library.Act

theorem exceptionUnsuccessful (obj : Servicer) (request : Request) (e : Exn) :
    (exceptionResponse obj request e).flag ≠ .executedSuccessfully := by
  unfold exceptionResponse exceptionFlag
  split <;> simp

namespace Controller
variable {κ : Type} [Re] {w : World} {kids : ChildInterface κ} {request : Request} {c : Controller κ}

structure Completes (w : World) (kids : ChildInterface κ) (request : Request) (c : Controller κ)
    (fsmCommand : FSMCommand) (t : Transition) (state : String) : Prop where
  acknowledged : w.broadcast .ack = none
  accepted : admitted .executeFsmCommand request c = true
  data : request.data = some (.fsmCommand fsmCommand)
  start : Starts c fsmCommand t state
  through : firstCut (checkpoints w kids t fsmCommand request.token c state) = none
  flagged : childFailed w kids t fsmCommand request.token c = true → w.broadcast .errorState = none
  announced : w.broadcast .success = none

theorem completedRun {fsmCommand : FSMCommand} {t : Transition} {state : String}
    (completes : Completes w kids request c fsmCommand t state) :
    (handle w kids .executeFsmCommand request c).result =
      .ok (executedResponse w kids t fsmCommand request.token c) ∧
    (handle w kids .executeFsmCommand request c).state = settled w kids t fsmCommand request.token c state := by
  obtain ⟨acknowledged,accepted,data,start,through,flagged,announced⟩ := completes
  obtain ⟨result,final⟩ := carriedOutSettled (startsRun w kids request.token start) start.sound through flagged
  rw [handleAdmitted acknowledged accepted,unpackedFsmCommand data,result]
  simp [answered,announced,final]

structure Honest (w : World) (kids : ChildInterface κ) (request : Request) (c : Controller κ) (r : Response) :
    Prop where
  decodable : r.decodable = true
  complete : r.succeeded = true → ∃ fsmCommand t state, Completes w kids request c fsmCommand t state ∧
    r = executedResponse w kids t fsmCommand request.token c

theorem unsuccessfulHonest {r : Response} (flag : r.flag ≠ .executedSuccessfully) : Honest w kids request c r :=
  ⟨by simp [Response.decodable,flag],by simp [Response.succeeded,flag]⟩

theorem refusedHonest {name : String} {token : Token} {cause : FSMResponseFlag} (bad : cause ≠ .fsmExecutedSuccessfully) :
    Honest w kids request c (c.constructErrorNodeResponse name token cause) :=
  ⟨rfl,fun succeeded => absurd succeeded (by simpa [Response.succeeded,constructErrorNodeResponse,respond,asFsmCommandResponse] using bad)⟩

theorem bodyHonest {r : Response} (acknowledged : w.broadcast .ack = none)
    (accepted : admitted .executeFsmCommand request c = true)
    (replied : (unpacked w kids c.servicer .executeFsmCommand request c).result = .ok r)
    (announced : w.broadcast .success = none) : Honest w kids request c r := by
  by_cases holds : ∃ fsmCommand, request.data = some (.fsmCommand fsmCommand)
  · obtain ⟨fsmCommand,data⟩ := holds
    rw [unpackedFsmCommand data] at replied
    by_cases starts : ∃ t state, Starts c fsmCommand t state
    · obtain ⟨t,state,start⟩ := starts
      have run := startsRun w kids request.token start
      rw [replied] at run
      have through := carriedOutThrough run
      generalize (executeFsmCommand w kids fsmCommand request.token c).state = d at run
      cases run with
      | succeeded _ kept =>
        exact ⟨rfl,fun _ => ⟨fsmCommand,t,state,⟨acknowledged,accepted,data,start,through,by simp [kept],announced⟩,rfl⟩⟩
      | flagged _ _ published =>
        exact ⟨rfl,fun _ => ⟨fsmCommand,t,state,⟨acknowledged,accepted,data,start,through,fun _ => published,announced⟩,rfl⟩⟩
    · rcases (refuses starts).2 with ⟨e,raised⟩ | ⟨cause,bad,refused⟩
      · rw [raised] at replied; contradiction
      · rw [refused] at replied
        cases replied
        exact refusedHonest bad
  · rw [unpackedOther fun fsmCommand data => holds ⟨fsmCommand,data⟩] at replied
    contradiction

theorem executeHonest {r : Response} (replied : (handle w kids .executeFsmCommand request c).result = .ok r) :
    Honest w kids request c r := by
  cases acknowledged : w.broadcast .ack with
  | some e => rw [handleUnacknowledged acknowledged] at replied; contradiction
  | none =>
    cases accepted : admitted .executeFsmCommand request c with
    | false =>
      rw [handleDeclined acknowledged accepted] at replied
      dsimp only at replied
      rcases answeredOk replied with ⟨e,raised,_⟩ | ⟨same,_⟩
      · contradiction
      · cases same
        exact unsuccessfulHonest (by simp [notInControl,respond])
    | true =>
      rw [handleAdmitted acknowledged accepted] at replied
      dsimp only at replied
      rcases answeredOk replied with ⟨e,_,rfl⟩ | ⟨same,announced⟩
      · exact unsuccessfulHonest (exceptionUnsuccessful _ _ _)
      · exact bodyHonest acknowledged accepted same announced

end Controller
end Drunc
