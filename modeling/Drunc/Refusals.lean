import Drunc.Control
import Drunc.ChildOutcomes

/-! How a command that must not run is turned down. The checks of `execute_fsm_command` come in
an order, so the first one that fails should decide what the client is told. The node never
changes and nothing leaves it but broadcasts; the checks for error and for inclusion answer as
meant, and the two after them raise while they are about to refuse, which a client cannot tell
from a fault of the server. -/
namespace Drunc
open Library.Act

def fsmFlag (r : Response) : Option FSMResponseFlag := (r.data.bind asFsmCommandResponse).map FSMCommandResponse.flag

namespace Controller
variable {κ : Type}

/-- What the client is told: the flag of the first check that fails, where an unknown name is
an exception of its own. -/
def RefusedAs (c : Controller κ) (fsmCommand : FSMCommand) (r : Response) : Prop :=
  if c.statefulNode.inError then fsmFlag r = some .fsmNotExecutedInError
  else if !c.statefulNode.included then fsmFlag r = some .fsmNotExecutedExcluded
  else if ∀ t ∈ c.statefulNode.fsm.transitions, t.name ≠ fsmCommand.commandName then
    r.flag = .druncExceptionThrown ∧ ∃ text, r.data = some (.stacktrace (.drunc "NoTransitionOfName" text))
  else fsmFlag r = some .fsmInvalidTransition

variable {w : World} {kids : ChildInterface κ} {fsmCommand : FSMCommand} {request : Request} {c : Controller κ}

theorem faultyUntold {e : Exn} (sound : c.statefulNode.inError = false) (inside : c.statefulNode.included = true)
    (unhandled : e.isDrunc = false) : ¬ RefusedAs c fsmCommand (exceptionResponse c.servicer request e) := by
  unfold RefusedAs
  rw [if_neg (by simp [sound]),if_neg (by simp [inside])]
  split
  · rintro ⟨flag,_⟩
    simp [exceptionResponse,exceptionFlag,unhandled] at flag
  · intro flag
    simp [fsmFlag,exceptionResponse,asFsmCommandResponse] at flag

theorem toldIff {result : Except Exn Response} (refused : Refused c fsmCommand request.token result) :
    (∃ r, answered c.servicer w request result = .ok r ∧ RefusedAs c fsmCommand r) ↔
      w.broadcast .success = none ∧ (c.statefulNode.inError = true ∨ c.statefulNode.included = false) := by
  have replied : ∀ {r}, RefusedAs c fsmCommand r →
      ((∃ q, answered c.servicer w request (.ok r) = .ok q ∧ RefusedAs c fsmCommand q) ↔ w.broadcast .success = none) := by
    intro r as
    unfold answered
    cases w.broadcast .success <;> simp [as]
  cases refused with
  | inError bad =>
    have as : RefusedAs c fsmCommand (c.constructErrorNodeResponse fsmCommand.commandName request.token .fsmNotExecutedInError) := by
      unfold RefusedAs
      rw [if_pos bad]
      rfl
    simp [replied as,bad]
  | excluded sound out =>
    have as : RefusedAs c fsmCommand (c.constructErrorNodeResponse fsmCommand.commandName request.token .fsmNotExecutedExcluded) := by
      unfold RefusedAs
      rw [if_neg (by simp [sound]),if_pos (by simp [out])]
      rfl
    simp [replied as,out]
  | faulty sound inside unhandled =>
    refine iff_of_false (fun ⟨r,told,as⟩ => ?_) (by simp [sound,inside])
    cases told
    exact faultyUntold sound inside unhandled as

variable [Re]

structure RefusesCleanly (w : World) (kids : ChildInterface κ) (fsmCommand : FSMCommand) (request : Request)
    (c : Controller κ) : Prop where
  told : ∃ r, (handle w kids .executeFsmCommand request c).result = .ok r ∧ RefusedAs c fsmCommand r
  same : (handle w kids .executeFsmCommand request c).state = c
  silent : ∀ e ∈ (handle w kids .executeFsmCommand request c).events, e.outward = false

theorem refusedHandled (w : World) (kids : ChildInterface κ) (own : request.token = c.actor) (data : request.data = some (.fsmCommand fsmCommand))
    (none : ¬ ∃ t state, Starts c fsmCommand t state) (published : w.broadcast .ack = Option.none) :
    ∃ result, Refused c fsmCommand request.token result ∧ handle w kids .executeFsmCommand request c =
      ⟨answered c.servicer w request result,c,.broadcast (attemptMessage (endpoint .executeFsmCommand) request) .ack ::
        announced (endpoint .executeFsmCommand) request result⟩ := by
  obtain ⟨result,refused,run⟩ := refusedRun w kids request.token none
  refine ⟨result,refused,?_⟩
  rw [handleAdmitted published ((admittedHeld rfl).mpr own),unpackedFsmCommand data,run]
  rfl

theorem refusalSpares (w : World) (kids : ChildInterface κ) (own : request.token = c.actor) (data : request.data = some (.fsmCommand fsmCommand))
    (none : ¬ ∃ t state, Starts c fsmCommand t state) :
    (handle w kids .executeFsmCommand request c).state = c ∧
    ∀ e ∈ (handle w kids .executeFsmCommand request c).events, e.outward = false := by
  cases published : w.broadcast .ack with
  | some e =>
    rw [handleUnacknowledged published]
    exact ⟨rfl,by simp [Event.outward]⟩
  | none =>
    obtain ⟨result,_,run⟩ := refusedHandled w kids own data none published
    rw [run]
    refine ⟨rfl,?_⟩
    cases result <;> simp [announced,Event.outward]

theorem refusesCleanlyIff (own : request.token = c.actor) (data : request.data = some (.fsmCommand fsmCommand))
    (none : ¬ ∃ t state, Starts c fsmCommand t state) :
    RefusesCleanly w kids fsmCommand request c ↔
      w.broadcast .ack = Option.none ∧ w.broadcast .success = Option.none ∧
      (c.statefulNode.inError = true ∨ c.statefulNode.included = false) := by
  obtain ⟨same,silent⟩ := refusalSpares w kids own data none
  cases published : w.broadcast .ack with
  | some e =>
    refine iff_of_false (fun clean => ?_) (by simp)
    obtain ⟨r,told,_⟩ := clean.told
    rw [handleUnacknowledged published] at told
    contradiction
  | none =>
    obtain ⟨result,refused,run⟩ := refusedHandled w kids own data none published
    have told := toldIff (w := w) refused
    constructor
    · intro clean
      have answer := clean.told
      rw [run] at answer
      exact ⟨rfl,told.mp answer⟩
    · rintro ⟨_,answers⟩
      refine ⟨?_,same,silent⟩
      rw [run]
      exact told.mpr answers

end Controller

namespace Sample
open Library (Dict)

def scrapCommand : FSMCommand := ⟨"scrap",Dict.empty,[],.empty⟩

def scrapRequest : Request := ⟨user,some (.fsmCommand scrapCommand)⟩

def configured : Controller Empty := (root []).serve confRound

end Sample

open Sample in
theorem refusalsRaise :
    (∀ t ∈ fsm.transitions, t.name ≠ scrapCommand.commandName) ∧
    (Controller.handle calm childless .executeFsmCommand scrapRequest (root [])).result =
      .ok (exceptionResponse (root ([] : List Empty)).servicer scrapRequest .indexError) ∧
    ¬ Controller.RefusesCleanly calm childless scrapCommand scrapRequest (root []) ∧
    configured.statefulNode.canTransition configure = .ok false ∧
    ¬ Controller.RefusesCleanly calm childless confCommand confRequest configured := by
  refine ⟨by decide,rfl,fun clean => ?_,by decide,fun clean => ?_⟩
  · obtain ⟨r,told,as⟩ := clean.told
    cases told
    exact Controller.faultyUntold rfl rfl rfl as
  · obtain ⟨r,told,as⟩ := clean.told
    cases told
    exact Controller.faultyUntold rfl rfl rfl as

open Sample in
theorem erredRefusesCleanly :
    Controller.RefusesCleanly calm childless confCommand confRequest (root ([] : List Empty)).erred :=
  (Controller.refusesCleanlyIff rfl rfl fun ⟨_,_,start⟩ => absurd start.sound (by decide)).mpr ⟨rfl,rfl,.inl rfl⟩

end Drunc
