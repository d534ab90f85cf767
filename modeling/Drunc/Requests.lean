import Drunc.Execution

/-! What one request at an endpoint does: which requests get past `in_control` and
reach their body, and what any request leaves as it was. A `Frame` is a relation
between states that neither the children nor the inclusion of the node can break:
no endpoint breaks it, if neither the execution of a command does nor, where the
actor changes, the change of the actor. -/
namespace Drunc
open Library (Act)
open Library.Act

theorem leavesBroadcast {σ : Type} {R : σ → σ → Prop} (refl : ∀ s, R s s) {w : World} {site : Site} {message : String}
    {btype : BroadcastType} : Leaves R (broadcast w site message btype) := by
  intro s
  rw [broadcastState]
  exact refl s

namespace Controller

section Admission
variable {κ : Type} [Re] {w : World} {kids : ChildInterface κ} {command : Command} {request : Request}
  {c : Controller κ}

def admitted (command : Command) (request : Request) (c : Controller κ) : Bool :=
  !guarded command || ControllerActor.compareToken request.token c.actor

theorem handleUnacknowledged {e : Exn} (raised : w.broadcast .ack = some e) :
    handle w kids command request c =
      ⟨.error e,c,[.broadcast (attemptMessage (endpoint command) request) .ack]⟩ :=
  broadcastedUnacknowledged raised

def notInControl (request : Request) (c : Controller κ) : Response :=
  c.respond (some request.token)
    (.plainText ("User " ++ request.token.userName ++ " is not in control of Controller")) .notExecutedNotInControl []

theorem handleDeclined (published : w.broadcast .ack = none) (declined : admitted command request c = false) :
    handle w kids command request c =
      ⟨answered c.servicer w request (.ok (notInControl request c)),c,
        [.broadcast (attemptMessage (endpoint command) request) .ack,
          .broadcast (successMessage (endpoint command) request) .commandExecutionSuccess]⟩ := by
  obtain ⟨held,foreign⟩ : guarded command = true ∧ ControllerActor.compareToken request.token c.actor = false := by
    simpa [admitted] using declined
  have inner : (authentifiedAndAuthorised c.servicer (endpoint command)
      (if guarded command then inControl (unpacked w kids c.servicer command)
        else unpacked w kids c.servicer command) request) c = ⟨.ok (notInControl request c),c,[]⟩ := by
    rw [if_pos held]
    change inControl _ request c = _
    unfold inControl
    rw [readBind,foreign]
    rfl
  refine (broadcastedAcknowledged published).trans ?_
  rw [inner]
  rfl

theorem handleAdmitted (published : w.broadcast .ack = none) (accepted : admitted command request c = true) :
    handle w kids command request c =
      ⟨answered c.servicer w request (unpacked w kids c.servicer command request c).result,
        (unpacked w kids c.servicer command request c).state,
        .broadcast (attemptMessage (endpoint command) request) .ack ::
          (unpacked w kids c.servicer command request c).events ++
          announced (endpoint command) request (unpacked w kids c.servicer command request c).result⟩ := by
  have inner : (authentifiedAndAuthorised c.servicer (endpoint command)
      (if guarded command then inControl (unpacked w kids c.servicer command)
        else unpacked w kids c.servicer command) request) c = unpacked w kids c.servicer command request c := by
    change (if guarded command then inControl (unpacked w kids c.servicer command)
        else unpacked w kids c.servicer command) request c = _
    split
    · rename_i held
      have own : ControllerActor.compareToken request.token c.actor = true := by simpa [admitted,held] using accepted
      unfold inControl
      rw [readBind,own]
      rfl
    · rfl
  refine (broadcastedAcknowledged published).trans ?_
  rw [inner]

theorem handleState (w : World) (kids : ChildInterface κ) (command : Command) (request : Request)
    (c : Controller κ) : (handle w kids command request c).state = c ∨
    (handle w kids command request c).state = (unpacked w kids c.servicer command request c).state := by
  cases published : w.broadcast .ack with
  | some e => exact .inl (by rw [handleUnacknowledged published])
  | none =>
    cases accepted : admitted command request c with
    | false => exact .inl (by rw [handleDeclined published accepted])
    | true => exact .inr (by rw [handleAdmitted published accepted])

theorem unpackedFsmCommand {obj : Servicer} {fsmCommand : FSMCommand}
    (holds : request.data = some (.fsmCommand fsmCommand)) :
    unpacked w kids obj .executeFsmCommand request = executeFsmCommand w kids fsmCommand request.token := by
  simp only [unpacked,unpackRequestDataTo,unpackAny,unpackTo,holds]
  rfl

theorem unpackedOther {obj : Servicer} (missing : ∀ fsmCommand, request.data ≠ some (.fsmCommand fsmCommand)) :
    unpacked w kids obj .executeFsmCommand request =
      (lift (.error (.typeError "expected google.protobuf.Any got PlainText")) : Do (Controller κ) Response) := by
  have absent : request.data.bind asFsmCommand = none := by
    cases data : request.data with
    | none => rfl
    | some payload =>
      cases payload with
      | fsmCommand fsmCommand => exact absurd data (missing fsmCommand)
      | _ => rfl
  simp only [unpacked,unpackRequestDataTo,unpackAny,unpackTo,absent]
  rfl

end Admission

structure Frame {κ : Type} (R : Controller κ → Controller κ → Prop) : Prop where
  refl : ∀ c, R c c
  trans : ∀ c d e, R c d → R d e → R c e
  children : ∀ c nodes, R c { c with childrenNodes := nodes }
  included : ∀ c value, R c { c with statefulNode := { c.statefulNode with included := value } }

def FreeActor {κ : Type} (R : Controller κ → Controller κ → Prop) : Prop := ∀ c token, R c { c with actor := token }

namespace Frame
section Bodies
variable {κ : Type} {R : Controller κ → Controller κ → Prop} {w : World} {kids : ChildInterface κ} {command : Command}
  {token : Token}

theorem propagate (frame : Frame R) {data : Option Payload} : Leaves R (propagateToList w kids command data token) :=
  leavesBind frame.trans (leavesBroadcast frame.refl) (fun _ c => frame.children c _)

theorem setIncluded (frame : Frame R) (value : Bool) :
    Leaves R (onNode (StatefulNode.setIncluded w value) : Do (Controller κ) Unit) :=
  fun c => passesState (passesZoom StatefulNode.observePasses) (by simpa using frame.refl c) (frame.included c value)

theorem includeNode (frame : Frame R) : Leaves R (onNode (StatefulNode.includeNode w) : Do (Controller κ) Unit) := by
  intro c
  by_cases already : c.statefulNode.included = true
  · simpa [onNode,StatefulNode.includeNode,readBind,already] using frame.refl c
  · simpa [onNode,StatefulNode.includeNode,readBind,already] using frame.setIncluded (w := w) true c

theorem excludeNode (frame : Frame R) : Leaves R (onNode (StatefulNode.excludeNode w) : Do (Controller κ) Unit) := by
  intro c
  by_cases already : c.statefulNode.included = true
  · simpa [onNode,StatefulNode.excludeNode,readBind,already] using frame.setIncluded (w := w) false c
  · simpa [onNode,StatefulNode.excludeNode,readBind,already] using frame.refl c

theorem status (frame : Frame R) : Leaves R (status kids token) :=
  leavesBind frame.trans (leavesRead frame.refl) fun _ =>
    leavesBind frame.trans (leavesLift frame.refl _) fun _ =>
      leavesBind frame.trans (leavesLift frame.refl _) fun _ => leavesPure frame.refl _

theorem describe (frame : Frame R) : Leaves R (describe w kids token) :=
  leavesBind frame.trans (leavesRead frame.refl) fun _ =>
    leavesBind frame.trans frame.propagate fun _ => leavesPure frame.refl _

theorem changeInclusion (frame : Frame R) {change : Do StatefulNode Unit} {changed : String}
    (keeps : Leaves R (onNode change : Do (Controller κ) Unit)) :
    Leaves R (changeInclusion w kids command change changed token) :=
  leavesBind frame.trans (leavesRead frame.refl) fun _ =>
    leavesBind frame.trans frame.propagate fun _ =>
      leavesBind frame.trans keeps fun _ => leavesPure frame.refl _

theorem changeActor (frame : Frame R) (free : FreeActor R) {change : Token → Do Token (Option Nat)} {what : String}
    {done : Token → Token → String} : Leaves R (changeActor w kids command change what done token) := by
  refine leavesBind frame.trans (leavesRead frame.refl) fun c =>
    leavesBind frame.trans (fun c => free c _) fun status => ?_
  split
  · exact leavesPure frame.refl _
  · refine leavesBind frame.trans frame.propagate fun responses => ?_
    split <;> exact leavesPure frame.refl _

theorem whoIsInCharge (frame : Frame R) : Leaves R (whoIsInCharge : Do (Controller κ) Response) :=
  leavesBind frame.trans (leavesRead frame.refl) fun _ => leavesPure frame.refl _

variable [Re]

theorem describeFsm (frame : Frame R) {key : String} : Leaves R (describeFsm key : Do (Controller κ) Response) :=
  leavesBind frame.trans (leavesRead frame.refl) fun _ =>
    leavesBind frame.trans (leavesLift frame.refl _) fun _ => leavesPure frame.refl _

theorem unpacked (frame : Frame R) {obj : Servicer} {request : Request}
    (executes : command = .executeFsmCommand → ∀ fsmCommand, Leaves R (executeFsmCommand w kids fsmCommand request.token))
    (actors : command = .takeControl ∨ command = .surrenderControl → FreeActor R) :
    Leaves R (unpacked w kids obj command request) := by
  match command, executes, actors with
  | .status, _, _ => exact frame.status
  | .describe, _, _ => exact frame.describe
  | .describeFsm, _, _ =>
    unfold Controller.unpacked unpackRequestDataTo
    cases unpackAny request.data (unpackTo "PlainText" asPlainText) with
    | ok key => exact frame.describeFsm
    | error e => exact leavesLift frame.refl _
  | .executeFsmCommand, executes, _ =>
    unfold Controller.unpacked unpackRequestDataTo
    cases unpackAny request.data (unpackTo "FSMCommand" asFsmCommand) with
    | ok fsmCommand => exact executes rfl fsmCommand
    | error e => exact leavesLift frame.refl _
  | .include, _, _ =>
    change Leaves R (includeSelf w kids request.token)
    exact frame.changeInclusion frame.includeNode
  | .exclude, _, _ =>
    change Leaves R (excludeSelf w kids request.token)
    exact frame.changeInclusion frame.excludeNode
  | .takeControl, _, actors =>
    change Leaves R (takeControl w kids request.token)
    exact frame.changeActor (actors (.inl rfl))
  | .surrenderControl, _, actors =>
    change Leaves R (surrenderControl w kids request.token)
    exact frame.changeActor (actors (.inr rfl))
  | .whoIsInCharge, _, _ => exact frame.whoIsInCharge

end Bodies
end Frame

section Same
variable {κ : Type}

def SameState (c d : Controller κ) : Prop :=
  d.statefulNode.fsm = c.statefulNode.fsm ∧
  d.statefulNode.operationalState = c.statefulNode.operationalState

theorem sameRefl (c : Controller κ) : SameState c c := ⟨rfl,rfl⟩

theorem sameTrans (c d e : Controller κ) (first : SameState c d) (second : SameState d e) : SameState c e :=
  ⟨second.1.trans first.1,second.2.trans first.2⟩

theorem sameFrame : Frame (@SameState κ) := ⟨sameRefl,sameTrans,fun _ _ => ⟨rfl,rfl⟩,fun _ _ => ⟨rfl,rfl⟩⟩

theorem unpackedSame [Re] {w : World} {kids : ChildInterface κ} {command : Command} {request : Request} {obj : Servicer}
    (other : command ≠ .executeFsmCommand) : Leaves SameState (unpacked w kids obj command request) :=
  sameFrame.unpacked (fun execute => absurd execute other) (fun _ _ _ => ⟨rfl,rfl⟩)

end Same
end Controller
end Drunc
