import Drunc.Control
import Drunc.Coverage

/-! Control of a whole tree. A controller changes its actor first and asks its
children then, without a way back: only the answer that all went well tells how
every descendant stands. `Tree.actors` lists the actors of all controllers, each
before those below it; `Response.accepts` is what a controller takes for an answer
of a child. A command that hands control over leads to its `successor`. -/
namespace Drunc
open Library.Act

def Tree.actors : {n : Nat} → Tree n → List Token
  | 0, child => child.elim
  | _+1, .clientSide _ => []
  | _+1, .restApi _ => []
  | _+1, .grpc _ controller => controller.actor :: controller.childrenNodes.flatMap Tree.actors

def Controller.actors {n : Nat} (root : Controller (Tree n)) : List Token :=
  root.actor :: root.childrenNodes.flatMap Tree.actors

def Response.accepts (r : Response) : Bool := r.flag == .executedSuccessfully || r.flag == .notExecutedNotImplemented

def Command.HandsOver (command : Command) : Prop := command = .takeControl ∨ command = .surrenderControl

def Command.successor (token : Token) : Command → Token
  | .surrenderControl => Token.unset
  | _ => token

theorem exceptionFlagBad (e : Exn) : exceptionFlag e ≠ .executedSuccessfully ∧ exceptionFlag e ≠ .notExecutedNotImplemented := by
  unfold exceptionFlag
  split <;> decide

theorem exceptionRejected (obj : Servicer) (request : Request) (e : Exn) :
    (exceptionResponse obj request e).accepts = false := by
  simp [Response.accepts,exceptionResponse,exceptionFlagBad]

section Answers
variable {κ : Type} {w : World} {kids : ChildInterface κ} {command : Command} {data : Option Payload} {token : Token}

theorem childAccepts {children : List κ} (all : Controller.childrenAnswered (collected w kids command data token children) = true)
    {i : Nat} {child : κ} (found : children[i]? = some child) (started : w.broadcast (.childStart i) = none) :
    ∃ r, (kids.propagateCommand i child command data token).1 = .ok r ∧ r.accepts = true := by
  have accepted : ∀ r ∈ collectedFrom w kids command data token i child, r.accepts = true :=
    fun r mem => List.all_eq_true.mp all r (collectedMem.mpr ⟨i,child,found,mem⟩)
  cases called : (kids.propagateCommand i child command data token).1 with
  | error e =>
    have bad := accepted (childException kids token (kids.propagateCommand i child command data token).2 e)
      (by simp [collectedFrom,started,called])
    simp [Response.accepts,childException,exceptionFlagBad] at bad
  | ok r =>
    refine ⟨r,rfl,accepted r ?_⟩
    cases reported : w.broadcast (.childResponse i) <;> simp [collectedFrom,started,called,reported]

end Answers

namespace Controller
section Body
variable {κ : Type} {w : World} {kids : ChildInterface κ} {command : Command} {token : Token} {c : Controller κ}

def LeadsTo (successor : Token) (change : Do Token (Option Nat)) : Prop :=
  ∀ old, (∃ e, change old = ⟨.error e,old,[]⟩) ∨ ∃ status, change old = ⟨.ok status,successor,[]⟩

theorem takeLeads (token : Token) : LeadsTo token (ControllerActor.takeControl token) := fun _ => .inr ⟨_,rfl⟩

theorem surrenderLeads (token : Token) : LeadsTo Token.unset (ControllerActor.surrenderControl token) := by
  intro old
  unfold ControllerActor.surrenderControl
  rw [readBind]
  split
  · exact .inr ⟨_,rfl⟩
  · exact .inl ⟨_,rfl⟩

/-- Where a change of the actor ends: nothing changed, or the actor alone, or also the
children; an answer that others accept says that every child was asked. -/
inductive Changed (w : World) (kids : ChildInterface κ) (command : Command) (token successor : Token) (c : Controller κ) :
    Except Exn Response → Controller κ → Prop
  | raised {e : Exn} : Changed w kids command token successor c (.error e) c
  | alone {result : Except Exn Response} (refused : ∀ r, result = .ok r → r.accepts = false) :
      Changed w kids command token successor c result { c with actor := successor }
  | asked {r : Response} (answered : r.accepts = true →
        childrenAnswered (collected w kids command none token c.childrenNodes) = true ∧ r.flag = .executedSuccessfully) :
      Changed w kids command token successor c (.ok r)
        { c with actor := successor, childrenNodes := childrenAfter w kids command none token c.childrenNodes }

theorem changedAnswerAccepts {what : String} {done : Token → Token → String} {asked : List Response}
    (accepts : (changedAnswer what done token c asked).accepts = true) :
    childrenAnswered asked = true ∧ (changedAnswer what done token c asked).flag = .executedSuccessfully := by
  unfold changedAnswer at accepts ⊢
  split at accepts
  · simp [respond,Response.accepts] at accepts
  · rename_i answered
    rw [if_neg answered]
    exact ⟨by simpa using answered,rfl⟩

theorem changeActorEnds {change : Token → Do Token (Option Nat)} {what : String} {done : Token → Token → String}
    {successor : Token} (leads : LeadsTo successor (change token)) :
    Changed w kids command token successor c (changeActor w kids command change what done token c).result
      (changeActor w kids command change what done token c).state := by
  rcases leads c.actor with ⟨e,raises⟩ | ⟨status,changed⟩
  · have raised : (onActor (change token) c).result = .error e := by simp [onActor,raises]
    have same : (onActor (change token) c).state = c := by simp [onActor,raises]
    unfold changeActor
    rw [readBind,bindError raised,same]
    exact .raised
  · by_cases zero : status = some 0
    · subst zero
      have runs := changeActorRuns w kids command what done changed
      rcases passesEnds runs with ⟨e,kept,cut,result,final⟩ | ⟨_,result,final⟩
      · obtain ⟨_,here⟩ : some e = w.broadcast .propagation ∧ kept = { c with actor := successor } := by
          simpa using Library.firstCutMem cut
        rw [result,final,here]
        exact .alone (by simp)
      · rw [result,final]
        exact .asked changedAnswerAccepts
    · rw [changeActorFails changed zero]
      exact .alone fun r same => by cases same; rfl

end Body

section Step
variable {κ : Type} [Re] {w : World} {kids : ChildInterface κ} {command : Command} {request : Request} {c : Controller κ}

theorem unpackedChanges (w : World) (kids : ChildInterface κ) (handsOver : command.HandsOver) (obj : Servicer)
    (request : Request) (c : Controller κ) :
    Changed w kids command request.token (command.successor request.token) c
      (unpacked w kids obj command request c).result (unpacked w kids obj command request c).state := by
  rcases handsOver with rfl | rfl
  · change Changed _ _ _ _ request.token c (takeControl w kids request.token c).result
      (takeControl w kids request.token c).state
    exact changeActorEnds (takeLeads request.token)
  · change Changed _ _ _ _ Token.unset c (surrenderControl w kids request.token c).result
      (surrenderControl w kids request.token c).state
    exact changeActorEnds (surrenderLeads request.token)

theorem handsOverState (w : World) (kids : ChildInterface κ) (handsOver : command.HandsOver) (request : Request)
    (c : Controller κ) :
    (handle w kids command request c).state = c ∨
    (handle w kids command request c).state = { c with actor := command.successor request.token } ∨
    (handle w kids command request c).state = { c with
      actor := command.successor request.token
      childrenNodes := childrenAfter w kids command none request.token c.childrenNodes } := by
  rcases handleState w kids command request c with same | same
  · exact .inl same
  · rw [same]
    have changed := unpackedChanges w kids handsOver c.servicer request c
    generalize (unpacked w kids c.servicer command request c).result = result,
      (unpacked w kids c.servicer command request c).state = after at changed
    cases changed with
    | raised => exact .inl rfl
    | alone => exact .inr (.inl rfl)
    | asked => exact .inr (.inr rfl)

theorem declinedAnswer (declined : admitted command request c = false) {r : Response}
    (replied : (handle w kids command request c).result = .ok r) : r = notInControl request c := by
  cases published : w.broadcast .ack with
  | some e =>
    rw [handleUnacknowledged published] at replied
    contradiction
  | none =>
    rw [handleDeclined published declined] at replied
    have told : answered c.servicer w request (.ok (notInControl request c)) = .ok r := replied
    rcases answeredOk told with ⟨e,raised,_⟩ | ⟨refused,_⟩
    · contradiction
    · exact (Except.ok.inj refused).symm

theorem handsOverAccepted (handsOver : command.HandsOver) {r : Response}
    (replied : (handle w kids command request c).result = .ok r) (accepts : r.accepts = true) :
    childrenAnswered (collected w kids command none request.token c.childrenNodes) = true ∧
    (handle w kids command request c).state = { c with
      actor := command.successor request.token
      childrenNodes := childrenAfter w kids command none request.token c.childrenNodes } := by
  cases accepted : admitted command request c with
  | false =>
    rw [declinedAnswer accepted replied] at accepts
    simp [notInControl,respond,Response.accepts] at accepts
  | true =>
    cases published : w.broadcast .ack with
    | some e =>
      rw [handleUnacknowledged published] at replied
      contradiction
    | none =>
      rw [handleAdmitted published accepted] at replied ⊢
      have told : answered c.servicer w request (unpacked w kids c.servicer command request c).result = .ok r := replied
      have changed := unpackedChanges w kids handsOver c.servicer request c
      rcases answeredOk told with ⟨e,_,rfl⟩ | ⟨body,_⟩
      · rw [exceptionRejected] at accepts
        contradiction
      · rw [body] at changed
        generalize (unpacked w kids c.servicer command request c).state = after at changed
        cases changed with
        | alone refused =>
          rw [refused r rfl] at accepts
          contradiction
        | asked all => exact ⟨(all accepts).1,rfl⟩

end Step
end Controller

section Trees
variable [Re] {command : Command} {token : Token} {n : Nat}

def KeptOr (successor old new : Token) : Prop := new = old ∨ new = successor

theorem Controller.acceptedSettles {w : World} {kids : ChildInterface (Tree n)} {c : Controller (Tree n)} (request : Request)
    (handsOver : command.HandsOver) (announces : ∀ i, w.broadcast (.childStart i) = none)
    (settles : ∀ i child r, c.childrenNodes[i]? = some child →
      (kids.propagateCommand i child command none request.token).1 = .ok r → r.accepts = true →
      ∀ a ∈ Tree.actors (kids.propagateCommand i child command none request.token).2, a = command.successor request.token)
    {r : Response} (replied : (handle w kids command request c).result = .ok r) (accepts : r.accepts = true) :
    ∀ a ∈ (handle w kids command request c).state.actors, a = command.successor request.token := by
  obtain ⟨all,final⟩ := handsOverAccepted handsOver replied accepts
  rw [final]
  intro a mem
  rcases List.mem_cons.mp mem with rfl | below
  · rfl
  · obtain ⟨child,inside,here⟩ := List.mem_flatMap.mp below
    rw [childrenAfterEach] at inside
    obtain ⟨i,bound,rfl⟩ := List.mem_mapIdx.mp inside
    have found := List.getElem?_eq_getElem bound
    obtain ⟨reply,told,accepted⟩ := childAccepts all found (announces i)
    rw [childAfterStarted (announces i)] at here
    exact settles i _ reply found told accepted a here

theorem Tree.acceptedSettles {env : Surrounded} (handsOver : command.HandsOver) (announces : env.Announces) {i : Nat}
    {child : Tree n} {r : Response}
    (replied : ((Tree.interface n env).propagateCommand i child command none token).1 = .ok r) (accepts : r.accepts = true) :
    ∀ a ∈ Tree.actors ((Tree.interface n env).propagateCommand i child command none token).2, a = command.successor token := by
  induction n generalizing env i r with
  | zero => exact child.elim
  | succ n ih =>
    cases child with
    | clientSide child => exact fun a mem => absurd mem List.not_mem_nil
    | restApi child => exact fun a mem => absurd mem List.not_mem_nil
    | grpc label controller =>
      obtain ⟨_,answered,same⟩ := ChildNode.sendCommandOk replied
      have settled := Controller.acceptedSettles ⟨token,none⟩ handsOver (announces [i])
        (fun j below reply _ => ih (fun path => announces (i :: path))) answered accepts
      change ∀ a ∈ Controller.actors (ChildNode.sendCommand (env [i]).link controller _).2, _
      rw [same]
      exact settled

theorem Controller.keepsOrHandsOver (w : World) {kids : ChildInterface (Tree n)} (request : Request) (c : Controller (Tree n))
    (handsOver : command.HandsOver)
    (keeps : ∀ i child, List.Forall₂ (KeptOr (command.successor request.token)) (Tree.actors child)
      (Tree.actors (kids.propagateCommand i child command none request.token).2)) :
    List.Forall₂ (KeptOr (command.successor request.token)) c.actors (handle w kids command request c).state.actors := by
  have same : ∀ child : Tree n, List.Forall₂ (KeptOr (command.successor request.token)) child.actors child.actors :=
    fun _ => List.forall₂_same.mpr fun _ _ => .inl rfl
  have all : List.Forall₂ (fun before after => List.Forall₂ (KeptOr (command.successor request.token))
      (Tree.actors before) (Tree.actors after)) c.childrenNodes
      (childrenAfter w kids command none request.token c.childrenNodes) := by
    rw [childrenAfterEach]
    refine (forall₂MapIdx fun i child _ => ?_).flip
    unfold flip childAfter
    split
    · exact same child
    · exact keeps i child
  rcases handsOverState w kids handsOver request c with final | final | final
  · rw [final]
    exact List.forall₂_same.mpr fun _ _ => .inl rfl
  · rw [final]
    exact .cons (.inr rfl) (List.forall₂_same.mpr fun _ _ => .inl rfl)
  · rw [final]
    exact .cons (.inr rfl) (List.rel_flatMap all fun _ _ related => related)

theorem Tree.keepsOrHandsOver {env : Surrounded} (handsOver : command.HandsOver) {i : Nat} (child : Tree n) :
    List.Forall₂ (KeptOr (command.successor token)) (Tree.actors child)
      (Tree.actors ((Tree.interface n env).propagateCommand i child command none token).2) := by
  induction n generalizing env i with
  | zero => exact child.elim
  | succ n ih =>
    cases child with
    | clientSide child => exact .nil
    | restApi child => exact .nil
    | grpc label controller =>
      have handled := Controller.keepsOrHandsOver (env [i]).world ⟨token,none⟩ controller handsOver
        fun j below => @ih (env.below i) j below
      change List.Forall₂ _ controller.actors (Controller.actors (ChildNode.sendCommand (env [i]).link controller _).2)
      unfold ChildNode.sendCommand
      split
      · exact List.forall₂_same.mpr fun _ _ => .inl rfl
      · exact handled
      · exact handled
      · exact handled

theorem Tree.controlTold {env : Surrounded} (announces : env.Announces) (handsOver : command.HandsOver) (request : Request)
    (root : Controller (Tree n)) :
    (∀ r, (Tree.handle env command request root).result = .ok r → r.flag = .executedSuccessfully →
      ∀ a ∈ (Tree.handle env command request root).state.actors, a = command.successor request.token) ∧
    List.Forall₂ (KeptOr (command.successor request.token)) root.actors
      (Tree.handle env command request root).state.actors ∧
    (command = .surrenderControl → request.token ≠ root.actor → (Tree.handle env command request root).state = root ∧
      ∀ r, (Tree.handle env command request root).result = .ok r → r.flag ≠ .executedSuccessfully) := by
  refine ⟨fun r replied flag => ?_,?_,?_⟩
  · have accepts : r.accepts = true := by simp [Response.accepts,flag]
    exact Controller.acceptedSettles request handsOver (announces [])
      (fun i child reply _ => Tree.acceptedSettles handsOver announces) replied accepts
  · exact Controller.keepsOrHandsOver (env []).world request root handsOver fun i child => Tree.keepsOrHandsOver handsOver child
  · rintro rfl foreign
    have declined : Controller.admitted .surrenderControl request root = false := by
      rw [← Bool.not_eq_true,Controller.admittedHeld rfl]
      exact foreign
    refine ⟨?_,fun r replied => ?_⟩
    · unfold Tree.handle
      cases published : (env []).world.broadcast .ack with
      | some e => rw [Controller.handleUnacknowledged published]
      | none => rw [Controller.handleDeclined published declined]
    · rw [Controller.declinedAnswer declined replied]
      simp [Controller.notInControl,Controller.respond]

end Trees

namespace Sample

def stranger : Token := ⟨"stranger-token","stranger"⟩

def cutOff : Surrounded := fun path => ⟨calm,if path = [0] then .unreachable else .up,willing⟩

def hushed : Surrounded := fun _ =>
  ⟨{ calm with broadcast := fun site => if site = .childStart 0 then some .serverUnreachable else none },.up,willing⟩

def flagOf (result : Except Exn Response) : Option ResponseFlag := result.toOption.map Response.flag

end Sample

open Sample in
theorem controlNotTold :
    (flagOf (Tree.handle cutOff .takeControl ⟨stranger,none⟩ deepRoot).result = some .failed ∧
      (Tree.handle cutOff .takeControl ⟨stranger,none⟩ deepRoot).state.actors = [stranger,user]) ∧
    (flagOf (Tree.handle hushed .takeControl ⟨stranger,none⟩ deepRoot).result = some .executedSuccessfully ∧
      (Tree.handle hushed .takeControl ⟨stranger,none⟩ deepRoot).state.actors = [stranger,user]) ∧
    (flagOf (Tree.handle peaceful .surrenderControl ⟨user,none⟩ deepRoot).result = some .failed ∧
      (Tree.handle peaceful .surrenderControl ⟨user,none⟩ deepRoot).state.actors = [Token.unset,user]) :=
  ⟨⟨by decide,by decide⟩,⟨by decide,by decide⟩,⟨by decide,by decide⟩⟩

open Sample in
theorem strangerTakesControl :
    (∀ r, (Tree.handle peaceful .takeControl ⟨stranger,none⟩ deepRoot).result = .ok r → r.flag = .executedSuccessfully →
      ∀ a ∈ (Tree.handle peaceful .takeControl ⟨stranger,none⟩ deepRoot).state.actors, a = stranger) ∧
    List.Forall₂ (KeptOr stranger) deepRoot.actors (Tree.handle peaceful .takeControl ⟨stranger,none⟩ deepRoot).state.actors ∧
    (Command.takeControl = .surrenderControl → stranger ≠ deepRoot.actor →
      (Tree.handle peaceful .takeControl ⟨stranger,none⟩ deepRoot).state = deepRoot ∧
      ∀ r, (Tree.handle peaceful .takeControl ⟨stranger,none⟩ deepRoot).result = .ok r → r.flag ≠ .executedSuccessfully) :=
  Tree.controlTold (fun _ _ => rfl) (.inl rfl) ⟨stranger,none⟩ deepRoot

open Sample in
example : flagOf (Tree.handle peaceful .takeControl ⟨stranger,none⟩ deepRoot).result = some .executedSuccessfully := by
  decide

end Drunc
