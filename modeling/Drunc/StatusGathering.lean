import Drunc.Coverage

/-! The status of a controller, gathered from its children. Each child is queried in turn
with nothing around the call, so the first one that raises or that gives no response takes
the answer away from all of them. A controller that has failed in this way has still
answered, with its exception, and that answer is an entry for the controller above: what
decides is who answers at all, one level down. -/
namespace Drunc
open Library (boundOk boundError)
open Library.Act

def StatefulNode.Readable (n : StatefulNode) : Prop := n.operationalState = none → n.operationalSubState = none

namespace Controller
section Gathering
variable {κ : Type} {w : World} {kids : ChildInterface κ} {token : Token} {request : Request} {c : Controller κ}

theorem readableIff {n : StatefulNode} : (∃ s, getStatusMessage n = .ok s) ↔ n.Readable := by
  unfold getStatusMessage StatefulNode.Readable
  cases state : n.operationalState with
  | some state => split <;> simp
  | none =>
    cases subState : n.operationalSubState <;> simp

theorem childStatusesOk {children : List (Nat × κ)} {responses : List Response} :
    childStatuses kids token children = .ok responses ↔
      List.Forall₂ (fun x r => kids.getStatus x.1 x.2 token = .ok (some r)) children responses := by
  induction children generalizing responses with
  | nil =>
    rw [childStatuses,List.forall₂_nil_left_iff]
    exact ⟨fun same => (Except.ok.inj same).symm,fun same => by rw [same]⟩
  | cons x rest ih =>
    obtain ⟨i,child⟩ := x
    rw [childStatuses,boundOk,List.forall₂_cons_left_iff]
    constructor
    · rintro ⟨answer,queried,gathered⟩
      obtain ⟨others,below,built⟩ := boundOk.mp gathered
      cases answer with
      | none => contradiction
      | some r => exact ⟨r,others,queried,ih.mp below,(Except.ok.inj built).symm⟩
    · rintro ⟨r,others,queried,below,rfl⟩
      exact ⟨some r,queried,boundOk.mpr ⟨others,ih.mpr below,rfl⟩⟩

theorem forall₂Exists {α β : Type} {R : α → β → Prop} {xs : List α} :
    (∃ ys, List.Forall₂ R xs ys) ↔ ∀ x ∈ xs, ∃ y, R x y := by
  induction xs with
  | nil => simp
  | cons x rest ih =>
    rw [List.forall_mem_cons,← ih]
    constructor
    · rintro ⟨ys,related⟩
      obtain ⟨y,others,first,below,_⟩ := List.forall₂_cons_left_iff.mp related
      exact ⟨⟨y,first⟩,others,below⟩
    · rintro ⟨⟨y,first⟩,others,below⟩
      exact ⟨y :: others,.cons first below⟩

def queried (c : Controller κ) : List (Nat × κ) := c.childrenNodes.mapIdx fun i child => (i,child)

theorem memQueried {i : Nat} {child : κ} : (i,child) ∈ c.queried ↔ c.childrenNodes[i]? = some child := by
  unfold queried
  rw [List.mem_mapIdx,List.getElem?_eq_some_iff]
  constructor
  · rintro ⟨j,bound,same⟩
    obtain ⟨rfl,rfl⟩ := Prod.mk.inj same
    exact ⟨bound,rfl⟩
  · rintro ⟨bound,rfl⟩
    exact ⟨i,bound,rfl⟩

def Gathers (kids : ChildInterface κ) (token : Token) (c : Controller κ) : Prop :=
  c.statefulNode.Readable ∧
    ∀ i child, c.childrenNodes[i]? = some child → ∃ reply, kids.getStatus i child token = .ok (some reply)

structure Gathered (kids : ChildInterface κ) (token : Token) (c : Controller κ) (r : Response) : Prop where
  flag : r.flag = .executedSuccessfully
  own : ∃ s, getStatusMessage c.statefulNode = .ok s ∧ r.data = some (.status s)
  each : r.children.length = c.childrenNodes.length
  entries : ∀ i child reply, c.childrenNodes[i]? = some child → kids.getStatus i child token = .ok (some reply) →
    r.children[i]? = some reply

theorem statusOk {r : Response} : (status kids token c).result = .ok r ↔
    ∃ s responses, getStatusMessage c.statefulNode = .ok s ∧
      List.Forall₂ (fun x reply => kids.getStatus x.1 x.2 token = .ok (some reply)) c.queried responses ∧
      r = c.respond (some token) (.status s) .executedSuccessfully responses := by
  simp only [← childStatusesOk]
  unfold status
  rw [readBind]
  cases message : getStatusMessage c.statefulNode with
  | error e => simp [bindError]
  | ok s =>
    rw [liftOkBind]
    change ((lift (childStatuses kids token c.queried) >>= _) c).result = _ ↔ _
    cases gathered : childStatuses kids token c.queried with
    | error e => simp [bindError]
    | ok responses =>
      rw [liftOkBind]
      simp [eq_comm]

theorem statusReturns : (∃ r, (status kids token c).result = .ok r) ↔ Gathers kids token c := by
  have answers : (∃ responses, List.Forall₂ (fun x reply => kids.getStatus x.1 x.2 token = .ok (some reply)) c.queried responses) ↔
      ∀ i child, c.childrenNodes[i]? = some child → ∃ reply, kids.getStatus i child token = .ok (some reply) := by
    rw [forall₂Exists,Prod.forall]
    exact forall_congr' fun i => forall_congr' fun child => by rw [memQueried]
  rw [Gathers,← readableIff,← answers]
  simp only [statusOk]
  constructor
  · rintro ⟨r,s,responses,message,gathered,_⟩
    exact ⟨⟨s,message⟩,responses,gathered⟩
  · rintro ⟨⟨s,message⟩,responses,gathered⟩
    exact ⟨_,s,responses,message,gathered,rfl⟩

theorem statusGathered {r : Response} (replied : (status kids token c).result = .ok r) : Gathered kids token c r := by
  obtain ⟨s,responses,message,gathered,rfl⟩ := statusOk.mp replied
  have lengths : c.childrenNodes.length = responses.length := by simpa [queried] using gathered.length_eq
  refine ⟨rfl,⟨s,message,rfl⟩,lengths.symm,fun i child reply found answered => ?_⟩
  obtain ⟨bound,rfl⟩ := List.getElem?_eq_some_iff.mp found
  have here := gathered.get (by simpa [queried] using bound) (lengths ▸ bound)
  simp only [queried,List.get_eq_getElem,List.getElem_mapIdx,answered] at here
  exact List.getElem?_eq_some_iff.mpr ⟨lengths ▸ bound,(Option.some.inj (Except.ok.inj here)).symm⟩

variable [Re]

theorem statusHandled (published : w.broadcast .ack = none) :
    (handle w kids .status request c).result = answered c.servicer w request (status kids request.token c).result := by
  rw [handleAdmitted published rfl]
  rfl

theorem gatheredIff : (∃ r, (handle w kids .status request c).result = .ok r ∧ Gathered kids request.token c r) ↔
    w.broadcast .ack = none ∧ w.broadcast .success = none ∧ Gathers kids request.token c := by
  cases published : w.broadcast .ack with
  | some e =>
    rw [handleUnacknowledged published]
    simp
  | none =>
    rw [statusHandled published,← statusReturns]
    constructor
    · rintro ⟨r,replied,gathered⟩
      rcases answeredOk replied with ⟨e,_,rfl⟩ | ⟨returned,announced⟩
      · have raised : exceptionFlag e = .executedSuccessfully := gathered.flag
        unfold exceptionFlag at raised
        split at raised <;> contradiction
      · exact ⟨rfl,announced,r,returned⟩
    · rintro ⟨_,announced,r,returned⟩
      exact ⟨r,by rw [returned,Drunc.answered,announced],statusGathered returned⟩

theorem answersIff : (∃ r, (handle w kids .status request c).result = .ok r) ↔
    w.broadcast .ack = none ∧ (w.broadcast .success = none ∨ ¬ Gathers kids request.token c) := by
  cases published : w.broadcast .ack with
  | some e =>
    rw [handleUnacknowledged published]
    simp
  | none =>
    rw [statusHandled published,← statusReturns]
    cases (status kids request.token c).result with
    | error e => simp [answered]
    | ok r => cases announced : w.broadcast .success <;> simp [answered,announced]

end Gathering
end Controller

def Tree.AnswersStatus : {n : Nat} → Surrounded → Tree n → Prop
  | 0, _, child => child.elim
  | _+1, _, .clientSide child => child.state.errored = true
  | _+1, _, .restApi _ => True
  | _+1, env, .grpc _ controller =>
      (env []).link = .up ∧ (env []).world.broadcast .ack = none ∧
      ((env []).world.broadcast .success = none ∨ ¬ (controller.statefulNode.Readable ∧
        ∀ i child, controller.childrenNodes[i]? = some child → Tree.AnswersStatus (env.below i) child))

section Tree
variable [Re]

theorem ChildNode.grpcAnswers {κ : Type} {s : Surroundings} {below : ChildInterface κ} {token : Token} (name : String)
    {controller : Controller κ} : (∃ r, ChildNode.getStatus s below token (.grpc name controller) = .ok (some r)) ↔
      s.link = .up ∧ ∃ r, (Controller.handle s.world below .status ⟨token,none⟩ controller).result = .ok r := by
  unfold ChildNode.getStatus sendCommand
  cases s.link with
  | unreachable => simp
  | replyLost => simp
  | up =>
    cases result : (Controller.handle s.world below .status ⟨token,none⟩ controller).result <;> simp [result]

theorem Tree.answersStatus {n : Nat} {env : Surrounded} {i : Nat} {child : Tree n} {token : Token} :
    (∃ r, (Tree.interface n env).getStatus i child token = .ok (some r)) ↔ child.AnswersStatus (env.below i) := by
  induction n generalizing env i with
  | zero => exact child.elim
  | succ n ih =>
    cases child with
    | clientSide child =>
      change (∃ r, (child.getStatus none).map some = .ok (some r)) ↔ child.state.errored = true
      unfold ClientSideChild.getStatus
      cases child.state.errored <;> simp [bind,Except.bind,Except.map]
    | restApi child =>
      change (∃ r, (child.getStatus (some (env [i]).application)).map some = .ok (some r)) ↔ True
      unfold ClientSideChild.getStatus
      cases child.state.errored <;> simp [bind,Except.bind,Except.map]
    | grpc name controller =>
      refine (ChildNode.grpcAnswers name).trans (and_congr_right' (Controller.answersIff.trans ?_))
      refine and_congr_right' (or_congr_right (not_congr (and_congr_right' ?_)))
      exact forall_congr' fun j => forall_congr' fun child => imp_congr_right fun _ => ih

theorem Tree.statusAvailableIff {n : Nat} (env : Surrounded) (request : Request) (root : Controller (Tree n)) :
    (∃ r, (Tree.handle env .status request root).result = .ok r ∧
      Controller.Gathered (Tree.interface n env) request.token root r) ↔
    (env []).world.broadcast .ack = none ∧ (env []).world.broadcast .success = none ∧ root.statefulNode.Readable ∧
      ∀ i child, root.childrenNodes[i]? = some child → Tree.AnswersStatus (env.below i) child := by
  refine Controller.gatheredIff.trans (and_congr_right' (and_congr_right' (and_congr_right' ?_)))
  exact forall_congr' fun i => forall_congr' fun child => imp_congr_right fun _ => Tree.answersStatus

end Tree

namespace Sample

def subDied : Surrounded := fun path => ⟨calm,if path = [0] then .unreachable else .up,willing⟩

end Sample

open Sample in
theorem subTakesStatusAway :
    (¬ ∃ r, (Tree.handle subDied .status ⟨user,none⟩ deepRoot).result = .ok r ∧
      Controller.Gathered (Tree.interface 2 subDied) user deepRoot r) ∧
    ∃ r, (Tree.handle subDied .describe ⟨user,none⟩ deepRoot).result = .ok r ∧ r.flag = .executedSuccessfully ∧
      r.children.map (fun child => child.name) = ["sub"] := by
  refine ⟨fun ⟨r,replied,gathered⟩ => ?_,_,rfl,rfl,rfl⟩
  have raised : (Tree.handle subDied .status ⟨user,none⟩ deepRoot).result.map (fun r => r.flag) =
      .ok .druncExceptionThrown := rfl
  rw [replied] at raised
  exact absurd (gathered.flag.symm.trans (Except.ok.inj raised)) (by decide)

end Drunc
