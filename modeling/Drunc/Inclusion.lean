import Drunc.Handover

/-! Including and excluding a whole tree. A controller asks its children first and looks at
its own flag afterwards: a node that is already in the asked condition answers with an
error, but what is below it has changed. `put` is the tree with all its flags set, and
`Heard` what brings a tree there: no publication on the way to a node that is not there
yet may raise. `Unmoved` says when a tree that is asked keeps all its flags. -/
namespace Drunc
open Library (firstCut)
open Library.Act

def Command.including (flag : Bool) : Command := if flag then .include else .exclude

namespace StatefulNode

def flagged (n : StatefulNode) (flag : Bool) : StatefulNode := { n with included := flag }

def refusal (n : StatefulNode) (flag : Bool) : Option Exn :=
  if n.included = flag then some (if flag then .cannotInclude else .cannotExclude) else none

def change (w : World) (flag : Bool) : Do StatefulNode Unit := if flag then includeNode w else excludeNode w

theorem changePasses (w : World) (flag : Bool) (n : StatefulNode) :
    Passes (change w flag) n [(n.refusal flag,n),(w.broadcast .inclusionState,n)] () (n.flagged flag) := by
  obtain ⟨fsm,state,subState,included,inError⟩ := n
  cases flag <;> cases included
  · exact ⟨rfl,rfl⟩
  · exact passesRead observePasses
  · exact passesRead observePasses
  · exact ⟨rfl,rfl⟩

end StatefulNode

namespace Controller
variable {κ : Type}

def flagged (c : Controller κ) (flag : Bool) : Controller κ := { c with statefulNode := c.statefulNode.flagged flag }

def asked (w : World) (kids : ChildInterface κ) (command : Command) (token : Token) (c : Controller κ) : Controller κ :=
  { c with childrenNodes := childrenAfter w kids command none token c.childrenNodes }

section Self
variable {w : World} {kids : ChildInterface κ} {flag : Bool} {request : Request} {c : Controller κ}

theorem inclusionPasses (w : World) (kids : ChildInterface κ) (flag : Bool) (changed : String) (token : Token)
    (c : Controller κ) :
    ∃ r, r.flag = .executedSuccessfully ∧
      Passes (changeInclusion w kids (.including flag) (StatefulNode.change w flag) changed token) c
        [(w.broadcast .propagation,c),(c.statefulNode.refusal flag,c.asked w kids (.including flag) token),
          (w.broadcast .inclusionState,c.asked w kids (.including flag) token)]
        r ((c.asked w kids (.including flag) token).flagged flag) := by
  refine ⟨c.respond (some token) (.plainText (c.name ++ " and children " ++ changed)) .executedSuccessfully
    (collected w kids (.including flag) none token c.childrenNodes),rfl,passesRead (passesBind propagateRuns rfl ?_)⟩
  exact passesBind (passesZoom (StatefulNode.changePasses w flag c.statefulNode)) rfl passesPure

variable [Re]

/-- Where an `include` or `exclude` ends that its sender may ask for. -/
inductive Included (w : World) (kids : ChildInterface κ) (flag : Bool) (token : Token) (c : Controller κ) :
    Except Exn Response → Controller κ → Prop
  | unasked {e : Exn} (muted : w.broadcast .propagation = some e) : Included w kids flag token c (.error e) c
  | refused {e : Exn} (told : w.broadcast .propagation = none)
      (kept : c.statefulNode.included = flag ∨ ∃ e, w.broadcast .inclusionState = some e) :
      Included w kids flag token c (.error e) (c.asked w kids (.including flag) token)
  | changed {r : Response} (told : w.broadcast .propagation = none) (other : c.statefulNode.included ≠ flag)
      (published : w.broadcast .inclusionState = none) (flagged : r.flag = .executedSuccessfully) :
      Included w kids flag token c (.ok r) ((c.asked w kids (.including flag) token).flagged flag)

theorem inclusionEnds (w : World) (kids : ChildInterface κ) (flag : Bool) (obj : Servicer) (request : Request)
    (c : Controller κ) :
    Included w kids flag request.token c (unpacked w kids obj (.including flag) request c).result
      (unpacked w kids obj (.including flag) request c).state := by
  have same : ∃ changed, unpacked w kids obj (.including flag) request =
      changeInclusion w kids (.including flag) (StatefulNode.change w flag) changed request.token := by
    cases flag <;> exact ⟨_,rfl⟩
  obtain ⟨changed,same⟩ := same
  obtain ⟨r,good,passes⟩ := inclusionPasses w kids flag changed request.token c
  rw [same]
  cases told : w.broadcast .propagation with
  | some e =>
    obtain ⟨result,state⟩ := passesCut passes (show Library.firstCut _ = some (e,c) by rw [told]; rfl)
    rw [result,state]
    exact .unasked told
  | none =>
    by_cases here : c.statefulNode.included = flag
    · obtain ⟨e,refuses⟩ : ∃ e, c.statefulNode.refusal flag = some e := ⟨_,if_pos here⟩
      obtain ⟨result,state⟩ := passesCut passes
        (show Library.firstCut _ = some (e,c.asked w kids (.including flag) request.token) by rw [told,refuses]; rfl)
      rw [result,state]
      exact .refused told (.inl here)
    · have open' : c.statefulNode.refusal flag = none := if_neg here
      cases published : w.broadcast .inclusionState with
      | some e =>
        obtain ⟨result,state⟩ := passesCut passes
          (show Library.firstCut _ = some (e,c.asked w kids (.including flag) request.token) by
            rw [told,open',published]; rfl)
        rw [result,state]
        exact .refused told (.inr ⟨e,published⟩)
      | none =>
        obtain ⟨result,state⟩ := passesThrough passes (by rw [told,open',published]; rfl)
        rw [result,state]
        exact .changed told here published good

theorem inclusionHandled (w : World) (kids : ChildInterface κ) (flag : Bool) (request : Request) (c : Controller κ) :
    ((∃ e, w.broadcast .ack = some e ∧ (handle w kids (.including flag) request c).result = .error e) ∧
      (handle w kids (.including flag) request c).state = c) ∨
    (w.broadcast .ack = none ∧ request.token ≠ c.actor ∧ (handle w kids (.including flag) request c).state = c ∧
      ∀ r, (handle w kids (.including flag) request c).result = .ok r → r.flag ≠ .executedSuccessfully) ∨
    (w.broadcast .ack = none ∧ request.token = c.actor ∧ ∃ result,
      Included w kids flag request.token c result (handle w kids (.including flag) request c).state ∧
      (handle w kids (.including flag) request c).result = answered c.servicer w request result) := by
  have guards : guarded (.including flag) = true := by cases flag <;> rfl
  cases published : w.broadcast .ack with
  | some e =>
    rw [handleUnacknowledged published]
    exact .inl ⟨⟨e,rfl,rfl⟩,rfl⟩
  | none =>
    cases accepted : admitted (.including flag) request c with
    | false =>
      have foreign : request.token ≠ c.actor := fun same => by
        rw [(admittedHeld guards).mpr same] at accepted
        contradiction
      refine .inr (.inl ⟨rfl,foreign,by rw [handleDeclined published accepted],fun r replied => ?_⟩)
      rw [declinedAnswer accepted replied]
      simp [notInControl,respond]
    | true =>
      have ends := inclusionEnds w kids flag c.servicer request c
      rw [handleAdmitted published accepted]
      exact .inr (.inr ⟨rfl,(admittedHeld guards).mp accepted,_,ends,rfl⟩)

end Self
end Controller

section Lists
variable {α β : Type}

theorem mapIdxMapIff {f : Nat → α → β} {g : α → β} {xs : List α} :
    xs.mapIdx f = xs.map g ↔ ∀ i x, xs[i]? = some x → f i x = g x := by
  constructor
  · intro same i x found
    have at' := congrArg (·[i]?) same
    simpa [found] using at'
  · intro each
    refine List.ext_getElem? fun i => ?_
    rw [List.getElem?_mapIdx,List.getElem?_map]
    cases found : xs[i]? with
    | none => rfl
    | some x => exact congrArg some (each i x found)

theorem mapSelfIff {f : α → α} {xs : List α} : xs = xs.map f ↔ ∀ (i : Nat) (x : α), xs[i]? = some x → f x = x := by
  have same : xs.mapIdx (fun _ x => x) = xs := List.ext_getElem? fun i => by simp
  nth_rewrite 1 [← same]
  rw [mapIdxMapIff]
  exact forall₃_congr fun i x _ => eq_comm

theorem forall₂MapIdxIff {R : α → α → Prop} {f : Nat → α → α} {xs : List α} :
    List.Forall₂ R xs (xs.mapIdx f) ↔ ∀ i x, xs[i]? = some x → R x (f i x) := by
  constructor
  · intro related i x found
    obtain ⟨bound,rfl⟩ := List.getElem?_eq_some_iff.mp found
    simpa using (List.forall₂_iff_get.mp related).2 i bound (by simpa using bound)
  · exact fun each => (forall₂MapIdx each).flip

end Lists

namespace Controller
variable {κ : Type}

def put (settle : κ → κ) (flag : Bool) (c : Controller κ) : Controller κ :=
  { c.flagged flag with childrenNodes := c.childrenNodes.map settle }

def SameInclusion (same : κ → κ → Prop) (a b : Controller κ) : Prop :=
  b.statefulNode.included = a.statefulNode.included ∧ List.Forall₂ same a.childrenNodes b.childrenNodes

section Children
variable {w : World} {kids : ChildInterface κ} {flag : Bool} {token : Token} {c d : Controller κ} {settle : κ → κ}
  {same : κ → κ → Prop}

theorem putIff (shape : ∃ included children, d = { c with
      statefulNode := { c.statefulNode with included := included }, childrenNodes := children }) :
    d = c.put settle flag ↔ d.statefulNode.included = flag ∧ d.childrenNodes = c.childrenNodes.map settle := by
  obtain ⟨included,children,rfl⟩ := shape
  simp [put,flagged,StatefulNode.flagged]

theorem askedIff {hears : Nat → κ → Prop} (settles : ∀ i child, c.childrenNodes[i]? = some child → w.broadcast (.childStart i) = none →
      ((kids.propagateCommand i child (.including flag) none token).2 = settle child ↔ hears i child))
    (rests : ∀ i child, settle child = child → hears i child) :
    (c.asked w kids (.including flag) token).childrenNodes = c.childrenNodes.map settle ↔
      ∀ i child, c.childrenNodes[i]? = some child →
        settle child = child ∨ (w.broadcast (.childStart i) = none ∧ hears i child) := by
  rw [asked,childrenAfterEach,mapIdxMapIff]
  refine forall₃_congr fun i child found => ?_
  cases started : w.broadcast (.childStart i) with
  | some e => simp [childAfter,started,eq_comm]
  | none =>
    rw [childAfterStarted started,settles i child found started]
    constructor
    · exact fun heard => .inr ⟨rfl,heard⟩
    · rintro (already | ⟨_,heard⟩)
      · exact rests i child already
      · exact heard

theorem askedSameIff {unmoved : Nat → κ → Prop} (refl : ∀ child, same child child)
    (moves : ∀ i child, c.childrenNodes[i]? = some child → w.broadcast (.childStart i) = none →
      (same child (kids.propagateCommand i child (.including flag) none token).2 ↔ unmoved i child)) :
    List.Forall₂ same c.childrenNodes (c.asked w kids (.including flag) token).childrenNodes ↔
      ∀ i child, c.childrenNodes[i]? = some child → w.broadcast (.childStart i) = none → unmoved i child := by
  rw [asked,childrenAfterEach,forall₂MapIdxIff]
  refine forall₃_congr fun i child found => ?_
  cases started : w.broadcast (.childStart i) with
  | some e => simp [childAfter,started,refl child]
  | none =>
    rw [childAfterStarted started,moves i child found started]
    simp

variable [Re]

theorem putsIff (w : World) (kids : ChildInterface κ) (flag : Bool) (request : Request) (c : Controller κ)
    (hears : Nat → κ → Prop) (acknowledged : w.broadcast .ack = none) (held : request.token = c.actor)
    (settles : ∀ i child, c.childrenNodes[i]? = some child → w.broadcast .propagation = none →
      w.broadcast (.childStart i) = none →
      ((kids.propagateCommand i child (.including flag) none request.token).2 = settle child ↔ hears i child))
    (rests : ∀ i child, settle child = child → hears i child) :
    (handle w kids (.including flag) request c).state = c.put settle flag ↔
      (c.statefulNode.included = flag ∨ (w.broadcast .propagation = none ∧ w.broadcast .inclusionState = none)) ∧
      ∀ i child, c.childrenNodes[i]? = some child → settle child = child ∨
        (w.broadcast .propagation = none ∧ w.broadcast (.childStart i) = none ∧ hears i child) := by
  rcases inclusionHandled w kids flag request c with ⟨⟨e,muted,_⟩,_⟩ | ⟨_,foreign,_⟩ | ⟨_,_,result,ends,_⟩
  · exact nomatch muted.symm.trans acknowledged
  · exact absurd held foreign
  · generalize (handle w kids (.including flag) request c).state = after at ends
    cases ends with
    | unasked muted =>
      rw [putIff ⟨c.statefulNode.included,c.childrenNodes,rfl⟩,mapSelfIff]
      simp only [muted,reduceCtorEq,false_and,or_false]
    | refused told kept =>
      refine (putIff (c := c) (d := c.asked w kids (.including flag) request.token)
        ⟨c.statefulNode.included,_,rfl⟩).trans ?_
      rw [askedIff (fun i child found => settles i child found told) rests]
      simp only [told,true_and]
      refine and_congr_left fun _ => (or_iff_left_of_imp fun published => ?_).symm
      rcases kept with here | ⟨e,raises⟩
      · exact here
      · exact nomatch raises.symm.trans published
    | changed told other published flagged =>
      refine (putIff (c := c) (d := (c.asked w kids (.including flag) request.token).flagged flag) ⟨flag,_,rfl⟩).trans ?_
      change (flag = flag ∧ (c.asked w kids (.including flag) request.token).childrenNodes = _) ↔ _
      rw [askedIff (fun i child found => settles i child found told) rests]
      simp [told,published]

theorem sameInclusionIff (w : World) (kids : ChildInterface κ) (flag : Bool) (request : Request) (c : Controller κ)
    (unmoved : Nat → κ → Prop) (refl : ∀ child, same child child)
    (moves : ∀ i child, c.childrenNodes[i]? = some child → w.broadcast .propagation = none →
      w.broadcast (.childStart i) = none →
      (same child (kids.propagateCommand i child (.including flag) none request.token).2 ↔ unmoved i child)) :
    SameInclusion same c (handle w kids (.including flag) request c).state ↔
      (w.broadcast .ack = none → request.token = c.actor → w.broadcast .propagation = none →
        (c.statefulNode.included = flag ∨ ∃ e, w.broadcast .inclusionState = some e) ∧
        ∀ i child, c.childrenNodes[i]? = some child → w.broadcast (.childStart i) = none → unmoved i child) := by
  have still : SameInclusion same c c := ⟨rfl,List.forall₂_same.mpr fun child _ => refl child⟩
  rcases inclusionHandled w kids flag request c with ⟨⟨e,muted,_⟩,state⟩ | ⟨acknowledged,foreign,state,_⟩ |
    ⟨acknowledged,held,result,ends,_⟩
  · rw [state]
    exact iff_of_true still fun published => nomatch muted.symm.trans published
  · rw [state]
    exact iff_of_true still fun _ held => absurd held foreign
  · simp only [acknowledged,held,forall_const]
    generalize (handle w kids (.including flag) request c).state = after at ends
    cases ends with
    | unasked muted => exact iff_of_true still fun told => nomatch muted.symm.trans told
    | refused told kept =>
      simp only [told,kept,forall_const,true_and]
      rw [SameInclusion,askedSameIff refl fun i child found => moves i child found told]
      simp [asked]
    | changed told other published flagged =>
      refine iff_of_false (fun same => other same.1.symm) fun all => ?_
      rcases (all told).1 with here | ⟨e,raises⟩
      · exact other here
      · exact nomatch raises.symm.trans published

end Children
end Controller
namespace ClientSideChild

def flagged (child : ClientSideChild) (flag : Bool) : ClientSideChild :=
  { child with state := { child.state with included := flag } }

theorem propagateInclusion {execute : FSMCommand → Token → Do ClientSideChild Response} {data : Option Payload} {token : Token}
    (child : ClientSideChild) (flag : Bool) :
    (propagateCommand execute (.including flag) data token child).state = child.flagged flag := by
  cases flag <;> rfl

end ClientSideChild

def Tree.put (flag : Bool) : {n : Nat} → Tree n → Tree n
  | 0, child => child
  | _+1, .clientSide child => .clientSide (child.flagged flag)
  | _+1, .restApi child => .restApi (child.flagged flag)
  | _+1, .grpc name controller => .grpc name (controller.put (Tree.put flag) flag)

def Tree.SameInclusion : {n : Nat} → Tree n → Tree n → Prop
  | 0, _, _ => True
  | _+1, .clientSide a, .clientSide b => b.state.included = a.state.included
  | _+1, .restApi a, .restApi b => b.state.included = a.state.included
  | _+1, .grpc _ a, .grpc _ b => Controller.SameInclusion Tree.SameInclusion a b
  | _+1, _, _ => False

section Trees
variable [Re]

def Tree.Answered (command : Command) (token : Token) : {n : Nat} → Surrounded → Nat → Tree n → Prop
  | 0, _, _, _ => True
  | _+1, _, _, .clientSide _ => True
  | _+1, _, _, .restApi _ => True
  | n+1, env, index, .grpc name controller =>
      (∃ r, ((Tree.interface (n+1) env).propagateCommand index (.grpc name controller) command none token).1 = .ok r) ∧
      ((env [index]).world.broadcast .propagation = none → ∀ i child, controller.childrenNodes[i]? = some child →
        (env [index]).world.broadcast (.childStart i) = none → Tree.Answered command token (env.below index) i child)

end Trees

def Tree.Heard (flag : Bool) : {n : Nat} → Surrounded → Nat → Tree n → Prop
  | 0, _, _, _ => True
  | _+1, _, _, .clientSide _ => True
  | _+1, _, _, .restApi _ => True
  | _+1, env, index, .grpc _ controller =>
      (controller.statefulNode.included = flag ∨ ((env [index]).world.broadcast .propagation = none ∧
        (env [index]).world.broadcast .inclusionState = none)) ∧
      ∀ i child, controller.childrenNodes[i]? = some child → Tree.put flag child = child ∨
        ((env [index]).world.broadcast .propagation = none ∧ (env [index]).world.broadcast (.childStart i) = none ∧
          Tree.Heard flag (env.below index) i child)

def Tree.Unmoved (flag : Bool) (token : Token) : {n : Nat} → Surrounded → Nat → Tree n → Prop
  | 0, _, _, _ => True
  | _+1, _, _, .clientSide child => child.state.included = flag
  | _+1, _, _, .restApi child => child.state.included = flag
  | _+1, env, index, .grpc _ controller => (env [index]).link = .unreachable ∨
      ((env [index]).world.broadcast .ack = none → token = controller.actor →
        (env [index]).world.broadcast .propagation = none →
        (controller.statefulNode.included = flag ∨ ∃ e, (env [index]).world.broadcast .inclusionState = some e) ∧
        ∀ i child, controller.childrenNodes[i]? = some child → (env [index]).world.broadcast (.childStart i) = none →
          Tree.Unmoved flag token (env.below index) i child)

section Trees
variable {n : Nat} {flag : Bool} {token : Token} {env : Surrounded} {i : Nat} {child : Tree n}

theorem Tree.sameRefl (child : Tree n) : Tree.SameInclusion child child := by
  induction n with
  | zero => trivial
  | succ n ih =>
    cases child with
    | clientSide child => exact rfl
    | restApi child => exact rfl
    | grpc name controller => exact ⟨rfl,List.forall₂_same.mpr fun child _ => ih child⟩

theorem Tree.putHeard (already : Tree.put flag child = child) : Tree.Heard flag env i child := by
  cases n with
  | zero => trivial
  | succ n =>
    cases child with
    | clientSide child => trivial
    | restApi child => trivial
    | grpc name controller =>
      have settled : controller.put (Tree.put flag) flag = controller := (ChildNode.grpc.inj already).2
      obtain ⟨here,below⟩ := (Controller.putIff ⟨_,_,rfl⟩).mp settled.symm
      exact ⟨.inl here,fun j child found => .inl (mapSelfIff.mp below j child found)⟩

variable [Re]

theorem Tree.putsIff (answers : Tree.Answered (.including flag) token env i child) (held : ∀ a ∈ Tree.actors child, a = token) :
    ((Tree.interface n env).propagateCommand i child (.including flag) none token).2 = Tree.put flag child ↔
      Tree.Heard flag env i child := by
  induction n generalizing env i with
  | zero => exact child.elim
  | succ n ih =>
    cases child with
    | clientSide child =>
      exact iff_of_true (congrArg ChildNode.clientSide (ClientSideChild.propagateInclusion child flag)) trivial
    | restApi child =>
      exact iff_of_true (congrArg ChildNode.restApi (ClientSideChild.propagateInclusion child flag)) trivial
    | grpc name controller =>
      obtain ⟨⟨r,answered⟩,below⟩ := answers
      obtain ⟨_,replied,same⟩ := ChildNode.sendCommandOk answered
      obtain ⟨own,others⟩ := List.forall_mem_cons.mp held
      have acknowledged : (env [i]).world.broadcast .ack = none := by
        rcases Controller.inclusionHandled (env [i]).world (Tree.interface n (env.below i)) flag ⟨token,none⟩ controller with
          ⟨⟨e,_,raised⟩,_⟩ | ⟨acknowledged,_⟩ | ⟨acknowledged,_⟩
        · exact nomatch raised.symm.trans replied
        · exact acknowledged
        · exact acknowledged
      change ChildNode.grpc name (ChildNode.sendCommand (env [i]).link controller _).2 = _ ↔ _
      rw [same,Tree.put,ChildNode.grpc.injEq,and_iff_right rfl]
      exact Controller.putsIff (env [i]).world (Tree.interface n (env.below i)) flag ⟨token,none⟩ controller
        (fun j below => Tree.Heard flag (env.below i) j below) acknowledged own.symm
        (fun j child found told started => ih (below told j child found started) fun a mem =>
          others a (List.mem_flatMap.mpr ⟨child,List.mem_of_getElem? found,mem⟩))
        (fun j child => Tree.putHeard)

theorem Tree.sameInclusionIff :
    Tree.SameInclusion child ((Tree.interface n env).propagateCommand i child (.including flag) none token).2 ↔
      Tree.Unmoved flag token env i child := by
  induction n generalizing env i with
  | zero => exact child.elim
  | succ n ih =>
    cases child with
    | clientSide child =>
      change (ClientSideChild.propagateCommand _ _ none token child).state.state.included = child.state.included ↔ _
      rw [ClientSideChild.propagateInclusion]
      exact eq_comm
    | restApi child =>
      change (ClientSideChild.propagateCommand _ _ none token child).state.state.included = child.state.included ↔ _
      rw [ClientSideChild.propagateInclusion]
      exact eq_comm
    | grpc name controller =>
      have handled := Controller.sameInclusionIff (env [i]).world (Tree.interface n (env.below i)) flag ⟨token,none⟩
        controller (fun j below => Tree.Unmoved flag token (env.below i) j below) Tree.sameRefl
        fun j child found told started => ih
      change Controller.SameInclusion Tree.SameInclusion controller (ChildNode.sendCommand (env [i]).link controller
        (Controller.handle (env [i]).world (Tree.interface n (env.below i)) (.including flag) ⟨token,none⟩)).2 ↔ _
      rw [Tree.Unmoved,← handled]
      unfold ChildNode.sendCommand
      split
      · rename_i cut
        exact iff_of_true ⟨rfl,List.forall₂_same.mpr fun child _ => Tree.sameRefl child⟩ (.inl cut)
      · rename_i cut
        simp [cut]
      · rename_i up raised
        simp [up]
      · rename_i up replied
        simp [up]

end Trees

namespace Controller
variable {n : Nat} [Re] {flag : Bool} {env : Surrounded} {request : Request} {root : Controller (Tree n)}

def Takes (w : World) (flag : Bool) (root : Controller (Tree n)) : Prop :=
  w.broadcast .ack = none ∧ w.broadcast .propagation = none ∧ root.statefulNode.included ≠ flag ∧
    w.broadcast .inclusionState = none ∧ w.broadcast .success = none

def Answered (env : Surrounded) (command : Command) (token : Token) (root : Controller (Tree n)) : Prop :=
  (env []).world.broadcast .propagation = none → ∀ i child, root.childrenNodes[i]? = some child →
    (env []).world.broadcast (.childStart i) = none → Tree.Answered command token env i child

theorem takesIff (held : request.token = root.actor) :
    (∃ r, (Tree.handle env (.including flag) request root).result = .ok r ∧ r.flag = .executedSuccessfully) ↔
      Takes (env []).world flag root := by
  unfold Tree.handle Takes
  rcases inclusionHandled (env []).world (Tree.interface n env) flag request root with
    ⟨⟨e,muted,raised⟩,_⟩ | ⟨_,foreign,_⟩ | ⟨acknowledged,_,result,ends,replied⟩
  · simp [muted,raised]
  · exact absurd held foreign
  · rw [replied]
    generalize (handle (env []).world (Tree.interface n env) (.including flag) request root).state = after at ends
    cases ends with
    | unasked muted => simp [muted,answered,exceptionResponse,exceptionFlagBad]
    | refused _ kept =>
      rcases kept with here | ⟨e,raises⟩
      · simp [here,answered,exceptionResponse,exceptionFlagBad]
      · simp [raises,answered,exceptionResponse,exceptionFlagBad]
    | changed told other published good =>
      cases announced : (env []).world.broadcast .success <;> simp [answered,announced,acknowledged,told,other,published,good]

theorem settlesTreeIff (held : ∀ a ∈ root.actors, a = request.token)
    (answers : root.Answered env (.including flag) request.token) :
    (∀ r, (Tree.handle env (.including flag) request root).result = .ok r → r.flag = .executedSuccessfully →
      (Tree.handle env (.including flag) request root).state = root.put (Tree.put flag) flag) ↔
    (Takes (env []).world flag root → ∀ i child, root.childrenNodes[i]? = some child →
      Tree.put flag child = child ∨ ((env []).world.broadcast (.childStart i) = none ∧ Tree.Heard flag env i child)) := by
  obtain ⟨own,others⟩ := List.forall_mem_cons.mp held
  have puts := fun acknowledged => putsIff (env []).world (Tree.interface n env) flag request root
    (fun j below => Tree.Heard flag env j below) acknowledged own.symm
    (fun j child found told started => Tree.putsIff (answers told j child found started) fun a mem =>
      others a (List.mem_flatMap.mpr ⟨child,List.mem_of_getElem? found,mem⟩))
    (fun j child => Tree.putHeard)
  constructor
  · intro settles takes i child found
    obtain ⟨r,replied,good⟩ := (takesIff own.symm).mpr takes
    exact (((puts takes.1).mp (settles r replied good)).2 i child found).imp_right And.right
  · intro heard r replied good
    have takes := (takesIff own.symm).mp ⟨r,replied,good⟩
    refine (puts takes.1).mpr ⟨.inr ⟨takes.2.1,takes.2.2.2.1⟩,fun i child found => ?_⟩
    exact (heard takes i child found).imp_right (And.intro takes.2.1)

theorem rejectionHarmlessIff (env : Surrounded) (flag : Bool) (request : Request) (root : Controller (Tree n)) :
    (∀ r, (Tree.handle env (.including flag) request root).result = .ok r → r.flag ≠ .executedSuccessfully →
      SameInclusion Tree.SameInclusion root (Tree.handle env (.including flag) request root).state) ↔
    ((env []).world.broadcast .ack = none → request.token = root.actor → (env []).world.broadcast .propagation = none →
      (root.statefulNode.included = flag ∨ ∃ e, (env []).world.broadcast .inclusionState = some e) →
      ∀ i child, root.childrenNodes[i]? = some child → (env []).world.broadcast (.childStart i) = none →
        Tree.Unmoved flag request.token env i child) := by
  have same := sameInclusionIff (env []).world (Tree.interface n env) flag request root
    (fun j below => Tree.Unmoved flag request.token env j below) Tree.sameRefl
    fun j child found told started => Tree.sameInclusionIff
  change (∀ r, (handle (env []).world (Tree.interface n env) (.including flag) request root).result = .ok r →
    r.flag ≠ .executedSuccessfully → SameInclusion Tree.SameInclusion root
      (handle (env []).world (Tree.interface n env) (.including flag) request root).state) ↔ _
  rw [same]
  rcases inclusionHandled (env []).world (Tree.interface n env) flag request root with
    ⟨⟨e,muted,raised⟩,_⟩ | ⟨acknowledged,foreign,_⟩ | ⟨acknowledged,held,result,ends,replied⟩
  · simp [muted,raised]
  · simp [foreign]
  · rw [replied]
    generalize (handle (env []).world (Tree.interface n env) (.including flag) request root).state = after at ends
    cases ends with
    | unasked muted => simp [muted]
    | refused told kept => simp [answered,exceptionResponse,exceptionFlagBad,acknowledged,held,told,kept]
    | changed told other published good =>
      cases announced : (env []).world.broadcast .success <;> simp [answered,announced,other,published,good]

end Controller

theorem Tree.sameIncluded {n : Nat} {before after : List (Tree (n+1))} (same : List.Forall₂ Tree.SameInclusion before after) :
    after.map ChildNode.included = before.map ChildNode.included := by
  induction same with
  | nil => rfl
  | @cons a b _ _ head _ ih =>
    have here : ChildNode.included b = ChildNode.included a := by
      cases a <;> cases b <;> first | exact head | exact head.1 | exact head.elim
    exact congrArg₂ List.cons here ih

namespace Sample

def speechless : Surrounded := fun path =>
  ⟨{ calm with broadcast := fun site => if path = [0] ∧ site = .propagation then some .rpcError else none },.up,willing⟩

def excludedRoot : Controller (Tree 2) := deepRoot.flagged false

theorem deepRootAnswered (env : Surrounded) (up : (env [0]).link = .up)
    (replies : ∃ r, (Controller.handle (env [0]).world (Tree.interface 1 (env.below 0)) .exclude ⟨user,none⟩
      subController).result = .ok r) : deepRoot.Answered env .exclude user := by
  rintro _ (_ | i) child found _
  · obtain rfl : ChildNode.grpc "sub" subController = child := Option.some.inj found
    obtain ⟨r,replied⟩ := replies
    refine ⟨⟨r,congrArg Prod.fst (ChildNode.sendCommandUp up replied)⟩,fun _ => ?_⟩
    rintro (_ | j) below here _
    · obtain rfl : ChildNode.restApi (follower "app" true) = below := Option.some.inj here
      trivial
    · contradiction
  · contradiction

end Sample

open Sample in
theorem unheardNotExcluded :
    (∀ a ∈ deepRoot.actors, a = user) ∧ deepRoot.Answered speechless (.including false) user ∧
    flagOf (Tree.handle speechless (.including false) ⟨user,none⟩ deepRoot).result = some .executedSuccessfully ∧
    (Tree.handle speechless (.including false) ⟨user,none⟩ deepRoot).state.childrenNodes.map ChildNode.included = [true] ∧
    (Tree.handle speechless (.including false) ⟨user,none⟩ deepRoot).state ≠ deepRoot.put (Tree.put false) false :=
  ⟨by decide,deepRootAnswered speechless rfl ⟨_,rfl⟩,by decide,by decide,fun same =>
    absurd (congrArg (fun root => root.childrenNodes.map ChildNode.included) same) (by decide)⟩

open Sample in
theorem deepRootExcluded :
    (∀ r, (Tree.handle peaceful (.including false) ⟨user,none⟩ deepRoot).result = .ok r → r.flag = .executedSuccessfully →
      (Tree.handle peaceful (.including false) ⟨user,none⟩ deepRoot).state = deepRoot.put (Tree.put false) false) ↔
    (Controller.Takes (peaceful []).world false deepRoot → ∀ i child, deepRoot.childrenNodes[i]? = some child →
      Tree.put false child = child ∨
        ((peaceful []).world.broadcast (.childStart i) = none ∧ Tree.Heard false peaceful i child)) :=
  Controller.settlesTreeIff (by decide) (deepRootAnswered peaceful rfl ⟨_,rfl⟩)

open Sample in
theorem rejectedExcludeReaches :
    flagOf (Tree.handle peaceful (.including false) ⟨user,none⟩ excludedRoot).result = some .druncExceptionThrown ∧
    excludedRoot.childrenNodes.map ChildNode.included = [true] ∧
    (Tree.handle peaceful (.including false) ⟨user,none⟩ excludedRoot).state.childrenNodes.map ChildNode.included = [false] ∧
    ¬ Controller.SameInclusion Tree.SameInclusion excludedRoot
      (Tree.handle peaceful (.including false) ⟨user,none⟩ excludedRoot).state :=
  ⟨by decide,by decide,by decide,fun same => absurd (Tree.sameIncluded same.2) (by decide)⟩

end Drunc
