import Drunc.Convergence
import Drunc.Retirement

/-! The whole tree as one node. Where nothing below the root fails, a tree whose nodes share
their transitions answers every request as a single node would: `OneNode` is that node, with
the state and the inclusion that all nodes have and with the client that took control last.
Surrendering reaches the root only, which nobody holds from then on. `alike` is the tree with
all its nodes posed in the same way; an `Order` is a request of a client together with the
surroundings that it meets, all of which are at peace. -/
namespace Drunc
open Library (failure Refines refinesRun)
open Library.Act

structure Pose where
  state : String
  included : Bool
  actor : Token
  deriving DecidableEq, Repr

structure OneNode extends Pose where
  held : Bool
  deriving DecidableEq, Repr

namespace OneNode

def holder (s : OneNode) : Token := if s.held then s.actor else Token.unset

def obeys (s : OneNode) (token : Token) : Bool := s.held && token == s.actor

end OneNode

structure Order extends Visit where
  peaceful : ∀ path, (env path).Peaceful
  named : request.token ≠ Token.unset
  wellFormed : ∀ fsmCommand, request.data = some (.fsmCommand fsmCommand) → fsmCommand.data.wellFormed = true

section Spec
variable [Re] (transitions : List Transition)

def Transition.offered (t : Transition) (state : String) : Bool :=
  match canExecuteTransition (some state) t with
  | .ok can => can
  | .error _ => false

def Pose.takes (s : Pose) (fsmCommand : FSMCommand) : Option Transition :=
  (transitions.find? fun t => t.name == fsmCommand.commandName).filter fun t =>
    t.offered s.state && (failure (decodeFsmArguments fsmCommand.arguments t.arguments)).isNone

def OneNode.next (s : OneNode) (request : Request) : Option String :=
  if s.obeys request.token && s.included then
    (request.data.bind asFsmCommand).bind fun fsmCommand =>
      (s.takes transitions fsmCommand).map fun t => t.target s.state
  else none

/-- What the tree is for: one node that changes its state by the transitions, and its
inclusion and its holder as it is told. -/
def OneNode.step (s : OneNode) (order : Order) : OneNode :=
  match order.command with
  | .executeFsmCommand => { s with state := (s.next transitions order.request).getD s.state }
  | .include => { s with included := s.included || s.obeys order.request.token }
  | .exclude => { s with included := s.included && !s.obeys order.request.token }
  | .takeControl => { s with actor := order.request.token, held := true }
  | .surrenderControl => { s with held := s.held && !s.obeys order.request.token }
  | .status | .describe | .describeFsm | .whoIsInCharge => s

theorem Pose.takesIff {s : Pose} {fsmCommand : FSMCommand} (unique : (transitions.map Transition.name).Nodup) {t : Transition} :
    s.takes transitions fsmCommand = some t ↔ t ∈ transitions ∧ t.name = fsmCommand.commandName ∧
      t.Executable s.state ∧ failure (decodeFsmArguments fsmCommand.arguments t.arguments) = none := by
  have offers : t.offered s.state = true ↔ t.Executable s.state := by
    unfold Transition.offered Transition.Executable
    cases canExecuteTransition (some s.state) t <;> simp
  unfold Pose.takes
  rw [Option.filter_eq_some_iff,Bool.and_eq_true,offers,Option.isNone_iff_eq_none]
  constructor
  · rintro ⟨found,can,args⟩
    exact ⟨List.mem_of_find?_eq_some found,by simpa using List.find?_some found,can,args⟩
  · rintro ⟨mem,name,can,args⟩
    refine ⟨?_,can,args⟩
    cases found : transitions.find? fun t => t.name == fsmCommand.commandName with
    | none =>
      have other := List.find?_eq_none.mp found t mem
      simp [name] at other
    | some u =>
      have named : u.name = fsmCommand.commandName := by simpa using List.find?_some found
      rw [List.inj_on_of_nodup_map unique (List.mem_of_find?_eq_some found) mem (named.trans name.symm)]

end Spec

namespace StatefulNode

def posed (s : Pose) (n : StatefulNode) : StatefulNode :=
  { n with operationalState := some s.state, operationalSubState := some s.state, included := s.included, inError := false }

end StatefulNode

def ClientSideChild.posed (s : Pose) (child : ClientSideChild) : ClientSideChild :=
  { child with state := ⟨false,some s.state,s.included,false⟩ }

def Controller.posed {κ : Type} (below : κ → κ) (s : Pose) (c : Controller κ) : Controller κ :=
  { c with statefulNode := c.statefulNode.posed s, actor := s.actor, childrenNodes := c.childrenNodes.map below }

def Tree.alike (s : Pose) : {n : Nat} → Tree n → Tree n
  | 0, child => child
  | _+1, .clientSide child => .clientSide (child.posed s)
  | _+1, .restApi child => .restApi (child.posed s)
  | _+1, .grpc name controller => .grpc name (controller.posed (Tree.alike s) s)

def Controller.asOne {n : Nat} (s : OneNode) (root : Controller (Tree n)) : Controller (Tree n) :=
  { root.posed (Tree.alike s.toPose) s.toPose with actor := s.holder }

def Controller.Uses (transitions : List Transition) (κ : Type) (c : Controller κ) : Prop :=
  c.statefulNode.fsm.transitions = transitions

def ClientSideChild.Uses (transitions : List Transition) (child : ClientSideChild) : Prop :=
  child.fsm.map (fun fsm => fsm.transitions) = some transitions

theorem childrenAfterMapped {κ : Type} {w : World} {kids : ChildInterface κ} {command : Command} {data : Option Payload}
    {token : Token} (quiet : w.Quiet) {f g : κ → κ} {children : List κ}
    (each : ∀ i child, children[i]? = some child → (kids.propagateCommand i (f child) command data token).2 = g child) :
    childrenAfter w kids command data token (children.map f) = children.map g := by
  rw [childrenAfterEach]
  refine List.ext_getElem? fun i => ?_
  rw [List.getElem?_mapIdx,List.getElem?_map,List.getElem?_map]
  cases found : children[i]? with
  | none => rfl
  | some child =>
    rw [Option.map_some,Option.map_some,Option.map_some,childAfterStarted (quiet _),each i child found]

section Executes
variable {transitions : List Transition} {s : Pose} {t : Transition} {fsmCommand : FSMCommand} {token : Token}

theorem ClientSideChild.posedReady {child : ClientSideChild} (uses : child.Uses transitions) (included : s.included = true) :
    (child.posed s).Ready transitions s.state :=
  ⟨⟨uses,rfl⟩,rfl,included,rfl⟩

theorem Controller.posedReady {κ : Type} {c : Controller κ} {below : κ → κ} (uses : c.Uses transitions κ)
    (included : s.included = true) : Controller.ReadyFor s.actor transitions s.state κ (c.posed below s) :=
  ⟨⟨⟨uses,rfl⟩,⟨rfl,rfl⟩,included,rfl⟩,rfl⟩

theorem Tree.alikeReady {n : Nat} {child : Tree n} (uses : child.Everywhere (Controller.Uses transitions) (ClientSideChild.Uses transitions))
    (included : s.included = true) :
    (child.alike s).Everywhere (Controller.ReadyFor s.actor transitions s.state) (ClientSideChild.Ready transitions s.state) := by
  induction n with
  | zero => exact child.elim
  | succ n ih =>
    cases child with
    | clientSide child => exact ClientSideChild.posedReady uses included
    | restApi child => exact ClientSideChild.posedReady uses included
    | grpc name controller =>
      refine ⟨Controller.posedReady uses.1 included,fun below mem => ?_⟩
      obtain ⟨child,inside,rfl⟩ := List.mem_map.mp mem
      exact ih (uses.2 child inside)

variable [Re]

theorem ClientSideChild.executesPosed {child : ClientSideChild} (uses : child.Uses transitions) (included : s.included = true)
    (mem : t ∈ transitions) (name : t.name = fsmCommand.commandName) (can : t.Executable s.state) {app : Application}
    (willing : app.Willing) {document : { v : PyObj // v.serialisable = true }} (json : fsmCommand.data = .json document) :
    (propagateCommand propagateFsmCommand .executeFsmCommand (some (.fsmCommand fsmCommand)) token (child.posed s)).state =
      child.posed { s with state := t.target s.state } ∧
    (propagateCommand (propagateToApplication app) .executeFsmCommand (some (.fsmCommand fsmCommand)) token
      (child.posed s)).state = child.posed { s with state := t.target s.state } := by
  have ready := posedReady uses included
  have expects := readyExpects ready mem name can
  obtain ⟨r,exchanged⟩ := exchangeSucceeds willing json s.state (t.target s.state)
  rw [propagateExecute,propagateExecute,if_pos ready.included,if_pos ready.included,clientSideRuns expects,
    applicationRuns expects,ready.shares.state,exchanged]
  exact ⟨rfl,rfl⟩

theorem Controller.settlesMoved {n : Nat} {w : World} {kids : ChildInterface (Tree n)} {c : Controller (Tree n)} {state : String}
    (request : Request) (quiet : w.Quiet) (succeed : w.CallbacksSucceed) (decodes : kids.Decodable)
    (ready : c.ReadyFor request.token transitions state (Tree n)) (mem : t ∈ transitions)
    (name : t.name = fsmCommand.commandName) (can : t.Executable state)
    (data : request.data = some (.fsmCommand fsmCommand)) (wellFormed : fsmCommand.data.wellFormed = true)
    (args : failure (decodeFsmArguments fsmCommand.arguments t.arguments) = none)
    (obey : ∀ i child, c.childrenNodes[i]? = some child → childObeys w kids t fsmCommand request.token c i child) :
    (handle w kids .executeFsmCommand request c).state = moved w kids t fsmCommand request.token c state := by
  have found := FSM.getTransitionFound ready.ready.shares.transitions mem name
  have start : Starts c fsmCommand t state := ⟨ready.ready.sound,ready.ready.included,found,ready.ready.idle,can⟩
  obtain ⟨taken,flags⟩ := childFailedObeys decodes w t fsmCommand request.token c
  have completes : Completes w kids request c fsmCommand t state :=
    ⟨quiet _,by simp [admitted,ready.holder,ControllerActor.compareSelf],data,start,
      passesIff.mpr ⟨by rw [decodedShared found]; exact args,(callbacksSucceed succeed wellFormed).1,taken,
        World.quietPublishes quiet⟩,fun _ => quiet _,quiet _⟩
  have good : childFailed w kids t fsmCommand request.token c = false := by
    rw [← Bool.not_eq_true,flags]
    rintro ⟨i,child,here,_,disobeys | unpublished⟩
    · exact disobeys (obey i child here)
    · exact unpublished (quiet _)
  rw [(completedRun completes).2]
  unfold settled
  rw [good]
  have kept : (moved w kids t fsmCommand request.token c state).statefulNode.inError = false := ready.ready.sound
  rw [← kept]

theorem Controller.executesPosed {n : Nat} {w : World} {kids : ChildInterface (Tree n)} {c : Controller (Tree n)}
    (request : Request) (quiet : w.Quiet) (succeed : w.CallbacksSucceed) (decodes : kids.Decodable)
    (uses : c.Uses transitions (Tree n)) (included : s.included = true) (held : s.actor = request.token) (mem : t ∈ transitions)
    (name : t.name = fsmCommand.commandName) (can : t.Executable s.state)
    (data : request.data = some (.fsmCommand fsmCommand)) (wellFormed : fsmCommand.data.wellFormed = true)
    (args : failure (decodeFsmArguments fsmCommand.arguments t.arguments) = none)
    (children : ∀ i child, c.childrenNodes[i]? = some child →
      childObeys w kids t fsmCommand request.token (c.posed (Tree.alike s) s) i (child.alike s) ∧
      (kids.propagateCommand i (child.alike s) .executeFsmCommand
        (some (.fsmCommand (childrenFsmCommand w t fsmCommand (c.posed (Tree.alike s) s)))) request.token).2 =
          child.alike { s with state := t.target s.state }) :
    (handle w kids .executeFsmCommand request (c.posed (Tree.alike s) s)).state =
      c.posed (Tree.alike { s with state := t.target s.state }) { s with state := t.target s.state } := by
  have ready : ReadyFor request.token transitions s.state (Tree n) (c.posed (Tree.alike s) s) := held ▸ posedReady uses included
  have obey : ∀ i child, (c.posed (Tree.alike s) s).childrenNodes[i]? = some child →
      childObeys w kids t fsmCommand request.token (c.posed (Tree.alike s) s) i child := by
    intro i child found
    obtain ⟨base,here,rfl⟩ : ∃ base, c.childrenNodes[i]? = some base ∧ Tree.alike s base = child := by
      simpa [posed] using found
    exact (children i base here).1
  have below : childrenMoved w kids t fsmCommand request.token (c.posed (Tree.alike s) s) =
      c.childrenNodes.map (Tree.alike { s with state := t.target s.state }) :=
    childrenAfterMapped quiet fun i child found => (children i child found).2
  rw [settlesMoved request quiet succeed decodes ready mem name can data wellFormed args obey]
  unfold moved halted
  rw [below]
  rfl

theorem Tree.executesAlike {n : Nat} {env : Surrounded} (peaceful : ∀ path, (env path).Peaceful)
    (included : s.included = true) (held : s.actor = token) (mem : t ∈ transitions) (name : t.name = fsmCommand.commandName)
    (can : t.Executable s.state) (args : failure (decodeFsmArguments fsmCommand.arguments t.arguments) = none)
    (json : ∃ document, fsmCommand.data = .json document) {i : Nat} {child : Tree n}
    (uses : child.Everywhere (Controller.Uses transitions) (ClientSideChild.Uses transitions)) :
    ((Tree.interface n env).propagateCommand i (child.alike s) .executeFsmCommand (some (.fsmCommand fsmCommand)) token).2 =
      child.alike { s with state := t.target s.state } := by
  induction n generalizing env fsmCommand i with
  | zero => exact child.elim
  | succ n ih =>
    obtain ⟨document,json⟩ := json
    cases child with
    | clientSide child =>
      exact congrArg ChildNode.clientSide
        (ClientSideChild.executesPosed uses included mem name can (peaceful [i]).application json).1
    | restApi child =>
      exact congrArg ChildNode.restApi
        (ClientSideChild.executesPosed uses included mem name can (peaceful [i]).application json).2
    | grpc label controller =>
      have callbacks := (peaceful [i]).callbacks
      have wellFormed : fsmCommand.data.wellFormed = true := by rw [json]; rfl
      refine congrArg (ChildNode.grpc label) ((ChildNode.sendCommandReached (by rw [(peaceful [i]).link]; decide)).trans ?_)
      refine Controller.executesPosed ⟨token,some (.fsmCommand fsmCommand)⟩ (peaceful [i]).quiet callbacks
        (Tree.decodable n (env.below i)) uses.1 included held mem name can rfl wellFormed args fun j child found => ?_
      have below := uses.2 child (List.mem_of_getElem? found)
      have document := (Controller.callbacksSucceed (t := t) (c := controller.posed (Tree.alike s) s) callbacks wellFormed).2
      refine ⟨(Tree.converges (fun path => peaceful (i :: path)) mem (by exact name) can (by exact args) document ?_).obeys,
        ih (fun path => peaceful (i :: path)) (by exact name) (by exact args) document below⟩
      exact held ▸ Tree.alikeReady below included

end Executes

section Moves
variable {n : Nat} {env : Surrounded} {s : Pose} {i : Nat} {child : Tree n} {token : Token} {flag : Bool}

theorem Controller.posedPut {c : Controller (Tree n)}
    (each : ∀ child : Tree n, Tree.put flag (child.alike s) = child.alike { s with included := flag }) :
    (c.posed (Tree.alike s) s).put (Tree.put flag) flag =
      c.posed (Tree.alike { s with included := flag }) { s with included := flag } := by
  have below : (c.childrenNodes.map (Tree.alike s)).map (Tree.put flag) =
      c.childrenNodes.map (Tree.alike { s with included := flag }) := by
    rw [List.map_map]
    exact List.map_congr_left fun child _ => each child
  change { c.posed (Tree.alike s) { s with included := flag } with
    childrenNodes := (c.childrenNodes.map (Tree.alike s)).map (Tree.put flag) } = _
  rw [below]
  rfl

theorem Tree.alikePut (child : Tree n) : Tree.put flag (child.alike s) = child.alike { s with included := flag } := by
  induction n with
  | zero => rfl
  | succ n ih =>
    cases child with
    | clientSide child => rfl
    | restApi child => rfl
    | grpc name controller => exact congrArg (ChildNode.grpc name) (Controller.posedPut ih)

theorem ClientSideChild.keeps {execute : FSMCommand → Token → Do ClientSideChild Response} {command : Command}
    (child : ClientSideChild) (other : command = .takeControl ∨ command = .describe) :
    (propagateCommand execute command none token child).state = child := by
  unfold propagateCommand
  rw [readBind]
  rcases other with rfl | rfl <;> cases child.state.included <;> rfl

variable [Re]

theorem Controller.putsPosed {w : World} {kids : ChildInterface (Tree n)} {c : Controller (Tree n)} (quiet : w.Quiet)
    (held : s.actor = token) (data : Option Payload) (children : ∀ i (child : Tree n),
      (kids.propagateCommand i (child.alike s) (.including flag) none token).2 = child.alike { s with included := flag }) :
    (handle w kids (.including flag) ⟨token,data⟩ (c.posed (Tree.alike s) s)).state =
      c.posed (Tree.alike { s with included := flag }) { s with included := flag } := by
  refine Eq.trans ?_ (posedPut Tree.alikePut)
  refine (putsIff w kids flag ⟨token,data⟩ (c.posed (Tree.alike s) s) (fun _ _ => True) (quiet _) held.symm
    (fun i child found _ _ => iff_of_true ?_ trivial) fun _ _ _ => trivial).mpr
    ⟨.inr ⟨quiet _,quiet _⟩,fun _ _ _ => .inr ⟨quiet _,quiet _,trivial⟩⟩
  obtain ⟨base,_,rfl⟩ : ∃ base, c.childrenNodes[i]? = some base ∧ Tree.alike s base = child := by simpa [posed] using found
  rw [children i base,Tree.alikePut]

theorem Tree.putsAlike (peaceful : ∀ path, (env path).Peaceful) (held : s.actor = token) (child : Tree n) :
    ((Tree.interface n env).propagateCommand i (child.alike s) (.including flag) none token).2 =
      child.alike { s with included := flag } := by
  induction n generalizing env i with
  | zero => exact child.elim
  | succ n ih =>
    cases child with
    | clientSide child => exact congrArg ChildNode.clientSide (ClientSideChild.propagateInclusion _ flag)
    | restApi child => exact congrArg ChildNode.restApi (ClientSideChild.propagateInclusion _ flag)
    | grpc name controller =>
      refine congrArg (ChildNode.grpc name) ((ChildNode.sendCommandReached (by rw [(peaceful [i]).link]; decide)).trans ?_)
      exact Controller.putsPosed (peaceful [i]).quiet held none fun j child => ih (fun path => peaceful (i :: path)) child

theorem Controller.takesPosed {w : World} {kids : ChildInterface (Tree n)} {c : Controller (Tree n)} (quiet : w.Quiet)
    (actor : Token) (data : Option Payload) (children : ∀ i (child : Tree n),
      (kids.propagateCommand i (child.alike s) .takeControl none token).2 = child.alike { s with actor := token }) :
    (handle w kids .takeControl ⟨token,data⟩ { c.posed (Tree.alike s) s with actor := actor }).state =
      c.posed (Tree.alike { s with actor := token }) { s with actor := token } := by
  have below : childrenAfter w kids .takeControl none token (c.childrenNodes.map (Tree.alike s)) =
      c.childrenNodes.map (Tree.alike { s with actor := token }) :=
    childrenAfterMapped quiet fun i child _ => children i child
  have ran := (passesThrough (takeControlRuns w kids token { c.posed (Tree.alike s) s with actor := actor })
    (by rw [quiet]; rfl)).2
  rw [handleAdmitted (quiet _) rfl]
  refine ran.trans ?_
  change { c.posed (Tree.alike s) { s with actor := token } with
    childrenNodes := childrenAfter w kids .takeControl none token (c.childrenNodes.map (Tree.alike s)) } = _
  rw [below]
  rfl

theorem Tree.takesAlike (peaceful : ∀ path, (env path).Peaceful) (child : Tree n) :
    ((Tree.interface n env).propagateCommand i (child.alike s) .takeControl none token).2 =
      child.alike { s with actor := token } := by
  induction n generalizing env i with
  | zero => exact child.elim
  | succ n ih =>
    cases child with
    | clientSide child => exact congrArg ChildNode.clientSide (ClientSideChild.keeps _ (.inl rfl))
    | restApi child => exact congrArg ChildNode.restApi (ClientSideChild.keeps _ (.inl rfl))
    | grpc name controller =>
      refine congrArg (ChildNode.grpc name) ((ChildNode.sendCommandReached (by rw [(peaceful [i]).link]; decide)).trans ?_)
      exact Controller.takesPosed (peaceful [i]).quiet s.actor none fun j child => ih (fun path => peaceful (i :: path)) child

theorem Controller.readsKeep {κ : Type} {w : World} {kids : ChildInterface κ} {command : Command} {request : Request}
    (reads : (endpoint command).action = .read) (c : Controller κ)
    (children : ∀ i child, (kids.propagateCommand i child .describe none request.token).2 = child) :
    (handle w kids command request c).state = c := by
  rcases readsState reads w kids request c with same | ⟨rfl,asked⟩
  · exact same
  · have same : childrenAfter w kids .describe none request.token c.childrenNodes = c.childrenNodes := by
      rw [childrenAfterEach]
      refine (mapIdxMapIff.mpr fun i child _ => ?_).trans (List.map_id _)
      unfold childAfter
      split <;> simp [children]
    rw [asked,Controller.asked,same]

theorem Tree.describesKeep (env : Surrounded) (child : Tree n) :
    ((Tree.interface n env).propagateCommand i child .describe none token).2 = child := by
  induction n generalizing env i with
  | zero => exact child.elim
  | succ n ih =>
    cases child with
    | clientSide child => exact congrArg ChildNode.clientSide (child.keeps (.inr rfl))
    | restApi child => exact congrArg ChildNode.restApi (child.keeps (.inr rfl))
    | grpc name controller =>
      refine congrArg (ChildNode.grpc name) ?_
      have kept : (Controller.handle (env [i]).world (Tree.interface n (env.below i)) .describe ⟨token,none⟩ controller).state =
          controller := Controller.readsKeep rfl controller fun j child => ih (env.below i) child
      unfold ChildNode.sendCommand
      split
      · rfl
      all_goals exact kept

end Moves

section Run
variable {transitions : List Transition} {n : Nat} {env : Surrounded} {root : Controller (Tree n)} {s : OneNode}
  {request : Request}

theorem OneNode.obeysIff {token : Token} : s.obeys token = true ↔ s.held = true ∧ token = s.actor := by
  simp [obeys]

theorem Controller.asOneHeld (held : s.held = true) : root.asOne s = root.posed (Tree.alike s.toPose) s.toPose := by
  unfold asOne OneNode.holder
  rw [if_pos held]
  rfl

theorem Controller.asOneAdmits {command : Command} (guards : guarded command = true) (named : request.token ≠ Token.unset) :
    admitted command request (root.asOne s) = s.obeys request.token := by
  rw [Bool.eq_iff_iff,admittedHeld guards,OneNode.obeysIff]
  change request.token = s.holder ↔ _
  unfold OneNode.holder
  split
  · rename_i held
    exact (and_iff_right held).symm
  · rename_i free
    exact iff_of_false named fun held => free held.1

variable [Re]

theorem OneNode.nextIff {state : String} : s.next transitions request = some state ↔
    s.obeys request.token = true ∧ s.included = true ∧ ∃ fsmCommand t, request.data = some (.fsmCommand fsmCommand) ∧
      s.takes transitions fsmCommand = some t ∧ t.target s.state = state := by
  unfold next
  split
  · rename_i can
    obtain ⟨obeys,included⟩ := Bool.and_eq_true _ _ ▸ can
    rw [and_iff_right obeys,and_iff_right included,Option.bind_eq_some_iff]
    refine exists_congr fun fsmCommand => ?_
    rw [Option.map_eq_some_iff]
    have same : request.data.bind asFsmCommand = some fsmCommand ↔ request.data = some (.fsmCommand fsmCommand) := by
      cases request.data with
      | none => simp
      | some payload => cases payload <;> simp [asFsmCommand]
    rw [same]
    exact exists_and_left.symm
  · rename_i can
    refine iff_of_false (by simp) fun all => can ?_
    rw [all.1,all.2.1]
    rfl

namespace Controller

theorem asOneDeclines {command : Command} (quiet : (env []).world.Quiet) (guards : guarded command = true)
    (named : request.token ≠ Token.unset) (foreign : s.obeys request.token = false) :
    (Tree.handle env command request (root.asOne s)).state = root.asOne s := by
  unfold Tree.handle
  rw [handleDeclined (quiet _) ((asOneAdmits guards named).trans foreign)]

theorem asOneStarts (uses : root.Uses transitions (Tree n)) {fsmCommand : FSMCommand} {t : Transition} {state : String}
    (start : Starts (root.asOne s) fsmCommand t state) (args : failure (decoded fsmCommand (root.asOne s)) = none) :
    state = s.state ∧ s.included = true ∧ s.takes transitions fsmCommand = some t := by
  obtain rfl : s.state = state := Option.some.inj start.idle.operational
  obtain ⟨mem,name⟩ := gotTransition start.found
  have shared : (root.asOne s).statefulNode.fsm.transitions = transitions := uses
  have unique : (transitions.map Transition.name).Nodup := by
    rw [← shared]
    exact (root.asOne s).statefulNode.fsm.unique
  refine ⟨rfl,start.included,(Pose.takesIff transitions unique).mpr ⟨shared ▸ mem,name,start.can,?_⟩⟩
  rw [← decodedShared start.found]
  exact args

theorem asOneStays (uses : root.Uses transitions (Tree n)) (quiet : (env []).world.Quiet)
    (named : request.token ≠ Token.unset) (still : s.next transitions request = none) :
    (Tree.handle env .executeFsmCommand request (root.asOne s)).state = root.asOne s := by
  cases obeys : s.obeys request.token with
  | false => exact asOneDeclines quiet rfl named obeys
  | true =>
    unfold Tree.handle
    rw [handleAdmitted (quiet _) ((asOneAdmits rfl named).trans obeys)]
    by_cases holds : ∃ fsmCommand, request.data = some (.fsmCommand fsmCommand)
    · obtain ⟨fsmCommand,data⟩ := holds
      rw [unpackedFsmCommand data]
      by_cases starts : ∃ t state, Starts (root.asOne s) fsmCommand t state
      · obtain ⟨t,state,start⟩ := starts
        cases args : failure (decoded fsmCommand (root.asOne s)) with
        | none =>
          obtain ⟨_,included,takes⟩ := asOneStarts uses start args
          exact nomatch still.symm.trans (OneNode.nextIff.mpr ⟨obeys,included,fsmCommand,t,data,takes,rfl⟩)
        | some e =>
          -- the arguments are decoded first, while the node is still idle
          have cut : Library.firstCut (checkpoints (env []).world (Tree.interface n env) t fsmCommand request.token
              (root.asOne s) state) = some (e,⟨⟨state,.idle⟩,(root.asOne s).childrenNodes⟩) := by
            unfold checkpoints checkpointsBefore
            rw [args]
            rfl
          have run := startsRun (env []).world (Tree.interface n env) request.token start
          dsimp only
          generalize executeFsmCommand (env []).world (Tree.interface n env) fsmCommand request.token (root.asOne s) = ended at run ⊢
          obtain ⟨result,state',events⟩ := ended
          cases run with
          | cut here =>
            obtain ⟨_,rfl⟩ := Prod.mk.inj (Option.some.inj (cut.symm.trans here))
            exact idleHalted start.idle t
          | succeeded through => exact nomatch cut.symm.trans through
          | flagged through => exact nomatch cut.symm.trans through
          | unflagged through => exact nomatch cut.symm.trans through
      · exact (refuses starts).1
    · rw [unpackedOther fun fsmCommand data => holds ⟨fsmCommand,data⟩]
      rfl

theorem asOneMoves (peaceful : ∀ path, (env path).Peaceful)
    (uses : root.Throughout (Uses transitions) (ClientSideChild.Uses transitions))
    (wellFormed : ∀ fsmCommand, request.data = some (.fsmCommand fsmCommand) → fsmCommand.data.wellFormed = true)
    {state : String} (moves : s.next transitions request = some state) :
    (∃ r, (Tree.handle env .executeFsmCommand request (root.asOne s)).result = .ok r ∧ (root.asOne s).Mirrors r) ∧
    (Tree.handle env .executeFsmCommand request (root.asOne s)).state = root.asOne { s with state := state } := by
  obtain ⟨obeys,included,fsmCommand,t,data,takes,rfl⟩ := OneNode.nextIff.mp moves
  obtain ⟨held,own⟩ := OneNode.obeysIff.mp obeys
  have unique : (transitions.map Transition.name).Nodup := by
    rw [← show root.statefulNode.fsm.transitions = transitions from uses.1]
    exact root.statefulNode.fsm.unique
  obtain ⟨mem,name,can,args⟩ := (Pose.takesIff transitions unique).mp takes
  have ready : root.asOne s |>.Throughout (ReadyFor request.token transitions s.state)
      (ClientSideChild.Ready transitions s.state) := by
    rw [asOneHeld held,own]
    refine ⟨posedReady uses.1 included,fun below inside => ?_⟩
    obtain ⟨child,mem,rfl⟩ := List.mem_map.mp inside
    exact Tree.alikeReady (uses.2 child mem) included
  refine ⟨(Tree.stepsAsOne peaceful ready mem name can data (wellFormed fsmCommand data) args).1,?_⟩
  rw [asOneHeld held,asOneHeld (s := { s with state := t.target s.state }) held]
  refine executesPosed request (peaceful []).quiet (peaceful []).callbacks (Tree.decodable n env) uses.1 included own.symm mem
    name can data (wellFormed fsmCommand data) args fun i child found => ?_
  have below := uses.2 child (List.mem_of_getElem? found)
  have document := (callbacksSucceed (t := t) (c := root.posed (Tree.alike s.toPose) s.toPose) (peaceful []).callbacks
    (wellFormed fsmCommand data)).2
  refine ⟨(Tree.converges peaceful mem (by exact name) can (by exact args) document ?_).obeys,
    Tree.executesAlike peaceful included own.symm mem (by exact name) can (by exact args) document below⟩
  exact own.symm ▸ Tree.alikeReady below included

def obey (root : Controller (Tree n)) (order : Order) : Controller (Tree n) := root.receive order.toVisit

theorem asOnePuts (flag : Bool) (peaceful : ∀ path, (env path).Peaceful) (obeys : s.obeys request.token = true) :
    (Tree.handle env (.including flag) request (root.asOne s)).state = root.asOne { s with included := flag } := by
  obtain ⟨held,own⟩ := OneNode.obeysIff.mp obeys
  rw [asOneHeld held,asOneHeld (s := { s with included := flag }) held]
  exact putsPosed (peaceful []).quiet own.symm request.data fun i child => Tree.putsAlike peaceful own.symm child

theorem asOneStep (uses : root.Throughout (Uses transitions) (ClientSideChild.Uses transitions)) (order : Order) :
    (root.asOne s).obey order = root.asOne (s.step transitions order) := by
  obtain ⟨⟨env,command,request⟩,peaceful,named,wellFormed⟩ := order
  have quiet := (peaceful []).quiet
  have reads : ∀ command, (endpoint command).action = .read →
      (Tree.handle env command request (root.asOne s)).state = root.asOne s :=
    fun command reads => readsKeep reads (root.asOne s) fun i child => Tree.describesKeep env child
  have declines : ∀ command, guarded command = true → s.obeys request.token = false →
      (Tree.handle env command request (root.asOne s)).state = root.asOne s :=
    fun command guards foreign => asOneDeclines quiet guards named foreign
  unfold obey receive
  match command with
  | .status => exact reads .status rfl
  | .describe => exact reads .describe rfl
  | .describeFsm => exact reads .describeFsm rfl
  | .whoIsInCharge => exact reads .whoIsInCharge rfl
  | .executeFsmCommand =>
    cases moves : s.next transitions request with
    | none => simpa [OneNode.step,moves] using asOneStays uses.1 quiet named moves
    | some state => simpa [OneNode.step,moves] using (asOneMoves peaceful uses wellFormed moves).2
  | .include =>
    cases obeys : s.obeys request.token with
    | false => simpa [OneNode.step,obeys] using declines .include rfl obeys
    | true => simpa [OneNode.step,obeys,Command.including] using asOnePuts true peaceful obeys
  | .exclude =>
    cases obeys : s.obeys request.token with
    | false => simpa [OneNode.step,obeys] using declines .exclude rfl obeys
    | true => simpa [OneNode.step,obeys,Command.including] using asOnePuts false peaceful obeys
  | .takeControl => exact takesPosed quiet s.holder request.data fun i child => Tree.takesAlike peaceful child
  | .surrenderControl =>
    cases obeys : s.obeys request.token with
    | false => simpa [OneNode.step,obeys] using declines .surrenderControl rfl obeys
    | true =>
      have accepted : admitted .surrenderControl request (root.asOne s) = true := (asOneAdmits rfl named).trans obeys
      have body : (surrenderControl (env []).world (Tree.interface n env) request.token (root.asOne s)).state =
          { root.asOne s with actor := Token.unset } :=
        congrArg Library.Outcome.state (surrenderHolder ((admittedHeld rfl).mp accepted))
      unfold Tree.handle OneNode.step
      rw [handleAdmitted (quiet _) accepted,obeys]
      refine body.trans ?_
      simp only [Bool.not_true,Bool.and_false]
      rfl

theorem quietReplies {κ : Type} {w : World} (quiet : w.Quiet) (kids : ChildInterface κ) (command : Command) (request : Request)
    (c : Controller κ) : ∃ r, (handle w kids command request c).result = .ok r := by
  have told : ∀ result, ∃ r, answered c.servicer w request result = .ok r := by
    intro result
    unfold answered
    rw [quiet]
    cases result <;> exact ⟨_,rfl⟩
  cases accepted : admitted command request c with
  | false =>
    rw [handleDeclined (quiet _) accepted]
    exact told (.ok (notInControl request c))
  | true =>
    rw [handleAdmitted (quiet _) accepted]
    exact told _

theorem asOneReplies (uses : root.Throughout (Uses transitions) (ClientSideChild.Uses transitions)) (order : Order) :
    ∃ r, (Tree.handle order.env .executeFsmCommand order.request (root.asOne s)).result = .ok r ∧
      (r.succeeded = true ↔ (s.next transitions order.request).isSome = true) ∧
      (r.succeeded = true → (root.asOne s).Mirrors r) := by
  obtain ⟨⟨env,command,request⟩,peaceful,named,wellFormed⟩ := order
  obtain ⟨r,replied⟩ := quietReplies (peaceful []).quiet (Tree.interface n env) .executeFsmCommand request (root.asOne s)
  have mirrors : (s.next transitions request).isSome = true → (root.asOne s).Mirrors r := by
    intro moves
    obtain ⟨state,moves⟩ := Option.isSome_iff_exists.mp moves
    obtain ⟨⟨r',same,mirrors⟩,_⟩ := asOneMoves peaceful uses wellFormed moves
    obtain rfl := Except.ok.inj (same.symm.trans replied)
    exact mirrors
  have moves : r.succeeded = true → (s.next transitions request).isSome = true := by
    intro succeeded
    obtain ⟨fsmCommand,t,state,completes,_⟩ := (executeHonest replied).complete succeeded
    obtain ⟨_,included,takes⟩ := asOneStarts uses.1 completes.start (passesIff.mp completes.through).1
    have obeys := (asOneAdmits rfl named).symm.trans completes.accepted
    rw [OneNode.nextIff.mpr ⟨obeys,included,fsmCommand,t,completes.data,takes,rfl⟩]
    rfl
  exact ⟨r,replied,⟨moves,fun moved => (mirrors moved).2.1⟩,fun succeeded => mirrors (moves succeeded)⟩

theorem treeRunsAsOne (uses : root.Throughout (Uses transitions) (ClientSideChild.Uses transitions)) (start : root.asOne s = root)
    (orders : List Order) (order : Order) :
    orders.foldl obey root = root.asOne (orders.foldl (OneNode.step transitions) s) ∧
    ∃ r, (Tree.handle order.env .executeFsmCommand order.request (orders.foldl obey root)).result = .ok r ∧
      (r.succeeded = true ↔
        ((orders.foldl (OneNode.step transitions) s).next transitions order.request).isSome = true) ∧
      (r.succeeded = true → (orders.foldl obey root).Mirrors r) := by
  have refines : Refines (fun s c => c = root.asOne s) (OneNode.step transitions) obey := by
    rintro s c order rfl
    exact asOneStep uses order
  have ran : orders.foldl obey root = root.asOne (orders.foldl (OneNode.step transitions) s) :=
    refinesRun refines start.symm orders
  rw [ran]
  exact ⟨rfl,asOneReplies uses order⟩

end Controller
end Run

namespace Sample

theorem userNamed : user ≠ Token.unset := by decide
theorem strangerNamed : stranger ≠ Token.unset := by decide

def quietly (command : Command) {token : Token} (named : token ≠ Token.unset) : Order where
  env := harmony
  command := command
  request := ⟨token,some (.fsmCommand confCommand)⟩
  peaceful := harmonyPeaceful
  named := named
  wellFormed := fun _ data => by cases data; rfl

def ready : OneNode := ⟨⟨"initial",true,user⟩,true⟩

theorem deepRootUses : deepRoot.Throughout (Controller.Uses conf.transitions) (ClientSideChild.Uses conf.transitions) :=
  ⟨rfl,fun child mem => Tree.everywhereMono (fun _ _ ready => ready.shares.transitions)
    (fun _ ready => ready.shares.transitions) (deepRootReady.2 child mem)⟩

end Sample

open Sample in
example : [quietly .takeControl strangerNamed,quietly .exclude userNamed,quietly .executeFsmCommand strangerNamed].foldl
    (OneNode.step conf.transitions) ready = ⟨⟨"configured",true,stranger⟩,true⟩ := by decide

open Sample in
theorem deepRootRunsAsOne :
    [quietly .exclude userNamed,quietly .include userNamed].foldl Controller.obey deepRoot = deepRoot.asOne
      ([quietly .exclude userNamed,quietly .include userNamed].foldl (OneNode.step conf.transitions) ready) ∧
    ∃ r, (Tree.handle harmony .executeFsmCommand confRequest
        ([quietly .exclude userNamed,quietly .include userNamed].foldl Controller.obey deepRoot)).result = .ok r ∧
      (r.succeeded = true ↔ (([quietly .exclude userNamed,quietly .include userNamed].foldl
        (OneNode.step conf.transitions) ready).next conf.transitions confRequest).isSome = true) ∧
      (r.succeeded = true →
        ([quietly .exclude userNamed,quietly .include userNamed].foldl Controller.obey deepRoot).Mirrors r) :=
  Controller.treeRunsAsOne deepRootUses rfl [quietly .exclude userNamed,quietly .include userNamed]
    (quietly .executeFsmCommand userNamed)

end Drunc
