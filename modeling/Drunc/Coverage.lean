import Drunc.Exclusion

/-! Failures below the root. Each controller answers for itself and flags itself for
its children: a failure stops at the first controller above it that carries on, so a
node that did not move has a controller above it that is in error. A tree is covered
if every node is in the state, or below a controller that is and that is in error;
without a controller in error, coverage is agreement. A root that `Carries` a command
out meets no failure of its own. -/
namespace Drunc
open Library (failure)
open Library.Act

section Predicates
variable (own : (κ : Type) → Controller κ → Prop) (client : ClientSideChild → Prop)

def Tree.Everywhere : {n : Nat} → Tree n → Prop
  | 0, child => child.elim
  | _+1, .clientSide child => client child
  | _+1, .restApi child => client child
  | n+1, .grpc _ controller => own (Tree n) controller ∧ ∀ child ∈ controller.childrenNodes, Tree.Everywhere child

def Controller.Throughout {n : Nat} (root : Controller (Tree n)) : Prop :=
  own (Tree n) root ∧ ∀ child ∈ root.childrenNodes, child.Everywhere own client

variable {own client}

instance Tree.decideEverywhere [∀ κ c, Decidable (own κ c)] [∀ c, Decidable (client c)] :
    {n : Nat} → (child : Tree n) → Decidable (child.Everywhere own client)
  | 0, child => child.elim
  | _+1, .clientSide child => inferInstanceAs (Decidable (client child))
  | _+1, .restApi child => inferInstanceAs (Decidable (client child))
  | n+1, .grpc _ controller =>
      have : ∀ child : Tree n, Decidable (child.Everywhere own client) := fun child => Tree.decideEverywhere child
      inferInstanceAs (Decidable (own (Tree n) controller ∧
        ∀ child ∈ controller.childrenNodes, child.Everywhere own client))

instance Controller.decideThroughout [∀ κ c, Decidable (own κ c)] [∀ c, Decidable (client c)] {n : Nat}
    (root : Controller (Tree n)) : Decidable (root.Throughout own client) :=
  inferInstanceAs (Decidable (own (Tree n) root ∧ ∀ child ∈ root.childrenNodes, child.Everywhere own client))

theorem Tree.everywhereMono {own' : (κ : Type) → Controller κ → Prop} {client' : ClientSideChild → Prop}
    (controllers : ∀ κ c, own κ c → own' κ c) (clients : ∀ c, client c → client' c) {n : Nat} {child : Tree n}
    (all : child.Everywhere own client) : child.Everywhere own' client' := by
  induction n with
  | zero => exact child.elim
  | succ n ih =>
    cases child with
    | clientSide child => exact clients child all
    | restApi child => exact clients child all
    | grpc name controller => exact ⟨controllers _ _ all.1,fun child mem => ih (all.2 child mem)⟩
end Predicates

structure Controller.SharesState (transitions : List Transition) (state : String) (κ : Type) (c : Controller κ) : Prop where
  transitions : c.statefulNode.fsm.transitions = transitions
  state : c.statefulNode.operationalState = some state

structure ClientSideChild.SharesState (transitions : List Transition) (state : String) (child : ClientSideChild) : Prop where
  transitions : child.fsm.map (fun fsm => fsm.transitions) = some transitions
  state : child.state.assumedOperationalState = some state

structure Controller.Ready (transitions : List Transition) (state : String) (κ : Type) (c : Controller κ) : Prop where
  shares : Controller.SharesState transitions state κ c
  idle : c.statefulNode.IdleAt state
  included : c.statefulNode.included = true
  sound : c.statefulNode.inError = false

structure ClientSideChild.Ready (transitions : List Transition) (state : String) (child : ClientSideChild) : Prop where
  shares : child.SharesState transitions state
  idle : child.state.executingCommand = false
  included : child.state.included = true
  sound : child.state.errored = false

def Tree.Covered (state : String) : {n : Nat} → Tree n → Prop
  | 0, child => child.elim
  | _+1, .clientSide child => child.state.assumedOperationalState = some state
  | _+1, .restApi child => child.state.assumedOperationalState = some state
  | _+1, .grpc _ controller => controller.statefulNode.operationalState = some state ∧
      (controller.statefulNode.inError = true ∨ ∀ child ∈ controller.childrenNodes, Tree.Covered state child)

def Controller.Covered {n : Nat} (state : String) (root : Controller (Tree n)) : Prop :=
  root.statefulNode.operationalState = some state ∧
    (root.statefulNode.inError = true ∨ ∀ child ∈ root.childrenNodes, child.Covered state)

def Controller.Sound (κ : Type) (c : Controller κ) : Prop := c.statefulNode.inError = false

def Controller.StandsAt (state : String) (κ : Type) (c : Controller κ) : Prop :=
  c.statefulNode.operationalState = some state

def ClientSideChild.StandsAt (state : String) (child : ClientSideChild) : Prop :=
  child.state.assumedOperationalState = some state

instance (state : String) (κ : Type) (c : Controller κ) : Decidable (Controller.StandsAt state κ c) := by
  unfold Controller.StandsAt; infer_instance

instance (state : String) (child : ClientSideChild) : Decidable (child.StandsAt state) := by
  unfold ClientSideChild.StandsAt; infer_instance

theorem Tree.coveredSound {state : String} {n : Nat} {child : Tree n} (covered : child.Covered state)
    (sound : child.Everywhere Controller.Sound fun _ => True) :
    child.Everywhere (Controller.StandsAt state) (ClientSideChild.StandsAt state) := by
  induction n with
  | zero => exact child.elim
  | succ n ih =>
    cases child with
    | clientSide child => exact covered
    | restApi child => exact covered
    | grpc name controller =>
      obtain ⟨here,flagged | below⟩ := covered
      · have kept : controller.statefulNode.inError = false := sound.1
        rw [kept] at flagged
        contradiction
      · exact ⟨here,fun child mem => ih (below child mem) (sound.2 child mem)⟩

def Surrounded.Announces (env : Surrounded) : Prop := ∀ path i, (env path).world.broadcast (.childStart i) = none

theorem World.quietPublishes {w : World} (quiet : w.Quiet) : w.PublishesTransition :=
  ⟨fun _ => quiet _,quiet _,quiet _⟩

theorem ControllerActor.compareSelf (token : Token) : ControllerActor.compareToken token token = true := by
  simp [ControllerActor.compareToken]

section Shared
variable {transitions : List Transition} {t : Transition} {state : String} {fsmCommand : FSMCommand}

theorem FSM.getTransitionShared {fsm : FSM} (shared : fsm.transitions = transitions) (mem : t ∈ transitions)
    (name : t.name = fsmCommand.commandName) {u : Transition}
    (found : fsm.getTransition fsmCommand.commandName = .ok u) : u = t := by
  obtain ⟨inside,named⟩ := gotTransition found
  exact List.inj_on_of_nodup_map fsm.unique inside (shared ▸ mem) (named.trans name.symm)

theorem Controller.settledCovered {n : Nat} {w : World} {kids : ChildInterface (Tree n)} {token : Token}
    {c : Controller (Tree n)} {destination : String} (decodes : kids.Decodable)
    (announces : ∀ i, w.broadcast (.childStart i) = none) (leads : t.target state = destination)
    (covers : ∀ i child, c.childrenNodes[i]? = some child → childObeys w kids t fsmCommand token c i child →
      (childAfter w kids .executeFsmCommand (some (.fsmCommand (childrenFsmCommand w t fsmCommand c))) token i child).Covered
        destination) :
    (settled w kids t fsmCommand token c state).Covered destination := by
  have flags := (childFailedObeys decodes w t fsmCommand token c).2
  refine ⟨congrArg some leads,?_⟩
  cases failed : childFailed w kids t fsmCommand token c with
  | true => exact .inl failed
  | false =>
    refine .inr fun child mem => ?_
    change child ∈ childrenMoved w kids t fsmCommand token c at mem
    rw [childrenMoved,childrenAfterEach] at mem
    obtain ⟨i,bound,rfl⟩ := List.mem_mapIdx.mp mem
    refine covers i _ (List.getElem?_eq_getElem bound) ?_
    by_contra disobeys
    have bad := flags.mpr ⟨i,_,List.getElem?_eq_getElem bound,announces i,.inl disobeys⟩
    rw [failed] at bad
    contradiction

variable [Re]

theorem ClientSideChild.expectedState {child : ClientSideChild} (shares : child.SharesState transitions state)
    (mem : t ∈ transitions) (name : t.name = fsmCommand.commandName) (can : t.Executable state)
    {exitState : Option String} (expects : child.Expects fsmCommand exitState) : exitState = some (t.target state) := by
  obtain ⟨fsm,u,here,found,leads⟩ := expects
  obtain ⟨same,assumed⟩ := shares
  have shared : fsm.transitions = transitions := by simpa [here] using same
  obtain rfl := FSM.getTransitionShared shared mem name found
  rw [assumed,destinationOfExecutable (shared ▸ mem) can] at leads
  exact (Except.ok.inj leads).symm

theorem Controller.startsShared {κ : Type} {c : Controller κ} (shares : Controller.SharesState transitions state κ c)
    (mem : t ∈ transitions) (name : t.name = fsmCommand.commandName) {u : Transition} {other : String}
    (start : Controller.Starts c fsmCommand u other) : u = t ∧ other = state :=
  ⟨FSM.getTransitionShared shares.transitions mem name start.found,
    by simpa using start.idle.operational.symm.trans shares.state⟩

theorem Tree.obeysCovered {n : Nat} {env : Surrounded} (announces : env.Announces)
    (mem : t ∈ transitions) (name : t.name = fsmCommand.commandName) (can : t.Executable state) {token : Token}
    {i : Nat} {child : Tree n}
    (shares : child.Everywhere (Controller.SharesState transitions state) (ClientSideChild.SharesState transitions state))
    (obeys : Obeys (Tree.interface n env) .executeFsmCommand (some (.fsmCommand fsmCommand)) token i child) :
    ((Tree.interface n env).propagateCommand i child .executeFsmCommand (some (.fsmCommand fsmCommand)) token).2.Covered
      (t.target state) := by
  induction n generalizing env fsmCommand i with
  | zero => exact child.elim
  | succ n ih =>
    obtain ⟨r,replied,succeeded⟩ := obeys
    have answers := (ChildNode.replies replied).2 succeeded
    change ChildNode.Answers _ _ _ _ _ ((Tree.interface (n+1) env).propagateCommand i child .executeFsmCommand
      (some (.fsmCommand fsmCommand)) token).2 at answers
    generalize ((Tree.interface (n+1) env).propagateCommand i child .executeFsmCommand
      (some (.fsmCommand fsmCommand)) token).2 = after at answers
    cases child with
    | clientSide child =>
      cases after <;> first | contradiction | skip
      exact ClientSideChild.expectedState shares mem name can answers.2
    | restApi child =>
      cases after <;> first | contradiction | skip
      exact ClientSideChild.expectedState shares mem name can answers.2
    | grpc label controller =>
      cases after <;> first | contradiction | skip
      obtain ⟨u,other,completes,same⟩ := answers
      obtain ⟨rfl,rfl⟩ := Controller.startsShared shares.1 mem name completes.start
      subst same
      refine Controller.settledCovered (Tree.decodable n _) (announces [i]) rfl fun j child found obeys => ?_
      rw [childAfterStarted (announces [i] j)]
      exact ih (fun path => announces (i :: path)) (by exact name) (shares.2 child (List.mem_of_getElem? found)) obeys

structure Controller.Carries {n : Nat} (env : Surrounded) (request : Request) (root : Controller (Tree n))
    (fsmCommand : FSMCommand) (t : Transition) (state : String) : Prop where
  quiet : (env []).world.Quiet
  holder : request.token = root.actor
  data : request.data = some (.fsmCommand fsmCommand)
  start : Starts root fsmCommand t state
  args : failure (decoded fsmCommand root) = none
  callbacks : OwnCallbacksSucceed (env []).world t fsmCommand root

theorem Controller.carriesCompletes {n : Nat} {env : Surrounded} {request : Request} {root : Controller (Tree n)}
    (carries : Controller.Carries env request root fsmCommand t state) :
    Controller.Completes (env []).world (Tree.interface n env) request root fsmCommand t state where
  acknowledged := carries.quiet _
  accepted := by simp [admitted,carries.holder,ControllerActor.compareSelf]
  data := carries.data
  start := carries.start
  through := passesIff.mpr ⟨carries.args,carries.callbacks,
    (childFailedObeys (Tree.decodable n env) _ t fsmCommand request.token root).1,World.quietPublishes carries.quiet⟩
  flagged := fun _ => carries.quiet _
  announced := carries.quiet _

theorem Tree.failuresCovered {n : Nat} {env : Surrounded} {request : Request} {root : Controller (Tree n)}
    (shares : root.Throughout (Controller.SharesState transitions state) (ClientSideChild.SharesState transitions state))
    (carries : Controller.Carries env request root fsmCommand t state) (announces : env.Announces) :
    (Tree.handle env .executeFsmCommand request root).state.Covered (t.target state) ∧
    ((Tree.handle env .executeFsmCommand request root).state.Throughout Controller.Sound (fun _ => True) →
      (Tree.handle env .executeFsmCommand request root).state.Throughout (Controller.StandsAt (t.target state))
        (ClientSideChild.StandsAt (t.target state))) := by
  have mem : t ∈ transitions := shares.1.transitions ▸ Controller.startedMember carries.start
  have name : t.name = fsmCommand.commandName := (gotTransition carries.start.found).2
  have covered : (Tree.handle env .executeFsmCommand request root).state.Covered (t.target state) := by
    unfold Tree.handle
    rw [(Controller.completedRun (Controller.carriesCompletes carries)).2]
    refine Controller.settledCovered (Tree.decodable n env) (announces []) rfl fun i child found obeys => ?_
    rw [childAfterStarted (announces [] i)]
    exact Tree.obeysCovered announces mem (by exact name) carries.start.can (shares.2 child (List.mem_of_getElem? found)) obeys
  refine ⟨covered,fun sound => ⟨covered.1,fun child mem => ?_⟩⟩
  rcases covered.2 with flagged | below
  · have kept : (Tree.handle env .executeFsmCommand request root).state.statefulNode.inError = false := sound.1
    rw [kept] at flagged
    contradiction
  · exact Tree.coveredSound (below child mem) (sound.2 child mem)

end Shared

namespace Sample

def refusing : Application := ⟨none,.ok ⟨some false,some "not ready","failed"⟩,true⟩

def deepFailure : Surrounded := fun path => ⟨calm,.up,if path = [0,0] then refusing else willing⟩

def subController : Controller (Tree 1) :=
  { root [ChildNode.restApi (follower "app" true)] with name := "sub" }

def deepRoot : Controller (Tree 2) := root [ChildNode.grpc "sub" subController]

theorem followerReady (name : String) : (follower name true).Ready conf.transitions "initial" :=
  ⟨⟨rfl,rfl⟩,rfl,rfl,rfl⟩

theorem deepRootReady :
    deepRoot.Throughout (Controller.Ready conf.transitions "initial") (ClientSideChild.Ready conf.transitions "initial") := by
  have own : ∀ κ (c : Controller κ), c.statefulNode = StatefulNode.init fsm →
      Controller.Ready conf.transitions "initial" κ c := by
    rintro κ ⟨name,session,node,actor,children,uri,configuration,broadcastService⟩ rfl
    exact ⟨⟨rfl,rfl⟩,⟨rfl,rfl⟩,rfl,rfl⟩
  refine ⟨own _ _ rfl,List.forall_mem_singleton.mpr ⟨own _ _ rfl,List.forall_mem_singleton.mpr ?_⟩⟩
  exact followerReady "app"

theorem deepRootCarries (env : Surrounded) (calmRoot : (env []).world = calm) :
    Controller.Carries env confRequest deepRoot confCommand configure "initial" where
  quiet := by rw [calmRoot]; exact fun _ => rfl
  holder := rfl
  data := rfl
  start := ⟨rfl,rfl,rfl,⟨rfl,rfl⟩,rfl⟩
  args := rfl
  callbacks := by rw [calmRoot]; exact ⟨rfl,rfl⟩

end Sample

open Sample in
theorem deepFailureUnseen :
    deepRoot.Throughout (Controller.Ready conf.transitions "initial") (ClientSideChild.Ready conf.transitions "initial") ∧
    Controller.Carries deepFailure confRequest deepRoot confCommand configure "initial" ∧
    (Tree.handle deepFailure .executeFsmCommand confRequest deepRoot).state.statefulNode.inError = false ∧
    ¬ (Tree.handle deepFailure .executeFsmCommand confRequest deepRoot).state.Throughout
      (Controller.StandsAt "configured") (ClientSideChild.StandsAt "configured") :=
  ⟨deepRootReady,deepRootCarries _ rfl,by decide,by decide⟩

open Sample in
theorem deepFailureCovered :
    (Tree.handle deepFailure .executeFsmCommand confRequest deepRoot).state.Covered "configured" ∧
    ((Tree.handle deepFailure .executeFsmCommand confRequest deepRoot).state.Throughout Controller.Sound (fun _ => True) →
      (Tree.handle deepFailure .executeFsmCommand confRequest deepRoot).state.Throughout
        (Controller.StandsAt "configured") (ClientSideChild.StandsAt "configured")) :=
  Tree.failuresCovered
    ⟨deepRootReady.1.shares,fun child mem =>
      Tree.everywhereMono (fun _ _ ready => ready.shares) (fun _ ready => ready.shares) (deepRootReady.2 child mem)⟩
    (deepRootCarries _ rfl) (fun _ _ => rfl)

end Drunc
