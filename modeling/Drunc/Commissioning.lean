import Drunc.Construction
import Drunc.Unison

/-! A tree that has come up in peace. Where no child is lost, each of its nodes stands in the
initial state and obeys the token that the controllers are started with, so the tree runs as
one node from there. Where a child is lost, the root is in error. -/
namespace Drunc
open Library (boundOk mappedOk Refines refinesRun)

structure InPeace (transitions : List Transition) (token : Token) (s : Construction) (visits : List (List Nat × Visit)) : Prop where
  token : s.token = token
  pings : ∀ path, (s.statuses path).application.pings = true
  takes : ∀ path, (s.takes path).Peaceful
  initial : ∀ fsm, s.fsm = .ok fsm → fsm.initialState = "initial"
  transitions : ∀ fsm, s.fsm = .ok fsm → fsm.transitions = transitions
  untouched : visits = []

def fresh (token : Token) : Pose := ⟨"initial",true,token⟩

section Built
variable {s : Construction} {fsm : FSM} {child : ClientSideChild} {host : String} {port : Int}

theorem restApiFresh (found : s.fsm = .ok fsm) (mem : .restApi child host port ∈ s.built) :
    child.fsm = some fsm ∧ child.state = ClientSideState.init := by
  unfold Construction.built at mem
  unfold Construction.fsm at found
  cases data : s.data with
  | none => rw [data] at found; contradiction
  | some data' =>
    rw [data] at found mem
    dsimp only at found mem
    cases conf : data'.controller.fsm with
    | none => rw [conf] at found; contradiction
    | some conf' =>
      rw [conf] at found
      replace found : FSM.init conf' = .ok fsm := found
      rcases childBuilt mem with ⟨_,_,made⟩ | ⟨app,_,made⟩
      · cases ChildNode.getChildIff.mp made
        contradiction
      · cases ChildNode.getChildIff.mp made with
        | restApi _ _ passed own =>
          cases passed
          rw [conf] at own
          obtain ⟨fsm',same,rfl⟩ := mappedOk.mp own
          cases found.symm.trans same
          exact ⟨rfl,rfl⟩

end Built

section Fresh
variable {n : Nat} {transitions : List Transition} {token : Token}

def Tree.Fresh (transitions : List Transition) (token : Token) (child : Tree n) : Prop :=
  child.Everywhere (Controller.Uses transitions) (ClientSideChild.Uses transitions) ∧ child.alike (fresh token) = child

theorem Tree.freshSound {child : Tree n} (as : child.Fresh transitions token) {app : Application} (pings : app.pings = true) :
    child.ailing app = false := by
  rw [← as.2]
  cases n with
  | zero => exact child.elim
  | succ n =>
    cases child with
    | clientSide child => rfl
    | restApi child => exact (by rw [Tree.alike,Tree.ailing,pings]; rfl)
    | grpc name controller => rfl

variable [Re]

theorem Controller.initFresh {s : Construction} {children : List (Tree n)} {c : Controller (Tree n)}
    {visits : List (List Nat × Visit)} (peace : InPeace transitions token s visits)
    (inited : Inited s (Tree.interface n s.statuses) (Tree.interface n s.takes) children c)
    (each : ∀ child ∈ children, child.Fresh transitions token) :
    c.Throughout (Controller.Uses transitions) (ClientSideChild.Uses transitions) ∧
      c.posed (Tree.alike (fresh token)) (fresh token) = c := by
  have below : c.childrenNodes = children := by
    rw [inited.children]
    refine List.ext_getElem? fun i => ?_
    rw [List.getElem?_mapIdx]
    cases here : children[i]? with
    | none => rfl
    | some child =>
      have as := (each child (List.mem_of_getElem? here)).2
      have taken : ((Tree.interface n s.takes).propagateCommand i (child.alike (fresh token)) .takeControl none s.token).2 =
          child.alike { fresh token with actor := s.token } := Tree.takesAlike peace.takes child
      rw [as,peace.token] at taken
      rw [Option.map_some,peace.token]
      exact congrArg some (taken.trans as)
  have sound : c.statefulNode = StatefulNode.init c.statefulNode.fsm := by
    rw [inited.node]
    have well : (children.mapIdx fun i child => (i,child)).any (ails (Tree.interface n s.statuses) s.token) = false := by
      refine List.any_eq_false.mpr fun x mem => ?_
      obtain ⟨i,bound,rfl⟩ := List.mem_mapIdx.mp mem
      obtain ⟨status,told⟩ := inited.statuses i _ (List.getElem?_eq_getElem bound)
      have kept := (Tree.statusTells told).trans (Tree.freshSound (each _ (List.getElem_mem bound)) (peace.pings [i]))
      unfold ails
      rw [told]
      exact Bool.eq_false_iff.mp kept
    rw [well]
    rfl
  refine ⟨⟨peace.transitions _ inited.fsm,fun child mem => (each child (below ▸ mem)).1⟩,?_⟩
  have alike : c.childrenNodes.map (Tree.alike (fresh token)) = c.childrenNodes := by
    rw [below]
    exact (List.map_congr_left fun child mem => (each child mem).2).trans (List.map_id' children)
  have node : c.statefulNode.posed (fresh token) = c.statefulNode := by
    rw [sound]
    unfold StatefulNode.posed StatefulNode.init
    rw [peace.initial _ inited.fsm]
    rfl
  unfold posed
  rw [alike,node,show (fresh token).actor = c.actor from (inited.held.trans peace.token).symm]

theorem Controller.upFresh {stands : BuiltChild → Tree n → Prop} {root : Controller (Tree n)}
    (up : root.Up stands (InPeace transitions token)) (found : root.lostBelow = false)
    (each : ∀ (s : Construction) fsm built (child : Tree n), s.fsm = .ok fsm → fsm.transitions = transitions → built ∈ s.built →
      stands built child → child.lost = false → child.Fresh transitions token) :
    root.Throughout (Controller.Uses transitions) (ClientSideChild.Uses transitions) ∧
      root.posed (Tree.alike (fresh token)) (fresh token) = root := by
  obtain ⟨s,visits,children,c,peace,stand,inited,rfl⟩ := up
  rw [peace.untouched] at found ⊢
  replace found : c.lostBelow = false := found
  have ran := initRuns inited
  rw [initLost ran] at found
  refine initFresh peace ran fun child mem => ?_
  obtain ⟨i,bound,rfl⟩ := List.mem_iff_getElem.mp mem
  have same := List.forall₂_iff_get.mp stand
  exact each s _ _ _ ran.fsm (peace.transitions _ ran.fsm) (List.getElem_mem (same.1 ▸ bound)) (same.2 i (same.1 ▸ bound) bound)
    (Bool.eq_false_iff.mpr (List.any_eq_false.mp found _ (List.getElem_mem bound)))

theorem Tree.standsFresh {s : Construction} {fsm : FSM} {built : BuiltChild} {child : Tree n} (conf : s.fsm = .ok fsm)
    (shares : fsm.transitions = transitions) (mem : built ∈ s.built) (stands : child.Stands (InPeace transitions token) built)
    (found : child.lost = false) : child.Fresh transitions token := by
  induction n generalizing s fsm built with
  | zero => exact child.elim
  | succ n ih =>
    cases built <;> cases child <;> first | exact stands.elim | skip
    · obtain ⟨uses,posed⟩ := Controller.upFresh stands.2 found fun s fsm built child conf shares mem stands found =>
        ih conf shares mem stands found
      exact ⟨uses,congrArg (ChildNode.grpc _) posed⟩
    · rename_i built host port child
      obtain ⟨own,state⟩ := restApiFresh conf mem
      obtain ⟨_,sameFsm,sameState⟩ := stands
      refine ⟨?_,congrArg ChildNode.restApi ?_⟩
      · change child.fsm.map _ = _
        rw [sameFsm,own,Option.map_some,shares]
      · change { child with state := ClientSideState.init } = child
        rw [← state,← sameState]
    · contradiction

theorem Controller.freshRunsAsOne {root : Controller (Tree n)}
    (up : root.Up (Tree.Stands (InPeace transitions token)) (InPeace transitions token)) :
    (root.statefulNode.inError = root.lostBelow) ∧
    (root.lostBelow = false → ∀ (orders : List Order) (order : Order),
      orders.foldl obey root = root.asOne (orders.foldl (OneNode.step transitions) ⟨fresh token,true⟩) ∧
      ∃ r, (Tree.handle order.env .executeFsmCommand order.request (orders.foldl obey root)).result = .ok r ∧
        (r.succeeded = true ↔
          ((orders.foldl (OneNode.step transitions) ⟨fresh token,true⟩).next transitions order.request).isSome = true)) := by
  have each : ∀ (s : Construction) fsm built (child : Tree n), s.fsm = .ok fsm → fsm.transitions = transitions → built ∈ s.built →
      child.Stands (InPeace transitions token) built → child.lost = false → child.Fresh transitions token :=
    fun s fsm built child conf shares mem stands found => Tree.standsFresh conf shares mem stands found
  constructor
  · cases found : root.lostBelow with
    | false =>
      have posed := (upFresh up found each).2
      exact congrArg (fun c => c.statefulNode.inError) posed.symm
    | true => exact (upDisabled up fun _ _ _ mem stands => Tree.standsDisabled mem stands).own found
  · intro found orders order
    obtain ⟨uses,posed⟩ := upFresh up found each
    have refines : Refines (fun s c => c = root.asOne s) (OneNode.step transitions) obey := by
      rintro s c order rfl
      exact asOneStep uses order
    have start : root = root.asOne ⟨fresh token,true⟩ := ((asOneHeld rfl).trans posed).symm
    have ran : orders.foldl obey root = root.asOne (orders.foldl (OneNode.step transitions) ⟨fresh token,true⟩) :=
      refinesRun refines start orders
    rw [ran]
    obtain ⟨r,replied,moves,_⟩ := asOneReplies uses order
    exact ⟨rfl,r,replied,moves⟩

end Fresh

namespace Sample

def listedSession : Session :=
  ⟨"session",[],.mk "root" (configuredController "root-controller")
    [.mk "ru" (configuredController "ru-controller") [] [applicationNamed "ru-01"]] []⟩

def freshApplication : Tree 1 := .restApi (ClientSideChild.init "ru-01" (some fsm))

def freshSub : Controller (Tree 1) :=
  ⟨"ru-controller","session",StatefulNode.init fsm,initToken,[freshApplication],some "",.bare "ru-controller",none⟩

def freshRoot : Controller (Tree 2) :=
  ⟨"root-controller","session",StatefulNode.init fsm,initToken,[.grpc "ru-controller" freshSub],some "",.bare "root-controller",none⟩

def peacefully (name : String) : Construction :=
  { constructed listedSession name with statuses := harmony, takes := harmony }

theorem peacefullyBuilt (name : String) (own : (peacefully name).fsm = .ok fsm) :
    InPeace conf.transitions initToken (peacefully name) [] where
  token := rfl
  pings _ := rfl
  takes := harmonyPeaceful
  initial other same := by
    rw [own] at same
    cases same
    rfl
  transitions other same := by
    rw [own] at same
    cases same
    rfl
  untouched := rfl

theorem freshSubUp : freshSub.Up (Tree.Stands (InPeace conf.transitions initToken)) (InPeace conf.transitions initToken) :=
  ⟨peacefully "ru-controller",[],[freshApplication],freshSub,peacefullyBuilt _ rfl,.cons ⟨rfl,rfl,rfl⟩ .nil,rfl,rfl⟩

theorem freshRootUp : freshRoot.Up (Tree.Stands (InPeace conf.transitions initToken)) (InPeace conf.transitions initToken) :=
  ⟨peacefully "root-controller",[],[.grpc "ru-controller" freshSub],freshRoot,peacefullyBuilt _ rfl,.cons ⟨rfl,freshSubUp⟩ .nil,
    rfl,rfl⟩

end Sample

open Sample in
theorem freshRootRunsAsOne :
    freshRoot.statefulNode.inError = false ∧
    [quietly .takeControl userNamed].foldl Controller.obey freshRoot = freshRoot.asOne ⟨⟨"initial",true,user⟩,true⟩ ∧
    ∃ r, (Tree.handle harmony .executeFsmCommand confRequest ([quietly .takeControl userNamed].foldl Controller.obey freshRoot)).result =
      .ok r ∧ r.succeeded = true := by
  obtain ⟨sound,runs⟩ := Controller.freshRunsAsOne freshRootUp
  obtain ⟨same,r,replied,moves⟩ := runs rfl [quietly .takeControl userNamed] (quietly .executeFsmCommand userNamed)
  exact ⟨sound,same,r,replied,moves.mpr (by decide)⟩

end Drunc
