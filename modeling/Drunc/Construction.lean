import Drunc.Booting
import Drunc.Retirement
import Drunc.StatusGathering

/-! How a tree comes about. A controller is built over children that were built before it: it
asks each of them for its status, is in error from the start when one of them is, and takes
control of them with the token that it was started with. `Up` says it of a whole tree: each of
its controllers came out of its constructor, and requests have been made since then, of any
controller in it. A child is lost where nobody knows its address; nothing brings it back. -/
namespace Drunc
open Library (Dict boundOk mappedOk)
open Library.Act
open ControllerConfHandler (findSegment getChildren)

def asStatus : Payload → Option Status
  | .status status => some status
  | _ => none

def initToken : Token := ⟨"","controller_init_token"⟩

/-- What the constructor reads and meets. Between the statuses and taking control everything
around the children may have changed. -/
structure Construction where
  m : ConfModel
  session : Session
  name : String
  token : Token
  net : Network
  schedule : List Nat
  broadcaster : Except Exn (Option KafkaBroadcastHandlerConfiguration)
  configuration : NodeConfiguration
  statuses : Surrounded
  errorStates : Nat → World
  takes : Surrounded
  ready : Option Exn

namespace Construction

def data (s : Construction) : Option Segment := findSegment s.name s.session.segment

def fsm (s : Construction) : Except Exn FSM :=
  match s.data with
  | none => .error (.attributeError "'NoneType' object has no attribute 'controller'")
  | some data => match data.controller.fsm with
    | none => .error (.attributeError "'NoneType' object has no attribute 'states'")
    | some conf => FSM.init conf

def built (s : Construction) : List BuiltChild :=
  match s.data with
  | none => []
  | some data => (getChildren s.net s.m s.session.id (some s.token) data false Dict.empty s.schedule).children

end Construction

namespace Controller
section Init
variable {κ : Type} (kids : ChildInterface κ) (token : Token)

def statusOf (i : Nat) (child : κ) : Except Exn Status := do
  match ← kids.getStatus i child token with
  | none => .error (.attributeError "'NoneType' object has no attribute 'data'")
  | some response => unpackAny response.data (unpackTo "Status" asStatus)

def checkStatus (errorStates : Nat → World) (x : Nat × κ) : Do (Controller κ) Unit := do
  let status ← lift (statusOf kids token x.1 x.2)
  if status.inError then onNode (StatefulNode.toError (errorStates x.1)) else pure ()

def takeChildren (i : Nat) : Do (List κ) Unit
  | [] => ⟨.ok (),[],[]⟩
  | child :: rest =>
      let sent := kids.propagateCommand i child .takeControl none token
      let told : Event := .child (kids.name child) .takeControl none
      match sent.1 with
      | .error e => ⟨.error e,sent.2 :: rest,[told]⟩
      | .ok _ =>
          let later := takeChildren (i+1) rest
          ⟨later.result,sent.2 :: later.state,told :: later.events⟩

def start (s : Construction) (asked taken : ChildInterface κ) : Do (Controller κ) Unit := do
  let c ← read
  let _ ← each (checkStatus asked s.token s.errorStates) (c.childrenNodes.mapIdx fun i child => (i,child))
  zoom childrenNodes (fun c nodes => { c with childrenNodes := nodes }) (takeChildren taken s.token 0)
  match s.ready with
  | some e => raise e
  | none => pure ()

def init (s : Construction) (asked taken : ChildInterface κ) (children : List κ) : Except Exn (Controller κ) := do
  let broadcaster ← s.broadcaster
  let fsm ← s.fsm
  let started := start s asked taken
    ⟨s.name,s.session.id,StatefulNode.init fsm,s.token,children,some "",s.configuration,broadcaster⟩
  started.result.map fun _ => started.state

end Init
end Controller

section Doors
variable [Re]

def Controller.receiveAt : {n : Nat} → List Nat → Visit → Controller (Tree n) → Controller (Tree n)
  | _, [], v, c => c.receive v
  | 0, _ :: _, _, c => c
  | _+1, i :: path, v, c => { c with childrenNodes := c.childrenNodes.mapIdx fun j child =>
      if j = i then
        match child with
        | .grpc name d => .grpc name (Controller.receiveAt path v d)
        | .clientSide child => .clientSide child
        | .restApi child => .restApi child
      else child }

def Controller.receiveEach {n : Nat} (c : Controller (Tree n)) (visits : List (List Nat × Visit)) : Controller (Tree n) :=
  visits.foldl (fun c v => Controller.receiveAt v.1 v.2 c) c

/-- What came out of the constructor of a controller over children that stand for what the
lookups have built, with the requests that the tree has got since. -/
def Controller.Up {n : Nat} (stands : BuiltChild → Tree n → Prop) (allowed : Construction → List (List Nat × Visit) → Prop)
    (root : Controller (Tree n)) : Prop :=
  ∃ s visits children c, allowed s visits ∧ List.Forall₂ stands s.built children ∧
    Controller.init s (Tree.interface n s.statuses) (Tree.interface n s.takes) children = .ok c ∧ root = c.receiveEach visits

def Tree.Stands (allowed : Construction → List (List Nat × Visit) → Prop) : {n : Nat} → BuiltChild → Tree n → Prop
  | 0, _, child => child.elim
  | _+1, .grpc name _, .grpc label controller => label = name ∧ Controller.Up (Tree.Stands allowed) allowed controller
  | _+1, .restApi built _ _, .restApi child => child.name = built.name ∧ child.fsm = built.fsm ∧ child.state = built.state
  | _+1, .clientSide built, .clientSide child => child.name = built.name ∧ child.fsm = built.fsm ∧ child.state = built.state
  | _+1, _, _ => False

end Doors

def Tree.lost : {n : Nat} → Tree n → Bool
  | 0, child => child.elim
  | _+1, .clientSide _ => true
  | _+1, .restApi _ => false
  | _+1, .grpc _ controller => controller.childrenNodes.any Tree.lost

def Controller.lostBelow {n : Nat} (c : Controller (Tree n)) : Bool := c.childrenNodes.any Tree.lost

section Lookups
variable {net : Network} {m : ConfModel} {session : String} {initToken : Option Token} {data : Segment} {node : BuiltChild}

theorem childBuilt {handlers : Handlers} {schedule : List Nat} {withoutExcluded : Bool}
    (mem : node ∈ (getChildren net m session initToken data withoutExcluded handlers schedule).children) :
    (∃ segment ∈ data.segments, ChildNode.getChild net (ControllerConfHandler.wantedSegment m session initToken segment) = .ok node) ∨
    ∃ app ∈ data.applications, ChildNode.getChild net (ControllerConfHandler.wantedApplication m session data app) = .ok node := by
  obtain ⟨t,inside,given⟩ := List.mem_flatMap.mp (ControllerConfHandler.joinedChildren.mem_iff.mp mem)
  have made : t.made = .ok (some node) := by
    unfold ControllerConfHandler.yielded ControllerConfHandler.nodesOf at given
    split at given
    · split at given
      · rename_i same
        rw [same,List.mem_singleton.mp given]
      · contradiction
    · contradiction
  have among := ControllerConfHandler.joinedMade.mem_iff.mp (List.mem_map_of_mem inside)
  rw [made] at among
  rcases List.mem_append.mp among with here | here
  · obtain ⟨segment,inside,same⟩ := List.mem_map.mp here
    unfold ControllerConfHandler.processSegment at same
    split at same
    · cases same
    · obtain ⟨_,found,given⟩ := mappedOk.mp same
      cases given
      exact .inl ⟨segment,inside,found⟩
  · obtain ⟨app,inside,same⟩ := List.mem_map.mp here
    unfold ControllerConfHandler.processApplication at same
    split at same
    · cases same
    · obtain ⟨_,found,given⟩ := mappedOk.mp same
      cases given
      exact .inr ⟨app,inside,found⟩

theorem lostErrored {s : Construction} {child : ClientSideChild} (mem : .clientSide child ∈ s.built) : child.state.errored = true := by
  unfold Construction.built at mem
  split at mem
  · contradiction
  · rcases childBuilt mem with ⟨_,_,found⟩ | ⟨_,_,found⟩
    all_goals
      cases ChildNode.getChildIff.mp found
      rfl

end Lookups

namespace Controller
section Init
variable {κ : Type} {kids asked taken : ChildInterface κ} {token : Token} {s : Construction} {children : List κ} {c : Controller κ}

def ails (kids : ChildInterface κ) (token : Token) (x : Nat × κ) : Bool :=
  match statusOf kids token x.1 x.2 with
  | .ok status => status.inError
  | .error _ => false

def marked (kids : ChildInterface κ) (token : Token) (c : Controller κ) (x : Nat × κ) : Controller κ :=
  { c with statefulNode := { c.statefulNode with inError := c.statefulNode.inError || ails kids token x } }

theorem checkedStatus {errorStates : Nat → World} {x : Nat × κ} {b : Unit}
    (returned : (checkStatus kids token errorStates x c).result = .ok b) :
    (∃ status, statusOf kids token x.1 x.2 = .ok status) ∧ (checkStatus kids token errorStates x c).state = marked kids token c x := by
  obtain ⟨status,told,later⟩ := bindReturned returned
  replace told : statusOf kids token x.1 x.2 = .ok status := told
  refine ⟨⟨status,told⟩,?_⟩
  unfold checkStatus marked ails at *
  rw [told] at returned ⊢
  rw [liftOkBind] at returned ⊢
  dsimp only
  cases ill : status.inError with
  | false => rw [Bool.or_false]; rfl
  | true =>
    rw [ill,if_pos rfl] at returned
    rw [if_pos rfl,Bool.or_true]
    rcases passesEnds (toErrorPasses (w := errorStates x.1) (c := c)) with ⟨e,_,_,raised,_⟩ | ⟨_,_,ended⟩
    · rw [raised] at returned
      contradiction
    · exact ended

theorem markedEach (xs : List (Nat × κ)) (c : Controller κ) : xs.foldl (marked kids token) c =
    { c with statefulNode := { c.statefulNode with inError := c.statefulNode.inError || xs.any (ails kids token) } } := by
  induction xs generalizing c with
  | nil => rw [List.any_nil,Bool.or_false]; rfl
  | cons x rest ih =>
    rw [List.foldl_cons,ih,List.any_cons,← Bool.or_assoc]
    rfl

theorem takenEach {i : Nat} {b : Unit} (returned : (takeChildren taken token i children).result = .ok b) :
    (takeChildren taken token i children).state =
      children.mapIdx fun j child => (taken.propagateCommand (i+j) child .takeControl none token).2 := by
  induction children generalizing i with
  | nil => rfl
  | cons child rest ih =>
    unfold takeChildren at returned ⊢
    dsimp only at returned ⊢
    cases sent : (taken.propagateCommand i child .takeControl none token).1 with
    | error e => rw [sent] at returned; contradiction
    | ok r =>
      rw [sent] at returned
      dsimp only at returned ⊢
      rw [ih returned,List.mapIdx_cons]
      simp only [Nat.add_zero,Nat.add_right_comm,Nat.add_assoc]

structure Inited (s : Construction) (asked taken : ChildInterface κ) (children : List κ) (c : Controller κ) : Prop where
  fsm : s.fsm = .ok c.statefulNode.fsm
  node : c.statefulNode = { StatefulNode.init c.statefulNode.fsm with
    inError := (children.mapIdx fun i child => (i,child)).any (ails asked s.token) }
  statuses : ∀ i child, children[i]? = some child → ∃ status, statusOf asked s.token i child = .ok status
  held : c.actor = s.token
  children : c.childrenNodes = children.mapIdx fun i child => (taken.propagateCommand i child .takeControl none s.token).2

theorem initRuns (built : init s asked taken children = .ok c) : Inited s asked taken children c := by
  obtain ⟨broadcaster,_,later⟩ := boundOk.mp built
  obtain ⟨fsm,found,returned⟩ := boundOk.mp later
  obtain ⟨_,ran,rfl⟩ := mappedOk.mp returned
  unfold start at ran ⊢
  rw [readBind] at ran ⊢
  obtain ⟨_,asking,later⟩ := bindReturned ran
  obtain ⟨each,marks⟩ := eachFolds (f := checkStatus asked s.token s.errorStates) (fun _ _ _ => checkedStatus) asking
  rw [bindOk asking,afterState]
  rw [marks,markedEach] at later ⊢
  obtain ⟨_,taking,readied⟩ := bindReturned later
  rw [bindOk taking,afterState]
  have kept := takenEach taking
  dsimp only at each kept
  have last : ∀ d : Controller κ, ((match s.ready with | some e => raise e | none => pure () : Do (Controller κ) Unit) d).state = d := by
    intro d
    cases s.ready <;> rfl
  rw [last]
  refine ⟨found,rfl,fun i child here => ?_,rfl,?_⟩
  · obtain ⟨bound,rfl⟩ := List.getElem?_eq_some_iff.mp here
    exact each _ (List.mem_mapIdx.mpr ⟨i,bound,rfl⟩)
  · exact kept.trans (by simp only [Nat.zero_add])

end Init
end Controller

section Doors
variable [Re] {n : Nat}

theorem Controller.receiveAtRetires (path : List Nat) (v : Visit) (c : Controller (Tree n)) :
    Controller.Retires Tree.Retires c (Controller.receiveAt path v c) := by
  induction path generalizing n with
  | nil =>
    cases n <;> exact receiveAllRetires c [v]
  | cons i path ih =>
    cases n with
    | zero => exact Controller.retiresRefl Tree.retiresRefl c
    | succ n =>
      refine ⟨restsFrame.children c _,forall₂MapIdxIff.mpr fun j child _ => ?_⟩
      split
      · cases child with
        | grpc name d => exact ih d
        | clientSide child => exact id
        | restApi child => exact id
      · exact Tree.retiresRefl child

theorem Controller.receiveEachRetires (c : Controller (Tree n)) (visits : List (List Nat × Visit)) :
    Controller.Retires Tree.Retires c (c.receiveEach visits) := by
  refine List.foldlRecOn (motive := Controller.Retires Tree.Retires c) visits _ (Controller.retiresRefl Tree.retiresRefl c) ?_
  intro d kept v _
  exact Controller.retiresTrans Tree.retiresTrans kept (Controller.receiveAtRetires v.1 v.2 d)

end Doors

section Reports
variable [Re]

def Tree.ailing (app : Application) : {n : Nat} → Tree n → Bool
  | 0, child => child.elim
  | _+1, .clientSide child => child.state.errored
  | _+1, .restApi child => child.state.errored || !app.pings
  | _+1, .grpc _ controller => controller.statefulNode.inError

theorem Controller.statusHonest {κ : Type} {w : World} {kids : ChildInterface κ} {token : Token} {c : Controller κ} {r : Response}
    {status : Status} (replied : (handle w kids .status ⟨token,none⟩ c).result = .ok r)
    (told : unpackAny r.data (unpackTo "Status" asStatus) = .ok status) : status.inError = c.statefulNode.inError := by
  cases published : w.broadcast .ack with
  | some e =>
    rw [handleUnacknowledged published] at replied
    contradiction
  | none =>
    rw [statusHandled published] at replied
    rcases answeredOk replied with ⟨e,_,rfl⟩ | ⟨returned,_⟩
    · contradiction
    · obtain ⟨own,_,message,_,rfl⟩ := statusOk.mp returned
      cases told
      unfold getStatusMessage at message
      split at message
      · cases message
        rfl
      · split at message
        · contradiction
        · cases message
          rfl

theorem Tree.statusTells {n : Nat} {env : Surrounded} {token : Token} {i : Nat} {child : Tree n} {status : Status}
    (told : Controller.statusOf (Tree.interface n env) token i child = .ok status) :
    status.inError = child.ailing (env [i]).application := by
  obtain ⟨response,replied,later⟩ := boundOk.mp told
  cases response with
  | none => contradiction
  | some r =>
    cases n with
    | zero => exact child.elim
    | succ n =>
      cases child with
      | clientSide child =>
        change (child.getStatus none).map some = .ok (some r) at replied
        unfold ClientSideChild.getStatus at replied
        cases ill : child.state.errored with
        | false => rw [ill] at replied; contradiction
        | true =>
          rw [ill] at replied
          cases replied
          cases later
          exact ill.symm
      | restApi child =>
        change (child.getStatus (some (env [i]).application)).map some = .ok (some r) at replied
        unfold ClientSideChild.getStatus at replied
        cases ill : child.state.errored <;> rw [ill] at replied <;> cases replied <;> cases later
        · exact (by rw [Tree.ailing,ill,Bool.false_or])
        · exact (by rw [Tree.ailing,ill,Bool.true_or])
      | grpc name controller =>
        change ChildNode.getStatus (env [i]) (Tree.interface n (env.below i)) token (.grpc name controller) = .ok (some r) at replied
        rw [ChildNode.getStatus] at replied
        split at replied
        · rename_i sent
          cases replied
          have answered := (ChildNode.sendCommandOk (congrArg Prod.fst sent)).2.1
          exact Controller.statusHonest answered later
        · cases replied
        · cases replied

end Reports

/-- Where a child is lost, every controller above it is in error. -/
def Tree.Disabled : {n : Nat} → Tree n → Prop
  | 0, child => child.elim
  | _+1, .clientSide child => child.state.errored = true
  | _+1, .restApi _ => True
  | _+1, .grpc _ controller => (controller.lostBelow = true → controller.statefulNode.inError = true) ∧
      ∀ child ∈ controller.childrenNodes, Tree.Disabled child

structure Controller.Disabled {n : Nat} (c : Controller (Tree n)) : Prop where
  own : c.lostBelow = true → c.statefulNode.inError = true
  below : ∀ child ∈ c.childrenNodes, child.Disabled

inductive Controller.Within : {n k : Nat} → Controller (Tree n) → Controller (Tree k) → Prop
  | here {n : Nat} (c : Controller (Tree n)) : Within c c
  | inside {n k : Nat} {c : Controller (Tree (n+1))} {name : String} {d : Controller (Tree n)} {e : Controller (Tree k)}
      (mem : ChildNode.grpc name d ∈ c.childrenNodes) (within : Within d e) : Within c e

section Disabled
variable {n : Nat}

theorem anyRelated {α : Type} {R : α → α → Prop} {p : α → Bool} (same : ∀ a b, R a b → p b = p a) {as bs : List α}
    (related : List.Forall₂ R as bs) : bs.any p = as.any p := by
  induction related with
  | nil => rfl
  | cons first _ ih => rw [List.any_cons,List.any_cons,same _ _ first,ih]

theorem Controller.retiresDisabled {c d : Controller (Tree n)} (lost : ∀ a b : Tree n, a.Retires b → b.lost = a.lost)
    (each : ∀ a b : Tree n, a.Retires b → a.Disabled → b.Disabled) (retires : Controller.Retires Tree.Retires c d) :
    d.lostBelow = c.lostBelow ∧ (c.Disabled → d.Disabled) := by
  have same : d.lostBelow = c.lostBelow := anyRelated lost retires.2
  refine ⟨same,fun disabled => ⟨fun there => ?_,fun child mem => ?_⟩⟩
  · have errored := disabled.own (same ▸ there)
    have rests : SameNode c d := retires.1 fun service => by
      rw [service.1] at errored
      contradiction
    exact rests.inError.trans errored
  · obtain ⟨i,bound,rfl⟩ := List.mem_iff_getElem.mp mem
    have before := List.forall₂_iff_get.mp retires.2
    exact each _ _ (before.2 i (before.1 ▸ bound) bound) (disabled.below _ (List.getElem_mem _))

theorem Tree.retiresDisabled (a b : Tree n) (retires : a.Retires b) : b.lost = a.lost ∧ (a.Disabled → b.Disabled) := by
  induction n with
  | zero => exact a.elim
  | succ n ih =>
    cases a <;> cases b <;> first | exact retires.elim | skip
    · exact ⟨rfl,fun errored => retires errored⟩
    · exact ⟨rfl,id⟩
    · obtain ⟨same,keeps⟩ := Controller.retiresDisabled (fun a b r => (ih a b r).1) (fun a b r => (ih a b r).2) retires
      refine ⟨same,fun disabled => ?_⟩
      have kept := keeps ⟨disabled.1,disabled.2⟩
      exact ⟨kept.own,kept.below⟩

theorem Controller.withinDisabled {k : Nat} {root : Controller (Tree n)} {c : Controller (Tree k)} (within : root.Within c)
    (disabled : root.Disabled) : c.Disabled := by
  induction within with
  | here => exact disabled
  | inside mem _ ih =>
    have here := disabled.below _ mem
    exact ih ⟨here.1,here.2⟩

theorem Tree.lostAils {child : Tree n} (disabled : child.Disabled) (lost : child.lost = true) (app : Application) :
    child.ailing app = true := by
  cases n with
  | zero => exact child.elim
  | succ n =>
    cases child with
    | clientSide child => exact disabled
    | restApi child => contradiction
    | grpc name controller => exact disabled.1 lost

variable [Re] {allowed : Construction → List (List Nat × Visit) → Prop}

theorem Controller.initRetires {s : Construction} {children : List (Tree n)} {c : Controller (Tree n)} {asked : ChildInterface (Tree n)}
    (inited : Inited s asked (Tree.interface n s.takes) children c) : List.Forall₂ Tree.Retires children c.childrenNodes := by
  rw [inited.children,forall₂MapIdxIff]
  exact fun i child _ => Tree.commandRetires s.takes .takeControl none s.token child

theorem Controller.initLost {s : Construction} {children : List (Tree n)} {c : Controller (Tree n)} {asked : ChildInterface (Tree n)}
    (inited : Inited s asked (Tree.interface n s.takes) children c) : c.lostBelow = children.any Tree.lost :=
  anyRelated (fun a b r => (Tree.retiresDisabled a b r).1) (initRetires inited)

theorem Controller.initDisabled {s : Construction} {children : List (Tree n)} {c : Controller (Tree n)}
    (inited : Inited s (Tree.interface n s.statuses) (Tree.interface n s.takes) children c)
    (each : ∀ child ∈ children, child.Disabled) : c.Disabled := by
  have taken := initRetires inited
  refine ⟨fun lost => ?_,fun child mem => ?_⟩
  · rw [initLost inited] at lost
    obtain ⟨child,mem,gone⟩ := List.any_eq_true.mp lost
    obtain ⟨i,bound,rfl⟩ := List.mem_iff_getElem.mp mem
    obtain ⟨status,told⟩ := inited.statuses i _ (List.getElem?_eq_getElem bound)
    have ill : status.inError = true := (Tree.statusTells told).trans (Tree.lostAils (each _ mem) gone _)
    have ails : Controller.ails (Tree.interface n s.statuses) s.token (i,children[i]) = true := by
      unfold Controller.ails
      rw [told]
      exact ill
    rw [inited.node]
    exact List.any_eq_true.mpr ⟨_,List.mem_mapIdx.mpr ⟨i,bound,rfl⟩,ails⟩
  · obtain ⟨i,bound,rfl⟩ := List.mem_iff_getElem.mp mem
    have before := List.forall₂_iff_get.mp taken
    exact (Tree.retiresDisabled _ _ (before.2 i (before.1 ▸ bound) bound)).2 (each _ (List.getElem_mem _))

theorem Controller.upDisabled {stands : BuiltChild → Tree n → Prop} {root : Controller (Tree n)} (up : root.Up stands allowed)
    (each : ∀ (s : Construction) built (child : Tree n), built ∈ s.built → stands built child → child.Disabled) : root.Disabled := by
  obtain ⟨s,visits,children,c,_,stand,inited,rfl⟩ := up
  refine (retiresDisabled (fun a b r => (Tree.retiresDisabled a b r).1) (fun a b r => (Tree.retiresDisabled a b r).2)
    (receiveEachRetires c visits)).2 (initDisabled (initRuns inited) fun child mem => ?_)
  obtain ⟨i,bound,rfl⟩ := List.mem_iff_getElem.mp mem
  have same := List.forall₂_iff_get.mp stand
  exact each s _ _ (List.getElem_mem (same.1 ▸ bound)) (same.2 i (same.1 ▸ bound) bound)

theorem Tree.standsDisabled {s : Construction} {built : BuiltChild} {child : Tree n} (mem : built ∈ s.built)
    (stands : child.Stands allowed built) : child.Disabled := by
  induction n generalizing s built with
  | zero => exact child.elim
  | succ n ih =>
    cases built <;> cases child <;> first | exact stands.elim | skip
    · have disabled := Controller.upDisabled stands.2 fun _ _ _ mem stands => ih mem stands
      exact ⟨disabled.own,disabled.below⟩
    · trivial
    · rename_i built child
      change child.state.errored = true
      rw [stands.2.2]
      exact lostErrored mem

end Disabled

namespace Sample

def configuredController (id : String) : RCApplication := { controllerNamed id with fsm := some conf }

def unlistedApplication : OksApplication := ⟨"ru-01","daq_application",[],[],"np04",[],"",none⟩

def subSegment : Segment := .mk "ru" (configuredController "ru-controller") [] [unlistedApplication]

def unlistedSession : Session := ⟨"session",[],.mk "root" (configuredController "root-controller") [subSegment] []⟩

def serene : Surrounded := fun _ => ⟨calm,.up,willing⟩

def constructed (session : Session) (name : String) : Construction where
  m := confModel
  session := session
  name := name
  token := initToken
  net := liveNetwork
  schedule := []
  broadcaster := .ok none
  configuration := .bare name
  statuses := serene
  errorStates _ := calm
  takes := serene
  ready := none

def erredNode : StatefulNode := { StatefulNode.init fsm with inError := true }

def lostChild : Tree 1 := .clientSide { ClientSideChild.init "ru-01" (some fsm) with state := { ClientSideState.init with errored := true } }

def erredSub (actor : Token) : Controller (Tree 1) :=
  ⟨"ru-controller","session",erredNode,actor,[lostChild],some "",.bare "ru-controller",none⟩

def erredRoot (holder : Token) : Controller (Tree 2) :=
  ⟨"root-controller","session",erredNode,initToken,[.grpc "ru-controller" (erredSub holder)],some "",.bare "root-controller",none⟩

def strangerTakes : List Nat × Visit := ([0],⟨serene,.takeControl,⟨stranger,none⟩⟩)

theorem erredSubUp : (erredSub initToken).Up (Tree.Stands fun _ _ => True) fun _ _ => True :=
  ⟨constructed unlistedSession "ru-controller",[],[lostChild],erredSub initToken,trivial,.cons ⟨rfl,rfl,rfl⟩ .nil,rfl,rfl⟩

theorem erredRootUp : (erredRoot stranger).Up (Tree.Stands fun _ _ => True) fun _ _ => True :=
  ⟨constructed unlistedSession "root-controller",[strangerTakes],(erredRoot initToken).childrenNodes,erredRoot initToken,trivial,
    .cons ⟨rfl,erredSubUp⟩ .nil,rfl,rfl⟩

end Sample

end Drunc
