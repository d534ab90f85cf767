import Drunc.Convergence

/-! The two copies of a state: the controller's own, and the one that it assumes of a
REST application with the same FSM. The node starts in the initial state of the FSM,
the child in one called "initial"; from then on a command moves both or none, unless
it is cut after the application was asked and before the node has changed. -/
namespace Drunc
open Library (Dict failure value firstCut firstCutAppend firstCutMem)
open Library.Act

def ClientSideChild.movedTo (child : ClientSideChild) (state : String) : ClientSideChild :=
  { child with state := { child.state with executingCommand := false, assumedOperationalState := some state } }

theorem executedJson {w : World} {side : PreOrPost} {sequence : List Callback} {data out : JsonText} {args : Dict String PyObj}
    (executed : executeResult w side sequence data args = .ok out) : ∃ document, out = .json document := by
  unfold executeResult at executed
  split at executed
  · contradiction
  · rename_i input _
    cases run : sequenceResult w side args 0 sequence input with
    | error e =>
      rw [run] at executed
      contradiction
    | ok data =>
      rw [run] at executed
      change dumps data = .ok out at executed
      unfold dumps at executed
      split at executed
      · cases executed
        exact ⟨_,rfl⟩
      · contradiction

namespace Controller
variable {κ : Type}

def Agrees [Re] (i : Nat) (c : Controller (ChildNode κ)) : Prop :=
  ∃ child, c.childrenNodes[i]? = some (.restApi child) ∧
    child.state.assumedOperationalState = c.statefulNode.operationalState ∧
    ∀ fsmCommand t state, Starts c fsmCommand t state → child.Expects fsmCommand (some (t.target state))

structure Paired (fsm : FSM) (i : Nat) (c : Controller (ChildNode κ)) (child : ClientSideChild) (state : String) : Prop where
  node : c.statefulNode.fsm = fsm ∧ c.statefulNode.operationalState = some state
  found : c.childrenNodes[i]? = some (.restApi child)
  shares : child.fsm = some fsm
  assumed : child.state.assumedOperationalState = some state
  included : child.state.included = true

/-- What a transition under way publishes from the start of the child's thread until the
new state is stored. -/
def Delivers (w : World) (i : Nat) : Prop :=
  ∀ site ∈ [Site.childStart i,.subState .propagated,.subState .executing,.subState .terminated,.operationalState],
    w.broadcast site = none

theorem beforeKeeps {w : World} {c : Controller (ChildNode κ)} {t : Transition} {fsmCommand : FSMCommand} {s : String} {e : Exn} {h : Halt (ChildNode κ)}
    (cut : firstCut (checkpointsBefore w t fsmCommand c s) = some (e,h)) : h.node.state = s ∧ h.children = c.childrenNodes := by
  have mem := firstCutMem cut
  simp only [checkpointsBefore,List.mem_cons,List.not_mem_nil,or_false,Prod.mk.injEq] at mem
  rcases mem with ⟨_,rfl⟩ | ⟨_,rfl⟩ | ⟨_,rfl⟩ | ⟨_,rfl⟩ | ⟨_,rfl⟩ | ⟨_,rfl⟩ <;> exact ⟨rfl,rfl⟩

theorem startedPaired {fsm : FSM} {i : Nat} {c : Controller (ChildNode κ)} (initial : fsm.initialState = "initial") (started : Started fsm c) {name : String}
    (found : c.childrenNodes[i]? = some (.restApi (.init name (some fsm)))) :
    Paired fsm i c (.init name (some fsm)) "initial" := by
  obtain ⟨inError,node⟩ := started
  refine ⟨?_,found,rfl,rfl,rfl⟩
  rw [node,← initial]
  exact ⟨rfl,rfl⟩

variable [Re] {fsm : FSM} {i : Nat} {c : Controller (ChildNode κ)} {child : ClientSideChild} {state : String}
  {w : World} {here : Nat → Surroundings} {below : Nat → ChildInterface κ} {t : Transition} {fsmCommand : FSMCommand}
  {token : Token}

theorem startsExpects (paired : Paired fsm i c child state) {s : String} (start : Starts c fsmCommand t s) :
    child.Expects fsmCommand (some (t.target state)) := by
  obtain rfl : s = state := Option.some.inj (start.idle.operational.symm.trans paired.node.2)
  have found : fsm.getTransition fsmCommand.commandName = .ok t := paired.node.1 ▸ start.found
  refine ⟨fsm,t,paired.shares,found,?_⟩
  rw [paired.assumed]
  exact destinationOfExecutable (gotTransition found).1 start.can

theorem pairedAgrees (paired : Paired fsm i c child state) : Agrees i c :=
  ⟨child,paired.found,paired.assumed.trans paired.node.2.symm,fun _ _ _ start => by
    have expects := startsExpects paired start
    rwa [Option.some.inj (start.idle.operational.symm.trans paired.node.2)]⟩

theorem decodableChildren (here : Nat → Surroundings) (below : Nat → ChildInterface κ) :
    (ChildNode.interface here below).Decodable := fun _ _ _ _ _ replied => (ChildNode.replies replied).1

theorem childMoves (paired : Paired fsm i c child state) {s : String} (start : Starts c fsmCommand t s)
    (willing : (here i).application.Willing) (started : w.broadcast (.childStart i) = none)
    (prepares : failure (prepared w t fsmCommand c) = none) :
    (childrenMoved w (ChildNode.interface here below) t fsmCommand token c)[i]? =
      some (.restApi (child.movedTo (t.target state))) := by
  obtain ⟨document,json⟩ : ∃ document, (childrenFsmCommand w t fsmCommand c).data = .json document := by
    unfold childrenFsmCommand
    cases executed : prepared w t fsmCommand c with
    | error e =>
      rw [executed] at prepares
      contradiction
    | ok data => exact executedJson executed
  have expects : child.Expects (childrenFsmCommand w t fsmCommand c) (some (t.target state)) :=
    ⟨(startsExpects paired start).expected⟩
  obtain ⟨r,exchanged⟩ := ClientSideChild.exchangeSucceeds willing json state (t.target state)
  have moves : (ClientSideChild.propagateCommand (ClientSideChild.propagateToApplication (here i).application)
      .executeFsmCommand (some (.fsmCommand (childrenFsmCommand w t fsmCommand c))) token child).state =
        child.movedTo (t.target state) := by
    rw [ClientSideChild.propagateExecute,if_pos paired.included,ClientSideChild.applicationRuns expects,paired.assumed,
      exchanged]
    rfl
  exact (movedChild paired.found started).trans (congrArg (fun a => some (ChildNode.restApi a)) moves)

theorem afterMoved {kids : ChildInterface (ChildNode κ)} (decodes : kids.Decodable) {s : String} (delivers : Delivers w i)
    {e : Exn} {h : Halt (ChildNode κ)} (cut : firstCut (checkpointsAfter w kids t fsmCommand token c s) = some (e,h)) :
    h.node.state = t.target s ∧ h.children = childrenMoved w kids t fsmCommand token c := by
  have taken := (childFailedObeys decodes w t fsmCommand token c).1
  have published : ∀ site ∈ [Site.subState .propagated,.subState .executing,.subState .terminated,.operationalState],
      w.broadcast site = none := fun site mem => delivers site (List.mem_cons_of_mem _ mem)
  have mem := firstCutMem cut
  simp only [List.forall_mem_cons] at published
  simp only [checkpointsAfter,taken,published,List.mem_cons,List.not_mem_nil,or_false,Prod.mk.injEq,reduceCtorEq,
    false_and,false_or] at mem
  rcases mem with ⟨_,rfl⟩ | ⟨_,rfl⟩ | ⟨_,rfl⟩ <;> exact ⟨rfl,rfl⟩

theorem carriedOutPaired (paired : Paired fsm i c child state) {s : String} (start : Starts c fsmCommand t s)
    (willing : (here i).application.Willing) (delivers : Delivers w i) {result : Except Exn Response}
    {d : Controller (ChildNode κ)}
    (run : CarriedOut w (ChildNode.interface here below) t fsmCommand token c s result d) :
    ∃ after state, Paired fsm i d after state := by
  obtain rfl : s = state := Option.some.inj (start.idle.operational.symm.trans paired.node.2)
  have arrives : ∀ d : Controller (ChildNode κ), firstCut (checkpointsBefore w t fsmCommand c s) = none →
      d.statefulNode.fsm = c.statefulNode.fsm → d.statefulNode.operationalState = some (t.target s) →
      d.childrenNodes = childrenMoved w (ChildNode.interface here below) t fsmCommand token c →
      ∃ after state, Paired fsm i d after state := by
    intro d uncut kept gone children
    have prepares := Library.firstCutNone.mp uncut (failure (prepared w t fsmCommand c),⟨⟨s,.preparing⟩,c.childrenNodes⟩)
      (by simp [checkpointsBefore])
    refine ⟨child.movedTo (t.target s),_,⟨kept.trans paired.node.1,gone⟩,?_,paired.shares,rfl,paired.included⟩
    rw [children]
    exact childMoves paired start willing (delivers _ List.mem_cons_self) prepares
  have through : firstCut (checkpoints w (ChildNode.interface here below) t fsmCommand token c s) = none →
      firstCut (checkpointsBefore w t fsmCommand c s) = none := fun uncut =>
    Library.firstCutNone.mpr fun x mem => Library.firstCutNone.mp uncut x (List.mem_append_left _ mem)
  cases run with
  | @cut e h cut =>
    unfold checkpoints at cut
    rw [firstCutAppend] at cut
    cases before : firstCut (checkpointsBefore w t fsmCommand c s) with
    | some pair =>
      rw [before,Option.some_or,Option.some.injEq] at cut
      subst cut
      obtain ⟨stays,same⟩ := beforeKeeps before
      exact ⟨child,s,⟨paired.node.1,congrArg some stays⟩,by rw [← paired.found]; exact congrArg (·[i]?) same,
        paired.shares,paired.assumed,paired.included⟩
    | none =>
      rw [before,Option.none_or] at cut
      obtain ⟨gone,same⟩ := afterMoved (decodableChildren here below) delivers cut
      exact arrives _ before rfl (congrArg some gone) same
  | succeeded uncut => exact arrives _ (through uncut) rfl rfl rfl
  | flagged uncut => exact arrives _ (through uncut) rfl rfl rfl
  | unflagged uncut => exact arrives _ (through uncut) rfl rfl rfl

structure Commanded (κ : Type) where
  world : World
  here : Nat → Surroundings
  below : Nat → ChildInterface κ
  request : Request

def executed (c : Controller (ChildNode κ)) (r : Commanded κ) : Controller (ChildNode κ) :=
  c.serve ⟨r.world,ChildNode.interface r.here r.below,.executeFsmCommand,r.request⟩

theorem executedPaired (paired : Paired fsm i c child state) (r : Commanded κ) (willing : (r.here i).application.Willing)
    (delivers : Delivers r.world i) : ∃ after state, Paired fsm i (c.executed r) after state := by
  unfold executed serve
  rcases handleState r.world (ChildNode.interface r.here r.below) .executeFsmCommand r.request c with same | same
  · rw [same]
    exact ⟨child,state,paired⟩
  · rw [same]
    by_cases holds : ∃ fsmCommand, r.request.data = some (.fsmCommand fsmCommand)
    · obtain ⟨fsmCommand,data⟩ := holds
      rw [unpackedFsmCommand data]
      by_cases starts : ∃ t s, Starts c fsmCommand t s
      · obtain ⟨t,s,start⟩ := starts
        exact carriedOutPaired paired start willing delivers (startsRun r.world _ r.request.token start)
      · rw [(refuses starts).1]
        exact ⟨child,state,paired⟩
    · rw [unpackedOther fun fsmCommand data => holds ⟨fsmCommand,data⟩]
      exact ⟨child,state,paired⟩

theorem assumedStateAgreesIff (fsm : FSM) (κ : Type) :
    (∀ (c : Controller (ChildNode κ)) i name, Started fsm c →
      c.childrenNodes[i]? = some (.restApi (.init name (some fsm))) → ∀ history : List (Commanded κ),
      (∀ r ∈ history, (r.here i).application.Willing ∧ Delivers r.world i) → Agrees i (history.foldl executed c)) ↔
    fsm.initialState = "initial" := by
  constructor
  · intro agrees
    obtain ⟨child,found,same,_⟩ := agrees
      { name := "", session := "", statefulNode := StatefulNode.init fsm, actor := Token.unset,
        childrenNodes := [.restApi (.init "" (some fsm))] } 0 "" ⟨false,rfl⟩ rfl [] (by simp)
    cases found
    exact (Option.some.inj same).symm
  · intro initial c i name started found history cooperative
    have start : ∃ child state, Paired fsm i c child state := ⟨_,_,startedPaired initial started found⟩
    obtain ⟨child,state,paired⟩ := List.foldlRecOn (motive := fun d => ∃ child state, Paired fsm i d child state)
      history executed start fun d ⟨child,state,paired⟩ r mem =>
        executedPaired paired r (cooperative r mem).1 (cooperative r mem).2
    exact pairedAgrees paired

end Controller

namespace Sample
open Library (Dict)

def awake : FSM :=
  { initialState := "none", states := ["none","configured"], transitions := [⟨"conf","none","configured",[],""⟩],
    preTransitionSequences := fun _ => [], postTransitionSequences := fun _ => [], unique := by decide }

def awakeRoot : Controller (ChildNode Empty) :=
  { root [ChildNode.restApi (.init "app" (some awake))] with statefulNode := StatefulNode.init awake }

def confCommanded : Controller.Commanded Empty :=
  ⟨calm,fun _ => ⟨calm,.up,willing⟩,fun _ => childless,confRequest⟩

def assumed : ChildNode Empty → Option String
  | .restApi child => child.state.assumedOperationalState
  | _ => none

end Sample

open Sample in
theorem awakeDisagrees :
    Controller.Started awake awakeRoot ∧ awakeRoot.childrenNodes[0]? = some (.restApi (.init "app" (some awake))) ∧
    (∀ r ∈ [confCommanded], (r.here 0).application.Willing ∧ Controller.Delivers r.world 0) ∧
    ¬ Controller.Agrees 0 ([confCommanded].foldl Controller.executed awakeRoot) := by
  refine ⟨⟨false,rfl⟩,rfl,?_,?_⟩
  · rintro r mem
    obtain rfl := List.mem_singleton.mp mem
    exact ⟨⟨rfl,_,rfl,rfl⟩,fun _ _ => rfl⟩
  · rintro ⟨child,found,same,_⟩
    have gone : ([confCommanded].foldl Controller.executed awakeRoot).statefulNode.operationalState = some "configured" := by
      decide
    have stays : ([confCommanded].foldl Controller.executed awakeRoot).childrenNodes[0]?.bind assumed = some "initial" := by
      decide
    rw [found] at stays
    rw [gone] at same
    exact absurd (stays.symm.trans same) (by decide)

end Drunc
