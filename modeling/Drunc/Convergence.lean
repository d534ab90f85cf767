import Drunc.Coverage

/-! The command that nothing disturbs. A whole tree then makes one step of the shared
FSM: every node arrives in the destination, and the responses mirror the tree, one
successful response for each node under its name, brothers in any order. -/
namespace Drunc
open Library (Dict failure value)
open Library.Act

def JsonText.wellFormed : JsonText → Bool
  | .malformed _ => false
  | _ => true

def World.CallbacksSucceed (w : World) : Prop :=
  ∀ side i data args, ∃ out, (w.callback side i data args).result = .ok out ∧ out.serialisable = true

section Sequences
variable {w : World}

theorem sequenceSucceeds (succeed : w.CallbacksSucceed) (side : PreOrPost) (args : Dict String PyObj)
    (sequence : List Callback) (index : Nat) {inputData : PyObj} (written : inputData.serialisable = true) :
    ∃ out, sequenceResult w side args index sequence inputData = .ok out ∧ out.serialisable = true := by
  induction sequence generalizing index inputData with
  | nil => exact ⟨inputData,rfl,written⟩
  | cons callback rest ih =>
    obtain ⟨data,returned,serialisable⟩ := succeed side index inputData args
    obtain ⟨out,run,good⟩ := ih (index+1) serialisable
    refine ⟨out,?_,good⟩
    have step : callbackResult w side args index callback inputData = .ok data := by
      simp [callbackResult,returned,serialisable]
    rw [sequenceResult,step]
    exact run

theorem executeSucceeds (succeed : w.CallbacksSucceed) (side : PreOrPost) (args : Dict String PyObj)
    (sequence : List Callback) {data : JsonText} (wellFormed : data.wellFormed = true) :
    ∃ out, executeResult w side sequence data args = .ok (.json out) := by
  obtain ⟨document,same⟩ : ∃ document, orEmpty data = .json document := by
    cases data with
    | empty => exact ⟨_,rfl⟩
    | malformed text => contradiction
    | json document => exact ⟨document,rfl⟩
  obtain ⟨out,run,written⟩ := sequenceSucceeds succeed side args sequence 0 document.2
  refine ⟨⟨out,written⟩,?_⟩
  unfold executeResult
  rw [same]
  change (sequenceResult w side args 0 sequence document.1 >>= dumps) = _
  rw [run]
  exact dumpsLoaded written

end Sequences

def Tree.Mirrors : {n : Nat} → Response → Tree n → Prop
  | 0, _, child => child.elim
  | _+1, r, .clientSide child => r.name = child.name ∧ r.succeeded = true ∧ r.children = []
  | _+1, r, .restApi child => r.name = child.name ∧ r.succeeded = true ∧ r.children = []
  | _+1, r, .grpc _ controller => r.name = controller.name ∧ r.succeeded = true ∧
      ∃ ordered, r.children.Perm ordered ∧ List.Forall₂ Tree.Mirrors ordered controller.childrenNodes

def Controller.Mirrors {n : Nat} (r : Response) (root : Controller (Tree n)) : Prop :=
  r.name = root.name ∧ r.succeeded = true ∧
    ∃ ordered, r.children.Perm ordered ∧ List.Forall₂ Tree.Mirrors ordered root.childrenNodes

theorem Tree.mirrorsSucceeded {n : Nat} {r : Response} {child : Tree n} (mirrors : child.Mirrors r) :
    r.succeeded = true := by
  cases n with
  | zero => exact child.elim
  | succ n => cases child <;> exact mirrors.2.1

structure Application.Willing (app : Application) : Prop where
  sent : app.send = none
  replied : ∃ r, app.reply = .ok r ∧ r.success = some true

structure Surroundings.Peaceful (s : Surroundings) : Prop where
  quiet : s.world.Quiet
  callbacks : s.world.CallbacksSucceed
  link : s.link = .up
  application : s.application.Willing

structure Controller.ReadyFor (token : Token) (transitions : List Transition) (state : String) (κ : Type)
    (c : Controller κ) : Prop where
  ready : c.Ready transitions state κ
  holder : c.actor = token

structure Controller.Arrived (state : String) (κ : Type) (c : Controller κ) : Prop where
  idle : c.statefulNode.IdleAt state
  sound : c.statefulNode.inError = false

structure ClientSideChild.Arrived (state : String) (child : ClientSideChild) : Prop where
  state : child.state.assumedOperationalState = some state
  idle : child.state.executingCommand = false
  sound : child.state.errored = false

section Converge
variable {transitions : List Transition} {t : Transition} {state : String} {fsmCommand : FSMCommand} {token : Token}

theorem FSM.getTransitionFound {fsm : FSM} (shared : fsm.transitions = transitions) (mem : t ∈ transitions)
    (name : t.name = fsmCommand.commandName) : fsm.getTransition fsmCommand.commandName = .ok t := by
  cases found : fsm.getTransition fsmCommand.commandName with
  | ok u => rw [FSM.getTransitionShared shared mem name found]
  | error e =>
    unfold FSM.getTransition at found
    split at found
    · rename_i empty
      have inside : t ∈ fsm.transitions.filter (fun u => u.name == fsmCommand.commandName) := by
        simp [shared,mem,name]
      rw [empty] at inside
      contradiction
    · contradiction

theorem ClientSideChild.exchangeSucceeds {app : Application} (willing : app.Willing) {data : JsonText}
    {document : { v : PyObj // v.serialisable = true }} (json : data = .json document) (entryState exitState : String) :
    ∃ r, exchange app data (some entryState) (some exitState) = .ok (r,true) := by
  obtain ⟨sent,r,replied,success⟩ := willing
  refine ⟨r,?_⟩
  subst json
  simp [exchange,loads,sent,replied,success,bind,Except.bind]

theorem Controller.decodedShared {κ : Type} {c : Controller κ}
    (found : c.statefulNode.getFsmTransition fsmCommand.commandName = .ok t) :
    decoded fsmCommand c = decodeFsmArguments fsmCommand.arguments t.arguments := by
  unfold decoded StatefulNode.decodeArgumentsOf
  rw [found]
  rfl

theorem Controller.callbacksSucceed {κ : Type} {c : Controller κ} {w : World} (succeed : w.CallbacksSucceed)
    (wellFormed : fsmCommand.data.wellFormed = true) :
    OwnCallbacksSucceed w t fsmCommand c ∧ ∃ document, (childrenFsmCommand w t fsmCommand c).data = .json document := by
  obtain ⟨document,before⟩ := executeSucceeds succeed .pre (value (decoded fsmCommand c))
    (c.statefulNode.fsm.preTransitionSequences t) wellFormed
  have ready : prepared w t fsmCommand c = .ok (.json document) := before
  have json : JsonText.wellFormed (.json document) = true := rfl
  obtain ⟨out,after⟩ := executeSucceeds succeed .post (value (decoded fsmCommand c))
    (c.statefulNode.fsm.postTransitionSequences t) json
  have ended : finalised w t fsmCommand c = .ok (.json out) := by
    unfold finalised
    rw [ready]
    exact after
  exact ⟨⟨by rw [ready]; rfl,by rw [ended]; rfl⟩,document,by rw [childrenFsmCommand,ready]; rfl⟩

structure Converges {n : Nat} (kids : ChildInterface (Tree n)) (fsmCommand : FSMCommand) (token : Token)
    (destination : String) (i : Nat) (child : Tree n) : Prop where
  replies : ∃ r, (kids.propagateCommand i child .executeFsmCommand (some (.fsmCommand fsmCommand)) token).1 = .ok r ∧
    child.Mirrors r
  arrives : (kids.propagateCommand i child .executeFsmCommand (some (.fsmCommand fsmCommand)) token).2.Everywhere
    (Controller.Arrived destination) (ClientSideChild.Arrived destination)

theorem Converges.obeys {n : Nat} {kids : ChildInterface (Tree n)} {destination : String} {i : Nat} {child : Tree n}
    (converges : Converges kids fsmCommand token destination i child) :
    Obeys kids .executeFsmCommand (some (.fsmCommand fsmCommand)) token i child := by
  obtain ⟨r,replied,mirrors⟩ := converges.replies
  exact ⟨r,replied,Tree.mirrorsSucceeded mirrors⟩

variable [Re]

theorem ClientSideChild.readyExpects {child : ClientSideChild} (ready : child.Ready transitions state)
    (mem : t ∈ transitions) (name : t.name = fsmCommand.commandName) (can : t.Executable state) :
    child.Expects fsmCommand (some (t.target state)) := by
  cases hasFsm : child.fsm with
  | none =>
    have same := ready.shares.transitions
    rw [hasFsm] at same
    contradiction
  | some fsm =>
    have shared : fsm.transitions = transitions := by simpa [hasFsm] using ready.shares.transitions
    refine ⟨fsm,t,hasFsm,FSM.getTransitionFound shared mem name,?_⟩
    rw [ready.shares.state]
    exact destinationOfExecutable (shared ▸ mem) can

theorem ClientSideChild.converges {child : ClientSideChild} (ready : child.Ready transitions state)
    (mem : t ∈ transitions) (name : t.name = fsmCommand.commandName) (can : t.Executable state)
    {app : Application} (willing : app.Willing) {document : { v : PyObj // v.serialisable = true }}
    (json : fsmCommand.data = .json document) (token : Token) :
    (∃ r, (propagateCommand propagateFsmCommand .executeFsmCommand (some (.fsmCommand fsmCommand)) token child).result = .ok r ∧
      r.name = child.name ∧ r.succeeded = true ∧ r.children = []) ∧
    (propagateCommand propagateFsmCommand .executeFsmCommand (some (.fsmCommand fsmCommand)) token child).state.Arrived
      (t.target state) ∧
    (∃ r, (propagateCommand (propagateToApplication app) .executeFsmCommand (some (.fsmCommand fsmCommand)) token
        child).result = .ok r ∧ r.name = child.name ∧ r.succeeded = true ∧ r.children = []) ∧
    (propagateCommand (propagateToApplication app) .executeFsmCommand (some (.fsmCommand fsmCommand)) token
      child).state.Arrived (t.target state) := by
  have expects := readyExpects ready mem name can
  obtain ⟨r,exchanged⟩ := exchangeSucceeds willing json state (t.target state)
  rw [propagateExecute,propagateExecute,if_pos ready.included,if_pos ready.included,clientSideRuns expects,
    applicationRuns expects,ready.shares.state,exchanged]
  exact ⟨⟨_,rfl,rfl,rfl,rfl⟩,⟨rfl,rfl,ready.sound⟩,⟨_,rfl,rfl,rfl,rfl⟩,⟨rfl,rfl,ready.sound⟩⟩

section Step
variable {n : Nat} {w : World} {kids : ChildInterface (Tree n)} {c : Controller (Tree n)}

theorem Controller.converges (request : Request) (quiet : w.Quiet) (succeed : w.CallbacksSucceed) (decodes : kids.Decodable)
    (ready : c.ReadyFor request.token transitions state (Tree n)) (mem : t ∈ transitions)
    (name : t.name = fsmCommand.commandName) (can : t.Executable state)
    (data : request.data = some (.fsmCommand fsmCommand)) (wellFormed : fsmCommand.data.wellFormed = true)
    (args : failure (decodeFsmArguments fsmCommand.arguments t.arguments) = none)
    (children : ∀ i child, c.childrenNodes[i]? = some child →
      Converges kids (childrenFsmCommand w t fsmCommand c) request.token (t.target state) i child) :
    (∃ r, (handle w kids .executeFsmCommand request c).result = .ok r ∧ c.Mirrors r) ∧
    (handle w kids .executeFsmCommand request c).state.Throughout (Controller.Arrived (t.target state))
      (ClientSideChild.Arrived (t.target state)) := by
  have found := FSM.getTransitionFound ready.ready.shares.transitions mem name
  have start : Starts c fsmCommand t state := ⟨ready.ready.sound,ready.ready.included,found,ready.ready.idle,can⟩
  obtain ⟨taken,flags⟩ := childFailedObeys decodes w t fsmCommand request.token c
  have completes : Completes w kids request c fsmCommand t state :=
    ⟨quiet _,by simp [admitted,ready.holder,ControllerActor.compareSelf],data,start,
      passesIff.mpr ⟨by rw [decodedShared found]; exact args,(callbacksSucceed succeed wellFormed).1,taken,
        World.quietPublishes quiet⟩,fun _ => quiet _,quiet _⟩
  obtain ⟨result,final⟩ := completedRun completes
  have good : childFailed w kids t fsmCommand request.token c = false := by
    rw [← Bool.not_eq_true,flags]
    rintro ⟨i,child,here,_,disobeys | unpublished⟩
    · exact disobeys (children i child here).obeys
    · exact unpublished (quiet _)
  refine ⟨⟨_,result,rfl,rfl,_,answersOutcomes quiet kids t fsmCommand request.token c,?_⟩,?_⟩
  · refine forall₂MapIdx fun i child here => ?_
    obtain ⟨r,replied,mirrors⟩ := (children i child here).replies
    unfold childOutcome outcome
    rw [replied]
    exact mirrors
  · rw [final]
    refine ⟨⟨⟨rfl,rfl⟩,good⟩,fun child mem => ?_⟩
    change child ∈ childrenMoved w kids t fsmCommand request.token c at mem
    rw [childrenMoved,childrenAfterEach] at mem
    obtain ⟨i,bound,rfl⟩ := List.mem_mapIdx.mp mem
    rw [childAfterStarted (quiet _)]
    exact (children i _ (List.getElem?_eq_getElem bound)).arrives

end Step

theorem Tree.converges {n : Nat} {env : Surrounded} (peaceful : ∀ path, (env path).Peaceful)
    (mem : t ∈ transitions) (name : t.name = fsmCommand.commandName) (can : t.Executable state)
    (args : failure (decodeFsmArguments fsmCommand.arguments t.arguments) = none)
    (json : ∃ document, fsmCommand.data = .json document) {i : Nat} {child : Tree n}
    (ready : child.Everywhere (Controller.ReadyFor token transitions state) (ClientSideChild.Ready transitions state)) :
    Converges (Tree.interface n env) fsmCommand token (t.target state) i child := by
  induction n generalizing env fsmCommand i with
  | zero => exact child.elim
  | succ n ih =>
    obtain ⟨document,json⟩ := json
    cases child with
    | clientSide child =>
      obtain ⟨⟨r,replied,mirrors⟩,arrived,_,_⟩ :=
        ClientSideChild.converges ready mem name can (peaceful [i]).application json token
      exact ⟨⟨r,replied,mirrors⟩,arrived⟩
    | restApi child =>
      obtain ⟨_,_,⟨r,replied,mirrors⟩,arrived⟩ :=
        ClientSideChild.converges ready mem name can (peaceful [i]).application json token
      exact ⟨⟨r,replied,mirrors⟩,arrived⟩
    | grpc label controller =>
      have callbacks := (peaceful [i]).callbacks
      have wellFormed : fsmCommand.data.wellFormed = true := by rw [json]; rfl
      obtain ⟨⟨r,replied,mirrors⟩,arrived⟩ := Controller.converges ⟨token,some (.fsmCommand fsmCommand)⟩
        (peaceful [i]).quiet callbacks (Tree.decodable n (env.below i)) ready.1 mem name can rfl wellFormed args
        fun j child found => ih (fun path => peaceful (i :: path)) (by exact name) (by exact args)
          (Controller.callbacksSucceed callbacks wellFormed).2 (ready.2 child (List.mem_of_getElem? found))
      have sent := ChildNode.sendCommandUp (peaceful [i]).link replied
      refine ⟨⟨r,congrArg Prod.fst sent,mirrors⟩,?_⟩
      have after : ((Tree.interface (n+1) env).propagateCommand i (ChildNode.grpc label controller) .executeFsmCommand
          (some (.fsmCommand fsmCommand)) token).2 = ChildNode.grpc label (controller.handle (env [i]).world
            (Tree.interface n (env.below i)) .executeFsmCommand ⟨token,some (.fsmCommand fsmCommand)⟩).state :=
        congrArg (fun reply : Except Exn Response × Controller (Tree n) => ChildNode.grpc label reply.2) sent
      rw [after]
      exact arrived

theorem Tree.stepsAsOne {n : Nat} {env : Surrounded} (peaceful : ∀ path, (env path).Peaceful) {request : Request}
    {root : Controller (Tree n)}
    (ready : root.Throughout (Controller.ReadyFor request.token transitions state) (ClientSideChild.Ready transitions state))
    (mem : t ∈ transitions) (name : t.name = fsmCommand.commandName) (can : t.Executable state)
    (data : request.data = some (.fsmCommand fsmCommand)) (wellFormed : fsmCommand.data.wellFormed = true)
    (args : failure (decodeFsmArguments fsmCommand.arguments t.arguments) = none) :
    (∃ r, (Tree.handle env .executeFsmCommand request root).result = .ok r ∧ root.Mirrors r) ∧
    (Tree.handle env .executeFsmCommand request root).state.Throughout (Controller.Arrived (t.target state))
      (ClientSideChild.Arrived (t.target state)) :=
  Controller.converges request (peaceful []).quiet (peaceful []).callbacks (Tree.decodable n env) ready.1 mem name can data
    wellFormed args fun _ child found => Tree.converges peaceful mem (by exact name) can (by exact args)
      (Controller.callbacksSucceed (peaceful []).callbacks wellFormed).2 (ready.2 child (List.mem_of_getElem? found))

end Converge

namespace Sample
open Library (Dict)

def obliging : World := ⟨fun _ => none,fun _ _ data _ => ⟨data,.ok (.dict [])⟩,[]⟩

def harmony : Surrounded := fun _ => ⟨obliging,.up,willing⟩

def brokenCommand : FSMCommand := { confCommand with data := .malformed "configured" }

theorem harmonyPeaceful (path : List Nat) : (harmony path).Peaceful where
  quiet _ := rfl
  callbacks _ _ _ _ := ⟨_,rfl,rfl⟩
  link := rfl
  application := ⟨rfl,_,rfl,rfl⟩

theorem deepRootReadyFor : deepRoot.Throughout (Controller.ReadyFor user conf.transitions "initial")
    (ClientSideChild.Ready conf.transitions "initial") := by
  obtain ⟨own,below⟩ := deepRootReady
  refine ⟨⟨own,rfl⟩,List.forall_mem_singleton.mpr ?_⟩
  obtain ⟨sub,app⟩ := below _ (List.mem_singleton_self _)
  exact ⟨⟨sub,rfl⟩,List.forall_mem_singleton.mpr (app _ (List.mem_singleton_self _))⟩

end Sample

open Sample in
theorem brokenDataStops :
    (∀ path, (harmony path).Peaceful) ∧
    deepRoot.Throughout (Controller.ReadyFor user conf.transitions "initial")
      (ClientSideChild.Ready conf.transitions "initial") ∧
    configure ∈ conf.transitions ∧ configure.name = brokenCommand.commandName ∧ configure.Executable "initial" ∧
    failure (decodeFsmArguments brokenCommand.arguments configure.arguments) = none ∧
    ¬ (Tree.handle harmony .executeFsmCommand ⟨user,some (.fsmCommand brokenCommand)⟩ deepRoot).state.Throughout
      (Controller.Arrived "configured") (ClientSideChild.Arrived "configured") :=
  ⟨harmonyPeaceful,deepRootReadyFor,List.mem_singleton_self _,rfl,rfl,rfl,
    fun arrived => absurd arrived.1.idle.operational (by decide)⟩

open Sample in
theorem deepRootStepsAsOne :
    (∃ r, (Tree.handle harmony .executeFsmCommand confRequest deepRoot).result = .ok r ∧ deepRoot.Mirrors r) ∧
    (Tree.handle harmony .executeFsmCommand confRequest deepRoot).state.Throughout (Controller.Arrived "configured")
      (ClientSideChild.Arrived "configured") :=
  Tree.stepsAsOne (t := configure) harmonyPeaceful deepRootReadyFor (List.mem_singleton_self _) rfl rfl rfl rfl rfl

end Drunc
