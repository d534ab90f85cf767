import Drunc.Interruption
import Drunc.Inclusion
import Drunc.Library.Runs

/-! Nodes that are out of service. A controller is in service while it is idle and not in error.
Only an FSM command moves a node, and it starts on a node in service alone; nothing in the program
takes a node out of its error or out of a sub-state that a cut transition has left. `Retires` says
what a tree keeps of those nodes, whatever is asked of its root. -/
namespace Drunc
open Library (firstCut Along)
open Library.Act

namespace Controller
variable {κ : Type}

def InService (c : Controller κ) : Prop := c.statefulNode.inError = false ∧ c.statefulNode.Idle
instance (c : Controller κ) : Decidable c.InService := by unfold InService; infer_instance

structure SameNode (c d : Controller κ) : Prop where
  fsm : d.statefulNode.fsm = c.statefulNode.fsm
  operationalState : d.statefulNode.operationalState = c.statefulNode.operationalState
  operationalSubState : d.statefulNode.operationalSubState = c.statefulNode.operationalSubState
  inError : d.statefulNode.inError = c.statefulNode.inError

def Rests (c d : Controller κ) : Prop := ¬ c.InService → SameNode c d

theorem sameNodeRefl (c : Controller κ) : SameNode c c := ⟨rfl,rfl,rfl,rfl⟩

theorem sameNodeTrans {c d e : Controller κ} (first : SameNode c d) (second : SameNode d e) : SameNode c e :=
  ⟨second.fsm.trans first.fsm,second.operationalState.trans first.operationalState,
    second.operationalSubState.trans first.operationalSubState,second.inError.trans first.inError⟩

theorem sameNodeService {c d : Controller κ} (same : SameNode c d) : d.InService ↔ c.InService := by
  unfold InService StatefulNode.Idle
  rw [same.inError,same.operationalSubState,same.operationalState]

theorem restsTrans (c d e : Controller κ) (first : Rests c d) (second : Rests d e) : Rests c e := fun out =>
  have same := first out
  sameNodeTrans same (second fun service => out ((sameNodeService same).mp service))

theorem restsFrame : Frame (@Rests κ) :=
  ⟨fun c _ => sameNodeRefl c,restsTrans,fun _ _ _ => ⟨rfl,rfl,rfl,rfl⟩,fun _ _ _ => ⟨rfl,rfl,rfl,rfl⟩⟩

theorem describeState (w : World) (kids : ChildInterface κ) (token : Token) (c : Controller κ) :
    (describe w kids token c).state = c ∨ (describe w kids token c).state = c.asked w kids .describe token := by
  have runs : Passes (describe w kids token) c [(w.broadcast .propagation,c)]
      (c.respond none (.description c.description) .executedSuccessfully
        (collected w kids .describe none token c.childrenNodes)) (c.asked w kids .describe token) :=
    passesRead (passesBind propagateRuns rfl passesPure)
  rcases passesEnds runs with ⟨e,kept,cut,_,state⟩ | ⟨_,_,state⟩
  · obtain ⟨_,rfl⟩ : some e = w.broadcast .propagation ∧ kept = c := by simpa using Library.firstCutMem cut
    exact .inl state
  · exact .inr state

theorem sameNodeFrame : Frame (@SameNode κ) :=
  ⟨sameNodeRefl,fun _ _ _ => sameNodeTrans,fun _ _ => ⟨rfl,rfl,rfl,rfl⟩,fun _ _ => ⟨rfl,rfl,rfl,rfl⟩⟩

section Requests
variable [Re] {w : World} {kids : ChildInterface κ} {command : Command} {request : Request} {c : Controller κ}
  {fsmCommand : FSMCommand} {t : Transition} {state : String}

theorem startsInService (start : Starts c fsmCommand t state) : c.InService :=
  ⟨start.sound,start.idle.subState.trans start.idle.operational.symm⟩

theorem handleRests (w : World) (kids : ChildInterface κ) (command : Command) (request : Request) :
    Leaves Rests (handle w kids command request) := by
  intro c
  have executes : ∀ fsmCommand, Leaves Rests (executeFsmCommand w kids fsmCommand request.token) := by
    intro fsmCommand d out
    rw [(refuses fun ⟨t,state,start⟩ => out (startsInService start)).1]
    exact sameNodeRefl d
  rcases handleState w kids command request c with same | same
  · rw [same]
    exact restsFrame.refl c
  · rw [same]
    exact restsFrame.unpacked (fun _ => executes) (fun _ _ _ _ => ⟨rfl,rfl,rfl,rfl⟩) c

theorem readsState (reads : (endpoint command).action = .read) (w : World) (kids : ChildInterface κ) (request : Request)
    (c : Controller κ) : (handle w kids command request c).state = c ∨ command = .describe ∧
      (handle w kids command request c).state = c.asked w kids command request.token := by
  have refl : ∀ c : Controller κ, c = c := fun _ => rfl
  have trans : ∀ c d e : Controller κ, c = d → d = e → c = e := fun _ _ _ => Eq.trans
  rcases handleState w kids command request c with same | same
  · exact .inl same
  · rw [same]
    cases command with
    | status =>
      have kept : Leaves (Eq : Controller κ → Controller κ → Prop) (status kids request.token) :=
        leavesBind trans (leavesRead refl) fun _ => leavesBind trans (leavesLift refl _) fun _ =>
          leavesBind trans (leavesLift refl _) fun _ => leavesPure refl _
      exact .inl (kept c).symm
    | describe => exact (describeState w kids request.token c).imp_right (And.intro rfl)
    | describeFsm =>
      unfold unpacked unpackRequestDataTo
      cases unpackAny request.data (unpackTo "PlainText" asPlainText) with
      | error e => exact .inl rfl
      | ok key =>
        have kept : Leaves (Eq : Controller κ → Controller κ → Prop) (describeFsm key) :=
          leavesBind trans (leavesRead refl) fun _ => leavesBind trans (leavesLift refl _) fun _ => leavesPure refl _
        exact .inl (kept c).symm
    | whoIsInCharge => exact .inl rfl
    | _ => contradiction

theorem checkpointChildren : ∀ x ∈ checkpoints w kids t fsmCommand request.token c state,
    x.2.children = c.childrenNodes ∨ x.2.children = childrenMoved w kids t fsmCommand request.token c := by
  simp [checkpoints,checkpointsBefore,checkpointsAfter]

theorem inclusionChildren (w : World) (kids : ChildInterface κ) (flag : Bool) (request : Request) (c : Controller κ) :
    (handle w kids (.including flag) request c).state.childrenNodes = c.childrenNodes ∨
    (handle w kids (.including flag) request c).state.childrenNodes =
      childrenAfter w kids (.including flag) none request.token c.childrenNodes := by
  rcases inclusionHandled w kids flag request c with ⟨_,same⟩ | ⟨_,_,same,_⟩ | ⟨_,_,result,ends,_⟩
  · exact .inl (by rw [same])
  · exact .inl (by rw [same])
  · generalize (handle w kids (.including flag) request c).state = after at ends ⊢
    cases ends with
    | unasked => exact .inl rfl
    | refused => exact .inr rfl
    | changed => exact .inr rfl

theorem executeChildren (w : World) (kids : ChildInterface κ) (request : Request) (c : Controller κ) :
    (handle w kids .executeFsmCommand request c).state.childrenNodes = c.childrenNodes ∨
    ∃ data, (handle w kids .executeFsmCommand request c).state.childrenNodes =
      childrenAfter w kids .executeFsmCommand data request.token c.childrenNodes := by
  by_cases starts : ∃ fsmCommand t state, w.broadcast .ack = none ∧ admitted .executeFsmCommand request c = true ∧
      request.data = some (.fsmCommand fsmCommand) ∧ Starts c fsmCommand t state
  · obtain ⟨fsmCommand,t,state,published,accepted,data,start⟩ := starts
    have run := startsRun w kids request.token start
    rw [handleAdmitted published accepted,unpackedFsmCommand data]
    dsimp only
    generalize (executeFsmCommand w kids fsmCommand request.token c).result = result,
      (executeFsmCommand w kids fsmCommand request.token c).state = after at run ⊢
    cases run with
    | cut here => exact (checkpointChildren _ (Library.firstCutMem here)).imp_right fun moved => ⟨_,moved⟩
    | succeeded => exact .inr ⟨_,rfl⟩
    | flagged => exact .inr ⟨_,rfl⟩
    | unflagged => exact .inr ⟨_,rfl⟩
  · exact .inl (by rw [unstarted starts])

/-- Whatever a request does, it asks each child at most once, and with its own command. -/
theorem handleChildren (w : World) (kids : ChildInterface κ) (command : Command) (request : Request) (c : Controller κ) :
    (handle w kids command request c).state.childrenNodes = c.childrenNodes ∨
    ∃ data, (handle w kids command request c).state.childrenNodes =
      childrenAfter w kids command data request.token c.childrenNodes := by
  have reads : ∀ {command}, (endpoint command).action = .read →
      (handle w kids command request c).state.childrenNodes = c.childrenNodes ∨
      ∃ data, (handle w kids command request c).state.childrenNodes =
        childrenAfter w kids command data request.token c.childrenNodes := fun reads =>
    (readsState reads w kids request c).imp (congrArg childrenNodes) fun asked => ⟨none,congrArg childrenNodes asked.2⟩
  have handsOver : ∀ {command : Command}, command.HandsOver →
      (handle w kids command request c).state.childrenNodes = c.childrenNodes ∨
      ∃ data, (handle w kids command request c).state.childrenNodes =
        childrenAfter w kids command data request.token c.childrenNodes := by
    intro command handsOver
    rcases handsOverState w kids handsOver request c with same | same | same
    · exact .inl (by rw [same])
    · exact .inl (by rw [same])
    · exact .inr ⟨none,by rw [same]⟩
  match command with
  | .status | .describe | .describeFsm | .whoIsInCharge => exact reads rfl
  | .takeControl => exact handsOver (.inl rfl)
  | .surrenderControl => exact handsOver (.inr rfl)
  | .include => exact (inclusionChildren w kids true request c).imp_right fun asked => ⟨none,asked⟩
  | .exclude => exact (inclusionChildren w kids false request c).imp_right fun asked => ⟨none,asked⟩
  | .executeFsmCommand => exact executeChildren w kids request c

theorem retiredRefuses (out : ¬ c.InService) : (handle w kids .executeFsmCommand request c).state = c ∧
    (∀ r, (handle w kids .executeFsmCommand request c).result = .ok r → r.succeeded = false) ∧
    ∀ e ∈ (handle w kids .executeFsmCommand request c).events, e.outward = false := by
  have starts : ∀ fsmCommand, ¬ ∃ t state, Starts c fsmCommand t state := fun _ ⟨_,_,start⟩ => out (startsInService start)
  refine ⟨unstarted fun ⟨fsmCommand,t,state,_,_,_,start⟩ => starts fsmCommand ⟨t,state,start⟩,fun r replied => ?_,?_⟩
  · rw [← Bool.not_eq_true]
    intro succeeded
    obtain ⟨fsmCommand,t,state,completes,_⟩ := (executeHonest replied).complete succeeded
    exact starts fsmCommand ⟨t,state,completes.start⟩
  · cases published : w.broadcast .ack with
    | some e =>
      rw [handleUnacknowledged published]
      simp [Event.outward]
    | none =>
      cases accepted : admitted .executeFsmCommand request c with
      | false =>
        rw [handleDeclined published accepted]
        simp [Event.outward]
      | true =>
        have told : ∀ result, ∀ e ∈ announced (endpoint .executeFsmCommand) request result, e.outward = false := by
          intro result
          cases result <;> simp [announced,Event.outward]
        have silent : (unpacked w kids c.servicer .executeFsmCommand request c).events = [] := by
          by_cases holds : ∃ fsmCommand, request.data = some (.fsmCommand fsmCommand)
          · obtain ⟨fsmCommand,data⟩ := holds
            obtain ⟨result,_,run⟩ := refusedRun w kids request.token (starts fsmCommand)
            rw [unpackedFsmCommand data,run]
          · rw [unpackedOther fun fsmCommand data => holds ⟨fsmCommand,data⟩]
            rfl
        rw [handleAdmitted published accepted,silent]
        intro e mem
        rcases List.mem_cons.mp mem with rfl | later
        · rfl
        · exact told _ e later

/-- An FSM command that takes its node out of service: its transition starts, and is either cut where
the sub-state is not the state, or comes to its end with a child that failed. -/
def Derails (c : Controller κ) (r : Round κ) : Prop :=
  r.command = .executeFsmCommand ∧ ∃ fsmCommand t state, r.world.broadcast .ack = none ∧
    admitted .executeFsmCommand r.request c = true ∧ r.request.data = some (.fsmCommand fsmCommand) ∧
    Starts c fsmCommand t state ∧
    ((∃ e h, firstCut (checkpoints r.world r.kids t fsmCommand r.request.token c state) = some (e,h) ∧
        StatefulNode.subStateAt t h.node ≠ h.node.state) ∨
      firstCut (checkpoints r.world r.kids t fsmCommand r.request.token c state) = none ∧
        childFailed r.world r.kids t fsmCommand r.request.token c = true ∧ r.world.broadcast .errorState = none)

theorem carriedOutInService {token : Token} {result : Except Exn Response} {d : Controller κ}
    (run : CarriedOut w kids t fsmCommand token c state result d) (sound : c.statefulNode.inError = false) :
    ¬ d.InService ↔ (∃ e h, firstCut (checkpoints w kids t fsmCommand token c state) = some (e,h) ∧
        StatefulNode.subStateAt t h.node ≠ h.node.state) ∨
      firstCut (checkpoints w kids t fsmCommand token c state) = none ∧
        childFailed w kids t fsmCommand token c = true ∧ w.broadcast .errorState = none := by
  have idle : (moved w kids t fsmCommand token c state).InService := ⟨sound,movedIdle⟩
  cases run with
  | @cut e h here =>
    have flag : (c.halted t h).statefulNode.inError = false := sound
    simp [InService,flag,haltedIdleIff,here]
  | succeeded through good => simp [through,good,idle]
  | flagged through bad published => simp [through,bad,published,InService,erred]
  | unflagged through bad unpublished => simp [through,bad,unpublished,idle]

theorem serveInService (c : Controller κ) (r : Round κ) : (c.serve r).InService ↔ c.InService ∧ ¬ Derails c r := by
  obtain ⟨w,kids,command,request⟩ := r
  by_cases service : c.InService
  · rw [and_iff_right service]
    by_cases fsm : command = .executeFsmCommand
    · subst fsm
      by_cases starts : ∃ fsmCommand t state, w.broadcast .ack = none ∧ admitted .executeFsmCommand request c = true ∧
          request.data = some (.fsmCommand fsmCommand) ∧ Starts c fsmCommand t state
      · obtain ⟨fsmCommand,t,state,published,accepted,data,start⟩ := starts
        have ended := carriedOutInService (startsRun w kids request.token start) start.sound
        unfold serve
        rw [handleAdmitted published accepted,unpackedFsmCommand data,← not_iff_not,not_not]
        refine ended.trans ⟨fun bad => ⟨rfl,fsmCommand,t,state,published,accepted,data,start,bad⟩,?_⟩
        rintro ⟨_,other,u,there,_,_,again,begun,bad⟩
        obtain rfl : fsmCommand = other := by simpa using data.symm.trans again
        obtain ⟨rfl,rfl⟩ := startsUnique start begun
        exact bad
      · unfold serve
        rw [unstarted starts]
        refine iff_of_true service ?_
        rintro ⟨_,fsmCommand,t,state,published,accepted,data,start,_⟩
        exact starts ⟨fsmCommand,t,state,published,accepted,data,start⟩
    · have same : SameNode c ((⟨w,kids,command,request⟩ : Round κ) |> c.serve) := by
        unfold serve
        rcases handleState w kids command request c with kept | kept
        · rw [kept]
          exact sameNodeRefl c
        · rw [kept]
          exact sameNodeFrame.unpacked (fun execute => absurd execute fsm) (fun _ _ _ => ⟨rfl,rfl,rfl,rfl⟩) c
      exact iff_of_true ((sameNodeService same).mpr service) fun derails => fsm derails.1
  · have rests := handleRests w kids command request c service
    exact iff_of_false (fun after => service ((sameNodeService rests).mp after)) fun both => service both.1

theorem inServiceIff (c : Controller κ) (history : List (Round κ)) :
    (c.serveAll history).InService ↔ c.InService ∧ Along serve (fun c r => ¬ Derails c r) c history := by
  unfold serveAll
  induction history generalizing c with
  | nil => simp [Along]
  | cons r rest ih =>
    rw [List.foldl_cons,ih,serveInService,and_assoc]
    rfl

end Requests
end Controller

def ClientSideChild.Retires (a b : ClientSideChild) : Prop := a.state.errored = true → b.state.errored = true

namespace ClientSideChild
section Commands
variable {execute : FSMCommand → Token → Do ClientSideChild Response} {child : ClientSideChild}

theorem commandRetires (executes : ∀ fsmCommand token, child.Retires (execute fsmCommand token child).state) (command : Command)
    (data : Option Payload) (token : Token) : child.Retires (propagateCommand execute command data token child).state := by
  unfold propagateCommand
  rw [readBind]
  match command with
  | .include | .exclude => exact id
  | .status | .describe | .describeFsm | .takeControl | .surrenderControl | .whoIsInCharge | .executeFsmCommand =>
    dsimp only
    split
    · cases fsmCommandOf data <;> exact id
    · first
      | exact id
      | cases fsmCommandOf data with
        | error e => exact id
        | ok fsmCommand => exact executes fsmCommand token

variable [Re]

theorem executesRetire (app : Application) (fsmCommand : FSMCommand) (token : Token) :
    child.Retires (propagateFsmCommand fsmCommand token child).state ∧
    child.Retires (propagateToApplication app fsmCommand token child).state := by
  rcases expectsOrRaises child fsmCommand with ⟨exitState,expects⟩ | ⟨e,raises⟩
  · rw [clientSideRuns expects,applicationRuns expects]
    refine ⟨id,?_⟩
    split
    · exact fun _ => rfl
    · exact fun _ => rfl
    · exact id
  · obtain ⟨assumed,sent⟩ := raises app token
    rw [assumed,sent]
    exact ⟨id,id⟩

end Commands
end ClientSideChild

def Controller.Retires {κ : Type} (below : κ → κ → Prop) (a b : Controller κ) : Prop :=
  Controller.Rests a b ∧ List.Forall₂ below a.childrenNodes b.childrenNodes

def Tree.Retires : {n : Nat} → Tree n → Tree n → Prop
  | 0, child, _ => child.elim
  | _+1, .clientSide a, .clientSide b => a.Retires b
  | _+1, .restApi a, .restApi b => a.Retires b
  | _+1, .grpc _ a, .grpc _ b => Controller.Retires Tree.Retires a b
  | _+1, _, _ => False

structure Visit where
  env : Surrounded
  command : Command
  request : Request

section Trees
variable {n : Nat}

theorem Controller.retiresRefl {κ : Type} {below : κ → κ → Prop} (refl : ∀ child, below child child) (c : Controller κ) :
    Controller.Retires below c c :=
  ⟨restsFrame.refl c,List.forall₂_same.mpr fun child _ => refl child⟩

theorem Controller.retiresTrans {κ : Type} {below : κ → κ → Prop} (trans : ∀ a b c, below a b → below b c → below a c)
    {a b c : Controller κ} (first : Controller.Retires below a b) (second : Controller.Retires below b c) :
    Controller.Retires below a c := by
  refine ⟨restsTrans a b c first.1 second.1,List.forall₂_iff_get.mpr ?_⟩
  obtain ⟨len,each⟩ := List.forall₂_iff_get.mp first.2
  obtain ⟨len',each'⟩ := List.forall₂_iff_get.mp second.2
  exact ⟨len.trans len',fun i ha hc => trans _ _ _ (each i ha (len ▸ ha)) (each' i (len ▸ ha) hc)⟩

theorem Tree.retiresRefl (child : Tree n) : child.Retires child := by
  induction n with
  | zero => exact child.elim
  | succ n ih =>
    cases child with
    | clientSide child => exact id
    | restApi child => exact id
    | grpc name controller => exact Controller.retiresRefl ih controller

theorem Tree.retiresTrans (a b c : Tree n) (first : a.Retires b) (second : b.Retires c) : a.Retires c := by
  induction n with
  | zero => exact a.elim
  | succ n ih =>
    cases a <;> cases b <;> first | exact first.elim | (cases c <;> first | exact second.elim | skip)
    · exact fun errored => second (first errored)
    · exact fun errored => second (first errored)
    · exact Controller.retiresTrans ih first second

variable [Re]

theorem Controller.handleRetires {κ : Type} {below : κ → κ → Prop} {w : World} {kids : ChildInterface κ} {request : Request}
    (refl : ∀ child, below child child) {command : Command}
    (each : ∀ i child data, below child (kids.propagateCommand i child command data request.token).2) (c : Controller κ) :
    Controller.Retires below c (handle w kids command request c).state := by
  refine ⟨handleRests w kids command request c,?_⟩
  rcases handleChildren w kids command request c with same | ⟨data,asked⟩
  · rw [same]
    exact List.forall₂_same.mpr fun child _ => refl child
  · rw [asked,childrenAfterEach]
    refine forall₂MapIdxIff.mpr fun i child _ => ?_
    unfold childAfter
    split
    · exact refl child
    · exact each i child data

theorem Tree.commandRetires (env : Surrounded) (command : Command) (data : Option Payload) (token : Token) {i : Nat}
    (child : Tree n) : child.Retires ((Tree.interface n env).propagateCommand i child command data token).2 := by
  induction n generalizing env i command data token with
  | zero => exact child.elim
  | succ n ih =>
    cases child with
    | clientSide child =>
      exact ClientSideChild.commandRetires (fun fsmCommand token => (ClientSideChild.executesRetire ⟨none,.error .rpcError,false⟩ fsmCommand token).1) command data token
    | restApi child =>
      exact ClientSideChild.commandRetires (fun fsmCommand token => (ClientSideChild.executesRetire (env [i]).application fsmCommand token).2) command data token
    | grpc name controller =>
      have handled : Controller.Retires Tree.Retires controller
          (Controller.handle (env [i]).world (Tree.interface n (env.below i)) command ⟨token,data⟩ controller).state :=
        Controller.handleRetires Tree.retiresRefl (fun j child data => ih (env.below i) command data token child) controller
      change Controller.Retires Tree.Retires controller (ChildNode.sendCommand (env [i]).link controller _).2
      unfold ChildNode.sendCommand
      split
      · exact Controller.retiresRefl Tree.retiresRefl controller
      all_goals exact handled

namespace Controller

def receive (root : Controller (Tree n)) (v : Visit) : Controller (Tree n) :=
  (Tree.handle v.env v.command v.request root).state

def receiveAll (root : Controller (Tree n)) (visits : List Visit) : Controller (Tree n) := visits.foldl receive root

theorem receiveAllRetires (root : Controller (Tree n)) (visits : List Visit) : Retires Tree.Retires root (root.receiveAll visits) := by
  refine List.foldlRecOn (motive := Retires Tree.Retires root) visits receive (retiresRefl Tree.retiresRefl root) ?_
  intro c kept v _
  exact retiresTrans Tree.retiresTrans kept
    (handleRetires Tree.retiresRefl (fun i child data => Tree.commandRetires v.env v.command data v.request.token child) c)

end Controller
end Trees
end Drunc
