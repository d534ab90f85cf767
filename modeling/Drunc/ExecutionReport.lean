import Drunc.StatusReport

/-! The report of an FSM command. A reply to an FSM command can always be shown, whatever
happened below the root, and a node that is shown to have made the transition has made it. -/
namespace Drunc
open Library (Dict Outcome)
open Library.Act
open GRPCDriver (handleResponse handleChildren)

namespace Response
open ShellUtils (boolToSuccess)

mutual
def report (pre : String) : Response → List ReportRow
  | ⟨name,token,data,flag,children⟩ =>
      ⟨pre ++ name,boolToSuccess (flag = .executedSuccessfully),
        boolToSuccess (Response.succeeded ⟨name,token,data,flag,children⟩)⟩ :: reportEach ("  " ++ pre) children
def reportEach (pre : String) : List Response → List ReportRow
  | [] => []
  | response :: rest => report pre response ++ reportEach pre rest
end

end Response

section Table
open ShellUtils
open GRPCDriver (Decodable Explained)
variable [ProtoEnums]
open ProtoEnums (number fsmNumber)

theorem numberedSuccess {flag : ResponseFlag} : number flag = fsmNumber .fsmExecutedSuccessfully ↔ flag = .executedSuccessfully := by
  rw [ProtoEnums.fsmFirst,← ProtoEnums.first,ProtoEnums.apart.eq_iff]

theorem childrenReported {children : List Response}
    (each : ∀ child ∈ children, ∃ d, handleResponse ControllerDriver.executeFsmCommand child = .ok (some d) ∧
      ∀ pre, addToTable d pre = .ok (child.report pre)) :
    ∃ ds : List (DecodedResponse FSMCommandResponse), handleChildren ControllerDriver.executeFsmCommand children = .ok (ds.map some) ∧
      ∀ pre, addChildren (ds.map some) pre = .ok (Response.reportEach pre children) := by
  induction children with
  | nil => exact ⟨[],rfl,fun _ => rfl⟩
  | cons child rest ih =>
    obtain ⟨d,handled,added⟩ := each child List.mem_cons_self
    obtain ⟨ds,below,others⟩ := ih fun child mem => each child (List.mem_cons_of_mem _ mem)
    refine ⟨d :: ds,?_,fun pre => ?_⟩
    · rw [handleChildren,handled,below]
      rfl
    · rw [List.map_cons,addChildren,added,others]
      rfl

theorem replyReported {r : Response} (decodable : Decodable ControllerDriver.executeFsmCommand r) (explained : Explained r) :
    ∃ d, handleResponse ControllerDriver.executeFsmCommand r = .ok (some d) ∧ ∀ pre, addToTable d pre = .ok (r.report pre) := by
  induction r using Response.inductOn with
  | step r ih =>
    obtain ⟨own,inside⟩ := GRPCDriver.explainedParts.mp explained
    obtain ⟨ds,below,rows⟩ := childrenReported fun child mem =>
      ih child mem (GRPCDriver.decodableInside decodable mem) (inside child mem)
    obtain ⟨name,token,data,flag,children⟩ := r
    have numbered : number flag = number .executedSuccessfully ↔ flag = .executedSuccessfully := ProtoEnums.apart.eq_iff
    by_cases done : flag = .executedSuccessfully
    · subst done
      obtain ⟨message,unpacked⟩ := decodable _ (.here _) rfl
      refine ⟨_,GRPCDriver.handledSucceeded unpacked below,fun pre => ?_⟩
      have same : fsmNumber message.flag = fsmNumber .fsmExecutedSuccessfully ↔ message.flag = .fsmExecutedSuccessfully :=
        ProtoEnums.fsmApart.eq_iff
      have held : data.bind asFsmCommandResponse = some message := unpacked
      rw [addToTable,if_pos (numberedSuccess.mpr rfl),rows,Response.report,Response.succeeded,held]
      simp only [readAttr,Except.map,same]
      rfl
    · cases data with
      | none => exact absurd rfl (own done)
      | some payload =>
        refine ⟨_,GRPCDriver.handledFailed done below,fun pre => ?_⟩
        have failed : Response.succeeded ⟨name,token,some payload,flag,children⟩ = false := by simp [Response.succeeded,done]
        rw [addToTable,if_neg fun same => done (numberedSuccess.mp same),rows,Response.report,failed]
        simp only [numbered]
        rfl

end Table

def Tree.label : {n : Nat} → Tree n → String
  | 0, child => child.elim
  | _+1, child => ChildNode.name child

section Went
variable [Re]

def Controller.Went {κ : Type} (commandName : String) (before after : Controller κ) : Prop :=
  ∃ t state, before.statefulNode.getFsmTransition commandName = .ok t ∧ before.statefulNode.IdleAt state ∧ t.Executable state ∧
    after.statefulNode.IdleAt (t.target state)

def ClientSideChild.Went (commandName : String) (before after : ClientSideChild) : Prop :=
  ∃ fsm t, before.fsm = some fsm ∧ fsm.getTransition commandName = .ok t ∧
    fsm.getDestinationState before.state.assumedOperationalState t = .ok after.state.assumedOperationalState

/-- What the reply of a node may tell of it, and the replies below it of its children: each is
the reply of one of them, and where it tells of success, that one has made the transition. -/
def Tree.Truthful (commandName : String) : {n : Nat} → Response → Tree n → Tree n → Prop
  | 0, _, child, _ => child.elim
  | _+1, r, .clientSide before, .clientSide after => r.children = [] ∧ (r.succeeded = true → before.Went commandName after)
  | _+1, r, .restApi before, .restApi after => r.children = [] ∧ (r.succeeded = true → before.Went commandName after)
  | n+1, r, .grpc _ before, .grpc _ after => (r.succeeded = true → before.Went commandName after) ∧
      ∀ reply ∈ r.children, ∃ (i : Nat) (child child' : Tree n), before.childrenNodes[i]? = some child ∧ after.childrenNodes[i]? = some child' ∧
        (reply.name = child.label ∨ reply.name = child.ownName) ∧ Tree.Truthful commandName reply child child'
  | _+1, _, _, _ => False

def Controller.Truthful {n : Nat} (commandName : String) (r : Response) (before after : Controller (Tree n)) : Prop :=
  (r.succeeded = true → before.Went commandName after) ∧
    ∀ reply ∈ r.children, ∃ (i : Nat) (child child' : Tree n), before.childrenNodes[i]? = some child ∧ after.childrenNodes[i]? = some child' ∧
      (reply.name = child.label ∨ reply.name = child.ownName) ∧ child.Truthful commandName reply child'

end Went

structure Presentable (r : Response) : Prop where
  decodable : GRPCDriver.Decodable ControllerDriver.executeFsmCommand r
  explained : GRPCDriver.Explained r

structure Response.Bare (r : Response) : Prop where
  alone : r.children = []
  unsuccessful : r.succeeded = false
  decodable : r.decodable = true
  explained : r.flag ≠ .executedSuccessfully → r.data ≠ none

section Truth
open GRPCDriver (Decodable Explained)

theorem bareUnsuccessful {name : String} {token : Option Token} {payload : Payload} {flag : ResponseFlag}
    (failed : flag ≠ .executedSuccessfully) : (Response.mk name token (some payload) flag []).Bare :=
  ⟨rfl,by simp [Response.succeeded,failed],by simp [Response.decodable,failed],fun _ => Option.some_ne_none _⟩

theorem collectedStarted {κ : Type} {w : World} {kids : ChildInterface κ} {command : Command} {data : Option Payload}
    {token : Token} {i : Nat} {child : κ} {r : Response} (inside : r ∈ collectedFrom w kids command data token i child) :
    w.broadcast (.childStart i) = none := by
  unfold collectedFrom at inside
  cases started : w.broadcast (.childStart i) with
  | none => rfl
  | some e => simp [started] at inside

theorem presentableParts {r : Response} (decodable : r.decodable = true) (explained : r.flag ≠ .executedSuccessfully → r.data ≠ none)
    (below : ∀ child ∈ r.children, Presentable child) : Presentable r := by
  refine ⟨fun node within done => ?_,GRPCDriver.explainedParts.mpr ⟨explained,fun child mem => (below child mem).explained⟩⟩
  cases within with
  | here =>
    obtain ⟨name,token,data,flag,children⟩ := r
    obtain rfl : flag = .executedSuccessfully := done
    exact Option.isSome_iff_exists.mp decodable
  | inside mem within => exact (below _ mem).decodable node within done

theorem Response.Bare.presentable {r : Response} (bare : r.Bare) : Presentable r :=
  presentableParts bare.decodable bare.explained fun child mem => by rw [bare.alone] at mem; contradiction

theorem childExceptionBare {κ : Type} (kids : ChildInterface κ) (token : Token) (child : κ) (e : Exn) :
    (childException kids token child e).Bare :=
  ⟨rfl,(childExceptionBad kids token child e).2,(childExceptionBad kids token child e).1,fun _ => Option.some_ne_none _⟩

theorem Tree.bareTruthful [Re] {n : Nat} {env : Surrounded} {commandName : String} {r : Response} (bare : r.Bare) (i : Nat)
    (child : Tree n) (command : Command) (data : Option Payload) (token : Token) :
    child.Truthful commandName r ((Tree.interface n env).propagateCommand i child command data token).2 := by
  have silent : ∀ {P : Prop}, r.succeeded = true → P := fun succeeded => by rw [bare.unsuccessful] at succeeded; contradiction
  cases n with
  | zero => exact child.elim
  | succ n =>
    cases child with
    | clientSide child => exact ⟨bare.alone,silent⟩
    | restApi child => exact ⟨bare.alone,silent⟩
    | grpc name controller => exact ⟨silent,fun reply mem => by rw [bare.alone] at mem; contradiction⟩

variable [Re]

namespace Controller
variable {κ : Type} {w : World} {kids : ChildInterface κ} {request : Request} {c : Controller κ} {fsmCommand : FSMCommand}
  {r : Response}

theorem bodyReplied (data : request.data = some (.fsmCommand fsmCommand))
    (returned : (unpacked w kids c.servicer .executeFsmCommand request c).result = .ok r) :
    (r.Bare ∧ r.name = c.name) ∨ r.succeeded = true := by
  rw [unpackedFsmCommand data] at returned
  by_cases starts : ∃ t state, Starts c fsmCommand t state
  · obtain ⟨t,state,start⟩ := starts
    have run := startsRun w kids request.token start
    rw [returned] at run
    generalize (executeFsmCommand w kids fsmCommand request.token c).state = d at run
    cases run with
    | succeeded through => exact .inr rfl
    | flagged through => exact .inr rfl
  · rcases (refuses starts).2 with ⟨e,raised⟩ | ⟨cause,bad,refused⟩
    · rw [raised] at returned
      contradiction
    · rw [refused] at returned
      cases returned
      refine .inl ⟨⟨rfl,?_,rfl,fun failed => absurd rfl failed⟩,rfl⟩
      simpa [Response.succeeded,constructErrorNodeResponse,respond,asFsmCommandResponse] using bad

theorem executeReplied (data : request.data = some (.fsmCommand fsmCommand))
    (replied : (handle w kids .executeFsmCommand request c).result = .ok r) : (r.Bare ∧ r.name = c.name) ∨
      ∃ t state, Completes w kids request c fsmCommand t state ∧ r = executedResponse w kids t fsmCommand request.token c := by
  have honest := executeHonest replied
  have complete : r.succeeded = true → ∃ t state, Completes w kids request c fsmCommand t state ∧
      r = executedResponse w kids t fsmCommand request.token c := by
    intro succeeded
    obtain ⟨other,t,state,completes,same⟩ := honest.complete succeeded
    obtain rfl : other = fsmCommand := by simpa using completes.data.symm.trans data
    exact ⟨t,state,completes,same⟩
  cases acknowledged : w.broadcast .ack with
  | some e => rw [handleUnacknowledged acknowledged] at replied; contradiction
  | none =>
    cases accepted : admitted .executeFsmCommand request c with
    | false =>
      rw [handleDeclined acknowledged accepted] at replied
      dsimp only at replied
      rcases answeredOk replied with ⟨e,raised,_⟩ | ⟨same,_⟩
      · contradiction
      · cases same
        exact .inl ⟨bareUnsuccessful (by decide),rfl⟩
    | true =>
      rw [handleAdmitted acknowledged accepted] at replied
      dsimp only at replied
      rcases answeredOk replied with ⟨e,_,rfl⟩ | ⟨returned,_⟩
      · exact .inl ⟨bareUnsuccessful (exceptionUnsuccessful c.servicer request e),rfl⟩
      · exact (bodyReplied data returned).imp_right complete

end Controller

section Answers
variable {n : Nat} {commandName : String}

structure Tree.Answers (commandName : String) (r : Response) (before after : Tree n) : Prop where
  truthful : before.Truthful commandName r after
  presentable : Presentable r
  named : r.name = before.label ∨ r.name = before.ownName

theorem Tree.nameKept {env : Surrounded} (i : Nat) (child : Tree n) (command : Command) (data : Option Payload) (token : Token) :
    (Tree.interface n env).name ((Tree.interface n env).propagateCommand i child command data token).2 = child.label := by
  rw [(Tree.interface n env).nameKept]
  cases n with
  | zero => exact child.elim
  | succ n => rfl

theorem Controller.answersTruly {w : World} (env : Surrounded) {request : Request} {fsmCommand : FSMCommand}
    {c : Controller (Tree n)} {r : Response} (data : request.data = some (.fsmCommand fsmCommand))
    (each : ∀ (i : Nat) (child : Tree n) (command : FSMCommand) (reply : Response), command.commandName = fsmCommand.commandName →
      ((Tree.interface n env).propagateCommand i child .executeFsmCommand (some (.fsmCommand command)) request.token).1 = .ok reply →
      Tree.Answers fsmCommand.commandName reply child ((Tree.interface n env).propagateCommand i child .executeFsmCommand
        (some (.fsmCommand command)) request.token).2)
    (replied : (handle w (Tree.interface n env) .executeFsmCommand request c).result = .ok r) :
    c.Truthful fsmCommand.commandName r (handle w (Tree.interface n env) .executeFsmCommand request c).state ∧
      Presentable r ∧ r.name = c.name := by
  rcases executeReplied data replied with ⟨bare,name⟩ | ⟨t,state,completes,rfl⟩
  · refine ⟨⟨fun succeeded => ?_,fun reply mem => ?_⟩,bare.presentable,name⟩
    · rw [bare.unsuccessful] at succeeded
      contradiction
    · rw [bare.alone] at mem
      contradiction
  · have answers : ∀ reply ∈ (executedResponse w (Tree.interface n env) t fsmCommand request.token c).children,
        ∃ (i : Nat) (child child' : Tree n), c.childrenNodes[i]? = some child ∧
          (childrenMoved w (Tree.interface n env) t fsmCommand request.token c)[i]? = some child' ∧
          Tree.Answers fsmCommand.commandName reply child child' := by
      intro reply mem
      obtain ⟨i,child,found,inside⟩ := collectedMem.mp mem
      refine ⟨i,child,_,found,movedChild found (collectedStarted inside),?_⟩
      rcases collectedFromCases inside with replied | ⟨e,thrown⟩
      · exact each i child _ reply rfl replied
      · have bare : reply.Bare := by
          rw [thrown]
          exact childExceptionBare _ _ _ e
        refine ⟨Tree.bareTruthful bare i child _ _ _,bare.presentable,.inl ?_⟩
        rw [thrown]
        exact Tree.nameKept i child _ _ _
    rw [(completedRun completes).2]
    refine ⟨⟨fun _ => ⟨t,state,completes.start.found,completes.start.idle,completes.start.can,rfl,rfl⟩,fun reply mem => ?_⟩,?_,rfl⟩
    · obtain ⟨i,child,child',found,after,answer⟩ := answers reply mem
      exact ⟨i,child,child',found,after,answer.named,answer.truthful⟩
    · refine presentableParts rfl (fun failed => absurd rfl failed) fun reply mem => ?_
      obtain ⟨i,child,child',_,_,answer⟩ := answers reply mem
      exact answer.presentable

theorem ClientSideChild.executeShape {child : ClientSideChild} {fsmCommand : FSMCommand} {token : Token} {app : Application}
    {execute : FSMCommand → Token → Do ClientSideChild Response} {r : Response}
    (runs : execute = propagateFsmCommand ∨ execute = propagateToApplication app)
    (replied : (propagateCommand execute .executeFsmCommand (some (.fsmCommand fsmCommand)) token child).result = .ok r) :
    ∃ flag text, r = child.fsmResponse token fsmCommand flag text := by
  rw [propagateExecute] at replied
  split at replied
  · rcases expectsOrRaises child fsmCommand with ⟨exitState,expects⟩ | ⟨e,raises⟩
    · rcases runs with rfl | rfl
      · rw [clientSideRuns expects] at replied
        exact ⟨_,_,(Except.ok.inj replied).symm⟩
      · rw [applicationRuns expects] at replied
        split at replied
        · contradiction
        all_goals exact ⟨_,_,(Except.ok.inj replied).symm⟩
    · rcases runs with rfl | rfl
      · rw [(raises app token).1] at replied
        contradiction
      · rw [(raises app token).2] at replied
        contradiction
  · exact ⟨_,_,(Except.ok.inj replied).symm⟩

theorem ClientSideChild.answersTruly {child : ClientSideChild} {fsmCommand : FSMCommand} {token : Token} (app : Application)
    {execute : FSMCommand → Token → Do ClientSideChild Response} {r : Response} {after : ClientSideChild}
    (runs : execute = propagateFsmCommand ∨ execute = propagateToApplication app)
    (replied : (propagateCommand execute .executeFsmCommand (some (.fsmCommand fsmCommand)) token child).result = .ok r)
    (went : r.succeeded = true → child.state.included = true ∧ child.Expects fsmCommand after.state.assumedOperationalState) :
    (r.children = [] ∧ (r.succeeded = true → child.Went fsmCommand.commandName after)) ∧ Presentable r ∧ r.name = child.name := by
  obtain ⟨flag,text,rfl⟩ := executeShape runs replied
  exact ⟨⟨rfl,fun succeeded => (went succeeded).2.expected⟩,
    presentableParts rfl (fun failed => absurd rfl failed) fun _ mem => absurd mem List.not_mem_nil,rfl⟩

theorem Tree.answersTruly {env : Surrounded} {i : Nat} {child : Tree n} {fsmCommand : FSMCommand} {token : Token} {r : Response}
    (replied : ((Tree.interface n env).propagateCommand i child .executeFsmCommand (some (.fsmCommand fsmCommand)) token).1 = .ok r) :
    Tree.Answers fsmCommand.commandName r child
      ((Tree.interface n env).propagateCommand i child .executeFsmCommand (some (.fsmCommand fsmCommand)) token).2 := by
  induction n generalizing env i fsmCommand r with
  | zero => exact child.elim
  | succ n ih =>
    cases child with
    | clientSide child =>
      obtain ⟨truthful,presentable,name⟩ := ClientSideChild.answersTruly (env [i]).application (.inl rfl) replied
        (ClientSideChild.clientSideReplies replied).2
      exact ⟨truthful,presentable,.inl name⟩
    | restApi child =>
      obtain ⟨truthful,presentable,name⟩ := ClientSideChild.answersTruly (env [i]).application (.inr rfl) replied
        (ClientSideChild.applicationReplies replied).2
      exact ⟨truthful,presentable,.inl name⟩
    | grpc name controller =>
      obtain ⟨_,answered,same⟩ := ChildNode.sendCommandOk replied
      obtain ⟨truthful,presentable,named⟩ := Controller.answersTruly (env.below i) rfl
        (fun j child command reply name replied => name ▸ ih replied) answered
      refine ⟨?_,presentable,.inr named⟩
      rw [← same] at truthful
      exact truthful

end Answers

end Truth

section Shell
variable {n : Nat} {envs : Nat → Surrounded} {token : Token}

def Printed.isReport : Printed → Bool
  | .report _ _ => true
  | _ => false

/-- Nothing but reading: the tree is the same, and no report is printed. -/
structure Reads {α : Type} (x : ShellDo n α) : Prop where
  tree : Leaves (fun s t => t.tree = s.tree) x
  unreported : Utters (fun printed => printed.isReport = false) x

theorem readsSteady {α : Type} {x : ShellDo n α} (tree : ∀ s, (x s).state.tree = s.tree) (events : ∀ s, (x s).events = []) : Reads x :=
  ⟨tree,fun s printed mem => by rw [events] at mem; contradiction⟩

theorem readsBind {α β : Type} {x : ShellDo n α} {f : α → ShellDo n β} (first : Reads x) (rest : ∀ a, Reads (f a)) : Reads (x >>= f) :=
  ⟨leavesBind (fun _ _ _ h g => g.trans h) first.tree fun a => (rest a).tree,
    uttersBind first.unreported fun a => (rest a).unreported⟩

theorem readsLift {α : Type} (x : Except Exn α) : Reads (lift x : ShellDo n α) := readsSteady (fun _ => rfl) fun _ => rfl
theorem readsPure {α : Type} (a : α) : Reads (pure a : ShellDo n α) := readsSteady (fun _ => rfl) fun _ => rfl
theorem readsRaise {α : Type} (e : Exn) : Reads (raise e : ShellDo n α) := readsSteady (fun _ => rfl) fun _ => rfl

theorem readsEmit {printed : Printed} (other : printed.isReport = false) : Reads (emit printed : ShellDo n Unit) :=
  ⟨fun _ => rfl,fun _ => emitsEmit other⟩

namespace ShellContext
variable [Re]

theorem readsRequest {δ : Type} {outformat : Outformat δ} {command : Command} {data : Option Payload}
    (reads : (Controller.endpoint command).action = .read) :
    Reads (request envs token outformat command data : ShellDo n _) := by
  refine readsSteady (fun s => ?_) fun _ => rfl
  have kept : (Tree.handle (envs s.asked) command ⟨token,data⟩ s.tree).state = s.tree := Tree.readsKeep command reads _ _
  unfold request GRPCDriver.sendCommand ChildNode.sendCommand
  dsimp only
  split
  · rfl
  all_goals exact kept

def fsmRequest (token : Token) (transitionName : String) (arguments : Dict String ArgumentValue) : Request :=
  ⟨token,some (.fsmCommand ⟨transitionName,arguments,[],.empty⟩)⟩

/-- One execution of the command, and what is printed of it. -/
structure Executed (env : Surrounded) (token : Token) (transitionName : String) (arguments : Dict String ArgumentValue)
    (before : Controller (Tree n)) (o : Outcome Printed Exn (ShellSession n) Unit) : Prop where
  tree : o.state.tree = (ChildNode.sendCommand (env []).link before
    (Tree.handle env .executeFsmCommand (fsmRequest token transitionName arguments))).2
  printed : ∀ title rows, .report title rows ∈ o.events → ∃ r,
    (Tree.handle env .executeFsmCommand (fsmRequest token transitionName arguments) before).result = .ok r ∧
    title = transitionName ++ " execution report" ∧ rows = r.report "" ∧ before.Truthful transitionName r o.state.tree
  answered : ∀ r, (env []).link = .up →
    (Tree.handle env .executeFsmCommand (fsmRequest token transitionName arguments) before).result = .ok r →
    .report (transitionName ++ " execution report") (r.report "") ∈ o.events

def Once (env : Surrounded) (token : Token) (transitionName : String) (before : Controller (Tree n))
    (o : Outcome Printed Exn (ShellSession n) Unit) : Prop :=
  (o.state.tree = before ∧ ∀ printed ∈ o.events, printed.isReport = false) ∨
    ∃ arguments, Executed env token transitionName arguments before o

theorem onceReads {env : Surrounded} {transitionName : String} {x : ShellDo n Unit} {s : ShellSession n} (reads : Reads x) :
    Once env token transitionName s.tree (x s) :=
  .inl ⟨reads.tree s,reads.unreported s⟩

theorem onceBind {α : Type} {env : Surrounded} {transitionName : String} {x : ShellDo n α} {f : α → ShellDo n Unit}
    {s : ShellSession n} (reads : Reads x) (rest : ∀ a, Once env token transitionName (x s).state.tree (f a (x s).state)) :
    Once env token transitionName s.tree ((x >>= f) s) := by
  have same : (x s).state.tree = s.tree := reads.tree s
  rcases bindCases x f s with ⟨e,_,run⟩ | ⟨a,_,run⟩
  · rw [run]
    exact .inl ⟨same,reads.unreported s⟩
  rw [run,← same]
  rcases rest a with ⟨kept,silent⟩ | ⟨arguments,tree,printed,answered⟩
  · refine .inl ⟨kept,fun p mem => ?_⟩
    rcases List.mem_append.mp mem with first | later
    · exact reads.unreported s p first
    · exact silent p later
  · refine .inr ⟨arguments,tree,fun title rows mem => ?_,fun r up replied => List.mem_append_right _ (answered r up replied)⟩
    rcases List.mem_append.mp mem with first | later
    · exact nomatch reads.unreported s _ first
    · exact printed title rows later

variable [ProtoText]

theorem readsSummary : Reads (printStatusSummary envs token : ShellDo n Unit) := by
  refine readsBind (readsRequest rfl) fun _ => readsBind (readsLift _) fun _ => readsBind (readsLift _) fun status => ?_
  split
  · exact readsEmit rfl
  · exact readsBind (readsRequest rfl) fun _ => readsBind (readsLift _) fun _ => readsBind (readsLift _) fun _ => readsEmit rfl

theorem readsStatus (envs : Nat → Surrounded) (token : Token) : Reads (status envs token : ShellDo n Unit) := by
  refine readsBind (readsRequest rfl) fun statuses => readsBind (readsRequest rfl) fun descriptions => ?_
  unfold printStatusTable
  split
  · exact readsPure ()
  · split
    · exact readsEmit rfl
    · exact readsEmit rfl
    · split
      · exact readsRaise _
      · exact readsBind (readsLift _) fun _ => readsBind (readsLift _) fun _ => readsBind (readsEmit rfl) fun _ => readsSummary

variable [ProtoEnums] {transitionName : String}

theorem sentReported {s : ShellSession n} {arguments : Dict String ArgumentValue} {r : Response}
    (up : (envs s.asked []).link = .up)
    (replied : (Tree.handle (envs s.asked) .executeFsmCommand (fsmRequest token transitionName arguments) s.tree).result = .ok r) :
    sendFsmCommand envs token transitionName arguments s =
      (status envs token ⟨(Tree.handle (envs s.asked) .executeFsmCommand (fsmRequest token transitionName arguments) s.tree).state,
        s.asked+1⟩).after [.report (transitionName ++ " execution report") (r.report "")] := by
  obtain ⟨_,presentable,_⟩ := Controller.answersTruly (envs s.asked) rfl
    (fun j child command reply name replied => name ▸ Tree.answersTruly replied) replied
  obtain ⟨d,handled,added⟩ := replyReported presentable.decodable presentable.explained
  unfold sendFsmCommand
  rw [requestBind _ up replied handled]
  dsimp only
  rw [added,liftOkBind,emitBind]
  rfl

theorem sentExecuted (envs : Nat → Surrounded) (s : ShellSession n) (arguments : Dict String ArgumentValue) :
    Executed (envs s.asked) token transitionName arguments s.tree (sendFsmCommand envs token transitionName arguments s) := by
  by_cases came : ∃ r, (envs s.asked []).link = .up ∧
      (Tree.handle (envs s.asked) .executeFsmCommand (fsmRequest token transitionName arguments) s.tree).result = .ok r
  · obtain ⟨r,up,replied⟩ := came
    obtain ⟨truthful,_,_⟩ := Controller.answersTruly (envs s.asked) rfl
      (fun j child command reply name replied => name ▸ Tree.answersTruly replied) replied
    rw [sentReported up replied]
    have kept := (readsStatus envs token).tree
      ⟨(Tree.handle (envs s.asked) .executeFsmCommand (fsmRequest token transitionName arguments) s.tree).state,s.asked+1⟩
    refine ⟨?_,fun title rows mem => ?_,fun r' _ same => ?_⟩
    · rw [ChildNode.sendCommandUp up replied]
      exact kept
    · rcases List.mem_cons.mp mem with same | later
      · cases same
        refine ⟨r,replied,rfl,rfl,?_⟩
        rw [afterState,kept]
        exact truthful
      · have never := (readsStatus envs token).unreported _ _ later
        contradiction
    · cases replied.symm.trans same
      exact List.mem_cons_self
  · have lost : ∃ e, (ChildNode.sendCommand (envs s.asked []).link s.tree
        (Tree.handle (envs s.asked) .executeFsmCommand (fsmRequest token transitionName arguments))).1 = .error e := by
      cases sent : (ChildNode.sendCommand (envs s.asked []).link s.tree
          (Tree.handle (envs s.asked) .executeFsmCommand (fsmRequest token transitionName arguments))).1 with
      | error e => exact ⟨e,rfl⟩
      | ok r => exact absurd ⟨r,(ChildNode.sendCommandOk sent).1,(ChildNode.sendCommandOk sent).2.1⟩ came
    have failed : ∃ e, (request envs token ControllerDriver.executeFsmCommand .executeFsmCommand
        (fsmRequest token transitionName arguments).data s).result = .error e := by
      obtain ⟨e,lost⟩ := lost
      unfold request GRPCDriver.sendCommand
      dsimp only
      unfold fsmRequest at lost ⊢
      rw [lost]
      split
      · contradiction
      all_goals exact ⟨_,rfl⟩
    obtain ⟨e,failed⟩ := failed
    have ended : sendFsmCommand envs token transitionName arguments s = _ := bindError failed
    rw [ended]
    exact ⟨rfl,fun _ _ mem => absurd mem List.not_mem_nil,fun r up replied => absurd ⟨r,up,replied⟩ came⟩

variable [Builtins] [DruncSchema]

theorem reportTruthful (envs : Nat → Surrounded) (token : Token) (controllerName transitionName : String)
    (kwargs : Dict String PyObj) (s : ShellSession n) :
    Once (envs (s.asked+1)) token transitionName s.tree (runOneFsmCommand envs token controllerName transitionName kwargs s) := by
  refine onceBind (readsEmit rfl) fun _ => onceBind (readsRequest rfl) fun described => ?_
  refine onceBind (readsLift _) fun data => onceBind (readsLift _) fun commands => ?_
  cases ShellUtils.searchFsmCommand transitionName commands with
  | none => exact onceReads (readsEmit rfl)
  | some commandDesc =>
    dsimp only
    cases (validateAndFormatFsmArguments commandDesc.arguments kwargs).result with
    | error e =>
      refine onceReads ?_
      dsimp only
      split
      · exact readsEmit rfl
      · exact readsRaise _
    | ok arguments =>
      exact .inr ⟨arguments,sentExecuted envs (request envs token ControllerDriver.describeFsm .describeFsm
        (some (.plainText "")) s).state arguments⟩

end ShellContext
end Shell

end Drunc
