import Drunc.Children
import Drunc.History
import Drunc.Library.Runs

/-! The side of a REST child that talks to its application. Replies come in through a
queue, from which a check takes the first; a check that finds none waits. Nothing empties
the queue, and nothing in a reply tells the command it is for: a reply that comes too
late, or a second time, is taken for the reply to the next command. The queue of a
commander is generic in what a reply is; here it keeps with each reply the number of the
command that it answers, which the code cannot see. An `Exchange` is one command with the
replies that come in before it is sent and while the check waits. -/
namespace Drunc
open Library (Along)
open Library.Act

structure AppCommander (ρ : Type) where
  app : String
  responseQueue : List ρ
  sentCmd : Option String

namespace AppCommander
variable {ρ : Type}

def notify (response : ρ) (commander : AppCommander ρ) : AppCommander ρ :=
  { commander with responseQueue := commander.responseQueue ++ [response] }

def sendCommand (send : Option Exn) (cmdId : String) : Do (AppCommander ρ) Unit :=
  match send with
  | some e => raise e
  | none => update fun commander => { commander with sentCmd := some cmdId }

def checkResponse (arriving : List ρ) : Do (AppCommander ρ) ρ := do
  let commander ← read
  match commander.responseQueue ++ arriving with
  | [] => raise (.responseTimeout ("Timeout while waiting for a reply from " ++ commander.app ++ " for command " ++
      pyStr commander.sentCmd))
  | r :: rest => do
      update fun commander => { commander with responseQueue := rest, sentCmd := none }
      pure r

theorem checkTaken {commander : AppCommander ρ} {arriving rest : List ρ} {r : ρ}
    (queue : commander.responseQueue ++ arriving = r :: rest) :
    checkResponse arriving commander = ⟨.ok r,{ commander with responseQueue := rest, sentCmd := none },[]⟩ := by
  unfold checkResponse
  rw [readBind,queue]
  rfl

theorem checkTimeout {commander : AppCommander ρ} {arriving : List ρ} (queue : commander.responseQueue ++ arriving = []) :
    ∃ e, checkResponse arriving commander = ⟨.error e,commander,[]⟩ := by
  unfold checkResponse
  rw [readBind,queue]
  exact ⟨_,rfl⟩

theorem checkFirst {commander : AppCommander ρ} {arriving : List ρ} {r : ρ} :
    (checkResponse arriving commander).result = .ok r ↔ (commander.responseQueue ++ arriving).head? = some r := by
  cases queue : commander.responseQueue ++ arriving with
  | nil =>
    obtain ⟨e,run⟩ := checkTimeout queue
    simp [run]
  | cons first rest => simp [checkTaken queue]

end AppCommander

structure Reply where
  answers : Nat
  content : AppReply

structure Exchange where
  fsmCommand : FSMCommand
  token : Token
  late : List Reply
  send : Option Exn
  arriving : List Reply

structure RESTAPIChildNode where
  child : ClientSideChild
  commander : AppCommander Reply

namespace RESTAPIChildNode

def onChild {α : Type} (x : Do ClientSideChild α) : Do RESTAPIChildNode α :=
  zoom child (fun node child => { node with child := child }) x

def onCommander {α : Type} (x : Do (AppCommander Reply) α) : Do RESTAPIChildNode α :=
  zoom commander (fun node commander => { node with commander := commander }) x

def built (child : ClientSideChild) : RESTAPIChildNode := ⟨child,⟨child.name,[],none⟩⟩

def notified (replies : List Reply) (node : RESTAPIChildNode) : RESTAPIChildNode :=
  { node with commander := replies.foldl (fun commander reply => commander.notify reply) node.commander }

def succeeded (reply : AppReply) : Except Exn Bool :=
  match reply.success, reply.result with
  | none, _ => .error (.keyError "success")
  | some true, _ => .ok true
  | some false, some _ => .ok false
  | some false, none => .error (.keyError "result")

theorem succeededSome {reply : AppReply} {success : Bool} (ok : succeeded reply = .ok success) :
    reply.success = some success := by
  unfold succeeded at ok
  cases judged : reply.success with
  | none => rw [judged] at ok; contradiction
  | some flag =>
    cases flag <;> cases result : reply.result <;> rw [judged,result] at ok <;> cases ok <;> rfl

def exchange (x : Exchange) (entryState exitState : Option String) : Do (AppCommander Reply) (AppReply × Bool) := do
  let _ ← lift (loads x.fsmCommand.data)
  match entryState, exitState with
  | some _, some _ => do
      AppCommander.sendCommand x.send x.fsmCommand.commandName
      let r ← AppCommander.checkResponse x.arriving
      let success ← lift (succeeded r.content)
      pure (r.content,success)
  | _, _ => raise (.attributeError "'NoneType' object has no attribute 'upper'")

section Exchange
variable {x : Exchange}

def Gathers (x : Exchange) (before after : AppCommander Reply) : Prop :=
  ∀ r ∈ after.responseQueue, r ∈ before.responseQueue ∨ r ∈ x.arriving

theorem gathersRefl (x : Exchange) (commander : AppCommander Reply) : Gathers x commander commander :=
  fun _ mem => .inl mem

theorem gathersTrans (x : Exchange) (a b c : AppCommander Reply) (first : Gathers x a b) (second : Gathers x b c) :
    Gathers x a c := fun r mem => (second r mem).elim (first r) .inr

theorem checkGathers (x : Exchange) : Leaves (Gathers x) (AppCommander.checkResponse x.arriving) := by
  intro commander r mem
  cases queue : commander.responseQueue ++ x.arriving with
  | nil =>
    obtain ⟨e,run⟩ := AppCommander.checkTimeout queue
    rw [run] at mem
    exact .inl mem
  | cons first rest =>
    rw [AppCommander.checkTaken queue] at mem
    exact List.mem_append.mp (queue ▸ List.mem_cons_of_mem first mem)

theorem exchangeGathers (entryState exitState : Option String) : Leaves (Gathers x) (exchange x entryState exitState) := by
  refine leavesBind (gathersTrans x) (leavesLift (gathersRefl x) _) fun data => ?_
  cases entryState with
  | none => exact leavesRaise (gathersRefl x) _
  | some entry =>
    cases exitState with
    | none => exact leavesRaise (gathersRefl x) _
    | some exit =>
      have sent : Leaves (Gathers x) (AppCommander.sendCommand x.send x.fsmCommand.commandName) := by
        unfold AppCommander.sendCommand
        split
        · exact leavesRaise (gathersRefl x) _
        · exact fun commander r mem => .inl mem
      refine leavesBind (gathersTrans x) sent fun _ => leavesBind (gathersTrans x) (checkGathers x) fun r => ?_
      exact leavesBind (gathersTrans x) (leavesLift (gathersRefl x) _) fun _ => leavesPure (gathersRefl x) _

theorem exchangeReturned {entryState exitState : Option String} {commander : AppCommander Reply} {content : AppReply}
    {success : Bool} (ok : (exchange x entryState exitState commander).result = .ok (content,success)) :
    (∃ data, loads x.fsmCommand.data = .ok data) ∧ entryState.isSome = true ∧ (∃ exit, exitState = some exit) ∧
    x.send = none ∧ content.success = some success ∧ ∃ r, r.content = content ∧
      (AppCommander.checkResponse x.arriving
        (AppCommander.sendCommand x.send x.fsmCommand.commandName commander).state).result = .ok r := by
  obtain ⟨data,loaded,ok⟩ := bindReturned ok
  refine ⟨⟨data,loaded⟩,?_⟩
  cases entryState with
  | none => contradiction
  | some entry =>
    cases exitState with
    | none => contradiction
    | some exit =>
      obtain ⟨_,sent,ok⟩ := bindReturned ok
      obtain ⟨r,checked,ok⟩ := bindReturned ok
      obtain ⟨judged,judges,ok⟩ := bindReturned ok
      cases ok
      refine ⟨rfl,⟨exit,rfl⟩,?_,succeededSome judges,r,rfl,checked⟩
      cases send : x.send with
      | none => rfl
      | some e => rw [send] at sent; contradiction

theorem notifiedQueue (replies : List Reply) (node : RESTAPIChildNode) :
    (notified replies node).commander.responseQueue = node.commander.responseQueue ++ replies := by
  unfold notified
  dsimp only
  induction replies generalizing node with
  | nil => simp
  | cons reply rest ih =>
    have next := ih { node with commander := node.commander.notify reply }
    simpa [AppCommander.notify] using next

def application (x : Exchange) (commander : AppCommander Reply) (pings : Bool) : Application :=
  ⟨x.send,(AppCommander.checkResponse x.arriving
    (AppCommander.sendCommand x.send x.fsmCommand.commandName commander).state).result.map Reply.content,pings⟩

theorem exchangeApplication (entryState exitState : Option String) (commander : AppCommander Reply) (pings : Bool) :
    (exchange x entryState exitState commander).result =
      ClientSideChild.exchange (application x commander pings) x.fsmCommand.data entryState exitState := by
  unfold exchange ClientSideChild.exchange
  cases loads x.fsmCommand.data with
  | error e => rfl
  | ok data =>
    cases entryState with
    | none => rfl
    | some entry =>
      cases exitState with
      | none => rfl
      | some exit =>
        unfold application
        cases x.send with
        | some e => rfl
        | none =>
          rw [liftOkBind]
          change ((AppCommander.checkResponse x.arriving >>= fun r => do
            let success ← lift (succeeded r.content)
            pure (r.content,success)) { commander with sentCmd := some x.fsmCommand.commandName }).result = _
          simp only [AppCommander.sendCommand,updateRun]
          cases checked : (AppCommander.checkResponse x.arriving
            { commander with sentCmd := some x.fsmCommand.commandName }).result with
          | error e =>
            rw [bindError checked]
            rfl
          | ok r =>
            rw [bindOk checked,afterResult]
            obtain ⟨answers,success,result,text⟩ := r
            cases success with
            | none => rfl
            | some flag => cases flag <;> cases result <;> rfl

end Exchange

variable [Re]

def propagateFsmCommand (x : Exchange) : Do RESTAPIChildNode Response := do
  let node ← read
  let fsm ← lift node.child.getFsm
  let transition ← lift (fsm.getTransition x.fsmCommand.commandName)
  let entryState := node.child.state.assumedOperationalState
  let exitState ← lift (fsm.getDestinationState entryState transition)
  onChild ClientSideChild.executingCommandMark
  match ← attempt (onCommander (exchange x entryState exitState)) with
  | .error e => do
      onChild ClientSideChild.toError
      raise e
  | .ok (r,false) => do
      onChild ClientSideChild.toError
      pure (node.child.fsmResponse x.token x.fsmCommand .fsmFailed (some r.text))
  | .ok (r,true) => do
      onChild ClientSideChild.endCommandExecutionMark
      onChild (ClientSideChild.newOperationalState exitState)
      pure (node.child.fsmResponse x.token x.fsmCommand .fsmExecutedSuccessfully (some r.text))

def exitStateOf (x : Exchange) (child : ClientSideChild) : Except Exn (Option String) := do
  let fsm ← child.getFsm
  let transition ← fsm.getTransition x.fsmCommand.commandName
  fsm.getDestinationState child.state.assumedOperationalState transition

def Sends (x : Exchange) (node : RESTAPIChildNode) : Prop :=
  (∃ exitState, exitStateOf x node.child = .ok (some exitState)) ∧
  node.child.state.assumedOperationalState.isSome = true ∧ (∃ data, loads x.fsmCommand.data = .ok data) ∧ x.send = none

def Checks (x : Exchange) (node : RESTAPIChildNode) (r : Reply) : Prop :=
  Sends x node ∧ (AppCommander.checkResponse x.arriving
    (AppCommander.sendCommand x.send x.fsmCommand.commandName node.commander).state).result = .ok r

def Reports (x : Exchange) (response : Response) (r : Reply) : Prop :=
  ∃ success, r.content.success = some success ∧
    response.data = some (.fsmCommandResponse
      ⟨if success then .fsmExecutedSuccessfully else .fsmFailed,x.fsmCommand.commandName,some r.content.text⟩)

section Command
variable {x : Exchange} {node : RESTAPIChildNode}

theorem checksFirst {r : Reply} : Checks x node r ↔
    Sends x node ∧ (node.commander.responseQueue ++ x.arriving).head? = some r := by
  unfold Checks
  rw [AppCommander.checkFirst]
  refine and_congr_right fun sends => ?_
  rw [sends.2.2.2]
  rfl

theorem propagateReports {response : Response} (ok : (propagateFsmCommand x node).result = .ok response) :
    ∃ r, Checks x node r ∧ Reports x response r := by
  unfold propagateFsmCommand at ok
  rw [readBind] at ok
  obtain ⟨fsm,gotFsm,ok⟩ := bindReturned ok
  obtain ⟨transition,gotTransition,ok⟩ := bindReturned ok
  obtain ⟨exitState,gotExit,ok⟩ := bindReturned ok
  obtain ⟨_,_,ok⟩ := bindReturned ok
  obtain ⟨outcome,attempted,ok⟩ := bindReturned ok
  have exits : exitStateOf x node.child = .ok exitState := by
    simp only [liftRun] at gotFsm gotTransition gotExit
    simp only [exitStateOf,gotFsm,gotTransition,bind,Except.bind,gotExit]
  have attempted : (exchange x node.child.state.assumedOperationalState exitState node.commander).result = outcome :=
    Except.ok.inj attempted
  cases outcome with
  | error e =>
    obtain ⟨_,_,ok⟩ := bindReturned ok
    contradiction
  | ok said =>
    obtain ⟨content,success⟩ := said
    obtain ⟨loaded,entered,⟨exit,rfl⟩,sent,judged,r,rfl,checked⟩ := exchangeReturned attempted
    refine ⟨r,⟨⟨⟨exit,exits⟩,entered,loaded,sent⟩,checked⟩,success,judged,?_⟩
    cases success with
    | false =>
      obtain ⟨_,_,ok⟩ := bindReturned ok
      cases ok
      rfl
    | true =>
      obtain ⟨_,_,ok⟩ := bindReturned ok
      obtain ⟨_,_,ok⟩ := bindReturned ok
      cases ok
      rfl

theorem propagateGathers (x : Exchange) (node : RESTAPIChildNode) :
    Gathers x node.commander (propagateFsmCommand x node).state.commander := by
  let R := fun before after : RESTAPIChildNode => Gathers x before.commander after.commander
  have refl : ∀ node, R node node := fun node => gathersRefl x node.commander
  have trans : ∀ a b c, R a b → R b c → R a c := fun a b c => gathersTrans x a.commander b.commander c.commander
  have child : ∀ {α : Type} (y : Do ClientSideChild α), Leaves R (onChild y) := fun y node => refl node
  have asked : ∀ entryState exitState, Leaves R (attempt (onCommander (exchange x entryState exitState))) :=
    fun entryState exitState node => exchangeGathers entryState exitState node.commander
  have gathers : Leaves R (propagateFsmCommand x) := by
    refine leavesBind trans (leavesRead refl) fun node => leavesBind trans (leavesLift refl _) fun fsm => ?_
    refine leavesBind trans (leavesLift refl _) fun transition => leavesBind trans (leavesLift refl _) fun exitState => ?_
    refine leavesBind trans (child _) fun _ => leavesBind trans (asked _ _) fun outcome => ?_
    cases outcome with
    | error e => exact leavesBind trans (child _) fun _ => leavesRaise refl e
    | ok said =>
      obtain ⟨content,success⟩ := said
      cases success with
      | false => exact leavesBind trans (child _) fun _ => leavesPure refl _
      | true => exact leavesBind trans (child _) fun _ => leavesBind trans (child _) fun _ => leavesPure refl _
  exact gathers node

theorem propagateApplication (x : Exchange) (node : RESTAPIChildNode) (pings : Bool) :
    (propagateFsmCommand x node).result = (ClientSideChild.propagateToApplication
      (application x node.commander pings) x.fsmCommand x.token node.child).result ∧
    (propagateFsmCommand x node).state.child = (ClientSideChild.propagateToApplication
      (application x node.commander pings) x.fsmCommand x.token node.child).state := by
  have asked := fun exitState => exchangeApplication (x := x) node.child.state.assumedOperationalState exitState node.commander
    pings
  unfold propagateFsmCommand ClientSideChild.propagateToApplication
  rw [readBind,readBind]
  cases node.child.getFsm with
  | error e => exact ⟨rfl,rfl⟩
  | ok fsm =>
    rw [liftOkBind,liftOkBind]
    cases fsm.getTransition x.fsmCommand.commandName with
    | error e => exact ⟨rfl,rfl⟩
    | ok transition =>
      rw [liftOkBind,liftOkBind]
      cases fsm.getDestinationState node.child.state.assumedOperationalState transition with
      | error e => exact ⟨rfl,rfl⟩
      | ok exitState =>
        rw [liftOkBind,liftOkBind]
        have same := asked exitState
        have attempted : (attempt (onCommander (exchange x node.child.state.assumedOperationalState exitState))
            (onChild ClientSideChild.executingCommandMark node).state).result = .ok _ := congrArg Except.ok same
        rw [bindOk (a := ()) rfl,bindOk (a := ()) rfl,afterResult,afterState,afterResult,afterState,bindOk attempted]
        cases ClientSideChild.exchange (application x node.commander pings) x.fsmCommand.data
          node.child.state.assumedOperationalState exitState with
        | error e => exact ⟨rfl,rfl⟩
        | ok said =>
          obtain ⟨content,success⟩ := said
          cases success <;> exact ⟨rfl,rfl⟩

end Command

structure Numbered where
  number : Nat
  node : RESTAPIChildNode

def proceed (n : Numbered) (x : Exchange) : Numbered :=
  ⟨n.number + 1,(propagateFsmCommand x (notified x.late n.node)).state⟩

/-- A reply comes after the command that it answers. -/
structure Causal (n : Numbered) (x : Exchange) : Prop where
  late : ∀ r ∈ x.late, r.answers < n.number
  arriving : ∀ r ∈ x.arriving, r.answers ≤ n.number

structure Attributed (n : Numbered) (x : Exchange) : Prop where
  checked : ∀ r, Checks x (notified x.late n.node) r → r.answers = n.number
  reported : ∀ response, (propagateFsmCommand x (notified x.late n.node)).result = .ok response →
    ∃ r, r.answers = n.number ∧ Reports x response r

/-- What is sent finds the queue empty, and what comes in first answers it. -/
def Drained (n : Numbered) (x : Exchange) : Prop :=
  Sends x (notified x.late n.node) → n.node.commander.responseQueue = [] ∧ x.late = [] ∧
    ∀ r, x.arriving.head? = some r → r.answers = n.number

def Earlier (n : Numbered) : Prop := ∀ r ∈ n.node.commander.responseQueue, r.answers < n.number

section Runs
variable {n : Numbered} {x : Exchange}

theorem proceedEarlier (earlier : Earlier n) (causal : Causal n x) : Earlier (proceed n x) := by
  intro r mem
  change r.answers < n.number + 1
  rcases propagateGathers x (notified x.late n.node) r mem with before | during
  · rw [notifiedQueue] at before
    rcases List.mem_append.mp before with old | late
    · exact Nat.lt_succ_of_lt (earlier r old)
    · exact Nat.lt_succ_of_lt (causal.late r late)
  · exact Nat.lt_succ_of_le (causal.arriving r during)

theorem attributedIff (earlier : Earlier n) (causal : Causal n x) : Attributed n x ↔ Drained n x := by
  constructor
  · intro attributed sends
    have queue : n.node.commander.responseQueue ++ x.late = [] := by
      cases queue : n.node.commander.responseQueue ++ x.late with
      | nil => rfl
      | cons first rest =>
        have taken : Checks x (notified x.late n.node) first :=
          checksFirst.mpr ⟨sends,by rw [notifiedQueue,queue]; rfl⟩
        have known : first ∈ n.node.commander.responseQueue ++ x.late := queue ▸ List.mem_cons_self
        have before : first.answers < n.number := (List.mem_append.mp known).elim (earlier first) (causal.late first)
        exact absurd (attributed.checked first taken) (Nat.ne_of_lt before)
    obtain ⟨empty,none⟩ := List.append_eq_nil_iff.mp queue
    refine ⟨empty,none,fun r first => attributed.checked r (checksFirst.mpr ⟨sends,?_⟩)⟩
    rw [notifiedQueue,queue]
    exact first
  · intro drained
    have checked : ∀ r, Checks x (notified x.late n.node) r → r.answers = n.number := by
      intro r checks
      obtain ⟨sends,first⟩ := checksFirst.mp checks
      obtain ⟨empty,none,answers⟩ := drained sends
      rw [notifiedQueue,empty,none] at first
      exact answers r first
    refine ⟨checked,fun response ok => ?_⟩
    obtain ⟨r,checks,reports⟩ := propagateReports ok
    exact ⟨r,checked r checks,reports⟩

theorem everyReplyAttributedIff (child : ClientSideChild) (exchanges : List Exchange)
    (causal : Along proceed Causal ⟨0,built child⟩ exchanges) :
    Along proceed Attributed ⟨0,built child⟩ exchanges ↔ Along proceed Drained ⟨0,built child⟩ exchanges :=
  Library.alongIff (I := Earlier) (fun _ _ => proceedEarlier) (fun _ _ => attributedIff)
    (fun _ mem => absurd mem List.not_mem_nil) causal

end Runs
end RESTAPIChildNode

namespace Sample
open Library (Dict)

def appChild : ClientSideChild := { name := "app", fsm := some fsm, state := ⟨false,some "initial",true,false⟩ }

def sendConf (late arriving : List Reply) : Exchange :=
  ⟨⟨"conf",Dict.empty,[],orEmpty .empty⟩,user,late,none,arriving⟩

def done (answers : Nat) : Reply := ⟨answers,⟨some true,none,"done"⟩⟩

def failed (answers : Nat) : Reply := ⟨answers,⟨some false,some "not ready","failed"⟩⟩

end Sample

open Sample in
theorem failedReplyAttributedIff :
    Along RESTAPIChildNode.proceed RESTAPIChildNode.Attributed ⟨0,.built appChild⟩ [sendConf [] [failed 0],sendConf [] [done 1]] ↔
      Along RESTAPIChildNode.proceed RESTAPIChildNode.Drained ⟨0,.built appChild⟩ [sendConf [] [failed 0],sendConf [] [done 1]] := by
  refine RESTAPIChildNode.everyReplyAttributedIff appChild [sendConf [] [failed 0],sendConf [] [done 1]]
    ⟨⟨fun _ mem => absurd mem List.not_mem_nil,fun r mem => ?_⟩,⟨fun _ mem => absurd mem List.not_mem_nil,fun r mem => ?_⟩,trivial⟩
  · rw [List.mem_singleton.mp mem]
    exact le_rfl
  · rw [List.mem_singleton.mp mem]
    exact le_rfl

open Sample in
theorem lateReplyMisattributed :
    Along RESTAPIChildNode.proceed RESTAPIChildNode.Causal ⟨0,.built appChild⟩
      [sendConf [] [],sendConf [done 0] [failed 1]] ∧
    ¬ Along RESTAPIChildNode.proceed RESTAPIChildNode.Attributed ⟨0,.built appChild⟩
      [sendConf [] [],sendConf [done 0] [failed 1]] := by
  refine ⟨⟨⟨fun _ mem => absurd mem List.not_mem_nil,fun _ mem => absurd mem List.not_mem_nil⟩,
    ⟨fun r mem => ?_,fun r mem => ?_⟩,trivial⟩,fun attributed => ?_⟩
  · rw [List.mem_singleton.mp mem]
    exact Nat.zero_lt_one
  · rw [List.mem_singleton.mp mem]
    exact le_rfl
  · have taken := attributed.2.1.checked (done 0) ⟨⟨⟨"configured",by decide⟩,rfl,⟨_,rfl⟩,rfl⟩,rfl⟩
    exact nomatch taken

end Drunc
