import Drunc.Children

/-! Trees of controllers and applications. A tree of a given depth is a child whose
own children, if it is a controller, are trees of the depth below, so a forest of
depth zero is empty; each node meets surroundings of its own, which a path from the
root tells apart. No command changes the name or the FSM of a child (`Same`). A
child `Expects` the state that the transition leads to from the one it assumes. -/
namespace Drunc
open Library.Act

namespace ClientSideChild

def Same (a b : ClientSideChild) : Prop := b.name = a.name ∧ b.fsm = a.fsm

theorem sameRefl (a : ClientSideChild) : Same a a := ⟨rfl,rfl⟩

theorem sameTrans (a b c : ClientSideChild) (first : Same a b) (second : Same b c) : Same a c :=
  ⟨second.1.trans first.1,second.2.trans first.2⟩

theorem propagateExecute {child : ClientSideChild} {fsmCommand : FSMCommand} {token : Token}
    {execute : FSMCommand → Token → Do ClientSideChild Response} :
    propagateCommand execute .executeFsmCommand (some (.fsmCommand fsmCommand)) token child =
      if child.state.included then execute fsmCommand token child
      else ⟨.ok (child.fsmResponse token fsmCommand .fsmNotExecutedExcluded none),child,[]⟩ := by
  unfold propagateCommand
  rw [readBind]
  cases included : child.state.included <;> rfl

theorem excludedReplies {child : ClientSideChild} {fsmCommand : FSMCommand} {token : Token} {r : Response} {P : Prop}
    (replied : child.fsmResponse token fsmCommand .fsmNotExecutedExcluded none = r) :
    r.decodable = true ∧ (r.succeeded = true → P) := by
  subst replied
  exact ⟨rfl,fun succeeded => by simp [fsmResponse,respond,Response.succeeded,asFsmCommandResponse] at succeeded⟩

theorem setStateSame (f : ClientSideState → ClientSideState) : Leaves Same (setState f) := fun _ => ⟨rfl,rfl⟩

theorem propagateCommandSame {execute : FSMCommand → Token → Do ClientSideChild Response}
    (executes : ∀ fsmCommand token, Leaves Same (execute fsmCommand token)) (command : Command) (data : Option Payload)
    (token : Token) : Leaves Same (propagateCommand execute command data token) := by
  refine leavesBind sameTrans (leavesRead sameRefl) fun child => ?_
  split
  · exact leavesBind sameTrans (setStateSame _) fun _ => leavesPure sameRefl _
  · exact leavesBind sameTrans (setStateSame _) fun _ => leavesPure sameRefl _
  · split
    · exact leavesBind sameTrans (leavesLift sameRefl _) fun _ => leavesPure sameRefl _
    · split
      · exact leavesBind sameTrans (leavesLift sameRefl _) fun fsmCommand => executes fsmCommand token
      · exact leavesPure sameRefl _
      · exact leavesPure sameRefl _

variable [Re]

theorem propagateFsmCommandSame (fsmCommand : FSMCommand) (token : Token) :
    Leaves Same (propagateFsmCommand fsmCommand token) := by
  refine leavesBind sameTrans (leavesRead sameRefl) fun child => ?_
  refine leavesBind sameTrans (leavesLift sameRefl _) fun fsm => ?_
  refine leavesBind sameTrans (leavesLift sameRefl _) fun transition => ?_
  refine leavesBind sameTrans (leavesLift sameRefl _) fun exitState => ?_
  refine leavesBind sameTrans (setStateSame _) fun _ => ?_
  refine leavesBind sameTrans (setStateSame _) fun _ => ?_
  exact leavesBind sameTrans (setStateSame _) fun _ => leavesPure sameRefl _

theorem propagateToApplicationSame (app : Application) (fsmCommand : FSMCommand) (token : Token) :
    Leaves Same (propagateToApplication app fsmCommand token) := by
  refine leavesBind sameTrans (leavesRead sameRefl) fun child => ?_
  refine leavesBind sameTrans (leavesLift sameRefl _) fun fsm => ?_
  refine leavesBind sameTrans (leavesLift sameRefl _) fun transition => ?_
  refine leavesBind sameTrans (leavesLift sameRefl _) fun exitState => ?_
  refine leavesBind sameTrans (setStateSame _) fun _ => ?_
  split
  · exact leavesBind sameTrans (setStateSame _) fun _ => leavesRaise sameRefl _
  · exact leavesBind sameTrans (setStateSame _) fun _ => leavesPure sameRefl _
  · exact leavesBind sameTrans (setStateSame _) fun _ =>
      leavesBind sameTrans (setStateSame _) fun _ => leavesPure sameRefl _

structure Expects (child : ClientSideChild) (fsmCommand : FSMCommand) (exitState : Option String) : Prop where
  expected : ∃ fsm t, child.fsm = some fsm ∧ fsm.getTransition fsmCommand.commandName = .ok t ∧
    fsm.getDestinationState child.state.assumedOperationalState t = .ok exitState

section Execute
variable {child : ClientSideChild} {fsmCommand : FSMCommand} {token : Token} {exitState : Option String} {app : Application}

theorem expectsOrRaises (child : ClientSideChild) (fsmCommand : FSMCommand) :
    (∃ exitState, child.Expects fsmCommand exitState) ∨
    ∃ e, ∀ app token, propagateFsmCommand fsmCommand token child = ⟨.error e,child,[]⟩ ∧
      propagateToApplication app fsmCommand token child = ⟨.error e,child,[]⟩ := by
  unfold propagateFsmCommand propagateToApplication
  simp only [readBind]
  cases hasFsm : child.fsm with
  | none =>
    have absent : child.getFsm = .error (.attributeError "object has no attribute 'fsm'") := by simp [getFsm,hasFsm]
    exact .inr ⟨_,fun app token => by rw [absent]; exact ⟨rfl,rfl⟩⟩
  | some fsm =>
    have present : child.getFsm = .ok fsm := by simp [getFsm,hasFsm]
    simp only [present,liftOkBind]
    cases found : fsm.getTransition fsmCommand.commandName with
    | error e => exact .inr ⟨e,fun app token => ⟨rfl,rfl⟩⟩
    | ok t =>
      simp only [liftOkBind]
      cases leads : fsm.getDestinationState child.state.assumedOperationalState t with
      | error e => exact .inr ⟨e,fun app token => ⟨rfl,rfl⟩⟩
      | ok exitState => exact .inl ⟨exitState,⟨fsm,t,hasFsm,found,leads⟩⟩

theorem clientSideRuns (expects : child.Expects fsmCommand exitState) :
    propagateFsmCommand fsmCommand token child =
      ⟨.ok (child.fsmResponse token fsmCommand .fsmExecutedSuccessfully (some "successful")),
        { child with state := { child.state with executingCommand := false, assumedOperationalState := exitState } },[]⟩ := by
  obtain ⟨fsm,t,hasFsm,found,leads⟩ := expects
  have present : child.getFsm = .ok fsm := by simp [getFsm,hasFsm]
  rw [propagateFsmCommand,readBind,present,liftOkBind,found,liftOkBind,leads,liftOkBind]
  rfl

theorem applicationRuns (expects : child.Expects fsmCommand exitState) :
    propagateToApplication app fsmCommand token child =
      match exchange app fsmCommand.data child.state.assumedOperationalState exitState with
      | .error e =>
          ⟨.error e,{ child with state := { child.state with executingCommand := true, errored := true } },[]⟩
      | .ok (r,false) =>
          ⟨.ok (child.fsmResponse token fsmCommand .fsmFailed (some r.text)),
            { child with state := { child.state with executingCommand := true, errored := true } },[]⟩
      | .ok (r,true) =>
          ⟨.ok (child.fsmResponse token fsmCommand .fsmExecutedSuccessfully (some r.text)),
            { child with state := { child.state with executingCommand := false, assumedOperationalState := exitState } },[]⟩ := by
  obtain ⟨fsm,t,hasFsm,found,leads⟩ := expects
  have present : child.getFsm = .ok fsm := by simp [getFsm,hasFsm]
  rw [propagateToApplication,readBind,present,liftOkBind,found,liftOkBind,leads,liftOkBind]
  cases exchange app fsmCommand.data child.state.assumedOperationalState exitState with
  | error e => rfl
  | ok answer =>
    obtain ⟨r,success⟩ := answer
    cases success <;> rfl

theorem executeReplies {execute : FSMCommand → Token → Do ClientSideChild Response} {r : Response}
    (runs : ∀ exitState, child.Expects fsmCommand exitState → (execute fsmCommand token child).result = .ok r →
      r.decodable = true ∧ (r.succeeded = true → (execute fsmCommand token child).state.state.assumedOperationalState = exitState))
    (raises : (∃ exitState, child.Expects fsmCommand exitState) ∨ ∃ e, (execute fsmCommand token child).result = .error e)
    (replied : (propagateCommand execute .executeFsmCommand (some (.fsmCommand fsmCommand)) token child).result = .ok r) :
    r.decodable = true ∧ (r.succeeded = true → child.state.included = true ∧ child.Expects fsmCommand
      (propagateCommand execute .executeFsmCommand (some (.fsmCommand fsmCommand)) token child).state.state.assumedOperationalState) := by
  rw [propagateExecute] at replied ⊢
  split at replied
  · rename_i included
    rw [if_pos included]
    rcases raises with ⟨exitState,expects⟩ | ⟨e,raised⟩
    · obtain ⟨decodable,reached⟩ := runs exitState expects replied
      exact ⟨decodable,fun succeeded => ⟨included,(reached succeeded).symm ▸ expects⟩⟩
    · rw [raised] at replied
      contradiction
  · exact excludedReplies (Except.ok.inj replied)

theorem clientSideReplies {r : Response}
    (replied : (propagateCommand propagateFsmCommand .executeFsmCommand (some (.fsmCommand fsmCommand)) token
      child).result = .ok r) :
    r.decodable = true ∧ (r.succeeded = true → child.state.included = true ∧ child.Expects fsmCommand
      (propagateCommand propagateFsmCommand .executeFsmCommand (some (.fsmCommand fsmCommand)) token
        child).state.state.assumedOperationalState) := by
  refine executeReplies (fun exitState expects ran => ?_) ?_ replied
  · rw [clientSideRuns expects] at ran ⊢
    cases ran
    exact ⟨rfl,fun _ => rfl⟩
  · rcases expectsOrRaises child fsmCommand with expects | ⟨e,raises⟩
    · exact .inl expects
    · exact .inr ⟨e,congrArg Library.Outcome.result (raises ⟨none,.error e,false⟩ token).1⟩

theorem applicationReplies {r : Response}
    (replied : (propagateCommand (propagateToApplication app) .executeFsmCommand (some (.fsmCommand fsmCommand)) token
      child).result = .ok r) :
    r.decodable = true ∧ (r.succeeded = true → child.state.included = true ∧ child.Expects fsmCommand
      (propagateCommand (propagateToApplication app) .executeFsmCommand (some (.fsmCommand fsmCommand)) token
        child).state.state.assumedOperationalState) := by
  refine executeReplies (fun exitState expects ran => ?_) ?_ replied
  · rw [applicationRuns expects] at ran ⊢
    split at ran
    · contradiction
    · cases ran
      refine ⟨rfl,fun succeeded => ?_⟩
      simp [fsmResponse,respond,Response.succeeded,asFsmCommandResponse] at succeeded
    · cases ran
      exact ⟨rfl,fun _ => rfl⟩
  · rcases expectsOrRaises child fsmCommand with expects | ⟨e,raises⟩
    · exact .inl expects
    · exact .inr ⟨e,congrArg Library.Outcome.result (raises app token).2⟩

end Execute
end ClientSideChild

theorem forall₂MapIdx {α β : Type} {R : β → α → Prop} {f : Nat → α → β} {xs : List α}
    (each : ∀ i x, xs[i]? = some x → R (f i x) x) : List.Forall₂ R (xs.mapIdx f) xs := by
  rw [List.forall₂_iff_get]
  refine ⟨by simp,fun i _ bound => ?_⟩
  simpa using each i xs[i] (List.getElem?_eq_getElem bound)

def Tree : Nat → Type
  | 0 => Empty
  | n+1 => ChildNode (Tree n)

abbrev Surrounded := List Nat → Surroundings

def Surrounded.below (env : Surrounded) (index : Nat) : Surrounded := fun path => env (index :: path)

section Interface
variable {κ : Type} [Re]

def ChildNode.interface (here : Nat → Surroundings) (below : Nat → ChildInterface κ) : ChildInterface (ChildNode κ) where
  name := ChildNode.name
  propagateCommand index child command data token :=
    ChildNode.propagateCommand (here index) (below index) command data token child
  nameKept index child command data token := by
    cases child with
    | clientSide child =>
      exact (ClientSideChild.propagateCommandSame ClientSideChild.propagateFsmCommandSame command data token child).1
    | restApi child =>
      exact (ClientSideChild.propagateCommandSame
        (ClientSideChild.propagateToApplicationSame (here index).application) command data token child).1
    | grpc name controller => rfl
  getStatus index child token := ChildNode.getStatus (here index) (below index) token child

def Tree.interface : (n : Nat) → Surrounded → ChildInterface (Tree n)
  | 0, _ => childless
  | n+1, env => ChildNode.interface (fun index => env [index]) fun index => Tree.interface n (env.below index)

def Tree.handle {n : Nat} (env : Surrounded) (command : Command) (request : Request) : Do (Controller (Tree n)) Response :=
  Controller.handle (env []).world (Tree.interface n env) command request

/-- What the reply of a child to an FSM command answers for, where it succeeds. -/
def ChildNode.Answers (s : Surroundings) (below : ChildInterface κ) (fsmCommand : FSMCommand) (token : Token) :
    ChildNode κ → ChildNode κ → Prop
  | .clientSide a, .clientSide b | .restApi a, .restApi b =>
      a.state.included = true ∧ a.Expects fsmCommand b.state.assumedOperationalState
  | .grpc _ a, .grpc _ b => ∃ t state,
      Controller.Completes s.world below ⟨token,some (.fsmCommand fsmCommand)⟩ a fsmCommand t state ∧
      b = Controller.settled s.world below t fsmCommand token a state
  | _, _ => False

theorem ChildNode.replies {s : Surroundings} {below : ChildInterface κ} {fsmCommand : FSMCommand} {token : Token}
    {child : ChildNode κ} {r : Response}
    (replied : (ChildNode.propagateCommand s below .executeFsmCommand (some (.fsmCommand fsmCommand)) token child).1 =
      .ok r) :
    r.decodable = true ∧ (r.succeeded = true → ChildNode.Answers s below fsmCommand token child
      (ChildNode.propagateCommand s below .executeFsmCommand (some (.fsmCommand fsmCommand)) token child).2) := by
  cases child with
  | clientSide child => exact ClientSideChild.clientSideReplies replied
  | restApi child => exact ClientSideChild.applicationReplies replied
  | grpc name controller =>
    obtain ⟨_,answered,same⟩ := sendCommandOk replied
    have honest := Controller.executeHonest answered
    refine ⟨honest.decodable,fun succeeded => ?_⟩
    obtain ⟨other,t,state,completes,_⟩ := honest.complete succeeded
    obtain rfl : fsmCommand = other := by simpa using completes.data
    exact ⟨t,state,completes,same.trans (Controller.completedRun completes).2⟩

theorem Tree.decodable (n : Nat) (env : Surrounded) : (Tree.interface n env).Decodable := by
  intro i child fsmCommand token r replied
  cases n with
  | zero => exact child.elim
  | succ n => exact (ChildNode.replies replied).1

end Interface
end Drunc
