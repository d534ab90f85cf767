import Drunc.Tree

/-! Excluded children. A child that is excluded answers a command with a flag of its
own, which the loop over the responses takes for a failure: an excluded child puts
its included parent in error. It does so at every controller that the command comes to
on its way down. `PublishesTransition` says that nothing which a transition publishes
before its last sub-state raises. -/
namespace Drunc
open Library (failure firstCut firstCutAppend firstCutMem firstCutNone)
open Library.Act

def ChildNode.included {κ : Type} : ChildNode κ → Bool
  | .clientSide child => child.state.included
  | .restApi child => child.state.included
  | .grpc _ controller => controller.statefulNode.included

def Tree.included : {n : Nat} → Tree n → Bool
  | 0, child => child.elim
  | _+1, child => ChildNode.included child

section Obey
variable [Re]

theorem ChildNode.answersIncluded {κ : Type} {s : Surroundings} {below : ChildInterface κ} {fsmCommand : FSMCommand}
    {token : Token} {a b : ChildNode κ} (answers : ChildNode.Answers s below fsmCommand token a b) :
    a.included = true := by
  cases a <;> cases b <;> first | contradiction | skip
  · exact answers.1
  · exact answers.1
  · obtain ⟨t,state,completes,_⟩ := answers
    exact completes.start.included

theorem Tree.obeysIncluded {n : Nat} {env : Surrounded} {fsmCommand : FSMCommand} {token : Token} {i : Nat}
    {child : Tree n}
    (obeys : Obeys (Tree.interface n env) .executeFsmCommand (some (.fsmCommand fsmCommand)) token i child) :
    child.included = true := by
  obtain ⟨r,replied,succeeded⟩ := obeys
  cases n with
  | zero => exact child.elim
  | succ n => exact ChildNode.answersIncluded ((ChildNode.replies replied).2 succeeded)

end Obey

structure World.PublishesTransition (w : World) : Prop where
  subStates : ∀ phase, w.broadcast (.subState phase) = none
  propagation : w.broadcast .propagation = none
  operationalState : w.broadcast .operationalState = none

namespace Controller
variable {κ : Type} [Re] {w : World} {kids : ChildInterface κ} {t : Transition} {fsmCommand : FSMCommand}
  {token : Token} {c : Controller κ} {state : String}

structure OwnCallbacksSucceed (w : World) (t : Transition) (fsmCommand : FSMCommand) (c : Controller κ) : Prop where
  before : failure (prepared w t fsmCommand c) = none
  after : failure (finalised w t fsmCommand c) = none

theorem passesIff : firstCut (checkpoints w kids t fsmCommand token c state) = none ↔
    failure (decoded fsmCommand c) = none ∧ OwnCallbacksSucceed w t fsmCommand c ∧
    failure (worst w kids t fsmCommand token c) = none ∧ w.PublishesTransition := by
  rw [firstCutNone]
  constructor
  · intro all
    simp only [checkpoints,checkpointsBefore,checkpointsAfter,List.cons_append,List.nil_append,List.forall_mem_cons,
      List.not_mem_nil,false_implies,implies_true,and_true] at all
    obtain ⟨args,preparing,before,ready,propagating,propagation,taken,propagated,executing,terminated,operational,
      finalising,after,idle⟩ := all
    refine ⟨args,⟨before,after⟩,taken,⟨fun phase => ?_,propagation,operational⟩⟩
    cases phase <;> assumption
  · rintro ⟨args,⟨before,after⟩,taken,⟨subStates,propagation,operational⟩⟩
    simp [checkpoints,checkpointsBefore,checkpointsAfter,args,before,after,taken,subStates,propagation,operational]

/-- What keeps a controller out of error whose included children obey: the command
does not reach the flags, the error cannot be published, or every child that is called
is included and the publication of its response succeeds. -/
def KeptOutOfError {n : Nat} (w : World) (fsmCommand : FSMCommand) (c : Controller (Tree n)) : Prop :=
  failure (decoded fsmCommand c) ≠ none ∨ ¬ w.PublishesTransition ∨ w.broadcast .errorState ≠ none ∨
  ∀ i child, c.childrenNodes[i]? = some child → w.broadcast (.childStart i) = none →
    child.included = true ∧ w.broadcast (.childResponse i) = none

section Tree
variable {n : Nat} {env : Surrounded} {root : Controller (Tree n)}

theorem excludedFlags (obey : ∀ i child, root.childrenNodes[i]? = some child → child.included = true →
      childObeys w (Tree.interface n env) t fsmCommand token root i child) :
    childFailed w (Tree.interface n env) t fsmCommand token root = false ↔
      ∀ i child, root.childrenNodes[i]? = some child → w.broadcast (.childStart i) = none →
        child.included = true ∧ w.broadcast (.childResponse i) = none := by
  have flags := (childFailedObeys (Tree.decodable n env) w t fsmCommand token root).2
  rw [← Bool.not_eq_true,flags]
  constructor
  · intro none i child found started
    have obeys : childObeys w (Tree.interface n env) t fsmCommand token root i child := by
      by_contra disobeys
      exact none ⟨i,child,found,started,.inl disobeys⟩
    refine ⟨Tree.obeysIncluded obeys,?_⟩
    by_contra unpublished
    exact none ⟨i,child,found,started,.inr unpublished⟩
  · rintro all ⟨i,child,found,started,disobeys | unpublished⟩
    · exact disobeys (obey i child found (all i child found started).1)
    · exact unpublished (all i child found started).2

theorem flagsIff (obey : ∀ i child, root.childrenNodes[i]? = some child → child.included = true →
      childObeys w (Tree.interface n env) t fsmCommand token root i child)
    (succeed : OwnCallbacksSucceed w t fsmCommand root) :
    (firstCut (checkpoints w (Tree.interface n env) t fsmCommand token root state) = none ∧
      childFailed w (Tree.interface n env) t fsmCommand token root = true ∧ w.broadcast .errorState = none) ↔
      ¬ KeptOutOfError w fsmCommand root := by
  have taken := (childFailedObeys (Tree.decodable n env) w t fsmCommand token root).1
  rw [passesIff,← Bool.not_eq_false,excludedFlags obey,KeptOutOfError]
  constructor
  · rintro ⟨⟨args,_,_,publishes⟩,bad,published⟩ kept
    rcases kept with undecoded | unpublished | silent | all
    · exact undecoded args
    · exact unpublished publishes
    · exact silent published
    · exact bad all
  · intro kept
    simp only [not_or,not_not] at kept
    exact ⟨⟨kept.1,succeed,taken,kept.2.1⟩,kept.2.2.2,kept.2.2.1⟩

theorem staysOutOfErrorIff (start : Starts root fsmCommand t state)
    (obey : ∀ i child, root.childrenNodes[i]? = some child → child.included = true →
      childObeys w (Tree.interface n env) t fsmCommand token root i child)
    (succeed : OwnCallbacksSucceed w t fsmCommand root) :
    (executeFsmCommand w (Tree.interface n env) fsmCommand token root).state.statefulNode.inError = false ↔
      KeptOutOfError w fsmCommand root := by
  rw [← Bool.not_eq_true,carriedOutInError (startsRun w (Tree.interface n env) token start) start.sound,
    flagsIff obey succeed,not_not]

end Tree

section Below

/-- The controller that a path of places among children leads to. -/
inductive At : {n k : Nat} → List Nat → Controller (Tree n) → Controller (Tree k) → Prop
  | here {n : Nat} (c : Controller (Tree n)) : At [] c c
  | inside {n k : Nat} {i : Nat} {path : List Nat} {c : Controller (Tree (n+1))} {name : String} {d : Controller (Tree n)}
      {e : Controller (Tree k)} (found : c.childrenNodes[i]? = some (.grpc name d)) (rest : At path d e) : At (i :: path) c e

/-- How a command comes to the controller at a path: each one above it gets as far as asking its
children, and the next one is there, acknowledges the request and takes it from the holder. -/
inductive Gets (token : Token) : {n k : Nat} → List Nat → Surrounded → FSMCommand → Controller (Tree n) →
    FSMCommand → Controller (Tree k) → Prop
  | own {n : Nat} (env : Surrounded) (fsmCommand : FSMCommand) (c : Controller (Tree n)) :
      Gets token [] env fsmCommand c fsmCommand c
  | asked {n k : Nat} {i : Nat} {path : List Nat} {env : Surrounded} {fsmCommand other : FSMCommand} {t : Transition}
      {state name : String} {c : Controller (Tree (n+1))} {d : Controller (Tree n)} {e : Controller (Tree k)}
      (start : Starts c fsmCommand t state)
      (propagated : firstCut (checkpointsBefore (env []).world t fsmCommand c state) = none)
      (found : c.childrenNodes[i]? = some (.grpc name d))
      (started : (env []).world.broadcast (.childStart i) = none)
      (reached : (env [i]).link ≠ .unreachable)
      (acknowledged : (env [i]).world.broadcast .ack = none)
      (held : ControllerActor.compareToken token d.actor = true)
      (rest : Gets token path (env.below i) (childrenFsmCommand (env []).world t fsmCommand c) d other e) :
      Gets token (i :: path) env fsmCommand c other e

theorem propagatedChildren {kids : ChildInterface κ} (start : Starts c fsmCommand t state)
    (propagated : firstCut (checkpointsBefore w t fsmCommand c state) = none) :
    (executeFsmCommand w kids fsmCommand token c).state.childrenNodes = childrenMoved w kids t fsmCommand token c := by
  have run := startsRun w kids token start
  generalize (executeFsmCommand w kids fsmCommand token c).result = result at run
  generalize (executeFsmCommand w kids fsmCommand token c).state = after at run ⊢
  cases run with
  | cut here =>
    rw [checkpoints,firstCutAppend,propagated,Option.none_or] at here
    have mem := firstCutMem here
    simp only [checkpointsAfter,List.mem_cons,List.not_mem_nil,or_false,Prod.mk.injEq] at mem
    rcases mem with ⟨_,rfl⟩ | ⟨_,rfl⟩ | ⟨_,rfl⟩ | ⟨_,rfl⟩ | ⟨_,rfl⟩ | ⟨_,rfl⟩ | ⟨_,rfl⟩ | ⟨_,rfl⟩ <;> rfl
  | succeeded => rfl
  | flagged => rfl
  | unflagged => rfl

theorem sentExecutes {s : Surroundings} {name : String} (reached : s.link ≠ .unreachable)
    (acknowledged : s.world.broadcast .ack = none) (held : ControllerActor.compareToken token c.actor = true) :
    (ChildNode.propagateCommand s kids .executeFsmCommand (some (.fsmCommand fsmCommand)) token (.grpc name c)).2 =
      .grpc name (executeFsmCommand s.world kids fsmCommand token c).state := by
  have accepted : admitted .executeFsmCommand ⟨token,some (.fsmCommand fsmCommand)⟩ c = true := by simp [admitted,held]
  refine congrArg (ChildNode.grpc name) ((ChildNode.sendCommandReached reached).trans ?_)
  rw [handleAdmitted acknowledged accepted,unpackedFsmCommand rfl]

theorem getsRuns {n k : Nat} {path : List Nat} {env : Surrounded} {other : FSMCommand} {root : Controller (Tree n)}
    {e : Controller (Tree k)} (gets : Gets token path env fsmCommand root other e) :
    At path (executeFsmCommand (env []).world (Tree.interface n env) fsmCommand token root).state
      (executeFsmCommand (env path).world (Tree.interface k fun inner => env (path ++ inner)) other token e).state := by
  induction gets with
  | own env fsmCommand c => exact .here _
  | @asked n k i path env fsmCommand other t state name c d e start propagated found started reached acknowledged held rest ih =>
    have executes : (ChildNode.propagateCommand (env [i]) (Tree.interface n (env.below i)) .executeFsmCommand
        (some (.fsmCommand (childrenFsmCommand (env []).world t fsmCommand c))) token (.grpc name d)).2 = _ :=
      sentExecutes reached acknowledged held
    refine .inside (?_ : _ = some (ChildNode.grpc name _)) ih
    rw [propagatedChildren start propagated]
    exact (movedChild found started).trans (congrArg some executes)

theorem belowStaysOutOfErrorIff {n k : Nat} {path : List Nat} {env : Surrounded} {other : FSMCommand}
    {root : Controller (Tree n)} {e : Controller (Tree k)} (gets : Gets token path env fsmCommand root other e)
    (start : Starts e other t state)
    (obey : ∀ i child, e.childrenNodes[i]? = some child → child.included = true →
      childObeys (env path).world (Tree.interface k fun inner => env (path ++ inner)) t other token e i child)
    (succeed : OwnCallbacksSucceed (env path).world t other e) :
    ∃ after : Controller (Tree k), At path (executeFsmCommand (env []).world (Tree.interface n env) fsmCommand token root).state after ∧
      (after.statefulNode.inError = false ↔ KeptOutOfError (env path).world other e) := by
  refine ⟨_,getsRuns gets,?_⟩
  rw [← Bool.not_eq_true,carriedOutInError (startsRun (env path).world _ token start) start.sound,
    flagsIff obey succeed,not_not]

end Below

end Controller

namespace Sample
open Library (Dict)

def willing : Application := ⟨none,.ok ⟨some true,none,"done"⟩,true⟩

def peaceful : Surrounded := fun _ => ⟨calm,.up,willing⟩

def follower (name : String) (included : Bool) : ClientSideChild :=
  { name, fsm := some fsm, state := ⟨false,some "initial",included,false⟩ }

def exclusiveRoot : Controller (Tree 1) := root [ChildNode.restApi (follower "app-1" true),ChildNode.restApi (follower "app-2" false)]

def nestedRoot : Controller (Tree 2) := root [ChildNode.grpc "sub" exclusiveRoot]

end Sample

open Sample in
theorem exclusiveRootObeys : ∀ i child, exclusiveRoot.childrenNodes[i]? = some child → child.included = true →
    Controller.childObeys calm (Tree.interface 1 peaceful) configure confCommand user exclusiveRoot i child
  | 0,_,rfl,_ => ⟨_,rfl,rfl⟩
  | 1,_,rfl,included => by contradiction
  | _+2,_,found,_ => by contradiction

open Sample in
theorem excludedChildFlagsParent :
    Controller.Starts exclusiveRoot confCommand configure "initial" ∧ calm.Quiet ∧
    (∀ i child, exclusiveRoot.childrenNodes[i]? = some child → child.included = true →
      Controller.childObeys calm (Tree.interface 1 peaceful) configure confCommand user exclusiveRoot i child) ∧
    Controller.OwnCallbacksSucceed calm configure confCommand exclusiveRoot ∧
    (Controller.executeFsmCommand calm (Tree.interface 1 peaceful) confCommand user exclusiveRoot).state.statefulNode.inError =
      true :=
  ⟨⟨rfl,rfl,rfl,⟨rfl,rfl⟩,rfl⟩,fun _ => rfl,exclusiveRootObeys,⟨rfl,rfl⟩,by decide⟩

open Sample in
theorem exclusiveRootStaysIff :
    (Controller.executeFsmCommand calm (Tree.interface 1 peaceful) confCommand user exclusiveRoot).state.statefulNode.inError =
      false ↔ Controller.KeptOutOfError calm confCommand exclusiveRoot :=
  Controller.staysOutOfErrorIff ⟨rfl,rfl,rfl,⟨rfl,rfl⟩,rfl⟩ exclusiveRootObeys ⟨rfl,rfl⟩

open Sample in
example : ∃ after : Controller (Tree 1), Controller.At [0]
    (Controller.executeFsmCommand (peaceful []).world (Tree.interface 2 peaceful) confCommand user nestedRoot).state after ∧
    after.statefulNode.inError = true := by
  have gets : Controller.Gets user [0] peaceful confCommand nestedRoot
      (Controller.childrenFsmCommand calm configure confCommand nestedRoot) exclusiveRoot :=
    .asked ⟨rfl,rfl,rfl,⟨rfl,rfl⟩,rfl⟩ rfl rfl rfl (by decide) rfl (by decide) (.own _ _ _)
  have placed := Controller.getsRuns gets
  exact ⟨_,placed,by decide⟩

end Drunc
