import Drunc.History

/-! What a controller makes of its children's outcomes. The threads may append
their responses in any order: every child is answered for once, and the last bad
flag that the loop keeps tells whether there was any bad one. The response that
stands for a child (`outcome`) is its own, or one that names it with the exception
it raised. Once the checkpoints are passed, the flags alone decide on the error
(`settled`), and the schedule reaches a command only through the order of the
responses. -/
namespace Drunc
open Library (failure value firstCut)
open Library.Act

/-- What the loop over the responses can take: a response that did not succeed, or
one that holds an FSM response. -/
def Response.decodable (r : Response) : Bool :=
  r.flag != .executedSuccessfully || (r.data.bind asFsmCommandResponse).isSome

def Response.succeeded (r : Response) : Bool :=
  r.flag == .executedSuccessfully && (r.data.bind asFsmCommandResponse).any (·.flag == .fsmExecutedSuccessfully)

section Outcomes
variable {κ : Type} (kids : ChildInterface κ) (command : Command) (data : Option Payload) (token : Token)

def outcome (index : Nat) (child : κ) : Response :=
  match (kids.propagateCommand index child command data token).1 with
  | .ok response => response
  | .error e => childException kids token child e

variable {kids command data token} {w : World}

theorem collectedQuiet (quiet : w.Quiet) (index : Nat) (child : κ) :
    collectedFrom w kids command data token index child = [outcome kids command data token index child] := by
  unfold collectedFrom outcome
  simp only [quiet (.childStart index),quiet (.childResponse index),Option.isSome_none,Bool.false_eq_true,if_false]
  cases (kids.propagateCommand index child command data token).1 with
  | ok response => rfl
  | error e => simp only [childException,kids.nameKept]

theorem flattenSingletons {α : Type} (f : Nat → κ → α) (children : List κ) :
    (children.mapIdx fun i child => [f i child]).flatten = children.mapIdx f := by
  induction children generalizing f with
  | nil => rfl
  | cons child rest ih =>
    simp only [List.mapIdx_cons,List.flatten_cons]
    rw [ih fun i child => f (i+1) child]
    rfl

theorem collectedOutcomes (quiet : w.Quiet) (children : List κ) :
    (collected w kids command data token children).Perm (children.mapIdx (outcome kids command data token)) := by
  have each : collectedFrom w kids command data token = fun i child => [outcome kids command data token i child] :=
    funext fun i => funext (collectedQuiet quiet i)
  have perm := collectedPerm w kids command data token children
  rwa [each,flattenSingletons] at perm

theorem outcomeRaised {index : Nat} {child : κ} {e : Exn}
    (raised : (kids.propagateCommand index child command data token).1 = .error e) :
    (outcome kids command data token index child).name = kids.name child ∧
    (outcome kids command data token index child).flag =
      if e.isDrunc then .druncExceptionThrown else .unhandledExceptionThrown := by
  unfold outcome
  rw [raised]
  exact ⟨rfl,rfl⟩

def Obeys (kids : ChildInterface κ) (command : Command) (data : Option Payload) (token : Token) (index : Nat)
    (child : κ) : Prop :=
  ∃ r, (kids.propagateCommand index child command data token).1 = .ok r ∧ r.succeeded = true

theorem childAfterStarted {index : Nat} (started : w.broadcast (.childStart index) = none) (child : κ) :
    childAfter w kids command data token index child = (kids.propagateCommand index child command data token).2 := by
  simp [childAfter,started]

theorem collectedMem {children : List κ} {r : Response} :
    r ∈ collected w kids command data token children ↔
      ∃ i child, children[i]? = some child ∧ r ∈ collectedFrom w kids command data token i child := by
  rw [(collectedPerm w kids command data token children).mem_iff,List.mem_flatten]
  constructor
  · rintro ⟨xs,mem,inside⟩
    obtain ⟨i,bound,same⟩ := List.mem_mapIdx.mp mem
    exact ⟨i,children[i],List.getElem?_eq_getElem bound,same ▸ inside⟩
  · rintro ⟨i,child,found,inside⟩
    obtain ⟨bound,here⟩ := List.getElem?_eq_some_iff.mp found
    exact ⟨_,List.mem_mapIdx.mpr ⟨i,bound,rfl⟩,here ▸ inside⟩

theorem childExceptionBad (kids : ChildInterface κ) (token : Token) (child : κ) (e : Exn) :
    (childException kids token child e).decodable = true ∧ (childException kids token child e).succeeded = false := by
  have flag : (childException kids token child e).flag ≠ .executedSuccessfully := by
    unfold childException exceptionFlag
    split <;> simp
  simp [Response.decodable,Response.succeeded,flag]

theorem collectedFromBad {index : Nat} {child : κ} :
    (∃ r ∈ collectedFrom w kids command data token index child, r.succeeded = false) ↔
      w.broadcast (.childStart index) = none ∧
      (¬ Obeys kids command data token index child ∨ w.broadcast (.childResponse index) ≠ none) := by
  have bad := fun e => (childExceptionBad kids token (kids.propagateCommand index child command data token).2 e).2
  unfold collectedFrom Obeys
  cases started : w.broadcast (.childStart index) with
  | some e => simp
  | none =>
    cases called : (kids.propagateCommand index child command data token).1 with
    | error e => simp [called,bad]
    | ok r =>
      cases reported : w.broadcast (.childResponse index) with
      | none => simp [called]
      | some e => simp [called,bad]

def ChildInterface.Decodable (kids : ChildInterface κ) : Prop :=
  ∀ i child fsmCommand token r,
    (kids.propagateCommand i child .executeFsmCommand (some (.fsmCommand fsmCommand)) token).1 = .ok r →
    r.decodable = true

theorem collectedFromCases {index : Nat} {child : κ} {r : Response}
    (mem : r ∈ collectedFrom w kids command data token index child) :
    (kids.propagateCommand index child command data token).1 = .ok r ∨
    ∃ e, r = childException kids token (kids.propagateCommand index child command data token).2 e := by
  unfold collectedFrom at mem
  split at mem
  · simp at mem
  · cases called : (kids.propagateCommand index child command data token).1 with
    | error e =>
      simp only [called,List.mem_singleton] at mem
      exact .inr ⟨e,mem⟩
    | ok reply =>
      simp only [called] at mem
      split at mem
      · exact .inl (by rw [List.mem_singleton.mp mem])
      · rename_i e reported
        rcases List.mem_cons.mp mem with rfl | raised
        · exact .inl rfl
        · exact .inr ⟨e,List.mem_singleton.mp raised⟩

theorem collectedDecodable (decodes : kids.Decodable) {fsmCommand : FSMCommand} {children : List κ} {r : Response}
    (mem : r ∈ collected w kids .executeFsmCommand (some (.fsmCommand fsmCommand)) token children) :
    r.decodable = true := by
  obtain ⟨i,child,_,inside⟩ := collectedMem.mp mem
  rcases collectedFromCases inside with replied | ⟨e,rfl⟩
  · exact decodes i child fsmCommand token r replied
  · exact (childExceptionBad kids token _ e).1

end Outcomes

namespace Controller

def good : ResponseFlag × FSMResponseFlag := (.executedSuccessfully,.fsmExecutedSuccessfully)

theorem worstFlagsCons {r : Response} (decodable : r.decodable = true) (rest : List Response)
    (worst : ResponseFlag × FSMResponseFlag) :
    ∃ next, worstFlags (r :: rest) worst = worstFlags rest next ∧ (next = good ↔ worst = good ∧ r.succeeded = true) := by
  by_cases executed : r.flag = .executedSuccessfully
  · cases held : r.data.bind asFsmCommandResponse with
    | none => simp [Response.decodable,executed,held] at decodable
    | some fsmResponse =>
      by_cases succeeded : fsmResponse.flag = .fsmExecutedSuccessfully
      · exact ⟨worst,by simp [worstFlags,executed,held,succeeded],by simp [Response.succeeded,executed,held,succeeded]⟩
      · exact ⟨(worst.1,fsmResponse.flag),by simp [worstFlags,executed,held,succeeded],
          by simp [Response.succeeded,executed,held,succeeded,good]⟩
  · exact ⟨(r.flag,worst.2),by simp [worstFlags,executed],by simp [Response.succeeded,executed,good]⟩

theorem worstFlagsGood {responses : List Response} (decodable : ∀ r ∈ responses, r.decodable = true)
    (worst : ResponseFlag × FSMResponseFlag) :
    ∃ flags, worstFlags responses worst = .ok flags ∧
      (flags = good ↔ worst = good ∧ ∀ r ∈ responses, r.succeeded = true) := by
  induction responses generalizing worst with
  | nil => exact ⟨worst,rfl,by simp⟩
  | cons r rest ih =>
    obtain ⟨next,step,kept⟩ := worstFlagsCons (decodable r List.mem_cons_self) rest worst
    obtain ⟨flags,run,same⟩ := ih (fun q mem => decodable q (List.mem_cons_of_mem _ mem)) next
    exact ⟨flags,step.trans run,by rw [same,kept,List.forall_mem_cons,and_assoc]⟩

section Executed
variable {κ : Type} {w : World} {kids : ChildInterface κ} {t : Transition} {fsmCommand : FSMCommand} {token : Token}
  {c : Controller κ}

def childOutcome (w : World) (kids : ChildInterface κ) (t : Transition) (fsmCommand : FSMCommand) (token : Token)
    (c : Controller κ) : Nat → κ → Response :=
  outcome kids .executeFsmCommand (some (.fsmCommand (childrenFsmCommand w t fsmCommand c))) token

theorem answersOutcomes (quiet : w.Quiet) (kids : ChildInterface κ) (t : Transition) (fsmCommand : FSMCommand)
    (token : Token) (c : Controller κ) :
    (answers w kids t fsmCommand token c).Perm (c.childrenNodes.mapIdx (childOutcome w kids t fsmCommand token c)) :=
  collectedOutcomes quiet c.childrenNodes

theorem childFailedIff (decodable : ∀ r ∈ answers w kids t fsmCommand token c, r.decodable = true) :
    failure (worst w kids t fsmCommand token c) = none ∧
    (childFailed w kids t fsmCommand token c = true ↔
      ∃ r ∈ answers w kids t fsmCommand token c, r.succeeded = false) := by
  obtain ⟨flags,run,same⟩ := worstFlagsGood decodable good
  have found : worst w kids t fsmCommand token c = .ok flags := run
  refine ⟨by rw [found]; rfl,?_⟩
  have all : flags = good ↔ ∀ r ∈ answers w kids t fsmCommand token c, r.succeeded = true := by simpa using same
  unfold childFailed
  rw [found]
  change decide (flags ≠ good) = true ↔ _
  rw [decide_eq_true_iff,ne_eq,all]
  simp

def childObeys (w : World) (kids : ChildInterface κ) (t : Transition) (fsmCommand : FSMCommand) (token : Token)
    (c : Controller κ) : Nat → κ → Prop :=
  Obeys kids .executeFsmCommand (some (.fsmCommand (childrenFsmCommand w t fsmCommand c))) token

theorem childFailedObeys (decodes : kids.Decodable) (w : World) (t : Transition) (fsmCommand : FSMCommand)
    (token : Token) (c : Controller κ) :
    failure (worst w kids t fsmCommand token c) = none ∧
    (childFailed w kids t fsmCommand token c = true ↔
      ∃ i child, c.childrenNodes[i]? = some child ∧ w.broadcast (.childStart i) = none ∧
        (¬ childObeys w kids t fsmCommand token c i child ∨ w.broadcast (.childResponse i) ≠ none)) := by
  obtain ⟨taken,flags⟩ := childFailedIff (w := w) (t := t) (c := c) fun r mem => collectedDecodable decodes mem
  refine ⟨taken,flags.trans ?_⟩
  unfold answers
  constructor
  · rintro ⟨r,mem,bad⟩
    obtain ⟨i,child,found,inside⟩ := collectedMem.mp mem
    exact ⟨i,child,found,collectedFromBad.mp ⟨r,inside,bad⟩⟩
  · rintro ⟨i,child,found,cause⟩
    obtain ⟨r,inside,bad⟩ := collectedFromBad.mpr cause
    exact ⟨r,collectedMem.mpr ⟨i,child,found,inside⟩,bad⟩

theorem movedChild {i : Nat} {child : κ} (found : c.childrenNodes[i]? = some child)
    (started : w.broadcast (.childStart i) = none) : (childrenMoved w kids t fsmCommand token c)[i]? = some
      (kids.propagateCommand i child .executeFsmCommand (some (.fsmCommand (childrenFsmCommand w t fsmCommand c))) token).2 := by
  rw [childrenMoved,childrenAfterEach,List.getElem?_mapIdx,found,Option.map_some,childAfterStarted started]

def settled (w : World) (kids : ChildInterface κ) (t : Transition) (fsmCommand : FSMCommand) (token : Token)
    (c : Controller κ) (state : String) : Controller κ :=
  { moved w kids t fsmCommand token c state with
    statefulNode := { (moved w kids t fsmCommand token c state).statefulNode with
      inError := childFailed w kids t fsmCommand token c } }

@[simp] theorem scheduledPrepared (schedule : List Nat) :
    prepared (w.scheduled schedule) t fsmCommand c = prepared w t fsmCommand c := by
  simp only [prepared,executeScheduled]

@[simp] theorem scheduledCommand (schedule : List Nat) :
    childrenFsmCommand (w.scheduled schedule) t fsmCommand c = childrenFsmCommand w t fsmCommand c := by
  simp only [childrenFsmCommand,scheduledPrepared]

@[simp] theorem scheduledMoved (schedule : List Nat) :
    childrenMoved (w.scheduled schedule) kids t fsmCommand token c = childrenMoved w kids t fsmCommand token c := by
  simp only [childrenMoved,childrenAfterEach,scheduledCommand]
  rfl

theorem scheduledOutcomes (quiet : w.Quiet) (schedule : List Nat) (kids : ChildInterface κ) (t : Transition)
    (fsmCommand : FSMCommand) (token : Token) (c : Controller κ) :
    (answers (w.scheduled schedule) kids t fsmCommand token c).Perm (answers w kids t fsmCommand token c) := by
  have outcomes : childOutcome (w.scheduled schedule) kids t fsmCommand token c =
      childOutcome w kids t fsmCommand token c := by
    simp only [childOutcome,scheduledCommand]
  have other := answersOutcomes (w := w.scheduled schedule) quiet kids t fsmCommand token c
  rw [outcomes] at other
  exact other.trans (answersOutcomes quiet kids t fsmCommand token c).symm

theorem settledScheduled {state : String} (schedule : List Nat)
    (flags : childFailed (w.scheduled schedule) kids t fsmCommand token c = childFailed w kids t fsmCommand token c) :
    settled (w.scheduled schedule) kids t fsmCommand token c state = settled w kids t fsmCommand token c state := by
  simp only [settled,moved,scheduledMoved,flags]

theorem propagatesOutcomes {command : Command} {data : Option Payload} (quiet : w.Quiet) :
    ∃ responses, (propagateToList w kids command data token c).result = .ok responses ∧
      responses.Perm (c.childrenNodes.mapIdx (outcome kids command data token)) := by
  have uncut : firstCut [(w.broadcast .propagation,c)] = none := by rw [quiet]; rfl
  exact ⟨_,(passesThrough propagateRuns uncut).1,collectedOutcomes quiet c.childrenNodes⟩

variable [Re]

theorem carriedOutSettled {state : String} {result : Except Exn Response} {d : Controller κ}
    (run : CarriedOut w kids t fsmCommand token c state result d) (sound : c.statefulNode.inError = false)
    (through : firstCut (checkpoints w kids t fsmCommand token c state) = none)
    (published : childFailed w kids t fsmCommand token c = true → w.broadcast .errorState = none) :
    result = .ok (executedResponse w kids t fsmCommand token c) ∧ d = settled w kids t fsmCommand token c state := by
  cases run with
  | cut here => rw [through] at here; contradiction
  | succeeded _ kept =>
    refine ⟨rfl,?_⟩
    rw [settled,kept,← sound]
    rfl
  | flagged _ bad =>
    refine ⟨rfl,?_⟩
    rw [settled,bad]
    rfl
  | unflagged _ bad unpublished => rw [published bad] at unpublished; contradiction

theorem carriedOutInError {state : String} {result : Except Exn Response} {d : Controller κ}
    (run : CarriedOut w kids t fsmCommand token c state result d) (sound : c.statefulNode.inError = false) :
    d.statefulNode.inError = true ↔ firstCut (checkpoints w kids t fsmCommand token c state) = none ∧
      childFailed w kids t fsmCommand token c = true ∧ w.broadcast .errorState = none := by
  cases run with
  | @cut e h here =>
    have kept : (c.halted t h).statefulNode.inError = false := sound
    simp [kept,here]
  | succeeded through good =>
    have kept : (moved w kids t fsmCommand token c state).statefulNode.inError = false := sound
    simp [kept,good]
  | flagged through bad published => simp [erred,through,bad,published]
  | unflagged through bad unpublished =>
    have kept : (moved w kids t fsmCommand token c state).statefulNode.inError = false := sound
    simp [kept,unpublished]

theorem carriedOutThrough {state : String} {response : Response} {d : Controller κ}
    (run : CarriedOut w kids t fsmCommand token c state (.ok response) d) :
    firstCut (checkpoints w kids t fsmCommand token c state) = none := by
  cases run with
  | succeeded through => exact through
  | flagged through => exact through

theorem scheduledCheckpoints {state : String} {schedule : List Nat}
    (same : failure (worst (w.scheduled schedule) kids t fsmCommand token c) =
      failure (worst w kids t fsmCommand token c)) :
    checkpoints (w.scheduled schedule) kids t fsmCommand token c state =
      checkpoints w kids t fsmCommand token c state := by
  simp only [checkpoints,checkpointsBefore,checkpointsAfter,scheduledMoved,scheduledPrepared,same,finalised,
    executeScheduled]
  rfl

theorem completesScheduled {state : String} (quiet : w.Quiet) (start : Starts c fsmCommand t state)
    (decodable : ∀ r ∈ answers w kids t fsmCommand token c, r.decodable = true)
    (through : firstCut (checkpoints w kids t fsmCommand token c state) = none) (schedule : List Nat) :
    (executeFsmCommand (w.scheduled schedule) kids fsmCommand token c).result =
      .ok (executedResponse (w.scheduled schedule) kids t fsmCommand token c) ∧
    (executeFsmCommand (w.scheduled schedule) kids fsmCommand token c).state =
      settled w kids t fsmCommand token c state := by
  have perm := scheduledOutcomes quiet schedule kids t fsmCommand token c
  obtain ⟨decodes,flags⟩ := childFailedIff decodable
  obtain ⟨decodesToo,flagsToo⟩ := childFailedIff (w := w.scheduled schedule) (fun r mem => decodable r (perm.mem_iff.mp mem))
  have sameFlags : childFailed (w.scheduled schedule) kids t fsmCommand token c = childFailed w kids t fsmCommand token c := by
    rw [Bool.eq_iff_iff,flags,flagsToo]
    exact exists_congr fun r => and_congr_left' perm.mem_iff
  have uncut : firstCut (checkpoints (w.scheduled schedule) kids t fsmCommand token c state) = none := by
    rwa [scheduledCheckpoints (decodesToo.trans decodes.symm)]
  obtain ⟨result,final⟩ := carriedOutSettled (startsRun (w.scheduled schedule) kids token start) start.sound uncut (fun _ => quiet _)
  exact ⟨result,final.trans (settledScheduled schedule sameFlags)⟩

theorem interleavingsAgree (quiet : w.Quiet) (kids : ChildInterface κ) (token : Token) (c : Controller κ) :
    (∀ command data, ∃ responses, (propagateToList w kids command data token c).result = .ok responses ∧
      responses.Perm (c.childrenNodes.mapIdx (outcome kids command data token))) ∧
    (∀ command data i child e, (kids.propagateCommand i child command data token).1 = .error e →
      (outcome kids command data token i child).name = kids.name child ∧
      (outcome kids command data token i child).flag =
        if e.isDrunc then .druncExceptionThrown else .unhandledExceptionThrown) ∧
    ∀ fsmCommand t state, Starts c fsmCommand t state →
      (∀ r ∈ c.childrenNodes.mapIdx (childOutcome w kids t fsmCommand token c), r.decodable = true) →
      ∀ response, (executeFsmCommand w kids fsmCommand token c).result = .ok response →
        ((executeFsmCommand w kids fsmCommand token c).state.statefulNode.inError = true ↔
          ∃ r ∈ c.childrenNodes.mapIdx (childOutcome w kids t fsmCommand token c), r.succeeded = false) ∧
        response.children.Perm (c.childrenNodes.mapIdx (childOutcome w kids t fsmCommand token c)) ∧
        ∀ schedule,
          (executeFsmCommand (w.scheduled schedule) kids fsmCommand token c).state =
            (executeFsmCommand w kids fsmCommand token c).state ∧
          ∃ other, (executeFsmCommand (w.scheduled schedule) kids fsmCommand token c).result = .ok other ∧
            other.children.Perm response.children := by
  refine ⟨fun _ _ => propagatesOutcomes quiet,fun _ _ _ _ _ raised => outcomeRaised raised,?_⟩
  intro fsmCommand t state start decodable response done
  have members := fun r => (answersOutcomes quiet kids t fsmCommand token c).mem_iff (a := r)
  have answerable : ∀ r ∈ answers w kids t fsmCommand token c, r.decodable = true :=
    fun r mem => decodable r ((members r).mp mem)
  have run := startsRun w kids token start
  rw [done] at run
  have through := carriedOutThrough run
  obtain ⟨answer,final⟩ := carriedOutSettled run start.sound through (fun _ => quiet _)
  obtain rfl : response = executedResponse w kids t fsmCommand token c := by simpa using answer
  refine ⟨?_,answersOutcomes quiet kids t fsmCommand token c,fun schedule => ?_⟩
  · rw [final]
    change childFailed w kids t fsmCommand token c = true ↔ _
    rw [(childFailedIff answerable).2]
    exact exists_congr fun r => and_congr_left' (members r)
  · obtain ⟨result,same⟩ := completesScheduled quiet start answerable through schedule
    exact ⟨same.trans final.symm,_,result,scheduledOutcomes quiet schedule kids t fsmCommand token c⟩

end Executed
end Controller

namespace Sample
open Library (Dict)

def canned : ChildInterface (String × Except Exn Response) :=
  ⟨Prod.fst,fun _ child _ _ _ => (child.2,child),fun _ _ _ _ _ => rfl,fun _ child _ => child.2.map some⟩

def confCommand : FSMCommand := ⟨"conf",Dict.empty,[],.empty⟩

def confDone (name : String) : Response :=
  ⟨name,some user,some (.fsmCommandResponse ⟨.fsmExecutedSuccessfully,"conf",none⟩),.executedSuccessfully,[]⟩

def cannedRoot : Controller (String × Except Exn Response) :=
  root [("sub",.ok (confDone "sub")),("app",.error (.responseTimeout "Timeout while waiting for a reply"))]

end Sample

open Sample in
theorem timeoutFlagsCannedRoot :
    (Controller.executeFsmCommand calm canned confCommand user cannedRoot).state.statefulNode.inError = true :=
  ((Controller.interleavingsAgree (w := calm) (fun _ => rfl) canned user cannedRoot).2.2 confCommand configure "initial"
    ⟨rfl,rfl,rfl,⟨rfl,rfl⟩,rfl⟩ (by decide) _ rfl).1.mpr (by decide)

end Drunc
