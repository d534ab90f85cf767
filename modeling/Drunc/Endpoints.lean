import Drunc.History

/-! Endpoints under both stacks of wrappers. Every refusal tries to build a response
that cannot be built, so its caller gets an exception in place of the refusal; the two
stacks agree where nothing is refused and nothing raises. `Counted` counts how often
a body is run, in a state that the body cannot reach; `Seen` is what can be seen of a
request: what its caller received, the exception that left the endpoint, the runs of
the body, and what was published. `generator` is the asynchronous body that yields
what a synchronous one returns. -/
namespace Drunc
open Library (failure)
open Library.Act

structure Counted (σ : Type) where
  inner : σ
  runs : Nat

structure Seen (σ : Type) where
  received : List Response
  raised : Option Exn
  runs : Nat
  state : σ
  events : List Event

section Definitions
variable {σ α : Type}

def counted (cmd : α → Token → Do σ Response) (data : α) (token : Token) : Do (Counted σ) Response := do
  update fun s => { s with runs := s.runs + 1 }
  zoom Counted.inner (fun s t => { s with inner := t }) (cmd data token)

def countedGenerator (cmd : α → Token → Do (Generating σ) Unit) (data : α) (token : Token) :
    Do (Generating (Counted σ)) Unit := do
  update fun g => { g with inner := { g.inner with runs := g.inner.runs + 1 } }
  zoom (fun g => ⟨g.inner.inner,g.yielded⟩)
    (fun g h => { inner := { g.inner with inner := h.inner }, yielded := h.yielded }) (cmd data token)

def generator (cmd : α → Token → Do σ Response) (data : α) (token : Token) : Do (Generating σ) Unit := do
  let response ← zoom Generating.inner (fun g s => { g with inner := s }) (cmd data token)
  yieldResponse response

variable (obj : Servicer) (endpoint : Endpoint) (w : World) (dataType : DataType α) (request : Request) (s : σ)

def seen (cmd : α → Token → Do σ Response) : Seen σ :=
  let run := stack obj endpoint w dataType (counted cmd) request ⟨s,0⟩
  ⟨run.result.toOption.toList,failure run.result,run.state.runs,run.state.inner,run.events⟩

def asyncSeen (cmd : α → Token → Do (Generating σ) Unit) : Seen σ :=
  let run := asyncStack obj endpoint w dataType (countedGenerator cmd) request ⟨⟨s,0⟩,[]⟩
  ⟨run.state.yielded,failure run.result,run.state.inner.runs,run.state.inner.inner,run.events⟩

abbrev Authorised : Prop := obj.isAuthorised request.token endpoint.action endpoint.system endpoint.name = true

def Seen.RefusedWith (flag : ResponseFlag) (x : Seen σ) : Prop := x.runs = 0 ∧ ∃ r, x.received = [r] ∧ r.flag = flag

structure Specified (x : Seen σ) : Prop where
  unauthorised : ¬ Authorised obj endpoint request → x.RefusedWith .notExecutedNotAuthorised
  malformed : Authorised obj endpoint request → dataType.read request.data = none →
    x.RefusedWith .notExecutedBadRequestFormat
  served : Authorised obj endpoint request → (dataType.read request.data).isSome = true → x.runs = 1

structure StacksSpecified (cmd : α → Token → Do σ Response) : Prop where
  sync : Specified obj endpoint dataType request (seen obj endpoint w dataType request s cmd)
  async : Specified obj endpoint dataType request (asyncSeen obj endpoint w dataType request s (generator cmd))
  agree : Authorised obj endpoint request → (dataType.read request.data).isSome = true →
    seen obj endpoint w dataType request s cmd = asyncSeen obj endpoint w dataType request s (generator cmd)

structure Reaches : Prop where
  acknowledged : w.broadcast .ack = none
  authorised : Authorised obj endpoint request
  readable : (dataType.read request.data).isSome = true

structure Undisturbed (cmd : α → Token → Do σ Response) : Prop where
  reaches : Reaches obj endpoint w dataType request
  returns : ∃ data r, dataType.read request.data = some data ∧ (cmd data request.token s).result = .ok r
  announced : w.broadcast .success = none

end Definitions

section Stacks
variable {σ α : Type} {obj : Servicer} {endpoint : Endpoint} {w : World} {dataType : DataType α} {request : Request}

theorem exceptionFlagOther (e : Exn) :
    exceptionFlag e ≠ .notExecutedNotAuthorised ∧ exceptionFlag e ≠ .notExecutedBadRequestFormat := by
  unfold exceptionFlag
  split <;> decide

section Sync
variable {s : σ} {cmd : α → Token → Do σ Response}

def notAny : Exn := .typeError "expected google.protobuf.Any got PlainText"

theorem unauthorisedRaises {inner : Request → Do σ Response} (refused : ¬ Authorised obj endpoint request) :
    authentifiedAndAuthorised obj endpoint inner request s = ⟨.error notAny,s,[]⟩ := by
  unfold authentifiedAndAuthorised
  rw [if_neg refused]
  rfl

theorem unreadable (missing : dataType.read request.data = none) :
    unpackRequestDataTo obj dataType cmd request s = ⟨.error notAny,s,[]⟩ := by
  unfold unpackRequestDataTo unpackAny
  rw [missing]
  rfl

theorem readRuns {data : α} (holds : dataType.read request.data = some data) :
    unpackRequestDataTo obj dataType cmd request = cmd data request.token := by
  unfold unpackRequestDataTo unpackAny
  rw [holds]

theorem refusedStack (published : w.broadcast .ack = none)
    (refused : ¬ Authorised obj endpoint request ∨ dataType.read request.data = none) :
    stack obj endpoint w dataType cmd request s =
      ⟨.ok (exceptionResponse obj request notAny),s,[.broadcast (attemptMessage endpoint request) .ack]⟩ := by
  have inner : authentifiedAndAuthorised obj endpoint (unpackRequestDataTo obj dataType cmd) request s =
      ⟨.error notAny,s,[]⟩ := by
    by_cases authorised : Authorised obj endpoint request
    · have missing : dataType.read request.data = none := refused.resolve_left (not_not.mpr authorised)
      unfold authentifiedAndAuthorised
      rw [if_pos authorised]
      exact unreadable missing
    · exact unauthorisedRaises authorised
  refine (broadcastedAcknowledged published).trans ?_
  rw [inner]
  rfl

theorem servedStack (reaches : Reaches obj endpoint w dataType request) {data : α}
    (holds : dataType.read request.data = some data) :
    stack obj endpoint w dataType cmd request s =
      ⟨answered obj w request (cmd data request.token s).result,(cmd data request.token s).state,
        .broadcast (attemptMessage endpoint request) .ack :: (cmd data request.token s).events ++
          announced endpoint request (cmd data request.token s).result⟩ := by
  have inner : authentifiedAndAuthorised obj endpoint (unpackRequestDataTo obj dataType cmd) request =
      cmd data request.token := by
    unfold authentifiedAndAuthorised
    rw [if_pos reaches.authorised,readRuns holds]
  refine (broadcastedAcknowledged reaches.acknowledged).trans ?_
  rw [inner]

end Sync

section Async
variable {g : Generating σ} {cmd : α → Token → Do (Generating σ) Unit}

def Generating.answered (obj : Servicer) (request : Request) (result : Except Exn Unit) (g : Generating σ) : Generating σ :=
  match result with
  | .error e => { g with yielded := g.yielded ++ [exceptionResponse obj request e] }
  | .ok () => g

def announcement (w : World) : Except Exn Unit :=
  match w.broadcast .success with
  | some e => .error e
  | none => .ok ()

theorem successRuns : successfully endpoint w request g =
    ⟨announcement w,g,[.broadcast (successMessage endpoint request) .commandExecutionSuccess]⟩ := by
  unfold successfully announcement broadcast
  cases w.broadcast .success <;> rfl

theorem asyncBroadcastedAcknowledged {inner : Request → Do (Generating σ) Unit} (published : w.broadcast .ack = none) :
    asyncBroadcasted obj endpoint w inner request g =
      ⟨announcement w,(inner request g).state.answered obj request (inner request g).result,
        .broadcast (attemptMessage endpoint request) .ack :: (inner request g).events ++
          [.broadcast (successMessage endpoint request) .commandExecutionSuccess]⟩ := by
  have passed : (attempting endpoint w request g).result = .ok () := by simp [attempting,published]
  have ran : (attempt (inner request) g).result = .ok (inner request g).result := rfl
  unfold asyncBroadcasted
  rw [bindOk passed]
  simp only [attempting,broadcastState,broadcastEvents]
  rw [bindOk ran]
  cases body : (inner request g).result with
  | error e =>
    dsimp only
    rw [yieldResponse,updateBind,successRuns]
    simp [Generating.answered,Library.Outcome.after]
  | ok done =>
    dsimp only
    rw [successRuns]
    simp [Generating.answered,Library.Outcome.after]

theorem refusedAsyncStack (published : w.broadcast .ack = none)
    (refused : ¬ Authorised obj endpoint request ∨ dataType.read request.data = none) :
    asyncStack obj endpoint w dataType cmd request g =
      ⟨announcement w,{ g with yielded := g.yielded ++ [exceptionResponse obj request notAny] },
        [.broadcast (attemptMessage endpoint request) .ack,
          .broadcast (successMessage endpoint request) .commandExecutionSuccess]⟩ := by
  have inner : asyncAuthentifiedAndAuthorised obj endpoint (asyncUnpackRequestDataTo obj endpoint dataType cmd) request g =
      ⟨.error notAny,g,[]⟩ := by
    unfold asyncAuthentifiedAndAuthorised
    by_cases authorised : Authorised obj endpoint request
    · have missing : dataType.read request.data = none := refused.resolve_left (not_not.mpr authorised)
      rw [if_neg (by simpa using authorised)]
      change asyncUnpackRequestDataTo obj endpoint dataType cmd request g = _
      unfold asyncUnpackRequestDataTo unpackAny
      rw [missing]
      rfl
    · rw [if_pos (by simpa using authorised)]
      rfl
  refine (asyncBroadcastedAcknowledged published).trans ?_
  rw [inner]
  rfl

theorem servedAsyncStack (reaches : Reaches obj endpoint w dataType request) {data : α}
    (holds : dataType.read request.data = some data) :
    asyncStack obj endpoint w dataType cmd request g =
      ⟨announcement w,(cmd data request.token g).state.answered obj request (cmd data request.token g).result,
        .broadcast (attemptMessage endpoint request) .ack :: (cmd data request.token g).events ++
          [.broadcast (successMessage endpoint request) .commandExecutionSuccess]⟩ := by
  have inner : asyncAuthentifiedAndAuthorised obj endpoint (asyncUnpackRequestDataTo obj endpoint dataType cmd) request g =
      cmd data request.token g := by
    unfold asyncAuthentifiedAndAuthorised
    rw [if_neg (by simpa using reaches.authorised)]
    change asyncUnpackRequestDataTo obj endpoint dataType cmd request g = _
    unfold asyncUnpackRequestDataTo unpackAny
    rw [holds]
  refine (asyncBroadcastedAcknowledged reaches.acknowledged).trans ?_
  rw [inner]

end Async

section Seen
variable {s : σ}

theorem idleUnspecified {x : Seen σ} (idle : x.runs = 0)
    (other : ∀ r ∈ x.received, r.flag ≠ .notExecutedNotAuthorised ∧ r.flag ≠ .notExecutedBadRequestFormat) :
    ¬ Specified obj endpoint dataType request x := by
  intro spec
  by_cases authorised : Authorised obj endpoint request
  · cases read : dataType.read request.data with
    | none =>
      obtain ⟨_,r,received,flag⟩ := spec.malformed authorised read
      exact (other r (received ▸ List.mem_singleton_self r)).2 flag
    | some data =>
      have ran := spec.served authorised (by simp [read])
      omega
  · obtain ⟨_,r,received,flag⟩ := spec.unauthorised authorised
    exact (other r (received ▸ List.mem_singleton_self r)).1 flag

theorem reachedSpecified {x : Seen σ} (reaches : Reaches obj endpoint w dataType request) (once : x.runs = 1) :
    Specified obj endpoint dataType request x where
  unauthorised refused := absurd reaches.authorised refused
  malformed _ missing := by
    have readable := reaches.readable
    rw [missing] at readable
    contradiction
  served _ _ := once

theorem exceptionResponseOther (e : Exn) : (exceptionResponse obj request e).flag ≠ .notExecutedNotAuthorised ∧
    (exceptionResponse obj request e).flag ≠ .notExecutedBadRequestFormat := exceptionFlagOther e

theorem specifiedIffReaches {x : Seen σ} (served : Reaches obj endpoint w dataType request → x.runs = 1)
    (silent : w.broadcast .ack ≠ none → x.runs = 0 ∧ x.received = [])
    (refused : w.broadcast .ack = none → (¬ Authorised obj endpoint request ∨ dataType.read request.data = none) →
      x.runs = 0 ∧ x.received = [exceptionResponse obj request notAny]) :
    Specified obj endpoint dataType request x ↔ Reaches obj endpoint w dataType request := by
  refine ⟨fun spec => ?_,fun reaches => reachedSpecified reaches (served reaches)⟩
  by_contra unreached
  by_cases acknowledged : w.broadcast .ack = none
  · have cause : ¬ Authorised obj endpoint request ∨ dataType.read request.data = none := by
      by_contra neither
      simp only [not_or,not_not] at neither
      exact unreached ⟨acknowledged,neither.1,Option.isSome_iff_ne_none.mpr neither.2⟩
    obtain ⟨idle,received⟩ := refused acknowledged cause
    refine idleUnspecified idle (fun r mem => ?_) spec
    rw [received,List.mem_singleton] at mem
    exact mem ▸ exceptionResponseOther notAny
  · obtain ⟨idle,received⟩ := silent acknowledged
    refine idleUnspecified idle (fun r mem => ?_) spec
    rw [received] at mem
    contradiction

section Sync
variable {cmd : α → Token → Do σ Response}

theorem seenServed (reaches : Reaches obj endpoint w dataType request) {data : α}
    (holds : dataType.read request.data = some data) :
    seen obj endpoint w dataType request s cmd =
      let run := cmd data request.token s
      let answer := answered obj w request run.result
      ⟨answer.toOption.toList,failure answer,1,run.state,
        .broadcast (attemptMessage endpoint request) .ack :: run.events ++ announced endpoint request run.result⟩ := by
  unfold seen
  rw [servedStack reaches holds]
  rfl

theorem syncSpecified : Specified obj endpoint dataType request (seen obj endpoint w dataType request s cmd) ↔
    Reaches obj endpoint w dataType request := by
  refine specifiedIffReaches (fun reaches => ?_) (fun unpublished => ?_) fun published refused => ?_
  · obtain ⟨data,holds⟩ := Option.isSome_iff_exists.mp reaches.readable
    rw [seenServed reaches holds]
  · obtain ⟨e,raised⟩ := Option.ne_none_iff_exists'.mp unpublished
    unfold seen stack
    rw [broadcastedUnacknowledged raised]
    exact ⟨rfl,rfl⟩
  · unfold seen
    rw [refusedStack published refused]
    exact ⟨rfl,rfl⟩

end Sync

section Async
variable {cmd : α → Token → Do (Generating σ) Unit}

theorem asyncBroadcastedUnacknowledged {τ : Type} {g : Generating τ} {inner : Request → Do (Generating τ) Unit} {e : Exn}
    (raised : w.broadcast .ack = some e) :
    asyncBroadcasted obj endpoint w inner request g =
      ⟨.error e,g,[.broadcast (attemptMessage endpoint request) .ack]⟩ := by
  have cut : (attempting endpoint w request g).result = .error e := by simp [attempting,raised]
  unfold asyncBroadcasted
  rw [bindError cut]
  simp [attempting]

theorem asyncSeenServed (reaches : Reaches obj endpoint w dataType request) {data : α}
    (holds : dataType.read request.data = some data) :
    asyncSeen obj endpoint w dataType request s cmd =
      let run := cmd data request.token ⟨s,[]⟩
      let final := run.state.answered obj request run.result
      ⟨final.yielded,failure (announcement w),1,final.inner,
        .broadcast (attemptMessage endpoint request) .ack :: run.events ++
          [.broadcast (successMessage endpoint request) .commandExecutionSuccess]⟩ := by
  have run : countedGenerator cmd data request.token ⟨⟨s,0⟩,[]⟩ =
      ⟨(cmd data request.token ⟨s,[]⟩).result,
        ⟨⟨(cmd data request.token ⟨s,[]⟩).state.inner,1⟩,(cmd data request.token ⟨s,[]⟩).state.yielded⟩,
        (cmd data request.token ⟨s,[]⟩).events⟩ := rfl
  unfold asyncSeen
  rw [servedAsyncStack reaches holds,run]
  generalize cmd data request.token ⟨s,[]⟩ = outcome
  obtain ⟨result,state,events⟩ := outcome
  cases result <;> rfl

theorem asyncSpecified : Specified obj endpoint dataType request (asyncSeen obj endpoint w dataType request s cmd) ↔
    Reaches obj endpoint w dataType request := by
  refine specifiedIffReaches (fun reaches => ?_) (fun unpublished => ?_) fun published refused => ?_
  · obtain ⟨data,holds⟩ := Option.isSome_iff_exists.mp reaches.readable
    rw [asyncSeenServed reaches holds]
  · obtain ⟨e,raised⟩ := Option.ne_none_iff_exists'.mp unpublished
    unfold asyncSeen asyncStack
    rw [asyncBroadcastedUnacknowledged raised]
    exact ⟨rfl,rfl⟩
  · unfold asyncSeen
    rw [refusedAsyncStack published refused]
    exact ⟨rfl,rfl⟩

end Async

section Agree
variable {cmd : α → Token → Do σ Response}

theorem stacksAgree (reaches : Reaches obj endpoint w dataType request) {data : α}
    (holds : dataType.read request.data = some data) :
    seen obj endpoint w dataType request s cmd = asyncSeen obj endpoint w dataType request s (generator cmd) ↔
      (∃ r, (cmd data request.token s).result = .ok r) ∧ w.broadcast .success = none := by
  rw [seenServed reaches holds,asyncSeenServed reaches holds]
  cases body : (cmd data request.token s).result with
  | error e =>
    have yields : generator cmd data request.token ⟨s,[]⟩ =
        ⟨.error e,⟨(cmd data request.token s).state,[]⟩,(cmd data request.token s).events⟩ := by
      unfold generator
      exact bindError body
    simp [yields,body,announced]
  | ok r =>
    have yields : generator cmd data request.token ⟨s,[]⟩ =
        ⟨.ok (),⟨(cmd data request.token s).state,[r]⟩,(cmd data request.token s).events⟩ := by
      have inner : (zoom Generating.inner (fun (g : Generating σ) t => { g with inner := t })
          (cmd data request.token) ⟨s,[]⟩).result = .ok r := body
      unfold generator
      rw [bindOk inner]
      simp [yieldResponse,Library.Outcome.after]
    cases published : w.broadcast .success with
    | none => simp [yields,body,answered,announced,announcement,published,Library.failure,Generating.answered,Except.toOption]
    | some e => simp [yields,body,answered,announcement,published,Generating.answered,Except.toOption]


theorem stacksSpecifiedIff (obj : Servicer) (endpoint : Endpoint) (w : World) (dataType : DataType α) (request : Request)
    (s : σ) :
    (∀ cmd : α → Token → Do σ Response, StacksSpecified obj endpoint w dataType request s cmd ↔
      Undisturbed obj endpoint w dataType request s cmd) ∧
    ∀ cmd : α → Token → Do (Generating σ) Unit,
      Specified obj endpoint dataType request (asyncSeen obj endpoint w dataType request s cmd) ↔
        Reaches obj endpoint w dataType request := by
  refine ⟨fun cmd => ⟨fun spec => ?_,fun calm => ?_⟩,fun cmd => asyncSpecified⟩
  · have reaches := syncSpecified.mp spec.sync
    obtain ⟨data,holds⟩ := Option.isSome_iff_exists.mp reaches.readable
    obtain ⟨⟨r,returns⟩,announced⟩ := (stacksAgree reaches holds).mp (spec.agree reaches.authorised reaches.readable)
    exact ⟨reaches,⟨data,r,holds,returns⟩,announced⟩
  · obtain ⟨data,r,holds,returns⟩ := calm.returns
    exact ⟨syncSpecified.mpr calm.reaches,asyncSpecified.mpr calm.reaches,
      fun _ _ => (stacksAgree calm.reaches holds).mpr ⟨⟨r,returns⟩,calm.announced⟩⟩

end Agree
end Seen
end Stacks

namespace Sample

def strict : Servicer := ⟨"root","Controller",fun _ _ _ _ => false⟩

def lenient : Servicer := { strict with isAuthorised := fun _ _ _ _ => true }

def textType : DataType String := unpackTo "PlainText" asPlainText

def echo (text : String) (token : Token) : Do Unit Response :=
  pure ⟨"root",some token,some (.plainText text),.executedSuccessfully,[]⟩

end Sample

open Sample in
theorem refusalsAnsweredWithExceptions :
    ¬ StacksSpecified strict (Controller.endpoint .describeFsm) calm textType ⟨user,none⟩ () echo ∧
    ¬ StacksSpecified lenient (Controller.endpoint .describeFsm) calm textType ⟨user,none⟩ () echo ∧
    (seen strict (Controller.endpoint .describeFsm) calm textType ⟨user,none⟩ () echo).received.map Response.flag =
      [.unhandledExceptionThrown] :=
  ⟨fun spec => absurd (syncSpecified.mp spec.sync).authorised (by decide),
    fun spec => absurd (syncSpecified.mp spec.sync).readable (by decide),rfl⟩

end Drunc
