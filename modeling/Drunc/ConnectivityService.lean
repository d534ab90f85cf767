import Drunc.Arguments
import Drunc.ChildLookup
import Drunc.History
import Drunc.Library.Retry

/-! The client of the connectivity service, and how a controller stops. Publishing,
retracting and resolving are the same loop, but each lists the exceptions it tolerates on
its own, and retracting leaves out the read timeout. Where one comes before the service has
answered, a controller that stops does not come to its children. `HttpAnswers` has what
happens to the attempts of each request; a thread that is joined is in the middle of a
publication. -/
namespace Drunc
open Library (Act Tried)
open Library.Act
open Library.Retry (upTo GoesOn goesOnOk goesOnError upToStart)

inductive ClientException where
  | incorrectAddress
  | request (e : RequestException)
  deriving DecidableEq, Repr

def ClientException.exn : ClientException → Exn
  | .incorrectAddress => .drunc "IncorrectAddress" "Endpoint should start with http:// or https://"
  | .request e => e.exn

def requested {α : Type} (x : Except RequestException α) : Except ClientException α := x.mapError ClientException.request

structure HttpRequest where
  address : String
  data : PyObj
  headers : List (String × String)
  asJson : Bool
  timeout : Rat

abbrev HttpAnswers := HttpRequest → Nat → HttpOutcome

theorem statusPassed {α : Type} {r : HttpResponse} (passed : r.failed = false) (f : Unit → Except ClientException α) :
    (requested r.raiseForStatus >>= f) = f () := by
  rw [HttpResponse.raiseForStatus,passed]
  rfl

theorem statusRaised {α : Type} {r : HttpResponse} (failed : r.failed = true) (f : Unit → Except ClientException α) :
    (requested r.raiseForStatus >>= f) = .error (.request (.httpError r.statusCode)) := by
  rw [HttpResponse.raiseForStatus,failed]
  rfl

def httpsOrHttpPresent (address : String) : Except ClientException Unit :=
  if !pyStartsWith address "https://" && !pyStartsWith address "http://" then .error .incorrectAddress else .ok ()

def httpPost (answers : HttpAnswers) (request : HttpRequest) (ignoreErrors : Bool) (attempt : Nat) :
    Except ClientException HttpResponse := do
  httpsOrHttpPresent request.address
  let r ← requested (answers request attempt).received
  if !ignoreErrors then requested r.raiseForStatus
  pure r

theorem presentPrefix {address : String} : httpsOrHttpPresent address = .ok () ↔
    pyStartsWith address "https://" = true ∨ pyStartsWith address "http://" = true := by
  unfold httpsOrHttpPresent
  cases pyStartsWith address "https://" <;> cases pyStartsWith address "http://" <;> simp

theorem startsAppend {s start : String} (rest : String) (starts : pyStartsWith s start = true) :
    pyStartsWith (s ++ rest) start = true := by
  unfold pyStartsWith at starts ⊢
  rw [String.toList_append]
  exact List.isPrefixOf_iff_prefix.mpr ((List.isPrefixOf_iff_prefix.mp starts).trans (List.prefix_append _ _))

structure ConnectivityServiceClient where
  session : String
  address : String
  schemed : httpsOrHttpPresent address = .ok ()

structure Returned (α : Type) where
  result : Except Exn α
  attempts : Nat

def finished {α : Type} (usedUp : Except Exn α) (tried : Tried ClientException α) : Returned α where
  result := match tried.result with
    | .ok (some a) => .ok a
    | .ok none => usedUp
    | .error e => .error e.exn
  attempts := tried.attempts

namespace ConnectivityServiceClient

def init (session address : String) : ConnectivityServiceClient :=
  if present : httpsOrHttpPresent address = .ok () then ⟨session,address,present⟩
  else ⟨session,"http://" ++ address,presentPrefix.mpr (.inr (startsAppend address (by decide)))⟩

variable (answers : HttpAnswers) (client : ConnectivityServiceClient)

def request (path : String) (data : PyObj) : HttpRequest :=
  ⟨client.address ++ path,data,[("Content-Type","application/json")],true,1/2⟩

def retractRequest (uid : String) : HttpRequest :=
  client.request "/retract" (.dict [("partition",.str client.session),
    ("connections",.list [.dict [("connection_id",.str uid),("data_type",.str "run-control-messages")]])])

def resolveRequest (uidRegex dataType : String) : HttpRequest :=
  client.request ("/getconnection/" ++ client.session) (.dict [("data_type",.str dataType),("uid_regex",.str uidRegex)])

def publishRequest (uid uri dataType : String) : HttpRequest :=
  client.request "/publish" (.dict [("partition",.str client.session),
    ("connections",.list [.dict [("connection_type",.int 0),("data_type",.str dataType),("uid",.str uid),("uri",.str uri)]])])

def retractAttempt (uid : String) (i : Nat) : Except ClientException (Option Unit) := do
  let r ← httpPost answers (client.retractRequest uid) true i
  if r.statusCode = 404 then pure (some ())
  else do
    requested r.raiseForStatus
    pure (some ())

def resolveAttempt (uidRegex dataType : String) (i : Nat) : Except ClientException (Option PyObj) := do
  let response ← httpPost answers (client.resolveRequest uidRegex dataType) true i
  requested response.raiseForStatus
  pure (if response.json.val.truthy then some response.json.val else none)

def publishAttempt (uid uri dataType : String) (i : Nat) : Except ClientException (Option Unit) := do
  let r ← httpPost answers (client.publishRequest uid uri dataType) true i
  requested r.raiseForStatus
  pure (some ())

def retractTolerates : ClientException → Bool
  | .request (.httpError _) | .request .connectionError => true
  | .incorrectAddress | .request .readTimeout => false

def tolerates : ClientException → Bool
  | .request (.httpError _) | .request .connectionError | .request .readTimeout => true
  | .incorrectAddress => false

def retract (uid : String) : Returned Unit :=
  finished (.ok ()) (upTo retractTolerates (client.retractAttempt answers uid) 50 0)

def resolve (uidRegex dataType : String) : Returned PyObj :=
  finished (.error (lookupUnsuccessful "")) (upTo tolerates (client.resolveAttempt answers uidRegex dataType) 50 0)

def publishFrom (uid uri dataType : String) (i : Nat) : Returned Unit :=
  finished (.ok ()) (upTo tolerates (client.publishAttempt answers uid uri dataType) (50 - i) i)

def publish (uid uri dataType : String) : Returned Unit := client.publishFrom answers uid uri dataType 0

end ConnectivityServiceClient

def HttpOutcome.accepted : HttpOutcome → Option Unit
  | .response r => if r.failed then none else some ()
  | .connectionError | .readTimeout => none

def HttpOutcome.retracted : HttpOutcome → Option Unit
  | .response r => if r.statusCode = 404 then some () else if r.failed then none else some ()
  | .connectionError | .readTimeout => none

def HttpOutcome.content : HttpOutcome → Option PyObj
  | .response r => if r.failed then none else if r.json.val.truthy then some r.json.val else none
  | .connectionError | .readTimeout => none

def Concluded {α : Type} (value : Nat → Option α) (usedUp : Except Exn α) (returned : Returned α) : Prop :=
  (∃ k < 50, ∃ a, value k = some a ∧ (∀ j < k, value j = none) ∧ returned = ⟨.ok a,k+1⟩) ∨
    (∀ k < 50, value k = none) ∧ returned = ⟨usedUp,50⟩

def AnsweredInTime (answers : HttpAnswers) (request : HttpRequest) : Prop :=
  ∀ k < 50, answers request k = .readTimeout → ∃ j < k, (answers request j).retracted = some ()

namespace ConnectivityServiceClient
variable {answers : HttpAnswers} {client : ConnectivityServiceClient}

theorem httpPostAnswer (answers : HttpAnswers) (client : ConnectivityServiceClient) (path : String) (data : PyObj) (i : Nat) :
    httpPost answers (client.request path data) true i = requested (answers (client.request path data) i).received := by
  have present : httpsOrHttpPresent (client.request path data).address = .ok () := by
    rcases presentPrefix.mp client.schemed with secure | plain
    · exact presentPrefix.mpr (.inl (startsAppend path secure))
    · exact presentPrefix.mpr (.inr (startsAppend path plain))
  unfold httpPost
  rw [present]
  cases answers (client.request path data) i <;> rfl

theorem concludes {α : Type} {tolerated : ClientException → Bool} {attempt : Nat → Except ClientException (Option α)}
    {value : Nat → Option α} (usedUp : Except Exn α)
    (each : ∀ i, (∃ a, value i = some a ∧ attempt i = .ok (some a)) ∨ value i = none ∧ GoesOn tolerated (attempt i)) :
    Concluded value usedUp (finished usedUp (upTo tolerated attempt 50 0)) := by
  have nothing : ∀ i, GoesOn tolerated (attempt i) → value i = none := by
    intro i on
    rcases each i with ⟨a,_,ran⟩ | ⟨none,_⟩
    · rw [ran,goesOnOk] at on
      contradiction
    · exact none
  rcases upToStart tolerated attempt 50 with ⟨k,bound,before,settles,run⟩ | ⟨all,run⟩
  · rcases each k with ⟨a,found,ran⟩ | ⟨_,on⟩
    · refine .inl ⟨k,bound,a,found,fun j less => nothing j (before j less),?_⟩
      rw [run,ran]
      rfl
    · exact absurd on settles
  · exact .inr ⟨fun k bound => nothing k (all k bound),by rw [run]; rfl⟩

theorem publishConcludes (answers : HttpAnswers) (client : ConnectivityServiceClient) (uid uri dataType : String) :
    Concluded (fun i => (answers (client.publishRequest uid uri dataType) i).accepted) (.ok ())
      (client.publish answers uid uri dataType) := by
  refine concludes _ fun i => ?_
  unfold publishAttempt publishRequest
  rw [httpPostAnswer]
  cases answers _ i with
  | response r =>
    cases failed : r.failed with
    | false => exact .inl ⟨(),by simp [HttpOutcome.accepted,failed],statusPassed failed _⟩
    | true => exact .inr ⟨by simp [HttpOutcome.accepted,failed],.inr ⟨_,rfl,statusRaised failed _⟩⟩
  | connectionError => exact .inr ⟨rfl,.inr ⟨.request .connectionError,rfl,rfl⟩⟩
  | readTimeout => exact .inr ⟨rfl,.inr ⟨.request .readTimeout,rfl,rfl⟩⟩

theorem resolveConcludes (answers : HttpAnswers) (client : ConnectivityServiceClient) (uidRegex dataType : String) :
    Concluded (fun i => (answers (client.resolveRequest uidRegex dataType) i).content) (.error (lookupUnsuccessful ""))
      (client.resolve answers uidRegex dataType) := by
  refine concludes _ fun i => ?_
  unfold resolveAttempt resolveRequest
  rw [httpPostAnswer]
  cases answers _ i with
  | response r =>
    cases failed : r.failed with
    | false =>
      cases truthy : r.json.val.truthy with
      | false =>
        refine .inr ⟨by simp [HttpOutcome.content,failed,truthy],.inl ((statusPassed failed _).trans ?_)⟩
        rw [truthy]
        rfl
      | true =>
        refine .inl ⟨r.json.val,by simp [HttpOutcome.content,failed,truthy],(statusPassed failed _).trans ?_⟩
        rw [truthy]
        rfl
    | true => exact .inr ⟨by simp [HttpOutcome.content,failed],.inr ⟨_,rfl,statusRaised failed _⟩⟩
  | connectionError => exact .inr ⟨rfl,.inr ⟨.request .connectionError,rfl,rfl⟩⟩
  | readTimeout => exact .inr ⟨rfl,.inr ⟨.request .readTimeout,rfl,rfl⟩⟩

theorem retractEach (answers : HttpAnswers) (client : ConnectivityServiceClient) (uid : String) (i : Nat) :
    ((answers (client.retractRequest uid) i).retracted = some () ∧ client.retractAttempt answers uid i = .ok (some ())) ∨
    ((answers (client.retractRequest uid) i).retracted = none ∧ answers (client.retractRequest uid) i ≠ .readTimeout ∧
      GoesOn retractTolerates (client.retractAttempt answers uid i)) ∨
    answers (client.retractRequest uid) i = .readTimeout ∧ client.retractAttempt answers uid i = .error (.request .readTimeout) := by
  unfold retractAttempt retractRequest
  rw [httpPostAnswer]
  cases answers _ i with
  | response r =>
    have bound : ∀ f : HttpResponse → Except ClientException (Option Unit), (requested (HttpOutcome.response r).received >>= f) = f r := fun _ => rfl
    rw [bound]
    by_cases notFound : r.statusCode = 404
    · exact .inl ⟨if_pos notFound,if_pos notFound⟩
    · rw [if_neg notFound,HttpOutcome.retracted,if_neg notFound]
      cases failed : r.failed with
      | false => exact .inl ⟨rfl,statusPassed failed _⟩
      | true => exact .inr (.inl ⟨rfl,by simp,.inr ⟨_,rfl,statusRaised failed _⟩⟩)
  | connectionError => exact .inr (.inl ⟨rfl,by simp,.inr ⟨.request .connectionError,rfl,rfl⟩⟩)
  | readTimeout => exact .inr (.inr ⟨rfl,rfl⟩)

theorem concludedOk {value : Nat → Option Unit} {returned : Returned Unit} (concluded : Concluded value (.ok ()) returned) :
    returned.result = .ok () := by
  rcases concluded with ⟨_,_,_,_,_,rfl⟩ | ⟨_,rfl⟩ <;> rfl

theorem retractOutcome (answers : HttpAnswers) (client : ConnectivityServiceClient) (uid : String) :
    (AnsweredInTime answers (client.retractRequest uid) ∧
      Concluded (fun i => (answers (client.retractRequest uid) i).retracted) (.ok ()) (client.retract answers uid)) ∨
    ¬ AnsweredInTime answers (client.retractRequest uid) ∧
      (client.retract answers uid).result = .error RequestException.readTimeout.exn := by
  have passedOver : ∀ i, GoesOn retractTolerates (client.retractAttempt answers uid i) →
      (answers (client.retractRequest uid) i).retracted = none ∧ answers (client.retractRequest uid) i ≠ .readTimeout := by
    intro i on
    rcases retractEach answers client uid i with ⟨_,ran⟩ | ⟨none,other,_⟩ | ⟨_,ran⟩
    · rw [ran,goesOnOk] at on
      contradiction
    · exact ⟨none,other⟩
    · rw [ran,goesOnError] at on
      contradiction
  rcases upToStart retractTolerates (client.retractAttempt answers uid) 50 with ⟨k,bound,before,settles,run⟩ | ⟨all,run⟩
  · rcases retractEach answers client uid k with ⟨found,ran⟩ | ⟨_,_,on⟩ | ⟨late,ran⟩
    · refine .inl ⟨fun i _ late => ?_,.inl ⟨k,bound,(),found,fun j less => (passedOver j (before j less)).1,?_⟩⟩
      · rcases Nat.lt_trichotomy i k with less | rfl | more
        · exact absurd late (passedOver i (before i less)).2
        · rw [late] at found
          contradiction
        · exact ⟨k,more,found⟩
      · rw [retract,run,ran]
        rfl
    · exact absurd on settles
    · refine .inr ⟨fun inTime => ?_,?_⟩
      · obtain ⟨j,less,found⟩ := inTime k bound late
        rw [(passedOver j (before j less)).1] at found
        contradiction
      · rw [retract,run,ran]
        rfl
  · refine .inl ⟨fun i bound late => absurd late (passedOver i (all i bound)).2,
      .inr ⟨fun i bound => (passedOver i (all i bound)).1,?_⟩⟩
    rw [retract,run]
    rfl

theorem retractConcludes {uid : String} :
    Concluded (fun i => (answers (client.retractRequest uid) i).retracted) (.ok ()) (client.retract answers uid) ↔
      AnsweredInTime answers (client.retractRequest uid) := by
  rcases retractOutcome answers client uid with ⟨inTime,concluded⟩ | ⟨late,raised⟩
  · exact iff_of_true concluded inTime
  · refine iff_of_false (fun concluded => ?_) late
    rw [concludedOk concluded] at raised
    contradiction

theorem retractReturns (answers : HttpAnswers) (client : ConnectivityServiceClient) (uid : String) :
    (client.retract answers uid).result = .ok () ↔ AnsweredInTime answers (client.retractRequest uid) := by
  rcases retractOutcome answers client uid with ⟨inTime,concluded⟩ | ⟨late,raised⟩
  · exact iff_of_true (concludedOk concluded) inTime
  · exact iff_of_false (by simp [raised]) late

end ConnectivityServiceClient

structure AdvertisedController (κ : Type) extends Controller κ where
  running : Bool
  connectivityService : Option ConnectivityServiceClient
  connectivityServiceThread : Option Nat

inductive ShutdownEvent (κ : Type) where
  | joined (attempts : Nat)
  | retracted (attempts : Nat)
  | broadcast
  | stoppingChildren
  | stopped (child : κ)
  | listenerStopped

structure Shutdown (κ : Type) where
  canBroadcast : Bool
  broadcast : Except Exn Unit
  stop : κ → Except Exn Unit
  responseListener : Option (Except Exn Unit)

namespace AdvertisedController
variable {κ : Type} (answers : HttpAnswers) (env : Shutdown κ)

abbrev Stopping (κ α : Type) := Act (ShutdownEvent κ) Exn (AdvertisedController κ) α

def unregister : Stopping κ Unit := do
  let c ← read
  match c.connectivityService with
  | none => pure ()
  | some client => do
      match c.connectivityServiceThread with
      | none => pure ()
      | some attempt =>
          emit (.joined (client.publishFrom answers (c.name ++ "_control") (c.uri.getD "") "RunControlMessage" attempt).attempts)
      let retraction := client.retract answers (c.name ++ "_control")
      emit (.retracted retraction.attempts)
      lift retraction.result

def announce : Stopping κ Unit := do
  if env.canBroadcast then
    emit .broadcast
    lift env.broadcast

def stopChildren : Stopping κ Unit := do
  emit .stoppingChildren
  let c ← read
  let _ ← each (fun child => do
    emit (.stopped child)
    lift (env.stop child)) c.childrenNodes
  update fun c => { c with childrenNodes := [] }
  match env.responseListener with
  | none => pure ()
  | some stopped => do
      emit .listenerStopped
      lift stopped

def beforeChildren : Stopping κ Unit := do
  update fun c => { c with running := false }
  unregister answers
  announce env

def terminate : Stopping κ Unit := do
  beforeChildren answers env
  stopChildren env

def GoesOn (c : AdvertisedController κ) : Prop :=
  ∃ before, terminate answers env c = (stopChildren env { c with running := false }).after before

theorem unregisterRun (c : AdvertisedController κ) :
    (unregister answers c).state = c ∧ ShutdownEvent.stoppingChildren ∉ (unregister answers c).events ∧
      ((unregister answers c).result = .ok () ↔ ∀ client, c.connectivityService = some client →
        AnsweredInTime answers (client.retractRequest (c.name ++ "_control"))) := by
  unfold unregister
  rw [readBind]
  cases c.connectivityService with
  | none => exact ⟨rfl,List.not_mem_nil,iff_of_true rfl (by simp)⟩
  | some client =>
    have returns := ConnectivityServiceClient.retractReturns answers client (c.name ++ "_control")
    have only : (∀ other, some client = some other → AnsweredInTime answers (other.retractRequest (c.name ++ "_control"))) ↔
        AnsweredInTime answers (client.retractRequest (c.name ++ "_control")) := by simp
    rw [only,← returns]
    cases c.connectivityServiceThread with
    | none =>
      change _ ∧ ShutdownEvent.stoppingChildren ∉ [ShutdownEvent.retracted _] ∧ _
      exact ⟨rfl,by simp,Iff.rfl⟩
    | some attempt =>
      change _ ∧ ShutdownEvent.stoppingChildren ∉ [ShutdownEvent.joined _,ShutdownEvent.retracted _] ∧ _
      exact ⟨rfl,by simp,Iff.rfl⟩

theorem announceRun (c : AdvertisedController κ) :
    (announce env c).state = c ∧ ShutdownEvent.stoppingChildren ∉ (announce env c).events ∧
      ((announce env c).result = .ok () ↔ (env.canBroadcast = true → env.broadcast = .ok ())) := by
  unfold announce
  cases env.canBroadcast with
  | false => exact ⟨rfl,List.not_mem_nil,iff_of_true rfl (by simp)⟩
  | true =>
    change _ ∧ ShutdownEvent.stoppingChildren ∉ [ShutdownEvent.broadcast] ∧ (env.broadcast = .ok () ↔ _)
    exact ⟨rfl,by simp,by simp⟩

theorem beforeRun (c : AdvertisedController κ) :
    (beforeChildren answers env c).state = { c with running := false } ∧
      ShutdownEvent.stoppingChildren ∉ (beforeChildren answers env c).events ∧
      ((beforeChildren answers env c).result = .ok () ↔ (∀ client, c.connectivityService = some client →
        AnsweredInTime answers (client.retractRequest (c.name ++ "_control"))) ∧
          (env.canBroadcast = true → env.broadcast = .ok ())) := by
  unfold beforeChildren
  rw [updateBind]
  obtain ⟨same,quiet,returns⟩ := unregisterRun answers { c with running := false }
  obtain ⟨kept,silent,announced⟩ := announceRun env { c with running := false }
  rcases bindCases (unregister answers) (fun _ => announce env) { c with running := false } with ⟨e,raised,run⟩ | ⟨_,passed,run⟩
  · rw [run]
    rw [raised] at returns
    exact ⟨same,quiet,iff_of_false (by simp) fun both => absurd (returns.mpr both.1) (by simp)⟩
  · rw [run,same]
    refine ⟨kept,?_,announced.trans ⟨fun shown => ⟨returns.mp passed,shown⟩,And.right⟩⟩
    rw [afterEvents,List.mem_append]
    exact fun mem => mem.elim quiet silent

theorem goesOnIff (c : AdvertisedController κ) : GoesOn answers env c ↔
    (∀ client, c.connectivityService = some client →
      AnsweredInTime answers (client.retractRequest (c.name ++ "_control"))) ∧
    (env.canBroadcast = true → env.broadcast = .ok ()) := by
  obtain ⟨state,quiet,returns⟩ := beforeRun answers env c
  unfold GoesOn terminate
  rcases bindCases (beforeChildren answers env) (fun _ => stopChildren env) c with ⟨e,raised,run⟩ | ⟨_,passed,run⟩
  · rw [raised] at returns
    refine iff_of_false ?_ fun both => absurd (returns.mpr both) (by simp)
    rintro ⟨before,same⟩
    have started : ShutdownEvent.stoppingChildren ∈ (stopChildren env { c with running := false }).events := by
      unfold stopChildren
      rw [emitBind,afterEvents]
      exact List.mem_cons_self
    rw [run] at same
    refine quiet ?_
    rw [congrArg Library.Outcome.events same,afterEvents]
    exact List.mem_append_right before started
  · rw [run,state]
    exact iff_of_true ⟨_,rfl⟩ (returns.mp passed)

end AdvertisedController

structure Withstands {κ : Type} (answers : HttpAnswers) (client : ConnectivityServiceClient) (uid uri dataType uidRegex : String)
    (env : Shutdown κ) (c : AdvertisedController κ) : Prop where
  publishes : Concluded (fun i => (answers (client.publishRequest uid uri dataType) i).accepted) (.ok ())
    (client.publish answers uid uri dataType)
  retracts : Concluded (fun i => (answers (client.retractRequest uid) i).retracted) (.ok ()) (client.retract answers uid)
  resolves : Concluded (fun i => (answers (client.resolveRequest uidRegex dataType) i).content) (.error (lookupUnsuccessful ""))
    (client.resolve answers uidRegex dataType)
  goesOn : c.GoesOn answers env

theorem withstandsIff {κ : Type} (answers : HttpAnswers) (client : ConnectivityServiceClient) (uid uri dataType uidRegex : String)
    (env : Shutdown κ) (c : AdvertisedController κ) :
    Withstands answers client uid uri dataType uidRegex env c ↔
      AnsweredInTime answers (client.retractRequest uid) ∧
      (∀ service, c.connectivityService = some service → AnsweredInTime answers (service.retractRequest (c.name ++ "_control"))) ∧
      (env.canBroadcast = true → env.broadcast = .ok ()) := by
  have retraction : Concluded _ (.ok ()) (client.retract answers uid) ↔ _ := ConnectivityServiceClient.retractConcludes
  have stopping := c.goesOnIff answers env
  constructor
  · exact fun withstands => ⟨retraction.mp withstands.retracts,stopping.mp withstands.goesOn⟩
  · exact fun ⟨inTime,onwards⟩ => ⟨ConnectivityServiceClient.publishConcludes answers client uid uri dataType,
      retraction.mpr inTime,ConnectivityServiceClient.resolveConcludes answers client uidRegex dataType,stopping.mpr onwards⟩

namespace Sample

def slowAnswers : HttpAnswers := fun _ attempt => if attempt = 0 then .response ⟨503,.none,emptyPlain⟩ else .readTimeout

def service : ConnectivityServiceClient := .init "session" "np04-srv-023:5000"

def advertised : AdvertisedController String :=
  { toController := root ["trg-controller","ru-controller"], running := true, connectivityService := some service,
    connectivityServiceThread := none }

theorem slowRetraction : ¬ Withstands slowAnswers service "root-controller_control" "grpc://np04-srv-023:3333" "RunControlMessage"
    ".*_control" ⟨true,.ok (),fun _ => .ok (),none⟩ advertised := by
  intro withstands
  obtain ⟨j,less,found⟩ := ConnectivityServiceClient.retractConcludes.mp withstands.retracts 1 (by decide) rfl
  obtain rfl := Nat.lt_one_iff.mp less
  contradiction

end Sample
end Drunc
