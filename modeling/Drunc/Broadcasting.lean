import Drunc.History

/-! The broadcaster behind the publications of a controller. A message is sent to Kafka
through a future; what its `get` raises is logged, but the line after the handlers reads
the variable that only a delivery assigns, so a publication that fails raises all the
same. A request is what it would be without a broadcaster where every publication that
bears on its command is delivered: what reports the exception of a child is the last
thing that its thread does, and bears on nothing. -/
namespace Drunc
open Library (Dict failure)
open Library.Act

namespace KafkaSender

def unboundLocal : Exn := .other "UnboundLocalError"
  "cannot access local variable 'record_metadata' where it is not associated with a value"

/-- Of the future, what its `get` returns or raises: a `KafkaError`, or something else. -/
def send (future : Except Exn String) : Except Exn Unit :=
  let recordMetadata : Option String := match future with
    | .ok metadata => some metadata
    | .error _ => none
  match recordMetadata with
  | some _ => .ok ()
  | none => .error unboundLocal

end KafkaSender

namespace BroadcastSender

def broadcast (implementation : Option (Site → Except Exn String)) (site : Site) : Except Exn Unit :=
  match implementation with
  | none => .ok ()
  | some futures => KafkaSender.send (futures site)

end BroadcastSender

def World.broadcasting (w : World) (implementation : Option (Site → Except Exn String)) : World :=
  { w with broadcast := fun site => failure (BroadcastSender.broadcast implementation site) }

def Command.propagates : Command → Bool
  | .describe | .executeFsmCommand | .include | .exclude | .takeControl | .surrenderControl => true
  | .status | .describeFsm | .whoIsInCharge => false

def Site.bears (command : Command) : Site → Bool
  | .ack | .success => true
  | .subState _ | .operationalState | .errorState => command == .executeFsmCommand
  | .inclusionState => command == .include || command == .exclude
  | .propagation | .childStart _ | .childResponse _ => command.propagates
  | .childException _ => false

structure Agree (S : Site → Prop) (w w' : World) : Prop where
  callback : w.callback = w'.callback
  schedule : w.schedule = w'.schedule
  broadcast : ∀ site, S site → w.broadcast site = w'.broadcast site

section Agree
variable {w w' : World} {site : Site}

theorem broadcastAgree {σ : Type} {message : String} {btype : BroadcastType}
    (same : w.broadcast site = w'.broadcast site) :
    (broadcast w site message btype : Do σ Unit) = broadcast w' site message btype := by
  unfold broadcast
  rw [same]

theorem executeAgree {σ : Type} {side : PreOrPost} {sequence : List Callback} {data : JsonText} {args : Dict String PyObj}
    (same : w.callback = w'.callback) :
    (execute w side sequence data args : Do σ JsonText) = execute w' side sequence data args := by
  have callbacks : ∀ index input, (executeCallbacks w side args index sequence input : Do σ PyObj) =
      executeCallbacks w' side args index sequence input := by
    induction sequence with
    | nil => exact fun _ _ => rfl
    | cons callback rest ih =>
      intro index input
      simp only [executeCallbacks,executeCallback,callbackResult,same,ih]
  simp only [execute,callbacks]

namespace StatefulNode
variable {btype : BroadcastType} {name : String} {old : StatefulNode → String} {new : String}
  {store : StatefulNode → StatefulNode}

theorem observeAgree (same : w.broadcast site = w'.broadcast site) :
    observe w site btype name old new store = observe w' site btype name old new store := by
  unfold observe
  simp only [broadcastAgree same]

variable {t : Transition}

theorem markAgree {before after : Phase} {action : String}
    (same : w.broadcast (.subState after) = w'.broadcast (.subState after)) :
    mark w t before after action = mark w' t before after action := by
  simp only [mark,setOperationalSubState,observeAgree same]

theorem finaliseAgree {data : JsonText} {args : Dict String PyObj} (callback : w.callback = w'.callback)
    (same : ∀ phase, w.broadcast (.subState phase) = w'.broadcast (.subState phase)) :
    finaliseTransition w t data args = finaliseTransition w' t data args := by
  simp only [finaliseTransition,markAgree (same _),setOperationalSubState,observeAgree (same _),executeAgree callback]

variable [Re]

theorem prepareAgree {data : JsonText} {args : Dict String PyObj} (callback : w.callback = w'.callback)
    (same : ∀ phase, w.broadcast (.subState phase) = w'.broadcast (.subState phase)) :
    prepareTransition w t data args = prepareTransition w' t data args := by
  simp only [prepareTransition,setOperationalSubState,observeAgree (same _),executeAgree callback]

theorem terminateAgree (same : ∀ phase, w.broadcast (.subState phase) = w'.broadcast (.subState phase))
    (state : w.broadcast .operationalState = w'.broadcast .operationalState) :
    terminateTransitionMark w t = terminateTransitionMark w' t := by
  simp only [terminateTransitionMark,markAgree (same _),setOperationalState,observeAgree state]

end StatefulNode
end Agree

section Propagation
variable {κ : Type} {w w' : World} {kids : ChildInterface κ} {command : Command} {commandData : Option Payload}
  {token : Token}

theorem propagateToChildAgree (start : ∀ i, w.broadcast (.childStart i) = w'.broadcast (.childStart i))
    (response : ∀ i, w.broadcast (.childResponse i) = w'.broadcast (.childResponse i)) :
    propagateToChild w kids command commandData token = propagateToChild w' kids command commandData token := by
  funext t
  unfold propagateToChild
  cases t.pc <;> simp only [start,response]

end Propagation

namespace Controller
variable {κ : Type} {w w' : World} {kids : ChildInterface κ} {command : Command} {commandData : Option Payload}
  {token : Token}

theorem propagateToListAgree (propagates : command.propagates = true) (agree : Agree (·.bears command = true) w w') :
    (propagateToList w kids command commandData token : Do (Controller κ) (List Response)) =
      propagateToList w' kids command commandData token := by
  have threads : propagateToChild w kids command commandData token = propagateToChild w' kids command commandData token :=
    propagateToChildAgree (fun i => agree.broadcast (.childStart i) propagates)
      (fun i => agree.broadcast (.childResponse i) propagates)
  have asked : (askChildren w kids command commandData token : Do (Controller κ) (List Response)) =
      askChildren w' kids command commandData token := by
    unfold askChildren collected published childrenAfter runChildThreads
    rw [threads,agree.schedule]
  unfold propagateToList
  rw [broadcastAgree (agree.broadcast .propagation propagates),asked]

theorem changeInclusionAgree {change change' : Do StatefulNode Unit} {changed : String}
    (propagates : command.propagates = true) (agree : Agree (·.bears command = true) w w') (same : change = change') :
    (changeInclusion w kids command change changed token : Do (Controller κ) Response) =
      changeInclusion w' kids command change' changed token := by
  simp only [changeInclusion,propagateToListAgree propagates agree,same]

theorem changeActorAgree {change : Token → Do Token (Option Nat)} {what : String} {done : Token → Token → String}
    (propagates : command.propagates = true) (agree : Agree (·.bears command = true) w w') :
    (changeActor w kids command change what done token : Do (Controller κ) Response) =
      changeActor w' kids command change what done token := by
  simp only [changeActor,propagateToListAgree propagates agree]

variable [Re]

theorem executeFsmCommandAgree {fsmCommand : FSMCommand} (agree : Agree (·.bears .executeFsmCommand = true) w w') :
    (executeFsmCommand w kids fsmCommand token : Do (Controller κ) Response) =
      executeFsmCommand w' kids fsmCommand token := by
  have phases := fun phase => agree.broadcast (.subState phase) rfl
  simp only [executeFsmCommand,carryOut,transit,StatefulNode.prepareAgree agree.callback phases,
    StatefulNode.propagateTransitionMark,StatefulNode.finishPropagatingTransitionMark,StatefulNode.startTransitionMark,
    StatefulNode.markAgree (phases _),propagateToListAgree rfl agree,
    StatefulNode.terminateAgree phases (agree.broadcast .operationalState rfl),
    StatefulNode.finaliseAgree agree.callback phases,StatefulNode.toError,StatefulNode.setInError,
    StatefulNode.observeAgree (agree.broadcast .errorState rfl)]

theorem unpackedAgree {obj : Servicer} {request : Request} (agree : Agree (·.bears command = true) w w') :
    (unpacked w kids obj command request : Do (Controller κ) Response) = unpacked w' kids obj command request := by
  cases command with
  | status => rfl
  | describe => simp only [unpacked,describe,propagateToListAgree rfl agree]
  | describeFsm => rfl
  | whoIsInCharge => rfl
  | executeFsmCommand =>
    have body : (executeFsmCommand w kids : FSMCommand → Token → Do (Controller κ) Response) =
        executeFsmCommand w' kids := funext fun _ => funext fun _ => executeFsmCommandAgree agree
    rw [unpacked,unpacked,body]
  | «include» =>
    have changes : StatefulNode.includeNode w = StatefulNode.includeNode w' := by
      simp only [StatefulNode.includeNode,StatefulNode.setIncluded,
        StatefulNode.observeAgree (agree.broadcast .inclusionState rfl)]
    simp only [unpacked,includeSelf,changeInclusionAgree rfl agree changes]
  | exclude =>
    have changes : StatefulNode.excludeNode w = StatefulNode.excludeNode w' := by
      simp only [StatefulNode.excludeNode,StatefulNode.setIncluded,
        StatefulNode.observeAgree (agree.broadcast .inclusionState rfl)]
    simp only [unpacked,excludeSelf,changeInclusionAgree rfl agree changes]
  | takeControl => simp only [unpacked,takeControl,changeActorAgree rfl agree]
  | surrenderControl => simp only [unpacked,surrenderControl,changeActorAgree rfl agree]

theorem handleAgree (kids : ChildInterface κ) (request : Request) (agree : Agree (·.bears command = true) w w') :
    (handle w kids command request : Do (Controller κ) Response) = handle w' kids command request := by
  have inner : ∀ obj, (unpacked w kids obj command : Request → Do (Controller κ) Response) =
      unpacked w' kids obj command := fun obj => funext fun request => unpackedAgree agree
  simp only [handle,broadcasted,attempting,successfully,broadcastAgree (agree.broadcast .ack rfl),
    broadcastAgree (agree.broadcast .success rfl),inner]

end Controller

structure KafkaRound (κ : Type) where
  round : Round κ
  futures : Site → Except Exn String

namespace KafkaRound
variable {κ : Type}

def published (k : KafkaRound κ) : Round κ := { k.round with world := k.round.world.broadcasting (some k.futures) }

def unpublished (k : KafkaRound κ) : Round κ := { k.round with world := k.round.world.broadcasting none }

def Delivered (k : KafkaRound κ) : Prop :=
  ∀ site, site.bears k.round.command = true → ∃ metadata, k.futures site = .ok metadata

theorem deliveredAgree {k : KafkaRound κ} (delivered : k.Delivered) :
    Agree (·.bears k.round.command = true) k.published.world k.unpublished.world := by
  refine ⟨rfl,rfl,fun site bears => ?_⟩
  obtain ⟨metadata,got⟩ := delivered site bears
  simp only [published,unpublished,World.broadcasting,BroadcastSender.broadcast,KafkaSender.send,got]

end KafkaRound

namespace Controller
variable {κ : Type} [Re]

def childCommands (events : List Event) : List (String × Command × Option Payload) :=
  events.filterMap fun
    | .child name command data => some (name,command,data)
    | _ => none

structure Seen where
  node : StatefulNode
  commands : List (String × Command × Option Payload)
  response : Except Exn Response

def see (c : Controller κ) (r : Round κ) : Seen :=
  let o := handle r.world r.kids r.command r.request c
  ⟨o.state.statefulNode,childCommands o.events,o.result⟩

def seenAlong (c : Controller κ) : List (Round κ) → List Seen
  | [] => []
  | r :: rest => see c r :: seenAlong (serve c r) rest

theorem deliveredUndisturbed (c : Controller κ) (history : List (KafkaRound κ))
    (delivered : ∀ k ∈ history, k.Delivered) :
    seenAlong c (history.map KafkaRound.published) = seenAlong c (history.map KafkaRound.unpublished) := by
  induction history generalizing c with
  | nil => rfl
  | cons k rest ih =>
    have same := handleAgree k.round.kids k.round.request (KafkaRound.deliveredAgree (delivered k List.mem_cons_self))
    have served : serve c k.published = serve c k.unpublished := by
      unfold serve
      exact congrArg (fun act => (act c).state) same
    have first : see c k.published = see c k.unpublished := by
      unfold see
      exact congrArg (fun act => (⟨(act c).state.statefulNode,childCommands (act c).events,(act c).result⟩ : Seen)) same
    rw [List.map_cons,List.map_cons,seenAlong,seenAlong,first,served,
      ih _ fun k mem => delivered k (List.mem_cons_of_mem _ mem)]

end Controller

namespace Sample

def timedOut (missed : Site) : KafkaRound Empty := ⟨confRound,fun site =>
  if site = missed then .error (.other "KafkaTimeoutError" "KafkaTimeoutError: Timeout after waiting for 2 secs.")
  else .ok "record"⟩

def unresponsive : ChildInterface String :=
  ⟨id,fun _ child _ _ _ => (.error (.responseTimeout "Timeout while waiting for a reply"),child),fun _ _ _ _ _ => rfl,
    fun _ _ _ => .ok none⟩

def unreported : KafkaRound String :=
  ⟨⟨calm,unresponsive,.executeFsmCommand,confRequest⟩,(timedOut (.childException 0)).futures⟩

end Sample

open Sample in
theorem reportUndisturbed :
    Controller.seenAlong (root ["app"]) [unreported.published] = Controller.seenAlong (root ["app"]) [unreported.unpublished] := by
  refine Controller.deliveredUndisturbed (root ["app"]) [unreported] fun k mem site bears => ?_
  obtain rfl := List.mem_singleton.mp mem
  refine ⟨"record",if_neg fun same => ?_⟩
  rw [same] at bears
  contradiction

open Sample in
theorem failedPublicationStrands :
    Controller.seenAlong (root []) [(timedOut (.subState .executing)).published] ≠
      Controller.seenAlong (root []) [(timedOut (.subState .executing)).unpublished] ∧
    ((root []).serve (timedOut (.subState .executing)).published).statefulNode.operationalState = some "initial" ∧
    ((root []).serve (timedOut (.subState .executing)).unpublished).statefulNode.operationalState =
      some "configured" := by
  have stays : ((root []).serve (timedOut (.subState .executing)).published).statefulNode.operationalState =
      some "initial" := by decide
  have moves : ((root []).serve (timedOut (.subState .executing)).unpublished).statefulNode.operationalState =
      some "configured" := by decide
  refine ⟨fun same => ?_,stays,moves⟩
  have node : ((root []).serve (timedOut (.subState .executing)).published).statefulNode =
      ((root []).serve (timedOut (.subState .executing)).unpublished).statefulNode :=
    congrArg Controller.Seen.node (List.cons.inj same).1
  rw [← node,stays] at moves
  contradiction

end Drunc
