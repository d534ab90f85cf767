import Drunc.Broadcasting
import Drunc.ChildOutcomes

/-! Whom an FSM command reaches. The commands that a run sends to children are those of
the propagation threads, and of nothing else in the run. Each thread sends one, if the
publication at its start is delivered, and the data, the name and the arguments in it are the
same for all of them. No thread asks which nodes the command was addressed to. -/
namespace Drunc
open Library (Act Dict failure value firstCut firstCutMap firstCutNone)
open Library.Act
open Library.Interleaving (emitted joinedLog)

theorem filtersPerm {α β : Type} {f : α → β} {xs : List α} (apart : (xs.map f).Nodup) {p q : α → Bool} :
    ((xs.filter p).map f).Perm ((xs.filter q).map f) ↔ ∀ x ∈ xs, p x = q x := by
  constructor
  · have one : ∀ {r : α → Bool} {x}, x ∈ xs → (f x ∈ (xs.filter r).map f ↔ r x = true) := by
      intro r x mem
      constructor
      · intro there
        obtain ⟨y,inside,same⟩ := List.mem_map.mp there
        obtain ⟨listed,holds⟩ := List.mem_filter.mp inside
        rwa [← List.inj_on_of_nodup_map apart listed mem same]
      · exact fun holds => List.mem_map_of_mem (List.mem_filter.mpr ⟨mem,holds⟩)
    intro perm x mem
    rw [Bool.eq_iff_iff,← one mem,← one mem]
    exact perm.mem_iff
  · exact fun same => by rw [List.filter_congr same]

namespace Controller

def Unaddressed {σ α : Type} (x : Do σ α) : Prop := Utters (fun e => childCommands [e] = []) x

section Unaddressed
variable {σ α β : Type} {x : Do σ α} {f : α → Do σ β} {s : σ}

theorem childCommandsAppend (one two : List Event) : childCommands (one ++ two) = childCommands one ++ childCommands two :=
  List.filterMap_append

theorem childCommandsPerm {one two : List Event} (perm : one.Perm two) : (childCommands one).Perm (childCommands two) :=
  perm.filterMap _

theorem unaddressedNone (unaddressed : Unaddressed x) (s : σ) : childCommands (x s).events = [] := by
  refine List.filterMap_eq_nil_iff.mpr fun e mem => ?_
  have none := unaddressed s e mem
  simpa [childCommands] using none

theorem commandsAfter (rest : ∀ a, Unaddressed (f a)) : childCommands ((x >>= f) s).events = childCommands (x s).events := by
  rcases bindCases x f s with ⟨e,_,run⟩ | ⟨a,_,run⟩
  · rw [run]
  · rw [run,afterEvents,childCommandsAppend,unaddressedNone (rest a),List.append_nil]

theorem commandsBefore {a : α} (first : Unaddressed x) (returned : (x s).result = .ok a) :
    childCommands ((x >>= f) s).events = childCommands (f a (x s).state).events := by
  rw [bindOk returned,afterEvents,childCommandsAppend,unaddressedNone first,List.nil_append]

theorem broadcastUnaddressed {w : World} {site : Site} {message : String} {btype : BroadcastType} :
    Unaddressed (broadcast w site message btype : Do σ Unit) := by
  intro s e mem
  rw [broadcastEvents] at mem
  rw [List.mem_singleton.mp mem]
  rfl

theorem callbacksUnaddressed {w : World} {side : PreOrPost} {args : Dict String PyObj} (index : Nat) (sequence : List Callback)
    (data : PyObj) : Unaddressed (executeCallbacks w side args index sequence data : Do σ PyObj) := by
  induction sequence generalizing index data with
  | nil => exact silentUtters (silentPure _)
  | cons callback rest ih =>
    refine uttersBind (uttersBind (fun _ => emitsEmit rfl) fun _ => silentUtters (silentLift _)) fun data => ?_
    exact ih (index+1) data

theorem executeUnaddressed {w : World} {side : PreOrPost} {sequence : List Callback} {data : JsonText} {args : Dict String PyObj} :
    Unaddressed (execute w side sequence data args : Do σ JsonText) := by
  unfold execute
  cases loads (orEmpty data) with
  | error e => exact silentUtters (silentRaise _)
  | ok input => exact uttersBind (callbacksUnaddressed 0 sequence input) fun _ => silentUtters (silentLift _)

end Unaddressed

section Node
open StatefulNode
variable {w : World} {t : Transition} {data : JsonText} {args : Dict String PyObj}

theorem observeUnaddressed {site : Site} {btype : BroadcastType} {name : String} {old : StatefulNode → String} {new : String}
    {store : StatefulNode → StatefulNode} : Unaddressed (observe w site btype name old new store) :=
  uttersBind (silentUtters silentRead) fun _ => uttersBind broadcastUnaddressed fun _ => fun _ => emitsUpdate _

theorem markUnaddressed {before after : Phase} {action : String} : Unaddressed (mark w t before after action) := by
  refine uttersBind (silentUtters silentRead) fun n => ?_
  split
  · exact silentUtters (silentRaise _)
  · exact observeUnaddressed

theorem finaliseUnaddressed : Unaddressed (finaliseTransition w t data args) := by
  refine uttersBind markUnaddressed fun _ => uttersBind (silentUtters silentRead) fun n => ?_
  refine uttersBind executeUnaddressed fun data => uttersBind (silentUtters silentRead) fun n => ?_
  exact uttersBind observeUnaddressed fun _ => silentUtters (silentPure _)

variable [Re]

theorem terminateUnaddressed : Unaddressed (terminateTransitionMark w t) := by
  refine uttersBind markUnaddressed fun _ => uttersBind (silentUtters silentRead) fun n => ?_
  exact uttersBind (silentUtters (silentLift _)) fun _ => observeUnaddressed

theorem prepareUnaddressed : Unaddressed (prepareTransition w t data args) := by
  refine uttersBind (silentUtters silentRead) fun n => ?_
  split
  · exact silentUtters (silentRaise _)
  · refine uttersBind (silentUtters (silentLift _)) fun can => ?_
    split
    · exact silentUtters (silentRaise _)
    · refine uttersBind observeUnaddressed fun _ => uttersBind executeUnaddressed fun data => ?_
      exact uttersBind observeUnaddressed fun _ => silentUtters (silentPure _)

end Node

section Threads
variable {κ : Type} (w : World) (kids : ChildInterface κ) (command : Command) (commandData : Option Payload) (token : Token)

def calledWith (x : κ × Nat) : String × Command × Option Payload := (kids.name x.1,command,commandData)

theorem threadCalls (index : Nat) (child : κ) :
    childCommands ((emitted (propagateToChild w kids command commandData token) turns ⟨index,child,.start⟩).filterMap Appended.event?) =
      if (w.broadcast (.childStart index)).isSome then [] else [(kids.name child,command,commandData)] := by
  cases started : w.broadcast (.childStart index) with
  | some e => simp [turns,emitted,propagateToChild,started,Appended.event?,childCommands]
  | none =>
    cases called : kids.propagateCommand index child command commandData token with
    | mk answer after =>
      cases answer with
      | error e => simp [turns,emitted,propagateToChild,started,called,Appended.event?,childCommands]
      | ok response =>
        cases reported : w.broadcast (.childResponse index) <;>
          simp [turns,emitted,propagateToChild,started,called,reported,List.filterMap_cons,Appended.event?,childCommands]

theorem publishedCommands (children : List κ) :
    (childCommands (published w kids command commandData token children)).Perm
      ((children.zipIdx.filter fun x => (w.broadcast (.childStart x.2)).isNone).map (calledWith kids command commandData)) := by
  have log := joinedLog (threadsEnd w kids command commandData token children) w.schedule []
  have threads : childThreads children = children.zipIdx.map fun x => ⟨x.2,x.1,.start⟩ := by
    unfold childThreads
    rw [List.mapIdx_eq_zipIdx_map]
  have each : ∀ xs : List (κ × Nat), childCommands (((xs.map fun x => (⟨x.2,x.1,.start⟩ : ChildThread κ)).flatMap
      (emitted (propagateToChild w kids command commandData token) turns)).filterMap Appended.event?) =
      (xs.filter fun x => (w.broadcast (.childStart x.2)).isNone).map (calledWith kids command commandData) := by
    intro xs
    induction xs with
    | nil => rfl
    | cons x rest ih =>
      rw [List.map_cons,List.flatMap_cons,List.filterMap_append,childCommandsAppend,threadCalls,ih,List.filter_cons]
      cases w.broadcast (.childStart x.2) <;> rfl
  refine (childCommandsPerm (log.filterMap Appended.event?)).trans (List.Perm.of_eq ?_)
  rw [← each,← threads]
  rfl

theorem publishedIff {children : List κ} (apart : (children.map kids.name).Nodup) (intended : String → Bool) :
    (childCommands (published w kids command commandData token children)).Perm
      (((children.map kids.name).filter intended).map fun name => (name,command,commandData)) ↔
    ∀ i child, children[i]? = some child → (intended (kids.name child) = true ↔ w.broadcast (.childStart i) = none) := by
  have names : children.map kids.name = children.zipIdx.map fun x => kids.name x.1 := by
    conv_lhs => rw [← List.zipIdx_map_fst 0 children,List.map_map]
    rfl
  have wanted : ((children.map kids.name).filter intended).map (fun name => (name,command,commandData)) =
      (children.zipIdx.filter fun x => intended (kids.name x.1)).map (calledWith kids command commandData) := by
    rw [names,List.filter_map,List.map_map]
    rfl
  have distinct : (children.zipIdx.map (calledWith kids command commandData)).Nodup := by
    have called : children.zipIdx.map (calledWith kids command commandData) =
        (children.map kids.name).map fun name => (name,command,commandData) := by
      rw [names,List.map_map]
      rfl
    rw [called]
    exact apart.map fun one two same => (Prod.mk.inj same).1
  have sent := publishedCommands w kids command commandData token children
  have equal : (childCommands (published w kids command commandData token children)).Perm
      ((children.zipIdx.filter fun x => intended (kids.name x.1)).map (calledWith kids command commandData)) ↔
      ∀ x ∈ children.zipIdx, (w.broadcast (.childStart x.2)).isNone = intended (kids.name x.1) :=
    ⟨fun perm => (filtersPerm distinct).mp (sent.symm.trans perm),fun same => sent.trans ((filtersPerm distinct).mpr same)⟩
  rw [wanted,equal]
  constructor
  · intro same i child found
    rw [← same (child,i) (List.mk_mem_zipIdx_iff_getElem?.mpr found),Option.isNone_iff_eq_none]
  · intro same ⟨child,i⟩ mem
    rw [Bool.eq_iff_iff,Option.isNone_iff_eq_none]
    exact (same i child (List.mk_mem_zipIdx_iff_getElem?.mp mem)).symm

end Threads

section Addressed
variable {κ : Type} {w : World} {kids : ChildInterface κ} {t : Transition} {fsmCommand : FSMCommand} {token : Token}
  {c : Controller κ} {state : String}

theorem listCommands {command : Command} {data : Option Payload} (announced : w.broadcast .propagation = none) :
    childCommands (propagateToList w kids command data token c).events =
      childCommands (published w kids command data token c.childrenNodes) := by
  have passes : Passes (broadcast w .propagation ("Propagating " ++ command.name ++ " to children") .commandExecutionStart)
      c [(w.broadcast .propagation,c)] () c := broadcastPasses
  have through := passesThrough passes (by rw [announced]; rfl)
  unfold propagateToList
  rw [commandsBefore broadcastUnaddressed through.1,through.2]
  rfl

theorem nodeUnaddressed {α : Type} {x : Do StatefulNode α} (inner : Unaddressed x) :
    Unaddressed (onNode x : Do (Controller κ) α) := uttersZoom inner

theorem nodeCommands {α β : Type} {x : Do StatefulNode α} {f : α → Do (Controller κ) β} {s r : Standing}
    {checks : List (Option Exn × Standing)} {a : α} (part : PassesAs (c.statefulNode.halted t) x s checks a r)
    (inner : Unaddressed x) (uncut : firstCut checks = none) :
    childCommands ((onNode x >>= f) (c.halted t ⟨s,c.childrenNodes⟩)).events =
      childCommands (f a (c.halted t ⟨r,c.childrenNodes⟩)).events := by
  have passes : PassesAs (c.halted t) (onNode x) ⟨s,c.childrenNodes⟩ _ a ⟨r,c.childrenNodes⟩ := nodePasses part
  have through := passesThrough passes (by rw [firstCutMap,firstCutMap,uncut]; rfl)
  rw [commandsBefore (nodeUnaddressed inner) through.1,through.2]

variable [Re]

theorem transitCommands (can : t.Executable state)
    (propagated : firstCut (checkpointsBefore w t fsmCommand c state) = none) :
    childCommands (transit w kids t fsmCommand token (c.halted t ⟨⟨state,.idle⟩,c.childrenNodes⟩)).events =
      childCommands (published w kids .executeFsmCommand (some (.fsmCommand (childrenFsmCommand w t fsmCommand c))) token
        c.childrenNodes) := by
  have reached := firstCutNone.mp propagated
  simp only [checkpointsBefore,List.forall_mem_cons,List.not_mem_nil,false_implies,implies_true,and_true] at reached
  obtain ⟨args,preparing,prepares,ready,propagating,announced⟩ := reached
  have arguments : (c.halted t ⟨⟨state,.idle⟩,c.childrenNodes⟩).statefulNode.decodeArgumentsOf fsmCommand =
      .ok (value (decoded fsmCommand c)) := by
    change decoded fsmCommand c = _
    cases got : decoded fsmCommand c with
    | error e => rw [got] at args; contradiction
    | ok arguments => rfl
  unfold transit
  rw [readBind,arguments,liftOkBind]
  rw [nodeCommands (StatefulNode.preparePasses can) prepareUnaddressed
    (firstCutNone.mpr (by simpa using ⟨preparing,prepares,ready⟩))]
  rw [StatefulNode.propagateTransitionMark,nodeCommands (StatefulNode.markPasses (by decide) (by decide))
    markUnaddressed (firstCutNone.mpr (by simpa using propagating))]
  refine (commandsAfter fun responses => ?_).trans (listCommands announced)
  refine uttersBind (silentUtters (silentLift _)) fun worst => ?_
  refine uttersBind (nodeUnaddressed markUnaddressed) fun _ => ?_
  refine uttersBind (nodeUnaddressed markUnaddressed) fun _ => ?_
  refine uttersBind (nodeUnaddressed terminateUnaddressed) fun _ => ?_
  exact uttersBind (nodeUnaddressed finaliseUnaddressed) fun _ => silentUtters (silentPure _)

theorem startedCommands (start : Starts c fsmCommand t state)
    (propagated : firstCut (checkpointsBefore w t fsmCommand c state) = none) :
    childCommands (executeFsmCommand w kids fsmCommand token c).events =
      childCommands (published w kids .executeFsmCommand (some (.fsmCommand (childrenFsmCommand w t fsmCommand c))) token
        c.childrenNodes) := by
  have sent : _ = childCommands (published w kids _ _ token _) := transitCommands start.can propagated
  rw [idleHalted start.idle] at sent
  rw [startsCarriesOut start,← sent]
  refine commandsAfter fun (responses,worst) => ?_
  dsimp only
  split
  · refine uttersBind (nodeUnaddressed observeUnaddressed) fun _ => ?_
    exact uttersBind (silentUtters silentRead) fun _ => silentUtters (silentPure _)
  · exact uttersBind (silentUtters silentRead) fun _ => silentUtters (silentPure _)

def addressed (fsmCommand : FSMCommand) (name : String) : Bool :=
  fsmCommand.childrenNodes.isEmpty || fsmCommand.childrenNodes.contains name

theorem addressedIff (w : World) (kids : ChildInterface κ) (token : Token) (start : Starts c fsmCommand t state)
    (propagated : firstCut (checkpointsBefore w t fsmCommand c state) = none)
    (apart : (c.childrenNodes.map kids.name).Nodup) :
    (childCommands (executeFsmCommand w kids fsmCommand token c).events).Perm
      (((c.childrenNodes.map kids.name).filter (addressed fsmCommand)).map fun name =>
        (name,.executeFsmCommand,
          some (.fsmCommand { fsmCommand with data := value (prepared w t fsmCommand c), childrenNodes := [] }))) ↔
    ∀ i child, c.childrenNodes[i]? = some child →
      (addressed fsmCommand (kids.name child) = true ↔ w.broadcast (.childStart i) = none) := by
  rw [startedCommands start propagated]
  exact publishedIff w kids _ _ token apart (addressed fsmCommand)

end Addressed
end Controller

namespace Sample

def onlySub : FSMCommand := { confCommand with childrenNodes := ["sub"] }

end Sample

open Sample in
theorem subAddressed :
    (Controller.childCommands (Controller.executeFsmCommand calm canned confCommand user cannedRoot).events).Perm
      (["sub","app"].map fun name => (name,.executeFsmCommand,some (.fsmCommand { confCommand with
        data := value (Controller.prepared calm configure confCommand cannedRoot) }))) := by
  have start : Controller.Starts cannedRoot confCommand configure "initial" := ⟨rfl,rfl,rfl,⟨rfl,rfl⟩,rfl⟩
  exact (Controller.addressedIff calm canned user start rfl (by decide)).mpr fun _ _ _ => ⟨fun _ => rfl,fun _ => rfl⟩

open Sample in
theorem appMoved :
    ¬ (Controller.childCommands (Controller.executeFsmCommand calm canned onlySub user cannedRoot).events).Perm
      (((cannedRoot.childrenNodes.map canned.name).filter (Controller.addressed onlySub)).map fun name =>
        (name,.executeFsmCommand,some (.fsmCommand { onlySub with
          data := value (Controller.prepared calm configure onlySub cannedRoot), childrenNodes := [] }))) := by
  intro perm
  have sent : (Controller.childCommands (Controller.executeFsmCommand calm canned onlySub user cannedRoot).events).length = 2 :=
    rfl
  rw [perm.length_eq] at sent
  contradiction

end Drunc
