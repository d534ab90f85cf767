import Drunc.ProcessRestart

/-! What a flush forgets and what it reports. Between the looks at one process it may die:
`Timed` says how many of the three looks each process survives. A flush takes the
selected processes that its second look finds dead out of the store, reports each of them
once, and leaves every other process alone; but it leaves the boot requests of all of them,
so that a restart or a query for the logs still finds a process that was flushed. -/
namespace Drunc
open Library (Dict Outcome)
open Library.Act

structure Machines.Timed (m : Machines) (survived : Nat → Nat) : Prop where
  code : ∀ process, m.isAlive .flushCode process = .ok (decide (0 < survived process))
  decides : ∀ process, m.isAlive .flush process = .ok (decide (1 < survived process))
  status : ∀ process, m.isAlive .flushStatus process = .ok (decide (2 < survived process))

namespace SSHProcessManager

def FoundDead (m : Machines) (pm : SSHProcessManager) (uuid : String) : Prop :=
  ∃ process, pm.processStore.get? uuid = some process ∧ m.isAlive .flush process = .ok false

structure Flushed [Re] (m : Machines) (selected : List String) (before : SSHProcessManager)
    (o : Outcome Event Exn SSHProcessManager (List ProcessInstance)) : Prop where
  forgets : ∀ uuid ∈ selected, FoundDead m before uuid →
    uuid ∉ o.state.processStore.keys ∧ uuid ∉ o.state.bootRequest.keys
  unmatched : ∀ uuid ∈ selected, FoundDead m before uuid → ∀ query inBootRequest uuids,
    (getProcessUid query inBootRequest o.state).result = .ok uuids → uuid ∉ uuids
  keeps : ∀ uuid, ¬ (uuid ∈ selected ∧ FoundDead m before uuid) →
    o.state.processStore.get? uuid = before.processStore.get? uuid ∧
    o.state.bootRequest.get? uuid = before.bootRequest.get? uuid
  reports : ∃ gone, o.result = .ok gone ∧ (gone.map ProcessInstance.uuid).Nodup ∧
    (∀ uuid, uuid ∈ gone.map ProcessInstance.uuid ↔ uuid ∈ selected ∧ FoundDead m before uuid) ∧
    ∀ instance' ∈ gone, instance'.statusCode = .dead ∧
      ∀ process code, before.processStore.get? instance'.uuid = some process → m.exitCode process = .ok (some code) →
        instance'.returnCode = some code

def FlushesDead [Re] (m : Machines) (query : ProcessQuery) (pm : SSHProcessManager) : Prop :=
  ∀ selected, (getProcessUid query false pm).result = .ok selected → Flushed m selected pm (flushImpl m query pm)

section Flush
variable {m : Machines} {survived : Nat → Nat} {pm : SSHProcessManager} {uuid : String} {uuids : List String}

def survivedCode (m : Machines) (survived : Nat → Nat) (process : Nat) : Option Int :=
  if 0 < survived process then none else exitCode m process

def flushReport (m : Machines) (survived : Nat → Nat) (pm : SSHProcessManager) (uuid : String) : List ProcessInstance :=
  match pm.processStore.get? uuid, pm.bootRequest.get? uuid with
  | some process, some request =>
      if 1 < survived process then [] else [instanceOf request uuid .dead (survivedCode m survived process)]
  | _, _ => []

theorem foundDeadTimed (timed : m.Timed survived) {process : Nat} (stored : pm.processStore.get? uuid = some process) :
    FoundDead m pm uuid ↔ ¬ 1 < survived process := by
  constructor
  · rintro ⟨other,here,dead⟩
    obtain rfl : process = other := by simpa [stored] using here
    simpa [timed.decides] using dead
  · intro dead
    exact ⟨process,stored,by simpa [timed.decides] using dead⟩

theorem flushOneRuns (timed : m.Timed survived) (known : Known uuid pm) :
    ∃ after, flushOne m uuid pm = ⟨.ok (flushReport m survived pm uuid),after,[]⟩ ∧
      after.bootRequest = pm.bootRequest ∧
      (¬ FoundDead m pm uuid → after = pm) ∧
      (FoundDead m pm uuid → after = { pm with processStore := pm.processStore.erase uuid }) := by
  obtain ⟨process,stored⟩ := Dict.memKeys.mp known.1
  obtain ⟨request,found⟩ := Dict.memKeys.mp known.2
  unfold flushOne flushReport
  rw [readBind,found,stored]
  dsimp only
  rw [bindOk (a := process) (by rw [lookupFound stored]),lookupFound stored,timed.decides,liftOkBind,foundDeadTimed timed stored]
  by_cases alive : 1 < survived process
  · simp [alive]
  · have gone : ¬ 2 < survived process := fun late => alive (Nat.lt_of_succ_lt late)
    refine ⟨{ pm with processStore := pm.processStore.erase uuid },?_,rfl,by simp [alive],fun _ => rfl⟩
    simp only [alive,gone,timed.code,timed.status,decide_false,Bool.false_eq_true,if_false,Option.bind_some]
    rw [liftOkBind,bindOk (a := ()) (by rw [deleteProcessFound stored]),deleteProcessFound stored]
    by_cases early : 0 < survived process <;> simp [survivedCode,early,Outcome.after]

theorem flushEachRuns (timed : m.Timed survived) (nodup : uuids.Nodup) (known : ∀ uuid ∈ uuids, Known uuid pm) :
    ∃ after, each (flushOne m) uuids pm = ⟨.ok (uuids.map (flushReport m survived pm)),after,[]⟩ ∧
      after.bootRequest = pm.bootRequest ∧
      ∀ uuid, (¬ (uuid ∈ uuids ∧ FoundDead m pm uuid) → after.processStore.get? uuid = pm.processStore.get? uuid) ∧
        (uuid ∈ uuids ∧ FoundDead m pm uuid → after.processStore.get? uuid = none) := by
  induction uuids generalizing pm with
  | nil => exact ⟨pm,rfl,rfl,fun uuid => ⟨fun _ => rfl,fun dead => absurd dead.1 List.not_mem_nil⟩⟩
  | cons first rest ih =>
    obtain ⟨fresh,nodup⟩ := List.nodup_cons.mp nodup
    obtain ⟨next,ran,requests,spared,dropped⟩ := flushOneRuns timed (known first List.mem_cons_self)
    -- the entries of the other processes are as before
    have others : ∀ uuid, uuid ≠ first → next.processStore.get? uuid = pm.processStore.get? uuid := by
      intro uuid differ
      by_cases dead : FoundDead m pm first
      · simp [dropped dead,differ]
      · rw [spared dead]
    have apart : ∀ uuid ∈ rest, uuid ≠ first := fun uuid mem same => fresh (same ▸ mem)
    have knownNext : ∀ uuid ∈ rest, Known uuid next := by
      intro uuid mem
      obtain ⟨stored,recorded⟩ := known uuid (List.mem_cons_of_mem _ mem)
      obtain ⟨process,here⟩ := Dict.memKeys.mp stored
      exact ⟨Dict.memKeys.mpr ⟨process,(others uuid (apart uuid mem)).trans here⟩,requests ▸ recorded⟩
    obtain ⟨after,runs,kept,entries⟩ := ih nodup knownNext
    have sameReports : rest.map (flushReport m survived next) = rest.map (flushReport m survived pm) := by
      refine List.map_congr_left fun uuid mem => ?_
      rw [flushReport,flushReport,others uuid (apart uuid mem),requests]
    have sameDead : ∀ uuid, uuid ≠ first → (FoundDead m next uuid ↔ FoundDead m pm uuid) := fun uuid differ => by
      rw [FoundDead,FoundDead,others uuid differ]
    refine ⟨after,?_,kept.trans requests,fun uuid => ?_⟩
    · rw [eachOk ran,bindOk (a := rest.map (flushReport m survived pm)) (by rw [runs,sameReports]),runs]
      rfl
    · by_cases own : uuid = first
      · subst own
        have untouched := (entries uuid).1 fun inside => fresh inside.1
        by_cases dead : FoundDead m pm uuid
        · exact ⟨fun not => absurd ⟨List.mem_cons_self,dead⟩ not,fun _ => untouched.trans (by simp [dropped dead])⟩
        · exact ⟨fun _ => untouched.trans (by rw [spared dead]),fun both => absurd both.2 dead⟩
      · obtain ⟨stays,goes⟩ := entries uuid
        rw [sameDead uuid own] at stays goes
        have inRest : uuid ∈ first :: rest ↔ uuid ∈ rest := by simp [own]
        rw [inRest]
        exact ⟨fun not => (stays not).trans (others uuid own),goes⟩

theorem memReport (timed : m.Timed survived) {instance' : ProcessInstance} :
    instance' ∈ flushReport m survived pm uuid ↔ FoundDead m pm uuid ∧ ∃ process request,
      pm.processStore.get? uuid = some process ∧ pm.bootRequest.get? uuid = some request ∧
      instance' = instanceOf request uuid .dead (survivedCode m survived process) := by
  unfold flushReport
  cases stored : pm.processStore.get? uuid with
  | none => simp [FoundDead,stored]
  | some process =>
    rw [foundDeadTimed timed stored]
    cases found : pm.bootRequest.get? uuid with
    | none => simp
    | some request => by_cases alive : 1 < survived process <;> simp [alive]

theorem reportedOnce (nodup : uuids.Nodup) :
    ((uuids.map (flushReport m survived pm)).flatten.map ProcessInstance.uuid).Nodup := by
  have filtered : (uuids.map (flushReport m survived pm)).flatten.map ProcessInstance.uuid =
      uuids.filter fun uuid => !(flushReport m survived pm uuid).isEmpty := by
    clear nodup
    induction uuids with
    | nil => rfl
    | cons first rest ih =>
      rw [List.map_cons,List.flatten_cons,List.map_append,ih,List.filter_cons]
      unfold flushReport
      split
      · split <;> simp [instanceOf]
      · simp
  rw [filtered]
  exact nodup.filter _

variable [Re] {query : ProcessQuery} {selected : List String}

theorem flushRuns (timed : m.Timed survived) (recorded : Recorded pm)
    (ok : (getProcessUid query false pm).result = .ok selected) :
    (flushImpl m query pm).state.bootRequest = pm.bootRequest ∧
    (∀ uuid, (¬ (uuid ∈ selected ∧ FoundDead m pm uuid) →
        (flushImpl m query pm).state.processStore.get? uuid = pm.processStore.get? uuid) ∧
      (uuid ∈ selected ∧ FoundDead m pm uuid → (flushImpl m query pm).state.processStore.get? uuid = none)) ∧
    (flushImpl m query pm).result = .ok (selected.map (flushReport m survived pm)).flatten := by
  obtain ⟨nodup,known⟩ := selectedKnown recorded ok
  obtain ⟨after,ran,requests,entries⟩ := flushEachRuns timed nodup known
  unfold flushImpl
  rw [bindOk ok,getProcessUidUnchanged query false pm,
    bindOk (a := selected.map (flushReport m survived pm)) (by rw [ran]),ran]
  exact ⟨requests,entries,rfl⟩

/-- What a flush does, whenever the processes die. -/
theorem flushForgets (timed : m.Timed survived) (recorded : Recorded pm)
    (ok : (getProcessUid query false pm).result = .ok selected) :
    (flushImpl m query pm).state.bootRequest = pm.bootRequest ∧
    (∀ uuid, (¬ (uuid ∈ selected ∧ FoundDead m pm uuid) →
        (flushImpl m query pm).state.processStore.get? uuid = pm.processStore.get? uuid) ∧
      (uuid ∈ selected ∧ FoundDead m pm uuid → uuid ∉ (flushImpl m query pm).state.processStore.keys)) ∧
    ∃ gone, (flushImpl m query pm).result = .ok gone ∧ (gone.map ProcessInstance.uuid).Nodup ∧
      (∀ uuid, uuid ∈ gone.map ProcessInstance.uuid ↔ uuid ∈ selected ∧ FoundDead m pm uuid) ∧
      ∀ instance' ∈ gone, instance'.statusCode = .dead ∧ ∀ process,
        pm.processStore.get? instance'.uuid = some process → survived process = 0 →
          instance'.returnCode = exitCode m process := by
  obtain ⟨nodup,known⟩ := selectedKnown recorded ok
  obtain ⟨requests,entries,returned⟩ := flushRuns timed recorded ok
  refine ⟨requests,fun uuid => ⟨(entries uuid).1,fun dead mem => ?_⟩,_,returned,reportedOnce nodup,fun uuid => ?_,?_⟩
  · obtain ⟨process,here⟩ := Dict.memKeys.mp mem
    rw [(entries uuid).2 dead] at here
    contradiction
  · constructor
    · intro mem
      obtain ⟨instance',inside,rfl⟩ := List.mem_map.mp mem
      obtain ⟨report,listed,here⟩ := List.mem_flatten.mp inside
      obtain ⟨uuid,chosen,rfl⟩ := List.mem_map.mp listed
      obtain ⟨dead,process,request,_,_,rfl⟩ := (memReport timed).mp here
      exact ⟨chosen,dead⟩
    · rintro ⟨chosen,dead⟩
      obtain ⟨process,stored⟩ := Dict.memKeys.mp (known uuid chosen).1
      obtain ⟨request,found⟩ := Dict.memKeys.mp (known uuid chosen).2
      have reported := (memReport timed).mpr ⟨dead,process,request,stored,found,rfl⟩
      exact List.mem_map.mpr ⟨_,List.mem_flatten.mpr ⟨_,List.mem_map_of_mem chosen,reported⟩,rfl⟩
  · intro instance' inside
    obtain ⟨report,listed,here⟩ := List.mem_flatten.mp inside
    obtain ⟨uuid,_,rfl⟩ := List.mem_map.mp listed
    obtain ⟨_,process,request,stored,_,rfl⟩ := (memReport timed).mp here
    refine ⟨rfl,fun other same early => ?_⟩
    obtain rfl : process = other := by simpa [instanceOf,stored] using same
    simp [instanceOf,survivedCode,early]

theorem flushesIff (timed : m.Timed survived) (recorded : Recorded pm)
    (ok : (getProcessUid query false pm).result = .ok selected) :
    Flushed m selected pm (flushImpl m query pm) ↔ ∀ uuid ∈ selected, ¬ FoundDead m pm uuid := by
  obtain ⟨requests,entries,gone,returned,once,told,_⟩ := flushForgets timed recorded ok
  constructor
  · intro flushed uuid chosen dead
    have kept : uuid ∈ (flushImpl m query pm).state.bootRequest.keys :=
      requests ▸ ((selectedKnown recorded ok).2 uuid chosen).2
    exact (flushed.forgets uuid chosen dead).2 kept
  · intro alive
    have none : ∀ uuid, ¬ (uuid ∈ selected ∧ FoundDead m pm uuid) := fun uuid dead => alive uuid dead.1 dead.2
    refine ⟨fun uuid chosen dead => absurd dead (alive uuid chosen),fun uuid chosen dead => absurd dead (alive uuid chosen),
      fun uuid _ => ⟨(entries uuid).1 (none uuid),by rw [requests]⟩,gone,returned,once,told,fun instance' mem => ?_⟩
    exact absurd ((told _).mp (List.mem_map_of_mem mem)) (none _)

theorem historyFlushesIff (name : String) (history : List ManagerRound) (timed : m.Timed survived) (query : ProcessQuery) :
    FlushesDead m query (serveAll (started name) history) ↔
      ∀ selected, (getProcessUid query false (serveAll (started name) history)).result = .ok selected →
        ∀ uuid ∈ selected, ¬ FoundDead m (serveAll (started name) history) uuid :=
  forall₂_congr fun _ ok => flushesIff timed (serveAllRecorded name history) ok

end Flush
end SSHProcessManager

namespace Sample

def deadBy (survived : Nat) : Machines := { healthy with
  isAlive := fun check _ => .ok (match check with
    | .flushCode => decide (0 < survived)
    | .flush => decide (1 < survived)
    | _ => decide (2 < survived))
  exitCode := fun _ => .ok (some 255) }

theorem deadByTimed (survived : Nat) : (deadBy survived).Timed fun _ => survived :=
  ⟨fun _ => rfl,fun _ => rfl,fun _ => rfl⟩

end Sample

open Sample in
theorem flushedStillRequested :
    ¬ SSHProcessManager.FlushesDead (deadBy 0) appQuery (SSHProcessManager.serveAll (.started "manager") [bootRound]) ∧
    ((SSHProcessManager.flushImpl (deadBy 1) appQuery
      (SSHProcessManager.serveAll (.started "manager") [bootRound])).result.toOption.map
        (List.map ProcessInstance.returnCode)) = some [none] := by
  refine ⟨fun flushes => ?_,rfl⟩
  have dead : SSHProcessManager.FoundDead (deadBy 0) (SSHProcessManager.serveAll (.started "manager") [bootRound])
    "uuid-1" := ⟨1,rfl,rfl⟩
  have kept := ((flushes ["uuid-1"] rfl).forgets "uuid-1" List.mem_cons_self dead).2
  exact kept (show "uuid-1" ∈ ["uuid-1"] from List.mem_cons_self)

open Sample in
theorem longLivedFlushed :
    SSHProcessManager.FlushesDead (deadBy 2) appQuery (SSHProcessManager.serveAll (.started "manager") [bootRound]) ↔
      ∀ selected, (SSHProcessManager.getProcessUid appQuery false
        (SSHProcessManager.serveAll (.started "manager") [bootRound])).result = .ok selected →
        ∀ uuid ∈ selected, ¬ SSHProcessManager.FoundDead (deadBy 2)
          (SSHProcessManager.serveAll (.started "manager") [bootRound]) uuid :=
  SSHProcessManager.historyFlushesIff "manager" [bootRound] (deadByTimed 2) appQuery

end Drunc
