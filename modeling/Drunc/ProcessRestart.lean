import Drunc.Launching

/-! What a restart of the one process that a query selects comes to. It boots the
retained request again under the same uuid if the process is still in the store: an entry
that a kill, a termination, a flush or a boot without an accepting host left out is looked
up without a test for it, although the line before tests for it. A query that selects no
process, or several, changes nothing. -/
namespace Drunc
open Library (Dict Outcome)
open Library.Act

namespace SSHProcessManager

def Hosted (pm : SSHProcessManager) : Prop :=
  ∀ uuid br, pm.bootRequest.get? uuid = some br → br.processRestriction.allowedHosts ≠ []

def Accepts (m : Machines) (br : BootRequest) : Prop :=
  ∃ i host process, br.processRestriction.allowedHosts[i]? = some host ∧ m.ssh i (br.sshArguments host) = .ok process

structure BootsAgain (m : Machines) (br : BootRequest) (uuid : String) (before : SSHProcessManager)
    (o : Outcome Event Exn SSHProcessManager ProcessInstance) : Prop where
  returned : ∃ instance', o.result = .ok instance' ∧ instance'.uuid = uuid
  retained : ∃ hostname, o.state.bootRequest.get? uuid = some (br.withHostname hostname)
  stored : Accepts m br → ∃ process, Event.launched uuid process ∈ o.events ∧
    o.state.processStore.get? uuid = some process
  others : SameBut uuid before o.state

def Stops (m : Machines) (process : Nat) : Prop :=
  ∃ alive, m.isAlive .restart process = .ok alive ∧ (alive = true → m.terminate process = .ok ())

def Restartable (m : Machines) (uuid : String) (pm : SSHProcessManager) : Prop :=
  ∃ process, pm.processStore.get? uuid = some process ∧ Stops m process

def RestartsOne [Re] (m : Machines) (query : ProcessQuery) (pm : SSHProcessManager) : Prop :=
  ∀ selected, (getProcessUid query true pm).result = .ok selected →
    (∀ uuid, selected = [uuid] →
      ∃ br, pm.bootRequest.get? uuid = some br ∧ BootsAgain m br uuid pm (restartImpl m query pm)) ∧
    (selected.length ≠ 1 →
      ∃ text, (restartImpl m query pm).result = .error (.badQuery text) ∧ (restartImpl m query pm).state = pm)

section Hosts
variable {m : Machines} {br : BootRequest} {uuid : String} {pm : SSHProcessManager}

theorem withoutHosted (hosted : Hosted pm) : Hosted (pm.without uuid) := by
  intro other br here
  by_cases own : other = uuid
  · simp [without,own] at here
  · exact hosted other br (by simpa [without,own] using here)

theorem bootHosted (hosted : Hosted pm) : Hosted (boot m br uuid pm).state := by
  by_cases refused : br.processRestriction.allowedHosts = [] ∨ uuid ∈ pm.bootRequest.keys
  · obtain ⟨e,run⟩ := bootRefused (m := m) refused
    rw [run]
    exact hosted
  · rw [not_or] at refused
    obtain ⟨hostname,instance',_,run⟩ := bootBoots m refused.1 refused.2
    rw [run]
    intro other kept here
    by_cases own : other = uuid
    · obtain rfl : br.withHostname hostname = kept := by simpa [afterBoot,own] using here
      exact refused.1
    · exact hosted other kept (by simpa [afterBoot,own] using here)

variable [Re]

theorem restartHosted (query : ProcessQuery) (hosted : Hosted pm) : Hosted (restartImpl m query pm).state := by
  rcases restartEnds m query pm with same | ⟨uuid,br,_,_,same⟩
  · rw [same]
    exact hosted
  · rw [same]
    exact bootHosted (withoutHosted hosted)

theorem serveHosted (recorded : Recorded pm) (hosted : Hosted pm) (r : ManagerRound) : Hosted (serve pm r) := by
  have shrunk : ∀ uuids after, Shrinks uuids pm after → Hosted after := fun uuids after shrinks uuid br here =>
    hosted uuid br (shrinks.requests ▸ here)
  rcases runCases r pm with refused | ⟨_,works⟩
  · exact (show serve pm r = pm from refused.state).symm ▸ hosted
  rcases (serveEnds recorded r).1 with same | permitted
  · exact same.symm ▸ hosted
  obtain ⟨w,m,isAuthorised,command,request⟩ := r
  cases command with
  | boot =>
    obtain ⟨br,_,performs⟩ := works
    rw [show serve pm ⟨w,m,isAuthorised,.boot,request⟩ = (boot m br m.uuid4 pm).state from performs.state]
    exact bootHosted hosted
  | restart =>
    obtain ⟨query,_,performs⟩ := works
    rw [show serve pm ⟨w,m,isAuthorised,.restart,request⟩ = (restartImpl m query pm).state from performs.state]
    exact restartHosted query hosted
  | terminate => exact shrunk _ _ permitted
  | kill =>
    obtain ⟨uuids,_,shrinks⟩ := permitted
    exact shrunk uuids _ shrinks
  | flush =>
    obtain ⟨uuids,_,shrinks⟩ := permitted
    exact shrunk uuids _ shrinks
  | ps => exact permitted.elim

theorem serveAllHosted (name : String) (history : List ManagerRound) :
    Recorded (serveAll (started name) history) ∧ Hosted (serveAll (started name) history) :=
  List.foldlRecOn (motive := fun pm => Recorded pm ∧ Hosted pm) history serve
    ⟨fun _ mem => absurd mem List.not_mem_nil,fun _ _ here => by simp [started] at here⟩
    (fun _ ⟨recorded,hosted⟩ r _ => ⟨(serveEnds recorded r).2.1,serveHosted recorded hosted r⟩)

end Hosts

section Restart
variable {m : Machines} {br : BootRequest} {uuid : String} {pm : SSHProcessManager}

theorem terminateRuns {process : Nat} (stored : pm.processStore.get? uuid = some process) :
    (terminateProcess m uuid pm).result = .ok () ↔ Stops m process := by
  unfold terminateProcess Stops
  rw [readBind,stored]
  dsimp only
  cases m.isAlive .restart process with
  | error e =>
    rw [bindError (e := e) rfl]
    simp
  | ok alive =>
    rw [liftOkBind]
    cases alive <;> simp

theorem acceptsLaunches (accepts : Accepts m br) : launched m br ≠ [] := by
  obtain ⟨i,host,process,here,accepts⟩ := accepts
  exact launchesAny here (by rwa [Nat.zero_add])

theorem bootsAgainRuns (told : List Event) (hosts : br.processRestriction.allowedHosts ≠ []) :
    BootsAgain m br uuid pm ((boot m br uuid (pm.without uuid)).after told) := by
  have fresh : uuid ∉ (pm.without uuid).bootRequest.keys := fun mem => by
    obtain ⟨request,here⟩ := Dict.memKeys.mp mem
    simp [without] at here
  obtain ⟨hostname,instance',named,run⟩ := bootBoots m hosts fresh
  rw [run]
  refine ⟨⟨instance',rfl,named⟩,⟨hostname,?_⟩,fun accepts => ?_,fun other differ => ?_⟩
  · simp [afterBoot]
  · have last := List.getLast?_eq_some_getLast (acceptsLaunches accepts)
    refine ⟨(launched m br).getLast (acceptsLaunches accepts),?_,?_⟩
    · exact List.mem_append_right told (List.mem_map_of_mem (List.getLast_mem (acceptsLaunches accepts)))
    · simp [afterBoot,getStoreLaunched,last]
  · simp [afterBoot,getStoreLaunched,without,differ]

theorem ensureRefuses (pm : SSHProcessManager) {selected : List String} (several : selected.length ≠ 1) :
    ∃ text, ensureOneProcess selected true pm = ⟨.error (.badQuery text),pm,[]⟩ := by
  cases selected with
  | nil => exact ⟨_,rfl⟩
  | cons first rest =>
    cases rest with
    | nil => exact absurd rfl several
    | cons second rest => exact ⟨_,rfl⟩

variable [Re] {query : ProcessQuery}

theorem restartRefuses {selected : List String} (ok : (getProcessUid query true pm).result = .ok selected)
    (several : selected.length ≠ 1) :
    ∃ text, (restartImpl m query pm).result = .error (.badQuery text) ∧ (restartImpl m query pm).state = pm := by
  obtain ⟨text,refused⟩ := ensureRefuses pm several
  refine ⟨text,?_⟩
  unfold restartImpl
  rw [bindOk ok,getProcessUidUnchanged query true pm,bindError (e := .badQuery text) (by rw [refused]),refused]
  exact ⟨rfl,rfl⟩

theorem restartRaises (stuck : ¬ Restartable m uuid pm) (selected : (getProcessUid query true pm).result = .ok [uuid])
    (found : pm.bootRequest.get? uuid = some br) :
    ∃ e told, restartImpl m query pm = ⟨.error e,pm,(getProcessUid query true pm).events ++ told⟩ ∧
      ∀ event ∈ told, event = .missingKey uuid := by
  rw [restartRuns selected found]
  rcases bindCases (terminateProcess m uuid) (fun _ => bootAgain m br uuid) pm with ⟨e,_,run⟩ | ⟨_,terminated,run⟩
  · rw [run,(terminateSilent m uuid pm).1,(terminateSilent m uuid pm).2]
    exact ⟨e,[],rfl,fun event mem => by contradiction⟩
  · cases stored : pm.processStore.get? uuid with
    | none =>
      rw [run,(terminateSilent m uuid pm).1,(terminateSilent m uuid pm).2,afterNil,bootAgainMissing stored]
      exact ⟨.keyError uuid,[.missingKey uuid],rfl,fun event mem => List.mem_singleton.mp mem⟩
    | some process => exact absurd ⟨process,stored,(terminateRuns stored).mp terminated⟩ stuck

theorem restartBoots (restartable : Restartable m uuid pm) (selected : (getProcessUid query true pm).result = .ok [uuid])
    (found : pm.bootRequest.get? uuid = some br) :
    restartImpl m query pm = (boot m br uuid (pm.without uuid)).after (getProcessUid query true pm).events := by
  obtain ⟨process,stored,stops⟩ := restartable
  rw [restartRuns selected found,bindOk ((terminateRuns stored).mpr stops),(terminateSilent m uuid pm).1,
    (terminateSilent m uuid pm).2,afterNil,bootAgainStored stored found]

theorem restartsIff (hosted : Hosted pm) (selected : (getProcessUid query true pm).result = .ok [uuid])
    (found : pm.bootRequest.get? uuid = some br) :
    BootsAgain m br uuid pm (restartImpl m query pm) ↔ Restartable m uuid pm := by
  constructor
  · intro boots
    by_contra stuck
    obtain ⟨e,told,run,_⟩ := restartRaises stuck selected found
    obtain ⟨instance',returned,_⟩ := boots.returned
    rw [run] at returned
    contradiction
  · intro restartable
    rw [restartBoots restartable selected found]
    exact bootsAgainRuns _ (hosted uuid br found)

theorem historyRestartsIff (name : String) (history : List ManagerRound) (m : Machines) (query : ProcessQuery) :
    RestartsOne m query (serveAll (started name) history) ↔
      ∀ uuid, (getProcessUid query true (serveAll (started name) history)).result = .ok [uuid] →
        Restartable m uuid (serveAll (started name) history) := by
  have hosted := (serveAllHosted name history).2
  constructor
  · intro restarts uuid selected
    obtain ⟨br,found,boots⟩ := (restarts [uuid] selected).1 uuid rfl
    exact (restartsIff hosted selected found).mp boots
  · intro restartable selected ok
    refine ⟨?_,restartRefuses ok⟩
    rintro uuid rfl
    have known : uuid ∈ (serveAll (started name) history).bootRequest.keys :=
      (getProcessUidSublist ok).subset List.mem_cons_self
    obtain ⟨br,found⟩ := Dict.memKeys.mp known
    exact ⟨br,found,(restartsIff hosted ok found).mpr (restartable uuid ok)⟩

end Restart

end SSHProcessManager

namespace Sample

def appQuery : ProcessQuery := ⟨[],"","",["uuid-1"]⟩

end Sample

open Sample in
theorem killedNotRestarted :
    ¬ SSHProcessManager.RestartsOne healthy appQuery
      (SSHProcessManager.serveAll (.started "manager") [bootRound,killRound appQuery]) := by
  intro restarts
  have selected : (SSHProcessManager.getProcessUid appQuery true
    (SSHProcessManager.serveAll (.started "manager") [bootRound,killRound appQuery])).result = .ok ["uuid-1"] := rfl
  have raised : (SSHProcessManager.restartImpl healthy appQuery
    (SSHProcessManager.serveAll (.started "manager") [bootRound,killRound appQuery])).result =
      .error (.keyError "uuid-1") := rfl
  obtain ⟨_,_,boots⟩ := (restarts ["uuid-1"] selected).1 "uuid-1" rfl
  obtain ⟨_,returned,_⟩ := boots.returned
  exact nomatch raised.symm.trans returned

end Drunc
