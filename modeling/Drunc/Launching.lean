import Drunc.ProcessHistory

/-! What a boot launches, host by host, and what it leaves: every host that accepts the
launch adds a process, until a watcher could be started, and the last process launched is
the one in the store. A boot that gets past its guards always returns. A boot request
that is kept always has a host to try. -/
namespace Drunc
open Library (Dict Outcome)
open Library.Act

namespace SSHProcessManager

def launches (m : Machines) (br : BootRequest) : Nat → List String → List Nat
  | _, [] => []
  | i, host :: rest =>
      match m.ssh i (br.sshArguments host) with
      | .error _ => launches m br (i+1) rest
      | .ok process =>
          match m.watch i process with
          | .error _ => process :: launches m br (i+1) rest
          | .ok () => [process]

def launched (m : Machines) (br : BootRequest) : List Nat := launches m br 0 br.processRestriction.allowedHosts

def storeLaunched (uuid : String) (processes : List Nat) (store : Dict String Nat) : Dict String Nat :=
  processes.foldl (fun store process => store.set uuid process) store

def afterBoot (m : Machines) (br : BootRequest) (uuid hostname : String) (pm : SSHProcessManager) : SSHProcessManager :=
  { pm with
    processStore := storeLaunched uuid (launched m br) pm.processStore
    bootRequest := (pm.bootRequest.set uuid br).set uuid (br.withHostname hostname) }

section Boot
variable {m : Machines} {br : BootRequest} {uuid : String} {pm : SSHProcessManager}

theorem getStoreLaunched (uuid : String) (processes : List Nat) (store : Dict String Nat) (other : String) :
    (storeLaunched uuid processes store).get? other =
      if other = uuid then processes.getLast?.or (store.get? uuid) else store.get? other := by
  induction processes generalizing store with
  | nil =>
    by_cases same : other = uuid
    · simp [storeLaunched,same]
    · simp [storeLaunched,same]
  | cons process rest ih =>
    have later := ih (store.set uuid process)
    simp only [storeLaunched,List.foldl_cons] at later ⊢
    rw [later]
    by_cases same : other = uuid
    · cases rest with
      | nil => simp [same]
      | cons next rest =>
        have last : (next :: rest).getLast? = some ((next :: rest).getLast (List.cons_ne_nil next rest)) :=
          List.getLast?_eq_some_getLast (List.cons_ne_nil next rest)
        simp [same,List.getLast?_cons_cons,last]
    · simp [same]

theorem launchesAny {host : String} {hosts : List String} {i j process : Nat} (here : hosts[j]? = some host)
    (accepts : m.ssh (i+j) (br.sshArguments host) = .ok process) : launches m br i hosts ≠ [] := by
  induction hosts generalizing i j with
  | nil => simp at here
  | cons first rest ih =>
    unfold launches
    cases j with
    | zero =>
      obtain rfl : first = host := by simpa using here
      rw [Nat.add_zero] at accepts
      rw [accepts]
      dsimp only
      split <;> simp
    | succ j =>
      split
      · have next : i+1+j = i+(j+1) := by omega
        exact ih (i := i+1) (by simpa using here) (by rwa [next])
      · split <;> simp

theorem tryHostsRuns (m : Machines) (br : BootRequest) (uuid : String) (i : Nat) (hostname : String) (hosts : List String) (pm : SSHProcessManager) :
    ∃ host, tryHosts m br uuid i hostname hosts pm =
      ⟨.ok host,{ pm with processStore := storeLaunched uuid (launches m br i hosts) pm.processStore },
        (launches m br i hosts).map (Event.launched uuid)⟩ := by
  induction hosts generalizing i hostname pm with
  | nil => exact ⟨hostname,rfl⟩
  | cons host rest ih =>
    unfold tryHosts launches
    cases m.ssh i (br.sshArguments host) with
    | error e => exact ih (i+1) host pm
    | ok process =>
      cases watched : m.watch i process with
      | error e =>
        obtain ⟨last,run⟩ := ih (i+1) host { pm with processStore := pm.processStore.set uuid process }
        refine ⟨last,?_⟩
        simp only [bindOk (x := emit (Event.launched uuid process)) (s := pm) rfl,emitRun,storeProcess,updateBind,
          watched,run]
        rfl
      | ok u =>
        refine ⟨host,?_⟩
        simp only [bindOk (x := emit (Event.launched uuid process)) (s := pm) rfl,emitRun,storeProcess,updateBind,
          watched]
        rfl

theorem bootBoots (m : Machines) (hosts : br.processRestriction.allowedHosts ≠ []) (fresh : uuid ∉ pm.bootRequest.keys) :
    ∃ hostname instance', instance'.uuid = uuid ∧
      boot m br uuid pm =
        ⟨.ok instance',afterBoot m br uuid hostname pm,(launched m br).map (Event.launched uuid)⟩ := by
  obtain ⟨hostname,tried⟩ := tryHostsRuns m br uuid 0 "" br.processRestriction.allowedHosts
    { pm with bootRequest := pm.bootRequest.set uuid br }
  have stored : ({ pm with
      processStore := storeLaunched uuid (launched m br) pm.processStore
      bootRequest := pm.bootRequest.set uuid br } : SSHProcessManager).bootRequest.get? uuid = some br := by simp
  have known : lookup bootRequest uuid _ = _ := lookupFound stored
  unfold boot
  rw [readBind,if_neg hosts,if_neg fresh,storeBootRequest,updateBind,bindOk (a := hostname) (by rw [tried]),tried]
  simp only
  rw [bindOk (a := br) (by rw [← launched,known]),← launched,known]
  simp only [storeBootRequest,updateBind,readBind]
  cases (storeLaunched uuid (launched m br) pm.processStore).get? uuid with
  | none =>
    exact ⟨hostname,instanceOf (br.withHostname hostname) uuid .dead none,rfl,by
      simp [afterBoot,Outcome.after]⟩
  | some process =>
    exact ⟨hostname,instanceOf (br.withHostname hostname) uuid (bootedStatus m process).1 (bootedStatus m process).2,
      rfl,by simp [afterBoot,Outcome.after]⟩

end Boot

end SSHProcessManager
end Drunc
