import Drunc.ProcessRestart
import Drunc.Library.Runs

/-! Whether the processes that the manager launched are the ones it keeps. Besides the
manager, `Supervised` has what was launched so far and which processes are alive; a
`Shift` is a request together with what is alive when it returns. A process is dropped
alive where the last look of a kill still finds it alive, where a restart goes on without
waiting for the process that it stopped, and where a boot tries another host after a
watcher failed; flushing looks before it drops. -/
namespace Drunc
open Library (Dict Outcome Along)
open Library.Act

def Event.unlaunched : Event → Bool
  | .launched _ _ => false
  | _ => true

def launchedIn (events : List Event) : List (String × Nat) :=
  events.filterMap fun
    | .launched uuid process => some (uuid,process)
    | _ => none

structure Supervised where
  manager : SSHProcessManager
  launched : List (String × Nat)
  alive : Nat → Bool

structure Shift where
  round : ManagerRound
  alive : Nat → Bool

theorem memLaunchedIn {events : List Event} {uuid : String} {process : Nat} :
    (uuid,process) ∈ launchedIn events ↔ Event.launched uuid process ∈ events := by
  unfold launchedIn
  rw [List.mem_filterMap]
  constructor
  · rintro ⟨e,mem,same⟩
    cases e <;> simp at same
    obtain ⟨rfl,rfl⟩ := same
    exact mem
  · exact fun mem => ⟨_,mem,rfl⟩

namespace SSHProcessManager

def stillRuns (m : Machines) (process : Nat) : Do SSHProcessManager Bool := do
  stopProcess m process
  lift (m.isAlive .afterKill process)

def KillsDead (m : Machines) (pm : SSHProcessManager) : List String → Prop
  | [] => True
  | uuid :: rest => ∀ process, pm.processStore.get? uuid = some process →
      ∀ alive, (stillRuns m process pm).result = .ok alive → alive = false ∧ KillsDead m pm rest

def Drops (gone : Nat → Prop) (before after : SSHProcessManager) : Prop :=
  ∀ uuid process, before.processStore.get? uuid = some process →
    after.processStore.get? uuid = some process ∨ gone process

structure Keeps {α : Type} (gone : Nat → Prop) (before : SSHProcessManager)
    (o : Outcome Event Exn SSHProcessManager α) : Prop where
  drops : Drops gone before o.state
  launches : ∀ uuid process, Event.launched uuid process ∈ o.events →
    o.state.processStore.get? uuid = some process ∨ gone process

section Operations
variable {gone : Nat → Prop} {m : Machines} {br : BootRequest} {uuid : String} {uuids : List String}
  {pm : SSHProcessManager}

theorem dropsRefl (gone : Nat → Prop) (pm : SSHProcessManager) : Drops gone pm pm := fun _ _ here => .inl here

theorem dropsTrans (gone : Nat → Prop) (a b c : SSHProcessManager) (first : Drops gone a b) (second : Drops gone b c) :
    Drops gone a c := fun uuid process here =>
  (first uuid process here).elim (fun kept => second uuid process kept) .inr

theorem dropsErase {process : Nat} (stored : pm.processStore.get? uuid = some process) (dead : gone process) :
    Drops gone pm { pm with processStore := pm.processStore.erase uuid } := by
  intro other p here
  by_cases own : other = uuid
  · rw [own,stored] at here
    exact .inr (Option.some.inj here ▸ dead)
  · exact .inl (by simpa [own] using here)

theorem unrecordedAbsent (recorded : Recorded pm) (unknown : uuid ∉ pm.bootRequest.keys) :
    pm.processStore.get? uuid = none := by
  cases stored : pm.processStore.get? uuid with
  | none => rfl
  | some process => exact absurd (recorded uuid (Dict.memKeys.mpr ⟨process,stored⟩)) unknown

theorem bootKeeps (absent : uuid ∉ pm.bootRequest.keys → pm.processStore.get? uuid = none)
    (superseded : uuid ∉ pm.bootRequest.keys → ∀ process ∈ (launched m br).dropLast, gone process) :
    Keeps gone pm (boot m br uuid pm) := by
  by_cases refused : br.processRestriction.allowedHosts = [] ∨ uuid ∈ pm.bootRequest.keys
  · obtain ⟨e,run⟩ := bootRefused (m := m) refused
    rw [run]
    exact ⟨dropsRefl gone pm,fun _ _ mem => by contradiction⟩
  · rw [not_or] at refused
    obtain ⟨hostname,instance',_,run⟩ := bootBoots m refused.1 refused.2
    rw [run]
    refine ⟨fun other process here => .inl ?_,fun other process mem => ?_⟩
    · have differ : other ≠ uuid := fun own => by rw [own,absent refused.2] at here; contradiction
      simpa [afterBoot,getStoreLaunched,differ] using here
    · obtain ⟨p,mem,same⟩ := List.mem_map.mp mem
      cases same
      have some' : launched m br ≠ [] := List.ne_nil_of_mem mem
      have last := List.getLast?_eq_some_getLast some'
      rw [← List.dropLast_concat_getLast some',List.mem_append,List.mem_singleton] at mem
      rcases mem with before | rfl
      · exact .inr (superseded refused.2 process before)
      · exact .inl (by simp [afterBoot,getStoreLaunched,last])

theorem sendSignalsSteady (m : Machines) (process : Nat) (signals : List Signal) :
    ∃ r, Steady r (sendSignals m process signals) := by
  induction signals with
  | nil => exact ⟨.ok (),steadyPure ()⟩
  | cons sig rest ih =>
    obtain ⟨r,later⟩ := ih
    refine ⟨_,steadyBind (steadyLift _) (g := fun alive => if alive = true then
      (do
        m.signalGroup sig process
        let still ← m.isAlive (.afterSignal sig) process
        if still = true then r else .ok ()) else .ok ()) fun alive => ?_⟩
    cases alive
    · exact steadyPure ()
    · refine steadyBind (steadyLift _) fun _ => steadyBind (steadyLift _) fun still => ?_
      cases still
      · exact steadyPure ()
      · exact later

theorem stillRunsSteady (m : Machines) (process : Nat) : ∃ r, Steady r (stillRuns m process) := by
  obtain ⟨r,sent⟩ := sendSignalsSteady m process [.sigquit,.sigkill]
  have stopped : Steady (do let alive ← m.isAlive .beforeKill process; if alive = true then r else .ok ())
      (stopProcess m process) := steadyBind (steadyLift _) fun alive => by
    cases alive
    · exact steadyPure ()
    · exact sent
  exact ⟨_,steadyBind stopped fun _ => steadyLift _⟩

theorem stillRunsSees {process : Nat} {alive : Bool} (ok : (stillRuns m process pm).result = .ok alive) :
    m.isAlive .afterKill process = .ok alive := by
  obtain ⟨_,_,looked⟩ := bindReturned ok
  exact looked

theorem killRuns {process : Nat} {request : BootRequest} (stored : pm.processStore.get? uuid = some process)
    (found : pm.bootRequest.get? uuid = some request) :
    (∃ e, (stillRuns m process pm).result = .error e ∧ killProcess m uuid pm = ⟨.error e,pm,[]⟩) ∨
    (∃ alive returnCode, (stillRuns m process pm).result = .ok alive ∧ killProcess m uuid pm =
      ⟨.ok (instanceOf request uuid .dead returnCode),{ pm with processStore := pm.processStore.erase uuid },[]⟩) := by
  obtain ⟨same,silent⟩ := stopSilent m process pm
  unfold killProcess stillRuns
  rw [bindOk (a := process) (by rw [lookupFound stored]),lookupFound stored,afterNil,
    bindOk (a := request) (by rw [lookupFound found]),lookupFound found,afterNil]
  cases stopped : (stopProcess m process pm).result with
  | error e =>
    rw [bindError stopped,bindError stopped,same,silent]
    exact .inl ⟨e,rfl,rfl⟩
  | ok u =>
    rw [bindOk stopped,bindOk stopped,same,silent,afterNil,afterNil]
    cases m.isAlive .afterKill process with
    | error e => exact .inl ⟨e,rfl,rfl⟩
    | ok alive =>
      rw [liftOkBind,bindOk (a := ()) (by rw [deleteProcessFound stored]),deleteProcessFound stored]
      exact .inr ⟨alive,_,rfl,rfl⟩

theorem killsDeadErase {other : String} (fresh : other ∉ uuids) (dead : KillsDead m pm uuids) :
    KillsDead m { pm with processStore := pm.processStore.erase other } uuids := by
  induction uuids with
  | nil => trivial
  | cons uuid rest ih =>
    rw [List.mem_cons,not_or] at fresh
    intro process stored alive looked
    obtain ⟨r,steady⟩ := stillRunsSteady m process
    have before : pm.processStore.get? uuid = some process := by simpa [Ne.symm fresh.1] using stored
    have same := looked.symm.trans ((steady _).1.trans (steady pm).1.symm)
    obtain ⟨rfl,rest⟩ := dead process before alive same.symm
    exact ⟨rfl,ih fresh.2 rest⟩

structure Kills (gone : Nat → Prop) (before : SSHProcessManager)
    (o : Outcome Event Exn SSHProcessManager (List ProcessInstance)) : Prop where
  quiet : o.events = []
  drops : Drops gone before o.state
  erased : ∀ reported, o.result = .ok reported → ∀ instance' ∈ reported,
    o.state.processStore.get? instance'.uuid = none

theorem killProcessesKills (seen : ∀ process, m.isAlive .afterKill process = .ok false → gone process)
    (nodup : uuids.Nodup) (known : ∀ uuid ∈ uuids, Known uuid pm) (dead : KillsDead m pm uuids) :
    Kills gone pm (killProcesses m uuids pm) := by
  unfold killProcesses
  induction uuids generalizing pm with
  | nil => exact ⟨rfl,dropsRefl gone pm,fun reported ok instance' mem => by cases ok; contradiction⟩
  | cons uuid rest ih =>
    obtain ⟨fresh,nodup⟩ := List.nodup_cons.mp nodup
    obtain ⟨process,stored⟩ := Dict.memKeys.mp (known uuid List.mem_cons_self).1
    obtain ⟨request,found⟩ := Dict.memKeys.mp (known uuid List.mem_cons_self).2
    rcases killRuns stored found with ⟨e,_,run⟩ | ⟨alive,returnCode,looked,run⟩
    · rw [eachError run]
      exact ⟨rfl,dropsRefl gone pm,fun reported ok => by contradiction⟩
    · obtain ⟨rfl,dead⟩ := dead process stored alive looked
      have shrinks : Shrinks [uuid] pm { pm with processStore := pm.processStore.erase uuid } := by
        have killed := killShrinks (m := m) (List.mem_singleton_self uuid) pm
        rwa [run] at killed
      have still : ∀ other ∈ rest, Known other { pm with processStore := pm.processStore.erase uuid } :=
        fun other mem => by
          have apart : other ∉ [uuid] := fun same => fresh (List.mem_singleton.mp same ▸ mem)
          exact shrinksKnown apart (known other (List.mem_cons_of_mem _ mem)) shrinks
      have later := ih nodup still (killsDeadErase fresh dead)
      have first : Drops gone pm { pm with processStore := pm.processStore.erase uuid } :=
        dropsErase stored (seen process (stillRunsSees looked))
      rw [eachOk run,afterNil]
      rcases bindCases (each (killProcess m) rest) _ { pm with processStore := pm.processStore.erase uuid } with
        ⟨e,_,cut⟩ | ⟨killed,ok,all⟩
      · rw [cut]
        exact ⟨later.quiet,dropsTrans gone _ _ _ first later.drops,fun reported ok => by contradiction⟩
      · rw [all]
        refine ⟨by simp [later.quiet],dropsTrans gone _ _ _ first later.drops,fun reported same => ?_⟩
        obtain rfl : instanceOf request uuid .dead returnCode :: killed = reported := Except.ok.inj same
        intro instance' mem
        rcases List.mem_cons.mp mem with rfl | mem
        · have shrunk := (killProcessesEnds m rest).1 { pm with processStore := pm.processStore.erase uuid }
          rcases shrunk.processes uuid with same | gone
          · exact same.trans (by simp)
          · exact gone.1
        · exact later.erased killed ok instance' mem

theorem flushDrops (seen : ∀ process, m.isAlive .flush process = .ok false → gone process) (uuid : String) :
    Leaves (Drops gone) (flushOne m uuid) := by
  intro pm
  unfold flushOne
  rw [readBind]
  cases pm.bootRequest.get? uuid with
  | none => exact dropsRefl gone pm
  | some request =>
    dsimp only
    cases stored : pm.processStore.get? uuid with
    | none =>
      rw [bindError (e := .keyError uuid) (by rw [lookupMissing stored]),lookupMissing stored]
      exact dropsRefl gone pm
    | some process =>
      rw [bindOk (a := process) (by rw [lookupFound stored]),lookupFound stored,afterNil]
      cases looked : m.isAlive .flush process with
      | error e => exact dropsRefl gone pm
      | ok alive =>
        rw [liftOkBind]
        cases alive with
        | true => exact dropsRefl gone pm
        | false =>
          cases m.isAlive .flushStatus process with
          | error e => exact dropsRefl gone pm
          | ok still =>
            simp only [Bool.false_eq_true,if_false]
            rw [liftOkBind,bindOk (a := ()) (by rw [deleteProcessFound stored]),deleteProcessFound stored]
            exact dropsErase stored (seen process looked)

end Operations

section Unlaunched
variable {m : Machines}

theorem lookupUnlaunched {ν : Type} {dict : SSHProcessManager → Dict String ν} {uuid : String} :
    Utters (·.unlaunched = true) (lookup dict uuid) := by
  intro pm e mem
  cases found : (dict pm).get? uuid with
  | none =>
    rw [lookupMissing found,List.mem_singleton] at mem
    rw [mem]
    rfl
  | some v =>
    rw [lookupFound found] at mem
    contradiction

theorem deleteProcessUnlaunched (uuid : String) : Utters (·.unlaunched = true) (deleteProcess uuid) :=
  uttersBind lookupUnlaunched fun _ _ => emitsUpdate _

theorem psUnlaunched (m : Machines) (uuid : String) : Utters (·.unlaunched = true) (psOne m uuid) := by
  refine uttersBind (silentUtters silentRead) fun pm => ?_
  split
  · exact uttersBind (fun _ => emitsEmit rfl) fun _ => silentUtters (silentPure _)
  · refine uttersBind lookupUnlaunched fun request => uttersBind (silentUtters (silentLift _)) fun alive => ?_
    exact uttersBind (silentUtters (silentLift _)) fun still => silentUtters (silentPure _)

theorem flushUnlaunched (m : Machines) (uuid : String) : Utters (·.unlaunched = true) (flushOne m uuid) := by
  refine uttersBind (silentUtters silentRead) fun pm => ?_
  split
  · exact uttersBind (fun _ => emitsEmit rfl) fun _ => silentUtters (silentPure _)
  · refine uttersBind lookupUnlaunched fun process => uttersBind (silentUtters (silentLift _)) fun alive => ?_
    cases alive
    · refine uttersBind (silentUtters (silentLift _)) fun still => ?_
      exact uttersBind (deleteProcessUnlaunched uuid) fun _ => silentUtters (silentPure _)
    · exact silentUtters (silentPure _)

theorem unlaunchedKeeps {α : Type} {gone : Nat → Prop} {pm : SSHProcessManager}
    {o : Outcome Event Exn SSHProcessManager α} (quiet : ∀ e ∈ o.events, e.unlaunched = true)
    (drops : Drops gone pm o.state) : Keeps gone pm o :=
  ⟨drops,fun _ _ mem => absurd (quiet _ mem) (by simp [Event.unlaunched])⟩

variable [Re]

theorem getProcessUidUnlaunched (query : ProcessQuery) (inBootRequest : Bool) :
    Utters (·.unlaunched = true) (getProcessUid query inBootRequest) := by
  refine uttersBind (silentUtters silentRead) fun pm => ?_
  induction (if inBootRequest then pm.bootRequest.keys else pm.processStore.keys) with
  | nil => exact silentUtters (silentPure _)
  | cons uuid rest ih =>
    refine uttersBind lookupUnlaunched fun request => uttersBind (silentUtters (silentLift _)) fun chosen => ?_
    exact uttersBind ih fun others => silentUtters (silentPure _)

end Unlaunched

/-- What a request has to find for none of its processes to be lost: where it kills, the
last look finds each one dead; where it stops or supersedes one, it is dead in the end. -/
def Careful [Re] (r : ManagerRound) (alive : Nat → Bool) (pm : SSHProcessManager) : Prop :=
  Taken r pm → match r.command, r.request.data with
    | .boot, some (.bootRequest br) => r.machines.uuid4 ∉ pm.bootRequest.keys →
        ∀ process ∈ (launched r.machines br).dropLast, alive process = false
    | .terminate, _ => KillsDead r.machines pm pm.processStore.keys
    | .kill, some (.processQuery query) => ∀ uuids, (getProcessUid query false pm).result = .ok uuids →
        KillsDead r.machines pm uuids
    | .restart, some (.processQuery query) => ∀ uuid, (getProcessUid query true pm).result = .ok [uuid] →
        ∀ br process, pm.bootRequest.get? uuid = some br → pm.processStore.get? uuid = some process →
          Stops r.machines process →
          alive process = false ∧ ∀ other ∈ (launched r.machines br).dropLast, alive other = false
    | _, _ => True

section Requests
variable {gone : Nat → Prop} {pm : SSHProcessManager} {m : Machines} {query : ProcessQuery}

theorem performsKeeps {β : Type} {pack : β → Payload} {x : Outcome Event Exn SSHProcessManager β}
    {o : Outcome Event Exn SSHProcessManager Response} (performs : Performs pack x o) (keeps : Keeps gone pm x) :
    Keeps gone pm o := by
  refine ⟨performs.state ▸ keeps.drops,fun uuid process mem => ?_⟩
  rw [performs.state]
  exact performsEvents (p := fun e => e = .launched uuid process → _) performs (fun _ _ same => by contradiction)
    (fun e mem same => keeps.launches uuid process (same ▸ mem)) _ mem rfl

theorem withoutKeeps {α : Type} {uuid : String} {process : Nat} {o : Outcome Event Exn SSHProcessManager α}
    {told : List Event} (quiet : ∀ e ∈ told, e.unlaunched = true)
    (stored : pm.processStore.get? uuid = some process) (dead : gone process)
    (keeps : Keeps gone (pm.without uuid) o) : Keeps gone pm (o.after told) := by
  have erased : Drops gone pm (pm.without uuid) := dropsErase stored dead
  refine ⟨dropsTrans gone _ _ _ erased keeps.drops,fun other p mem => ?_⟩
  rcases List.mem_append.mp mem with before | inside
  · exact absurd (quiet _ before) (by simp [Event.unlaunched])
  · exact keeps.launches other p inside

def Erases (o : Outcome Event Exn SSHProcessManager (List ProcessInstance)) : Prop :=
  ∀ reported, o.result = .ok reported → ∀ instance' ∈ reported, o.state.processStore.get? instance'.uuid = none

theorem terminateKeeps (recorded : Recorded pm) (seen : ∀ process, m.isAlive .afterKill process = .ok false → gone process)
    (careful : KillsDead m pm pm.processStore.keys) :
    Keeps gone pm (terminateImpl m pm) ∧ Erases (terminateImpl m pm) := by
  have kills : Kills gone pm (terminateImpl m pm) := killProcessesKills seen pm.processStore.distinct
    (fun uuid mem => ⟨mem,recorded uuid mem⟩) careful
  exact ⟨⟨kills.drops,fun _ _ mem => by rw [kills.quiet] at mem; contradiction⟩,kills.erased⟩

variable [Re]

theorem restartKeeps (careful : ∀ uuid, (getProcessUid query true pm).result = .ok [uuid] → ∀ br process,
      pm.bootRequest.get? uuid = some br → pm.processStore.get? uuid = some process → Stops m process →
      gone process ∧ ∀ other ∈ (launched m br).dropLast, gone other) :
    Keeps gone pm (restartImpl m query pm) := by
  have quiet := getProcessUidUnlaunched query true pm
  by_cases one : ∃ uuid br, (getProcessUid query true pm).result = .ok [uuid] ∧ pm.bootRequest.get? uuid = some br
  · obtain ⟨uuid,br,selected,found⟩ := one
    by_cases restartable : Restartable m uuid pm
    · obtain ⟨process,stored,stops⟩ := id restartable
      obtain ⟨dead,superseded⟩ := careful uuid selected br process found stored stops
      rw [restartBoots restartable selected found]
      exact withoutKeeps quiet stored dead (bootKeeps (fun _ => by simp [without]) fun _ => superseded)
    · obtain ⟨e,told,run,missing⟩ := restartRaises restartable selected found
      refine unlaunchedKeeps (fun event mem => ?_) (by rw [run]; exact dropsRefl gone pm)
      rw [run] at mem
      rcases List.mem_append.mp mem with before | after
      · exact quiet event before
      · rw [missing event after]
        rfl
  · obtain ⟨state,events⟩ := restartUnselected (m := m) fun uuid br selected found => one ⟨uuid,br,selected,found⟩
    exact unlaunchedKeeps (by rw [events]; exact quiet) (by rw [state]; exact dropsRefl gone pm)

theorem killKeeps (recorded : Recorded pm) (seen : ∀ process, m.isAlive .afterKill process = .ok false → gone process)
    (careful : ∀ uuids, (getProcessUid query false pm).result = .ok uuids → KillsDead m pm uuids) :
    Keeps gone pm (killImpl m query pm) ∧ Erases (killImpl m query pm) := by
  unfold killImpl
  rw [readBind]
  split
  · exact ⟨⟨dropsRefl gone pm,fun _ _ mem => by contradiction⟩,fun _ same _ mem => by cases same; contradiction⟩
  have quiet := getProcessUidUnlaunched query false pm
  have same := getProcessUidUnchanged query false pm
  rcases bindCases (getProcessUid query false) (killProcesses m) pm with ⟨e,_,run⟩ | ⟨uuids,selected,run⟩
  · rw [run,same]
    exact ⟨unlaunchedKeeps quiet (dropsRefl gone pm),fun _ same => by contradiction⟩
  · obtain ⟨nodup,known⟩ := selectedKnown recorded selected
    have kills : Kills gone pm (killProcesses m uuids pm) := killProcessesKills seen nodup known (careful uuids selected)
    rw [run,same]
    refine ⟨⟨kills.drops,fun uuid process mem => ?_⟩,kills.erased⟩
    rw [afterEvents,kills.quiet,List.append_nil] at mem
    exact absurd (quiet _ mem) (by simp [Event.unlaunched])

theorem flushKeeps (seen : ∀ process, m.isAlive .flush process = .ok false → gone process) :
    Keeps gone pm (flushImpl m query pm) := by
  have uids : Leaves (Drops gone) (getProcessUid query false) :=
    leavesMono (fun pm _ same => by rw [same]; exact dropsRefl gone pm) (getProcessUidUnchanged query false)
  refine unlaunchedKeeps ?_ ?_
  · exact uttersBind (getProcessUidUnlaunched query false) (fun uuids =>
      uttersBind (uttersEach (flushUnlaunched m) uuids) fun gone => silentUtters (silentPure _)) pm
  · refine leavesBind (dropsTrans gone) uids (fun uuids => ?_) pm
    refine leavesBind (dropsTrans gone) (leavesEach (dropsRefl gone) (dropsTrans gone) fun uuid _ => flushDrops seen uuid)
      fun flushed => leavesPure (dropsRefl gone) _

theorem psKeeps : Keeps gone pm (psImpl m query pm) := by
  refine unlaunchedKeeps ?_ (by rw [(psEnds m query pm).1]; exact dropsRefl gone pm)
  exact uttersBind (getProcessUidUnlaunched query false) (fun uuids => uttersEach (psUnlaunched m) uuids) pm

theorem runKeeps {r : ManagerRound} {alive : Nat → Bool} (recorded : Recorded pm)
    (seen : ∀ check process, r.machines.isAlive check process = .ok false → alive process = false)
    (careful : Careful r alive pm) : Keeps (alive · = false) pm (run r pm) := by
  rcases runCases r pm with refused | ⟨taken,works⟩
  · obtain ⟨message,events⟩ := refused.events
    refine ⟨refused.state.symm ▸ dropsRefl _ pm,fun _ _ mem => ?_⟩
    rw [events,List.mem_singleton] at mem
    contradiction
  have careful := careful taken
  obtain ⟨w,m,isAuthorised,command,request⟩ := r
  cases command with
  | boot =>
    obtain ⟨br,data,performs⟩ := works
    rw [show request.data = some (.bootRequest br) from data] at careful
    exact performsKeeps performs (bootKeeps (unrecordedAbsent recorded) careful)
  | terminate => exact performsKeeps works (terminateKeeps recorded (seen .afterKill) careful).1
  | restart =>
    obtain ⟨query,data,performs⟩ := works
    rw [show request.data = some (.processQuery query) from data] at careful
    exact performsKeeps performs (restartKeeps careful)
  | kill =>
    obtain ⟨query,data,performs⟩ := works
    rw [show request.data = some (.processQuery query) from data] at careful
    exact performsKeeps performs (killKeeps recorded (seen .afterKill) careful).1
  | ps =>
    obtain ⟨query,_,performs⟩ := works
    exact performsKeeps performs psKeeps
  | flush =>
    obtain ⟨query,_,performs⟩ := works
    exact performsKeeps performs (flushKeeps (seen .flush))

theorem runErases {r : ManagerRound} {alive : Nat → Bool} (recorded : Recorded pm)
    (seen : ∀ check process, r.machines.isAlive check process = .ok false → alive process = false)
    (careful : Careful r alive pm) (kills : r.command = .kill ∨ r.command = .terminate) {response : Response}
    (replied : (run r pm).result = .ok response) {reported : List ProcessInstance}
    (data : response.data = some (.processInstanceList reported)) :
    ∀ instance' ∈ reported, (serve pm r).processStore.get? instance'.uuid = none := by
  rcases runCases r pm with refused | ⟨taken,works⟩
  · obtain ⟨e,other⟩ := refused.replied response replied
    cases other.symm.trans data
  have careful := careful taken
  obtain ⟨w,m,isAuthorised,command,request⟩ := r
  have erased : ∀ x : Outcome Event Exn SSHProcessManager (List ProcessInstance), Erases x →
      Performs .processInstanceList x (run ⟨w,m,isAuthorised,command,request⟩ pm) →
      ∀ instance' ∈ reported, (serve pm ⟨w,m,isAuthorised,command,request⟩).processStore.get? instance'.uuid = none := by
    intro x erases performs instance' mem
    rcases performs.replied response replied with ⟨e,other⟩ | ⟨resp,returned,same⟩
    · cases other.symm.trans data
    · cases same.symm.trans data
      rw [show serve pm ⟨w,m,isAuthorised,command,request⟩ = x.state from performs.state]
      exact erases _ returned instance' mem
  rcases kills with rfl | rfl
  · obtain ⟨query,data,performs⟩ := works
    rw [show request.data = some (.processQuery query) from data] at careful
    exact erased _ (killKeeps recorded (seen .afterKill) careful).2 performs
  · exact erased _ (terminateKeeps recorded (seen .afterKill) careful).2 works

end Requests
end SSHProcessManager

namespace Supervised
open SSHProcessManager
variable [Re]

def started (name : String) : Supervised := ⟨.started name,[],fun _ => false⟩

def observe (sv : Supervised) (s : Shift) : Supervised :=
  ⟨serve sv.manager s.round,sv.launched ++ launchedIn (run s.round sv.manager).events,s.alive⟩

def Accounted (sv : Supervised) : Prop := ∀ uuid process, (uuid,process) ∈ sv.launched → sv.alive process = true →
  sv.manager.processStore.get? uuid = some process

structure Mortal (sv : Supervised) (s : Shift) : Prop where
  gone : ∀ uuid process, (uuid,process) ∈ sv.launched → sv.alive process = false → s.alive process = false
  seen : ∀ check process, s.round.machines.isAlive check process = .ok false → s.alive process = false

def ReportsDead (sv : Supervised) (s : Shift) : Prop :=
  s.round.command = .kill ∨ s.round.command = .terminate →
    ∀ response reported, (run s.round sv.manager).result = .ok response →
      response.data = some (.processInstanceList reported) → ∀ instance' ∈ reported, ∀ process,
        sv.manager.processStore.get? instance'.uuid = some process → s.alive process = false

theorem observeAccounts {sv : Supervised} {s : Shift} (recorded : Recorded sv.manager) (accounted : Accounted sv)
    (mortal : Mortal sv s) (careful : Careful s.round s.alive sv.manager) : Accounted (observe sv s) := by
  have keeps := runKeeps recorded mortal.seen careful
  intro uuid process mem live
  rcases List.mem_append.mp mem with before | during
  · have lived : sv.alive process = true := by
      by_contra dead
      rw [Bool.not_eq_true] at dead
      exact absurd live (by simp [observe,mortal.gone uuid process before dead])
    rcases keeps.drops uuid process (accounted uuid process before lived) with kept | dead
    · exact kept
    · exact absurd live (by simp [observe,dead])
  · rcases keeps.launches uuid process (memLaunchedIn.mp during) with kept | dead
    · exact kept
    · exact absurd live (by simp [observe,dead])

theorem observeReports {sv : Supervised} {s : Shift} (recorded : Recorded sv.manager)
    (mortal : Mortal sv s) (careful : Careful s.round s.alive sv.manager) : ReportsDead sv s := by
  intro kills response reported replied data instance' mem process stored
  have erased := runErases recorded mortal.seen careful kills replied data instance' mem
  rcases (runKeeps recorded mortal.seen careful).drops _ process stored with kept | dead
  · exact absurd (erased.symm.trans kept) (by simp)
  · exact dead

theorem everyShiftAccounts (name : String) (shifts : List Shift) (mortal : Along observe Mortal (started name) shifts)
    (careful : Along observe (fun sv s => Careful s.round s.alive sv.manager) (started name) shifts) :
    Along observe (fun sv s => Accounted (observe sv s) ∧ ReportsDead sv s) (started name) shifts := by
  have start : Recorded (started name).manager ∧ Accounted (started name) :=
    ⟨fun _ mem => absurd mem List.not_mem_nil,fun _ _ mem => absurd mem List.not_mem_nil⟩
  refine Library.alongSteps (I := fun sv => Recorded sv.manager ∧ Accounted sv) (fun sv s ⟨recorded,accounted⟩ step => ?_)
    (fun sv s ⟨recorded,accounted⟩ step => ?_) start (Library.alongAnd mortal careful)
  · exact ⟨(serveEnds recorded s.round).2.1,observeAccounts recorded accounted step.1 step.2⟩
  · exact ⟨observeAccounts recorded accounted step.1 step.2,observeReports recorded step.1 step.2⟩

end Supervised

namespace Sample

def endedShifts : List Shift := [⟨bootRound,fun _ => true⟩,⟨killRound appQuery,fun _ => false⟩]

def killHealthy : ManagerRound := { killRound appQuery with machines := healthy }

def sparedShifts : List Shift := [⟨bootRound,fun _ => true⟩,⟨killHealthy,fun _ => true⟩]

end Sample

open Sample in
theorem endedShiftsAccount :
    Along Supervised.observe (fun sv s => (sv.observe s).Accounted ∧ sv.ReportsDead s) (.started "manager") endedShifts := by
  refine Supervised.everyShiftAccounts "manager" endedShifts ⟨⟨fun _ _ mem _ => absurd mem List.not_mem_nil,
    fun _ _ looked => nomatch looked⟩,⟨fun _ _ _ _ => rfl,fun _ _ _ => rfl⟩,trivial⟩
    ⟨fun _ _ process mem => absurd mem List.not_mem_nil,fun _ uuids selected => ?_,trivial⟩
  obtain rfl : ["uuid-1"] = uuids := Except.ok.inj selected
  exact fun process _ alive looked => ⟨(Except.ok.inj looked).symm,trivial⟩

open Sample in
theorem killDropsRunning :
    Along Supervised.observe Supervised.Mortal (.started "manager") sparedShifts ∧
    ¬ Supervised.Accounted (sparedShifts.foldl Supervised.observe (.started "manager")) := by
  refine ⟨⟨⟨fun _ _ mem _ => absurd mem List.not_mem_nil,fun _ _ looked => ?_⟩,
    ⟨fun _ _ _ dead => ?_,fun _ _ looked => ?_⟩,trivial⟩,fun accounted => ?_⟩
  · exact nomatch looked
  · exact nomatch dead
  · exact nomatch looked
  · have kept := accounted "uuid-1" 1 (by decide) rfl
    exact nomatch kept

end Drunc
