import Drunc.ProcessManager
import Drunc.Endpoints

/-! Histories of requests to the process manager. What is in the process store has a boot
request (`Recorded`), whatever the processes and hosts do; every operation keeps to the
uuids that it was asked about: killing and flushing only take processes away (`Shrinks`),
a boot adds at most one uuid (`Boots`), a restart touches one (`Restarted`). Where every
process is recorded, nothing but a restart looks up a key that is not there; from the
moment when the boot request is stored, nothing can cut a boot. -/
namespace Drunc
open Library (Dict Outcome)
open Library.Act

def Event.intact : Event → Bool
  | .missingKey _ | .unknownUuid _ => false
  | _ => true

namespace SSHProcessManager

def Recorded (pm : SSHProcessManager) : Prop := ∀ uuid ∈ pm.processStore.keys, uuid ∈ pm.bootRequest.keys

def Known (uuid : String) (pm : SSHProcessManager) : Prop := uuid ∈ pm.processStore.keys ∧ uuid ∈ pm.bootRequest.keys

def Unchanged (before after : SSHProcessManager) : Prop := after = before

structure Shrinks (uuids : List String) (before after : SSHProcessManager) : Prop where
  requests : after.bootRequest = before.bootRequest
  processes : ∀ uuid, after.processStore.get? uuid = before.processStore.get? uuid ∨
    (after.processStore.get? uuid = none ∧ uuid ∈ uuids)

def SameBut (uuid : String) (before after : SSHProcessManager) : Prop :=
  ∀ other, other ≠ uuid → after.processStore.get? other = before.processStore.get? other ∧
    after.bootRequest.get? other = before.bootRequest.get? other

section Relations
variable {pm after : SSHProcessManager} {uuid : String} {uuids : List String}

theorem unchangedRefl (pm : SSHProcessManager) : Unchanged pm pm := rfl
theorem unchangedTrans (a b c : SSHProcessManager) (first : Unchanged a b) (second : Unchanged b c) : Unchanged a c :=
  second.trans first

theorem shrinksRefl (uuids : List String) (pm : SSHProcessManager) : Shrinks uuids pm pm := ⟨rfl,fun _ => .inl rfl⟩

theorem shrinksTrans (uuids : List String) (a b c : SSHProcessManager) (first : Shrinks uuids a b)
    (second : Shrinks uuids b c) : Shrinks uuids a c := by
  refine ⟨second.requests.trans first.requests,fun uuid => ?_⟩
  rcases second.processes uuid with same | gone
  · rw [same]
    exact first.processes uuid
  · exact .inr gone

theorem shrinksRecorded (recorded : Recorded pm) (shrinks : Shrinks uuids pm after) : Recorded after := by
  intro uuid mem
  obtain ⟨process,here⟩ := Dict.memKeys.mp mem
  rw [shrinks.requests]
  refine recorded uuid (Dict.memKeys.mpr ⟨process,?_⟩)
  rcases shrinks.processes uuid with same | gone
  · exact same ▸ here
  · rw [gone.1] at here
    contradiction

theorem shrinksKnown {other : String} (fresh : other ∉ uuids) (known : Known other pm) (shrinks : Shrinks uuids pm after) :
    Known other after := by
  obtain ⟨process,here⟩ := Dict.memKeys.mp known.1
  refine ⟨Dict.memKeys.mpr ⟨process,?_⟩,shrinks.requests ▸ known.2⟩
  rcases shrinks.processes other with same | gone
  · exact same.trans here
  · exact absurd gone.2 fresh

end Relations

section Lookup
variable {ν : Type} {dict : SSHProcessManager → Dict String ν} {uuid : String} {pm : SSHProcessManager}

theorem lookupFound {v : ν} (found : (dict pm).get? uuid = some v) : lookup dict uuid pm = ⟨.ok v,pm,[]⟩ := by
  unfold lookup
  rw [readBind,found]
  rfl

theorem lookupMissing (missing : (dict pm).get? uuid = none) :
    lookup dict uuid pm = ⟨.error (.keyError uuid),pm,[.missingKey uuid]⟩ := by
  unfold lookup
  rw [readBind,missing]
  rfl

theorem lookupUnchanged : Leaves Unchanged (lookup dict uuid) := by
  intro pm
  cases found : (dict pm).get? uuid with
  | none => rw [lookupMissing found]; rfl
  | some v => rw [lookupFound found]; rfl

theorem lookupIntact (mem : uuid ∈ (dict pm).keys) : Emits (·.intact = true) (lookup dict uuid) pm := by
  obtain ⟨v,found⟩ := Dict.memKeys.mp mem
  intro e inside
  rw [lookupFound found] at inside
  contradiction

end Lookup

section Selection
variable [Re] {query : ProcessQuery} {uuids : List String} {pm : SSHProcessManager} {inBootRequest : Bool}

theorem selectUnchanged (query : ProcessQuery) (uuids : List String) : Leaves Unchanged (selectAmong query uuids) := by
  induction uuids with
  | nil => exact leavesPure unchangedRefl _
  | cons uuid rest ih =>
    refine leavesBind unchangedTrans lookupUnchanged fun request => ?_
    refine leavesBind unchangedTrans (leavesLift unchangedRefl _) fun chosen => ?_
    exact leavesBind unchangedTrans ih fun others => leavesPure unchangedRefl _

theorem getProcessUidUnchanged (query : ProcessQuery) (inBootRequest : Bool) :
    Leaves Unchanged (getProcessUid query inBootRequest) :=
  leavesBind unchangedTrans (leavesRead unchangedRefl) fun _ => selectUnchanged query _

theorem selectIntact (known : ∀ uuid ∈ uuids, uuid ∈ pm.bootRequest.keys) :
    Emits (·.intact = true) (selectAmong query uuids) pm := by
  induction uuids with
  | nil => exact emitsPure _
  | cons uuid rest ih =>
    refine emitsBind (lookupIntact (known uuid List.mem_cons_self)) fun request _ => ?_
    rw [lookupUnchanged pm]
    refine emitsBind (emitsLift _) fun chosen _ => ?_
    exact emitsBind (ih fun u mem => known u (List.mem_cons_of_mem _ mem)) fun others _ => emitsPure _

theorem getProcessUidIntact (recorded : Recorded pm) : Emits (·.intact = true) (getProcessUid query inBootRequest) pm := by
  refine emitsRead (selectIntact ?_)
  cases inBootRequest
  · exact recorded
  · exact fun uuid mem => mem

theorem selectSublist {selected : List String} (ok : (selectAmong query uuids pm).result = .ok selected) :
    selected.Sublist uuids := by
  induction uuids generalizing selected with
  | nil => cases ok; exact List.Sublist.slnil
  | cons uuid rest ih =>
    obtain ⟨request,_,ok⟩ := bindReturned ok
    rw [lookupUnchanged pm] at ok
    obtain ⟨chosen,_,ok⟩ := bindReturned ok
    obtain ⟨others,returned,ok⟩ := bindReturned ok
    cases chosen <;> cases ok
    · exact (ih returned).cons uuid
    · exact (ih returned).cons_cons uuid

theorem getProcessUidSublist {selected : List String} (ok : (getProcessUid query inBootRequest pm).result = .ok selected) :
    selected.Sublist (if inBootRequest then pm.bootRequest.keys else pm.processStore.keys) :=
  selectSublist ok

theorem selectedKnown (recorded : Recorded pm) {selected : List String}
    (ok : (getProcessUid query false pm).result = .ok selected) :
    selected.Nodup ∧ ∀ uuid ∈ selected, Known uuid pm := by
  have sublist : selected.Sublist pm.processStore.keys := getProcessUidSublist ok
  exact ⟨sublist.nodup pm.processStore.distinct,fun uuid mem => ⟨sublist.subset mem,recorded uuid (sublist.subset mem)⟩⟩

end Selection

section Rounds
variable {m : Machines} {uuid : String} {uuids : List String} {pm : SSHProcessManager}

theorem lookupShrinks {ν : Type} {dict : SSHProcessManager → Dict String ν} : Leaves (Shrinks uuids) (lookup dict uuid) :=
  leavesMono (fun pm _ same => by rw [same]; exact shrinksRefl uuids pm) lookupUnchanged

theorem deleteShrinks (mem : uuid ∈ uuids) : Leaves (Shrinks uuids) (deleteProcess uuid) := by
  refine leavesBind (shrinksTrans uuids) lookupShrinks fun _ pm => ⟨rfl,fun other => ?_⟩
  by_cases same : other = uuid
  · exact .inr ⟨by simp [same],same ▸ mem⟩
  · exact .inl (by simp [same])

theorem deleteIntact (known : Known uuid pm) : Emits (·.intact = true) (deleteProcess uuid) pm :=
  emitsBind (lookupIntact known.1) fun _ _ => emitsUpdate _

theorem sendSignalsSilent (m : Machines) (process : Nat) (signals : List Signal) : Silent (sendSignals m process signals) := by
  induction signals with
  | nil => exact silentPure ()
  | cons sig rest ih =>
    refine silentBind (silentLift _) fun alive => ?_
    cases alive
    · exact silentPure _
    · refine silentBind (silentLift _) fun _ => silentBind (silentLift _) fun still => ?_
      cases still
      · exact silentPure _
      · exact ih

theorem stopSilent (m : Machines) (process : Nat) : Silent (stopProcess m process) := by
  refine silentBind (silentLift _) fun alive => ?_
  cases alive
  · exact silentPure _
  · exact sendSignalsSilent m process _

theorem killShrinks (mem : uuid ∈ uuids) : Leaves (Shrinks uuids) (killProcess m uuid) := by
  have refl := shrinksRefl uuids
  have trans := shrinksTrans uuids
  refine leavesBind trans lookupShrinks fun process => leavesBind trans lookupShrinks fun request => ?_
  refine leavesBind trans (silentLeaves refl (stopSilent m process)) fun _ => ?_
  refine leavesBind trans (leavesLift refl _) fun alive => ?_
  exact leavesBind trans (deleteShrinks mem) fun _ => leavesPure refl _

theorem killIntact (known : Known uuid pm) : Emits (·.intact = true) (killProcess m uuid) pm := by
  refine emitsBind (lookupIntact known.1) fun process _ => ?_
  rw [lookupUnchanged pm]
  refine emitsBind (lookupIntact known.2) fun request _ => ?_
  rw [lookupUnchanged pm]
  refine emitsBind (silentEmits (stopSilent m process)) fun _ _ => ?_
  rw [(stopSilent m process _).1]
  refine emitsBind (emitsLift _) fun alive _ => ?_
  exact emitsBind (deleteIntact known) fun _ _ => emitsPure _

theorem flushShrinks (mem : uuid ∈ uuids) : Leaves (Shrinks uuids) (flushOne m uuid) := by
  have refl := shrinksRefl uuids
  have trans := shrinksTrans uuids
  refine leavesBind trans (leavesRead refl) fun pm => ?_
  split
  · exact leavesBind trans (leavesEmit refl _) fun _ => leavesPure refl _
  · refine leavesBind trans lookupShrinks fun process => leavesBind trans (leavesLift refl _) fun alive => ?_
    cases alive
    · refine leavesBind trans (leavesLift refl _) fun still => ?_
      exact leavesBind trans (deleteShrinks mem) fun _ => leavesPure refl _
    · exact leavesPure refl _

theorem flushIntact (known : Known uuid pm) : Emits (·.intact = true) (flushOne m uuid) pm := by
  obtain ⟨request,recorded⟩ := Dict.memKeys.mp known.2
  refine emitsRead ?_
  rw [recorded]
  refine emitsBind (lookupIntact known.1) fun process _ => ?_
  rw [lookupUnchanged pm]
  refine emitsBind (emitsLift _) fun alive _ => ?_
  cases alive
  · refine emitsBind (emitsLift _) fun still _ => ?_
    exact emitsBind (deleteIntact known) fun _ _ => emitsPure _
  · exact emitsPure _

theorem psUnchanged (m : Machines) (uuid : String) : Leaves Unchanged (psOne m uuid) := by
  refine leavesBind unchangedTrans (leavesRead unchangedRefl) fun pm => ?_
  split
  · exact leavesBind unchangedTrans (leavesEmit unchangedRefl _) fun _ => leavesPure unchangedRefl _
  · refine leavesBind unchangedTrans lookupUnchanged fun request => ?_
    refine leavesBind unchangedTrans (leavesLift unchangedRefl _) fun alive => ?_
    exact leavesBind unchangedTrans (leavesLift unchangedRefl _) fun still => leavesPure unchangedRefl _

theorem psIntact (known : Known uuid pm) : Emits (·.intact = true) (psOne m uuid) pm := by
  obtain ⟨process,stored⟩ := Dict.memKeys.mp known.1
  refine emitsRead ?_
  rw [stored]
  refine emitsBind (lookupIntact known.2) fun request _ => ?_
  exact emitsBind (emitsLift _) fun alive _ => emitsBind (emitsLift _) fun still _ => emitsPure _

theorem eachIntact {α : Type} {f : String → Do SSHProcessManager α}
    (intact : ∀ uuid pm, Known uuid pm → Emits (·.intact = true) (f uuid) pm)
    (shrinks : ∀ uuid, Leaves (Shrinks [uuid]) (f uuid)) (nodup : uuids.Nodup) (known : ∀ uuid ∈ uuids, Known uuid pm) :
    Emits (·.intact = true) (each f uuids) pm :=
  emitsEach intact (fun uuid other pm differ known => shrinksKnown (by simpa using Ne.symm differ) known (shrinks uuid pm))
    nodup known

end Rounds

structure Booted (uuid : String) (before after : SSHProcessManager) : Prop where
  present : uuid ∈ after.bootRequest.keys
  others : SameBut uuid before after

def Boots (uuid : String) (before after : SSHProcessManager) : Prop :=
  after = before ∨ (uuid ∉ before.bootRequest.keys ∧ Booted uuid before after)

def KeepsBooted (uuid : String) (origin s t : SSHProcessManager) : Prop := Booted uuid origin s → Booted uuid origin t

section Boot
variable {m : Machines} {br : BootRequest} {uuid : String} {origin pm : SSHProcessManager}

theorem keepsRefl (uuid : String) (origin s : SSHProcessManager) : KeepsBooted uuid origin s s := fun booted => booted

theorem keepsTrans (uuid : String) (origin s t u : SSHProcessManager) (first : KeepsBooted uuid origin s t)
    (second : KeepsBooted uuid origin t u) : KeepsBooted uuid origin s u := fun booted => second (first booted)

theorem storeProcessKeeps (process : Nat) : Leaves (KeepsBooted uuid origin) (storeProcess uuid process) :=
  fun pm booted => ⟨booted.present,fun other differ =>
    ⟨by simpa [storeProcess,differ] using (booted.others other differ).1,(booted.others other differ).2⟩⟩

theorem storeBootRequestBoots (others : SameBut uuid origin pm) :
    Booted uuid origin (storeBootRequest uuid br pm).state :=
  ⟨Dict.memKeys.mpr ⟨br,by simp [storeBootRequest]⟩,fun other differ =>
    ⟨(others other differ).1,by simpa [storeBootRequest,differ] using (others other differ).2⟩⟩

theorem tryHostsKeeps (i : Nat) (hostname : String) (hosts : List String) :
    Leaves (KeepsBooted uuid origin) (tryHosts m br uuid i hostname hosts) := by
  have refl := keepsRefl uuid origin
  have trans := keepsTrans uuid origin
  induction hosts generalizing i hostname with
  | nil => exact leavesPure refl _
  | cons host rest ih =>
    unfold tryHosts
    split
    · exact ih (i+1) host
    · refine leavesBind trans (leavesEmit refl _) fun _ => leavesBind trans (storeProcessKeeps _) fun _ => ?_
      split
      · exact ih (i+1) host
      · exact leavesPure refl _

theorem tryHostsIntact (i : Nat) (hostname : String) (hosts : List String) (pm : SSHProcessManager) :
    Emits (·.intact = true) (tryHosts m br uuid i hostname hosts) pm := by
  induction hosts generalizing i hostname pm with
  | nil => exact emitsPure _
  | cons host rest ih =>
    unfold tryHosts
    split
    · exact ih (i+1) host pm
    · refine emitsBind (emitsEmit rfl) fun _ _ => emitsBind (emitsUpdate _) fun _ _ => ?_
      split
      · exact ih (i+1) host _
      · exact emitsPure _

theorem lookupKeeps {ν : Type} {dict : SSHProcessManager → Dict String ν} {key : String} :
    Leaves (KeepsBooted uuid origin) (lookup dict key) :=
  leavesMono (fun pm _ same => by rw [same]; exact keepsRefl uuid origin pm) lookupUnchanged

theorem bootRefused (refused : br.processRestriction.allowedHosts = [] ∨ uuid ∈ pm.bootRequest.keys) :
    ∃ e, boot m br uuid pm = ⟨.error e,pm,[]⟩ := by
  unfold boot
  rw [readBind]
  by_cases hosts : br.processRestriction.allowedHosts = []
  · rw [if_pos hosts]
    exact ⟨_,rfl⟩
  · rw [if_neg hosts,if_pos (refused.resolve_left hosts)]
    exact ⟨_,rfl⟩

theorem bootRuns (hosts : br.processRestriction.allowedHosts ≠ []) (fresh : uuid ∉ pm.bootRequest.keys) :
    Booted uuid pm (boot m br uuid pm).state ∧ Emits (·.intact = true) (boot m br uuid) pm := by
  have refl := keepsRefl uuid pm
  have trans := keepsTrans uuid pm
  have stored : Booted uuid pm { pm with bootRequest := pm.bootRequest.set uuid br } :=
    storeBootRequestBoots fun _ _ => ⟨rfl,rfl⟩
  have tried : Leaves (KeepsBooted uuid pm) (tryHosts m br uuid 0 "" br.processRestriction.allowedHosts) :=
    tryHostsKeeps 0 "" _
  unfold Emits boot
  rw [readBind,if_neg hosts,if_neg fresh,storeBootRequest,updateBind]
  constructor
  · refine leavesBind trans tried (fun hostname => ?_) _ stored
    refine leavesBind trans lookupKeeps fun request => ?_
    refine leavesBind trans (fun s booted => storeBootRequestBoots booted.others) fun _ => ?_
    refine leavesBind trans (leavesRead refl) fun after => ?_
    split <;> exact leavesPure refl _
  · refine emitsBind (tryHostsIntact 0 "" _ _) fun hostname _ => ?_
    refine emitsBind (lookupIntact (tried _ stored).present) fun request _ => ?_
    refine emitsBind (emitsUpdate _) fun _ _ => emitsRead ?_
    split <;> exact emitsPure _

theorem bootEnds (m : Machines) (br : BootRequest) (uuid : String) (pm : SSHProcessManager) :
    Boots uuid pm (boot m br uuid pm).state ∧ Emits (·.intact = true) (boot m br uuid) pm := by
  by_cases refused : br.processRestriction.allowedHosts = [] ∨ uuid ∈ pm.bootRequest.keys
  · obtain ⟨e,run⟩ := bootRefused (m := m) refused
    unfold Emits
    rw [run]
    exact ⟨.inl rfl,by simp⟩
  · rw [not_or] at refused
    obtain ⟨boots,intact⟩ := bootRuns (m := m) refused.1 refused.2
    exact ⟨.inr ⟨refused.2,boots⟩,intact⟩

theorem bootsRecorded (recorded : Recorded pm) {after : SSHProcessManager} (boots : Boots uuid pm after) : Recorded after := by
  rcases boots with same | ⟨_,booted⟩
  · exact same ▸ recorded
  · intro other mem
    by_cases own : other = uuid
    · exact own ▸ booted.present
    · obtain ⟨process,here⟩ := Dict.memKeys.mp mem
      rw [(booted.others other own).1] at here
      obtain ⟨request,known⟩ := Dict.memKeys.mp (recorded other (Dict.memKeys.mpr ⟨process,here⟩))
      exact Dict.memKeys.mpr ⟨request,(booted.others other own).2.trans known⟩

end Boot

structure Restarted (uuid : String) (before after : SSHProcessManager) : Prop where
  others : SameBut uuid before after
  recorded : uuid ∈ after.processStore.keys → uuid ∈ after.bootRequest.keys

section Restart
variable {m : Machines} {uuid : String} {pm : SSHProcessManager}

theorem ensureOneSilent (uuids : List String) (inBootRequest : Bool) : Silent (ensureOneProcess uuids inBootRequest) := by
  refine silentBind silentRead fun pm => ?_
  split
  · exact silentRaise _
  · split
    · split
      · exact silentPure _
      · exact silentRaise _
    · split
      · exact silentPure _
      · exact silentRaise _
  · exact silentRaise _

theorem ensuredOne {uuids : List String} (ok : (ensureOneProcess uuids true pm).result = .ok uuid) :
    uuids = [uuid] ∧ uuid ∈ pm.bootRequest.keys := by
  unfold ensureOneProcess at ok
  rw [readBind] at ok
  match uuids, ok with
  | [], ok => contradiction
  | [one], ok =>
    by_cases mem : one ∈ pm.bootRequest.keys
    · simp only [mem,if_true] at ok
      cases ok
      exact ⟨rfl,mem⟩
    · simp [mem] at ok
  | _ :: _ :: _, ok => contradiction

theorem ensuredSelected (known : uuid ∈ pm.bootRequest.keys) :
    (ensureOneProcess [uuid] true pm).result = .ok uuid := by
  unfold ensureOneProcess
  rw [readBind]
  simp [known]

theorem terminateSilent (m : Machines) (uuid : String) : Silent (terminateProcess m uuid) := by
  refine silentBind silentRead fun pm => ?_
  split
  · refine silentBind (silentLift _) fun alive => ?_
    cases alive
    · exact silentPure _
    · exact silentLift _
  · exact silentPure _

theorem deleteProcessFound {process : Nat} (stored : pm.processStore.get? uuid = some process) :
    deleteProcess uuid pm = ⟨.ok (),{ pm with processStore := pm.processStore.erase uuid },[]⟩ := by
  unfold deleteProcess
  rw [bindOk (a := process) (by rw [lookupFound stored]),lookupFound stored]
  rfl

theorem deleteProcessMissing (missing : pm.processStore.get? uuid = none) :
    deleteProcess uuid pm = ⟨.error (.keyError uuid),pm,[.missingKey uuid]⟩ := by
  unfold deleteProcess
  rw [bindError (e := .keyError uuid) (by rw [lookupMissing missing]),lookupMissing missing]

theorem deleteBootRequestFound {request : BootRequest} (found : pm.bootRequest.get? uuid = some request) :
    deleteBootRequest uuid pm = ⟨.ok (),{ pm with bootRequest := pm.bootRequest.erase uuid },[]⟩ := by
  unfold deleteBootRequest
  rw [bindOk (a := request) (by rw [lookupFound found]),lookupFound found]
  rfl

def without (uuid : String) (pm : SSHProcessManager) : SSHProcessManager :=
  { pm with processStore := pm.processStore.erase uuid, bootRequest := pm.bootRequest.erase uuid }

theorem withoutBoots {after : SSHProcessManager} (boots : Boots uuid (pm.without uuid) after) : Restarted uuid pm after := by
  have others : SameBut uuid pm (pm.without uuid) := fun other differ => by simp [without,differ]
  rcases boots with same | ⟨_,booted⟩
  · rw [same]
    refine ⟨others,fun mem => ?_⟩
    obtain ⟨process,here⟩ := Dict.memKeys.mp mem
    simp [without] at here
  · refine ⟨fun other differ => ?_,fun _ => booted.present⟩
    obtain ⟨process,request⟩ := booted.others other differ
    exact ⟨process.trans (others other differ).1,request.trans (others other differ).2⟩

def bootAgain (m : Machines) (br : BootRequest) (uuid : String) : Do SSHProcessManager ProcessInstance := do
  deleteProcess uuid
  deleteBootRequest uuid
  boot m br uuid

theorem bootAgainMissing {br : BootRequest} (missing : pm.processStore.get? uuid = none) :
    bootAgain m br uuid pm = ⟨.error (.keyError uuid),pm,[.missingKey uuid]⟩ := by
  unfold bootAgain
  rw [bindError (e := .keyError uuid) (by rw [deleteProcessMissing missing]),deleteProcessMissing missing]

theorem bootAgainStored {br request : BootRequest} {process : Nat} (stored : pm.processStore.get? uuid = some process)
    (found : pm.bootRequest.get? uuid = some request) :
    bootAgain m br uuid pm = boot m br uuid (pm.without uuid) := by
  have still : ({ pm with processStore := pm.processStore.erase uuid } : SSHProcessManager).bootRequest.get? uuid =
      some request := found
  unfold bootAgain
  rw [bindOk (a := ()) (by rw [deleteProcessFound stored]),deleteProcessFound stored,
    bindOk (a := ()) (by rw [deleteBootRequestFound still]),deleteBootRequestFound still]
  rfl

theorem bootAgainEnds {br request : BootRequest} (found : pm.bootRequest.get? uuid = some request) :
    (bootAgain m br uuid pm).state = pm ∨
    (bootAgain m br uuid pm).state = (boot m br uuid (pm.without uuid)).state := by
  cases stored : pm.processStore.get? uuid with
  | none =>
    rw [bootAgainMissing stored]
    exact .inl rfl
  | some process =>
    rw [bootAgainStored stored found]
    exact .inr rfl

section Query
variable [Re] {query : ProcessQuery}

theorem restartRuns {br : BootRequest} (selected : (getProcessUid query true pm).result = .ok [uuid])
    (found : pm.bootRequest.get? uuid = some br) :
    restartImpl m query pm = ((terminateProcess m uuid >>= fun _ => bootAgain m br uuid) pm).after
      (getProcessUid query true pm).events := by
  have known : uuid ∈ pm.bootRequest.keys := Dict.memKeys.mpr ⟨br,found⟩
  have one := ensuredSelected known
  unfold restartImpl
  rw [bindOk selected,getProcessUidUnchanged query true pm,bindOk one,(ensureOneSilent [uuid] true pm).1,
    (ensureOneSilent [uuid] true pm).2,afterNil,bindOk (a := br) (by rw [lookupFound found]),lookupFound found,afterNil]
  rfl

theorem restartUnselected (none : ∀ uuid br, (getProcessUid query true pm).result = .ok [uuid] →
      pm.bootRequest.get? uuid ≠ some br) :
    (restartImpl m query pm).state = pm ∧ (restartImpl m query pm).events = (getProcessUid query true pm).events := by
  unfold restartImpl
  rcases bindCases (getProcessUid query true) _ pm with ⟨e,_,run⟩ | ⟨uuids,selected,run⟩
  · rw [run]
    exact ⟨getProcessUidUnchanged query true pm,rfl⟩
  rw [run,getProcessUidUnchanged query true pm]
  rcases bindCases (ensureOneProcess uuids true) _ pm with ⟨e,_,run⟩ | ⟨uuid,ensured,run⟩
  · rw [run]
    exact ⟨(ensureOneSilent uuids true pm).1,by simp [(ensureOneSilent uuids true pm).2]⟩
  · obtain ⟨rfl,known⟩ := ensuredOne ensured
    obtain ⟨br,found⟩ := Dict.memKeys.mp known
    exact absurd found (none uuid br selected)

theorem restartEnds (m : Machines) (query : ProcessQuery) (pm : SSHProcessManager) :
    (restartImpl m query pm).state = pm ∨
    ∃ uuid br, (getProcessUid query true pm).result = .ok [uuid] ∧ pm.bootRequest.get? uuid = some br ∧
      (restartImpl m query pm).state = (boot m br uuid (pm.without uuid)).state := by
  by_cases one : ∃ uuid br, (getProcessUid query true pm).result = .ok [uuid] ∧ pm.bootRequest.get? uuid = some br
  · obtain ⟨uuid,br,selected,found⟩ := one
    rw [restartRuns selected found,afterState]
    rcases bindCases (terminateProcess m uuid) (fun _ => bootAgain m br uuid) pm with ⟨e,_,run⟩ | ⟨_,_,run⟩
    · rw [run]
      exact .inl (terminateSilent m uuid pm).1
    · rw [run,afterState,(terminateSilent m uuid pm).1]
      exact (bootAgainEnds found).imp_right fun same => ⟨uuid,br,selected,found,same⟩
  · exact .inl (restartUnselected fun uuid br selected found => one ⟨uuid,br,selected,found⟩).1

end Query

theorem restartedRecorded (recorded : Recorded pm) {after : SSHProcessManager} (restarted : Restarted uuid pm after) :
    Recorded after := by
  intro other mem
  by_cases own : other = uuid
  · exact own ▸ restarted.recorded (own ▸ mem)
  · obtain ⟨process,here⟩ := Dict.memKeys.mp mem
    rw [(restarted.others other own).1] at here
    obtain ⟨request,known⟩ := Dict.memKeys.mp (recorded other (Dict.memKeys.mpr ⟨process,here⟩))
    exact Dict.memKeys.mpr ⟨request,(restarted.others other own).2.trans known⟩

end Restart

section Implementations
variable {m : Machines} {query : ProcessQuery} {pm : SSHProcessManager}

theorem killProcessesEnds (m : Machines) (uuids : List String) : Leaves (Shrinks uuids) (killProcesses m uuids) ∧
    ∀ pm, uuids.Nodup → (∀ uuid ∈ uuids, Known uuid pm) → Emits (·.intact = true) (killProcesses m uuids) pm :=
  ⟨leavesEach (shrinksRefl uuids) (shrinksTrans uuids) fun _ mem => killShrinks mem,
    fun _ nodup known => eachIntact (fun _ _ known => killIntact known) (fun _ => killShrinks (List.mem_singleton_self _))
      nodup known⟩

theorem terminateEnds (m : Machines) (pm : SSHProcessManager) :
    Shrinks pm.processStore.keys pm (terminateImpl m pm).state ∧
    (Recorded pm → Emits (·.intact = true) (terminateImpl m) pm) :=
  ⟨(killProcessesEnds m _).1 pm,fun recorded => emitsRead ((killProcessesEnds m _).2 pm pm.processStore.distinct
    fun uuid mem => ⟨mem,recorded uuid mem⟩)⟩

variable [Re]

theorem selectedEnds {β : Type} {act : List String → Do SSHProcessManager β} (query : ProcessQuery)
    (shrinks : ∀ uuids, Leaves (Shrinks uuids) (act uuids))
    (intact : ∀ uuids pm, uuids.Nodup → (∀ uuid ∈ uuids, Known uuid pm) → Emits (·.intact = true) (act uuids) pm)
    (pm : SSHProcessManager) :
    (((getProcessUid query false >>= act) pm).state = pm ∨ ∃ uuids, (getProcessUid query false pm).result = .ok uuids ∧
      Shrinks uuids pm ((getProcessUid query false >>= act) pm).state) ∧
    (Recorded pm → Emits (·.intact = true) (getProcessUid query false >>= act) pm) := by
  constructor
  · rcases bindCases (getProcessUid query false) act pm with ⟨e,_,run⟩ | ⟨uuids,selected,run⟩
    · rw [run]
      exact .inl (getProcessUidUnchanged query false pm)
    · rw [run,afterState,getProcessUidUnchanged query false pm]
      exact .inr ⟨uuids,selected,shrinks uuids pm⟩
  · refine fun recorded => emitsBind (getProcessUidIntact recorded) fun uuids selected => ?_
    rw [getProcessUidUnchanged query false pm]
    obtain ⟨nodup,known⟩ := selectedKnown recorded selected
    exact intact uuids pm nodup known

theorem killEnds (m : Machines) (query : ProcessQuery) (pm : SSHProcessManager) :
    ((killImpl m query pm).state = pm ∨ ∃ uuids, (getProcessUid query false pm).result = .ok uuids ∧
      Shrinks uuids pm (killImpl m query pm).state) ∧
    (Recorded pm → Emits (·.intact = true) (killImpl m query) pm) := by
  unfold Emits killImpl
  rw [readBind]
  split
  · exact ⟨.inl rfl,fun _ => by simp⟩
  · exact selectedEnds query (fun uuids => (killProcessesEnds m uuids).1) (fun uuids => (killProcessesEnds m uuids).2) pm

theorem flushEnds (m : Machines) (query : ProcessQuery) (pm : SSHProcessManager) :
    ((flushImpl m query pm).state = pm ∨ ∃ uuids, (getProcessUid query false pm).result = .ok uuids ∧
      Shrinks uuids pm (flushImpl m query pm).state) ∧
    (Recorded pm → Emits (·.intact = true) (flushImpl m query) pm) := by
  refine selectedEnds query (fun uuids => ?_) (fun uuids pm nodup known => ?_) pm
  · have rounds := leavesEach (shrinksRefl uuids) (shrinksTrans uuids) fun uuid mem => flushShrinks (m := m) mem
    exact leavesBind (shrinksTrans uuids) rounds fun gone => leavesPure (shrinksRefl uuids) _
  · exact emitsBind (eachIntact (fun _ _ known => flushIntact known) (fun _ => flushShrinks (List.mem_singleton_self _))
      nodup known) fun gone _ => emitsPure _

theorem psEnds (m : Machines) (query : ProcessQuery) (pm : SSHProcessManager) :
    (psImpl m query pm).state = pm ∧ (Recorded pm → Emits (·.intact = true) (psImpl m query) pm) := by
  have looks : ∀ uuids, Leaves Unchanged (each (psOne m) uuids) :=
    fun uuids => leavesEach unchangedRefl unchangedTrans fun uuid _ => psUnchanged m uuid
  have forgets : ∀ uuids more, Leaves (Shrinks more) (each (psOne m) uuids) :=
    fun uuids more => leavesMono (fun pm _ same => by rw [same]; exact shrinksRefl more pm) (looks uuids)
  refine ⟨leavesBind unchangedTrans (getProcessUidUnchanged query false) looks pm,?_⟩
  refine (selectedEnds query (fun uuids => forgets uuids uuids) (fun uuids pm nodup known => ?_) pm).2
  refine eachIntact (fun _ _ known => psIntact known) (fun uuid => ?_) nodup known
  exact leavesMono (fun pm _ same => by rw [same]; exact shrinksRefl [uuid] pm) (psUnchanged m uuid)

end Implementations

structure Refused (pm : SSHProcessManager) (o : Outcome Event Exn SSHProcessManager Response) : Prop where
  state : o.state = pm
  events : ∃ message, o.events = [.broadcast message .ack]
  replied : ∀ response, o.result = .ok response → ∃ e, response.data = some (.stacktrace e)

structure Performs {β : Type} (pack : β → Payload) (x : Outcome Event Exn SSHProcessManager β)
    (o : Outcome Event Exn SSHProcessManager Response) : Prop where
  state : o.state = x.state
  events : ∃ message said, o.events = .broadcast message .ack :: x.events ++ said ∧
    ∀ e ∈ said, ∃ message, e = .broadcast message .commandExecutionSuccess
  replied : ∀ response, o.result = .ok response →
    (∃ e, response.data = some (.stacktrace e)) ∨ ∃ resp, x.result = .ok resp ∧ response.data = some (pack resp)

section Requests
variable {α β : Type} {request : Request} {pm : SSHProcessManager}

theorem packedRuns (pack : β → Payload) (impl : Do SSHProcessManager β) (pm : SSHProcessManager) :
    packed pack impl pm =
      ⟨(impl pm).result.map fun resp => ⟨(impl pm).state.name,none,some (pack resp),.executedSuccessfully,[]⟩,
        (impl pm).state,(impl pm).events⟩ := by
  unfold packed
  rcases bindCases impl _ pm with ⟨e,raised,run⟩ | ⟨resp,returned,run⟩
  · rw [run,raised]
    rfl
  · rw [run,returned]
    simp [readBind,Outcome.after,Except.map]

theorem endpointRuns (obj : Servicer) (end' : Endpoint) (w : World) (dataType : DataType α) (pack : β → Payload)
    (impl : α → Do SSHProcessManager β) (request : Request) (pm : SSHProcessManager) :
    Refused pm (stack obj end' w dataType (fun data _ => packed pack (impl data)) request pm) ∨
    (w.broadcast .ack = none ∧ Authorised obj end' request ∧ ∃ data, dataType.read request.data = some data ∧
      Performs pack (impl data pm) (stack obj end' w dataType (fun data _ => packed pack (impl data)) request pm)) := by
  cases published : w.broadcast .ack with
  | some e =>
    have run : stack obj end' w dataType (fun data _ => packed pack (impl data)) request pm = _ :=
      broadcastedUnacknowledged published
    rw [run]
    exact .inl ⟨rfl,⟨_,rfl⟩,fun response ok => by contradiction⟩
  | none =>
    by_cases refused : ¬ Authorised obj end' request ∨ dataType.read request.data = none
    · rw [refusedStack published refused]
      exact .inl ⟨rfl,⟨_,rfl⟩,fun response ok => ⟨notAny,by cases ok; rfl⟩⟩
    · simp only [not_or,not_not] at refused
      obtain ⟨data,holds⟩ := Option.ne_none_iff_exists'.mp refused.2
      refine .inr ⟨rfl,refused.1,data,holds,?_⟩
      rw [servedStack ⟨published,refused.1,by simp [holds]⟩ holds,packedRuns]
      refine ⟨rfl,⟨_,_,rfl,fun e mem => ?_⟩,fun response replied => ?_⟩
      · cases returned : (impl data pm).result <;> simp [announced,returned,Except.map] at mem
        exact ⟨_,mem⟩
      · rcases answeredOk replied with ⟨e,_,same⟩ | ⟨packed',_⟩
        · exact .inl ⟨e,by rw [same]; rfl⟩
        · cases returned : (impl data pm).result with
          | error e => simp [returned,Except.map] at packed'
          | ok resp =>
            simp only [returned,Except.map,Except.ok.injEq] at packed'
            exact .inr ⟨resp,rfl,by rw [← packed']⟩

theorem performsEvents {pack : β → Payload} {x : Outcome Event Exn SSHProcessManager β}
    {o : Outcome Event Exn SSHProcessManager Response} {p : Event → Prop} (performs : Performs pack x o)
    (said : ∀ message btype, p (.broadcast message btype)) (inside : ∀ e ∈ x.events, p e) : ∀ e ∈ o.events, p e := by
  obtain ⟨message,more,events,told⟩ := performs.events
  intro e mem
  rw [events,List.cons_append,List.mem_cons,List.mem_append] at mem
  rcases mem with rfl | mem | mem
  · exact said _ _
  · exact inside e mem
  · obtain ⟨text,rfl⟩ := told e mem
    exact said _ _

theorem performsIntact {β : Type} {pack : β → Payload} {x : Do SSHProcessManager β}
    {o : Outcome Event Exn SSHProcessManager Response} (performs : Performs pack (x pm) o)
    (intact : Emits (·.intact = true) x pm) : ∀ e ∈ o.events, e.intact = true :=
  performsEvents performs (fun _ _ => rfl) intact

theorem queryRead {query : ProcessQuery}
    (holds : (unpackTo "ProcessQuery" asProcessQuery).read request.data = some query) :
    request.data = some (.processQuery query) := by
  cases data : request.data with
  | none => simp [unpackTo,data] at holds
  | some payload =>
    cases payload <;> simp [unpackTo,data,asProcessQuery] at holds
    rw [holds]

theorem bootRequestRead {br : BootRequest} (holds : (unpackTo "BootRequest" asBootRequest).read request.data = some br) :
    request.data = some (.bootRequest br) := by
  cases data : request.data with
  | none => simp [unpackTo,data] at holds
  | some payload =>
    cases payload <;> simp [unpackTo,data,asBootRequest] at holds
    rw [holds]

end Requests
end SSHProcessManager

structure ManagerRound where
  world : World
  machines : Machines
  isAuthorised : Token → ActionType → SystemType → String → Bool
  command : ManagerCommand
  request : Request

namespace SSHProcessManager

def started (name : String) : SSHProcessManager := ⟨name,Dict.empty,Dict.empty⟩

variable [Re]

def run (r : ManagerRound) : Do SSHProcessManager Response :=
  handle r.world r.machines r.isAuthorised r.command r.request

def serve (pm : SSHProcessManager) (r : ManagerRound) : SSHProcessManager := (run r pm).state

def serveAll (pm : SSHProcessManager) (history : List ManagerRound) : SSHProcessManager := history.foldl serve pm

def Selects (r : ManagerRound) (inBootRequest : Bool) (pm : SSHProcessManager) (uuids : List String) : Prop :=
  ∃ query, r.request.data = some (.processQuery query) ∧ (getProcessUid query inBootRequest pm).result = .ok uuids

/-- What a request may do to the two dictionaries. -/
def Permits (r : ManagerRound) (before after : SSHProcessManager) : Prop :=
  after = before ∨ match r.command with
    | .boot => r.machines.uuid4 ∉ before.bootRequest.keys ∧ SameBut r.machines.uuid4 before after
    | .restart => ∃ uuid, Selects r true before [uuid] ∧ SameBut uuid before after
    | .kill | .flush => ∃ uuids, Selects r false before uuids ∧ Shrinks uuids before after
    | .terminate => Shrinks before.processStore.keys before after
    | .ps => False

def Taken (r : ManagerRound) (pm : SSHProcessManager) : Prop :=
  r.world.broadcast .ack = none ∧ Authorised ⟨pm.name,"SSHProcessManager",r.isAuthorised⟩ (endpoint r.command) r.request

def Works (r : ManagerRound) (pm : SSHProcessManager) (o : Outcome Event Exn SSHProcessManager Response) : Prop :=
  match r.command with
  | .boot => ∃ br, r.request.data = some (.bootRequest br) ∧ Performs .processInstance (bootImpl r.machines br pm) o
  | .terminate => Performs .processInstanceList (terminateImpl r.machines pm) o
  | .restart => ∃ query, r.request.data = some (.processQuery query) ∧
      Performs .processInstance (restartImpl r.machines query pm) o
  | .kill => ∃ query, r.request.data = some (.processQuery query) ∧
      Performs .processInstanceList (killImpl r.machines query pm) o
  | .ps => ∃ query, r.request.data = some (.processQuery query) ∧
      Performs .processInstanceList (psImpl r.machines query pm) o
  | .flush => ∃ query, r.request.data = some (.processQuery query) ∧
      Performs .processInstanceList (flushImpl r.machines query pm) o

section Step
variable {pm : SSHProcessManager}

theorem runCases (r : ManagerRound) (pm : SSHProcessManager) :
    Refused pm (run r pm) ∨ (Taken r pm ∧ Works r pm (run r pm)) := by
  obtain ⟨w,m,isAuthorised,command,request⟩ := r
  let obj : Servicer := ⟨pm.name,"SSHProcessManager",isAuthorised⟩
  have queries := fun {β : Type} (pack : β → Payload) (impl : ProcessQuery → Do SSHProcessManager β) =>
    endpointRuns obj (endpoint command) w (unpackTo "ProcessQuery" asProcessQuery) pack impl request pm
  cases command with
  | boot =>
    refine (endpointRuns obj (endpoint .boot) w (unpackTo "BootRequest" asBootRequest) .processInstance (bootImpl m)
      request pm).imp_right fun ⟨published,authorised,br,holds,performs⟩ => ?_
    exact ⟨⟨published,authorised⟩,br,bootRequestRead holds,performs⟩
  | terminate =>
    refine (endpointRuns obj (endpoint .terminate) w unpackNone .processInstanceList (fun _ => terminateImpl m)
      request pm).imp_right fun ⟨published,authorised,_,_,performs⟩ => ?_
    exact ⟨⟨published,authorised⟩,performs⟩
  | restart =>
    refine (queries .processInstance (restartImpl m)).imp_right fun ⟨published,authorised,query,holds,performs⟩ => ?_
    exact ⟨⟨published,authorised⟩,query,queryRead holds,performs⟩
  | kill =>
    refine (queries .processInstanceList (killImpl m)).imp_right fun ⟨published,authorised,query,holds,performs⟩ => ?_
    exact ⟨⟨published,authorised⟩,query,queryRead holds,performs⟩
  | ps =>
    refine (queries .processInstanceList (psImpl m)).imp_right fun ⟨published,authorised,query,holds,performs⟩ => ?_
    exact ⟨⟨published,authorised⟩,query,queryRead holds,performs⟩
  | flush =>
    refine (queries .processInstanceList (flushImpl m)).imp_right fun ⟨published,authorised,query,holds,performs⟩ => ?_
    exact ⟨⟨published,authorised⟩,query,queryRead holds,performs⟩

theorem forgetsSelected {r : ManagerRound} {query : ProcessQuery} {after : SSHProcessManager}
    (data : r.request.data = some (.processQuery query))
    (ends : after = pm ∨ ∃ uuids, (getProcessUid query false pm).result = .ok uuids ∧ Shrinks uuids pm after) :
    (after = pm ∨ ∃ uuids, Selects r false pm uuids ∧ Shrinks uuids pm after) ∧ (Recorded pm → Recorded after) := by
  rcases ends with same | ⟨uuids,selected,shrinks⟩
  · exact ⟨.inl same,fun recorded => same ▸ recorded⟩
  · exact ⟨.inr ⟨uuids,⟨query,data,selected⟩,shrinks⟩,fun recorded => shrinksRecorded recorded shrinks⟩

theorem serveEnds (recorded : Recorded pm) (r : ManagerRound) :
    Permits r pm (serve pm r) ∧ Recorded (serve pm r) ∧
    (r.command ≠ .restart → Emits (·.intact = true) (run r) pm) := by
  rcases runCases r pm with refused | ⟨_,works⟩
  · have same : serve pm r = pm := refused.state
    obtain ⟨message,events⟩ := refused.events
    exact ⟨.inl same,same.symm ▸ recorded,fun _ e mem => by rw [events,List.mem_singleton] at mem; rw [mem]; rfl⟩
  obtain ⟨w,m,isAuthorised,command,request⟩ := r
  cases command with
  | boot =>
    obtain ⟨br,_,performs⟩ := works
    have state : serve pm ⟨w,m,isAuthorised,.boot,request⟩ = (boot m br m.uuid4 pm).state := performs.state
    obtain ⟨boots,intact⟩ := bootEnds m br m.uuid4 pm
    rw [state]
    exact ⟨boots.imp_right fun new => ⟨new.1,new.2.others⟩,bootsRecorded recorded boots,
      fun _ => performsIntact performs intact⟩
  | terminate =>
    have state : serve pm ⟨w,m,isAuthorised,.terminate,request⟩ = (terminateImpl m pm).state := works.state
    obtain ⟨shrinks,intact⟩ := terminateEnds m pm
    rw [state]
    exact ⟨.inr shrinks,shrinksRecorded recorded shrinks,fun _ => performsIntact works (intact recorded)⟩
  | restart =>
    obtain ⟨query,data,performs⟩ := works
    have state : serve pm ⟨w,m,isAuthorised,.restart,request⟩ = (restartImpl m query pm).state := performs.state
    rw [state]
    rcases restartEnds m query pm with same | ⟨uuid,br,selected,_,same⟩
    · exact ⟨.inl same,same.symm ▸ recorded,fun other => absurd rfl other⟩
    · have restarted := withoutBoots (bootEnds m br uuid (pm.without uuid)).1
      rw [same]
      exact ⟨.inr ⟨uuid,⟨query,data,selected⟩,restarted.others⟩,restartedRecorded recorded restarted,
        fun other => absurd rfl other⟩
  | kill =>
    obtain ⟨query,data,performs⟩ := works
    have state : serve pm ⟨w,m,isAuthorised,.kill,request⟩ = (killImpl m query pm).state := performs.state
    obtain ⟨ends,intact⟩ := killEnds m query pm
    obtain ⟨forgets,kept⟩ := forgetsSelected (r := ⟨w,m,isAuthorised,.kill,request⟩) data ends
    rw [state]
    exact ⟨forgets,kept recorded,fun _ => performsIntact performs (intact recorded)⟩
  | ps =>
    obtain ⟨query,_,performs⟩ := works
    have same : serve pm ⟨w,m,isAuthorised,.ps,request⟩ = pm := performs.state.trans (psEnds m query pm).1
    exact ⟨.inl same,same.symm ▸ recorded,fun _ => performsIntact performs ((psEnds m query pm).2 recorded)⟩
  | flush =>
    obtain ⟨query,data,performs⟩ := works
    have state : serve pm ⟨w,m,isAuthorised,.flush,request⟩ = (flushImpl m query pm).state := performs.state
    obtain ⟨ends,intact⟩ := flushEnds m query pm
    obtain ⟨forgets,kept⟩ := forgetsSelected (r := ⟨w,m,isAuthorised,.flush,request⟩) data ends
    rw [state]
    exact ⟨forgets,kept recorded,fun _ => performsIntact performs (intact recorded)⟩

end Step

theorem serveAllRecorded (name : String) (history : List ManagerRound) : Recorded (serveAll (started name) history) :=
  List.foldlRecOn (motive := Recorded) history serve (fun _ mem => absurd mem List.not_mem_nil)
    (fun _ recorded r _ => (serveEnds recorded r).2.1)

theorem historyKeepsRecords (name : String) (history : List ManagerRound) (r : ManagerRound) :
    Recorded (serveAll (started name) history) ∧
    (∀ query inBootRequest, Emits (·.intact = true) (getProcessUid query inBootRequest) (serveAll (started name) history)) ∧
    (r.command ≠ .restart → Emits (·.intact = true) (run r) (serveAll (started name) history)) ∧
    Permits r (serveAll (started name) history) (serve (serveAll (started name) history) r) := by
  have recorded := serveAllRecorded name history
  obtain ⟨permits,_,intact⟩ := serveEnds recorded r
  exact ⟨recorded,fun _ _ => getProcessUidIntact recorded,intact,permits⟩

end SSHProcessManager

namespace Sample

def healthy : Machines := ⟨fun _ _ => .ok true,fun _ _ => .ok (),fun _ => .ok (),fun _ => .ok none,fun _ _ => .ok 1,
  fun _ _ => .ok (),"uuid-1"⟩

def appRequest : BootRequest := ⟨⟨⟨"app","user","session","","0"⟩,[],[⟨"daq_application",[]⟩],"/tmp","/tmp/log"⟩,⟨["host"]⟩⟩

def bootRound : ManagerRound := ⟨calm,healthy,fun _ _ _ _ => true,.boot,⟨user,some (.bootRequest appRequest)⟩⟩

def dying : Machines := { healthy with isAlive := fun _ _ => .ok false }

def killRound (query : ProcessQuery) : ManagerRound :=
  ⟨calm,dying,fun _ _ _ _ => true,.kill,⟨user,some (.processQuery query)⟩⟩

end Sample

open Sample in
theorem bootAfterBootIntact : Emits (·.intact = true) (SSHProcessManager.run bootRound)
    (SSHProcessManager.serveAll (.started "manager") [bootRound]) :=
  (SSHProcessManager.historyKeepsRecords "manager" [bootRound] bootRound).2.2.1 (by decide)

open Sample in
example : (SSHProcessManager.serve (.started "manager") bootRound).processStore.keys = ["uuid-1"] := by decide

end Drunc
