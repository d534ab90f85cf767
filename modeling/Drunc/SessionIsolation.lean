import Drunc.Launching
import Drunc.ProcessSelection
import Drunc.Library.Isolation

/-! Sessions side by side in one process manager. The manager keeps all sessions in the same two
dictionaries, and a query is matched field by field, so a session is only kept from the others by
what its requests leave open: a boot has a user, and a query names its session and nothing else.
`part` is what the manager keeps of one session; through it, a request of the session works as if
the others were not there, and a request of another session does nothing. -/
namespace Drunc
open Library (Dict Along outputs purged alongSteps)
open Library.Act

def BootRequest.within (br : BootRequest) (session : String) : Bool := br.processDescription.metadata.session == session

def ProcessQuery.onSession (session : String) : ProcessQuery := ⟨[],"",session,[]⟩

section Wrappers
variable {σ α β : Type} {view : σ → σ} {s : σ} {w : World}

theorem broadcastMirrored {site : Site} {message : String} {btype : BroadcastType} :
    Mirrored view (broadcast w site message btype) (broadcast w site message btype) s := by
  refine mirroredBind (mirroredEmit _) fun _ _ => ?_
  cases w.broadcast site <;> rfl

theorem stackMirrored {obj : Servicer} {end' : Endpoint} {dataType : DataType α} {cmd : α → Token → Do σ Response} {request : Request}
    (same : ∀ data, dataType.read request.data = some data → Mirrored view (cmd data request.token) (cmd data request.token) s) :
    Mirrored view (stack obj end' w dataType cmd request) (stack obj end' w dataType cmd request) s := by
  have acknowledged : (attempting end' w request s).state = s := broadcastState
  refine mirroredBind broadcastMirrored fun _ _ => ?_
  rw [acknowledged]
  refine mirroredBind (mirroredAttempt ?_) fun result _ => ?_
  · unfold authentifiedAndAuthorised
    split
    · unfold unpackRequestDataTo unpackAny
      cases read : dataType.read request.data with
      | none => exact mirroredLift _
      | some data => exact same data read
    · exact mirroredLift _
  · cases result with
    | error e => exact mirroredPure _
    | ok ret => exact mirroredBind broadcastMirrored fun _ _ => mirroredPure _

end Wrappers

namespace SSHProcessManager

def inPart (session : String) (pm : SSHProcessManager) (uuid : String) : Bool :=
  (pm.bootRequest.get? uuid).any (·.within session)

def part (session : String) (pm : SSHProcessManager) : SSHProcessManager where
  name := pm.name
  processStore := pm.processStore.filter fun uuid _ => inPart session pm uuid
  bootRequest := pm.bootRequest.filter fun _ br => br.within session

structure Owned (pm : SSHProcessManager) : Prop where
  recorded : Recorded pm
  users : ∀ uuid br, pm.bootRequest.get? uuid = some br → br.processDescription.metadata.user ≠ ""

section Part
variable {session uuid : String} {pm : SSHProcessManager} {br : BootRequest}

theorem setRecorded (recorded : Recorded pm) : Recorded { pm with bootRequest := pm.bootRequest.set uuid br } := by
  intro other mem
  obtain ⟨v,found⟩ := Dict.memKeys.mp (recorded other mem)
  by_cases own : other = uuid
  · exact Dict.memKeys.mpr ⟨br,by simp [own]⟩
  · exact Dict.memKeys.mpr ⟨v,by simpa [own] using found⟩

theorem withoutRecorded (recorded : Recorded pm) : Recorded (pm.without uuid) := by
  intro other mem
  obtain ⟨v,there⟩ := Dict.memKeys.mp mem
  by_cases own : other = uuid
  · simp [without,own] at there
  · obtain ⟨br,here⟩ := Dict.memKeys.mp (recorded other (Dict.memKeys.mpr ⟨v,by simpa [without,own] using there⟩))
    exact Dict.memKeys.mpr ⟨br,by simpa [without,own] using here⟩

theorem inPartIff : inPart session pm uuid = true ↔ ∃ br, pm.bootRequest.get? uuid = some br ∧ br.within session = true := by
  unfold inPart
  rw [Option.any_eq_true_iff_get]
  cases pm.bootRequest.get? uuid <;> simp

theorem partRequest (mine : inPart session pm uuid = true) : (part session pm).bootRequest.get? uuid = pm.bootRequest.get? uuid := by
  obtain ⟨br,found,within⟩ := inPartIff.mp mine
  simp [part,found,within]

theorem partProcess (mine : inPart session pm uuid = true) : (part session pm).processStore.get? uuid = pm.processStore.get? uuid := by
  simp only [part,Dict.getFilter,mine]
  cases pm.processStore.get? uuid <;> rfl

theorem inPartPart : inPart session (part session pm) uuid = inPart session pm uuid := by
  unfold inPart
  simp only [part,Dict.getFilter]
  cases pm.bootRequest.get? uuid with
  | none => rfl
  | some br => cases within : br.within session <;> simp [Option.filter_some,within]

theorem partErase (pm : SSHProcessManager) : part session { pm with processStore := pm.processStore.erase uuid } =
    { part session pm with processStore := (part session pm).processStore.erase uuid } := by
  unfold part
  rw [Dict.filterErase]
  rfl

theorem partSetProcess (pm : SSHProcessManager) (process : Nat) :
    part session { pm with processStore := pm.processStore.set uuid process } =
      if inPart session pm uuid then { part session pm with processStore := (part session pm).processStore.set uuid process }
      else part session pm := by
  have stored : ((pm.processStore.set uuid process).filter fun other _ => inPart session pm other) =
      if inPart session pm uuid then (part session pm).processStore.set uuid process else (part session pm).processStore :=
    Dict.filterSet fun _ _ => rfl
  change (⟨pm.name,(pm.processStore.set uuid process).filter fun other _ => inPart session pm other,
    (part session pm).bootRequest⟩ : SSHProcessManager) = _
  rw [stored]
  cases inPart session pm uuid <;> rfl

theorem partSetRequest (recorded : Recorded pm) (same : ∀ old, pm.bootRequest.get? uuid = some old →
      old.within session = br.within session) :
    part session { pm with bootRequest := pm.bootRequest.set uuid br } =
      if br.within session then { part session pm with bootRequest := (part session pm).bootRequest.set uuid br }
      else part session pm := by
  have processes : (pm.processStore.filter fun other _ => inPart session { pm with bootRequest := pm.bootRequest.set uuid br } other) =
      pm.processStore.filter fun other _ => inPart session pm other := by
    refine Dict.filterCongr fun other process found => ?_
    obtain ⟨old,known⟩ := Dict.memKeys.mp (recorded other (Dict.memKeys.mpr ⟨process,found⟩))
    by_cases own : other = uuid
    · subst own
      simp [inPart,known,same old known]
    · simp [inPart,own]
  unfold part
  rw [processes,Dict.filterSet same]
  cases br.within session <;> rfl

theorem partEraseRequest (gone : pm.processStore.get? uuid = none) :
    part session { pm with bootRequest := pm.bootRequest.erase uuid } =
      { part session pm with bootRequest := (part session pm).bootRequest.erase uuid } := by
  have processes : (pm.processStore.filter fun other _ => inPart session { pm with bootRequest := pm.bootRequest.erase uuid } other) =
      pm.processStore.filter fun other _ => inPart session pm other := by
    refine Dict.filterCongr fun other process found => ?_
    have own : other ≠ uuid := by
      rintro rfl
      rw [gone] at found
      contradiction
    simp [inPart,own]
  unfold part
  rw [processes,Dict.filterErase]

end Part
section Shown
variable {session uuid : String} {pm : SSHProcessManager} {m : Machines}

theorem lookupMirrored {ν : Type} {dict : SSHProcessManager → Dict String ν}
    (same : (dict (part session pm)).get? uuid = (dict pm).get? uuid) :
    Mirrored (part session) (lookup dict uuid) (lookup dict uuid) pm := by
  unfold Mirrored
  cases found : (dict pm).get? uuid with
  | none => rw [lookupMissing found,lookupMissing (same.trans found)]
  | some v => rw [lookupFound found,lookupFound (same.trans found)]

theorem deleteMirrored (mine : inPart session pm uuid = true) :
    Mirrored (part session) (deleteProcess uuid) (deleteProcess uuid) pm := by
  refine mirroredBind (lookupMirrored (partProcess mine)) fun _ _ => ?_
  rw [lookupUnchanged pm]
  exact mirroredUpdate (partErase pm).symm

theorem signalsMirrored (process : Nat) (signals : List Signal) :
    Mirrored (part session) (sendSignals m process signals) (sendSignals m process signals) pm := by
  induction signals with
  | nil => exact mirroredPure _
  | cons sig rest ih =>
    refine mirroredBind (mirroredLift _) fun alive _ => ?_
    cases alive
    · exact mirroredPure _
    · refine mirroredBind (mirroredLift _) fun _ _ => mirroredBind (mirroredLift _) fun still _ => ?_
      cases still
      · exact mirroredPure _
      · exact ih

theorem stopMirrored (process : Nat) : Mirrored (part session) (stopProcess m process) (stopProcess m process) pm := by
  refine mirroredBind (mirroredLift _) fun alive _ => ?_
  cases alive
  · exact mirroredPure _
  · exact signalsMirrored process _

theorem killMirrored (mine : inPart session pm uuid = true) :
    Mirrored (part session) (killProcess m uuid) (killProcess m uuid) pm := by
  refine mirroredBind (lookupMirrored (partProcess mine)) fun process _ => ?_
  rw [lookupUnchanged pm]
  refine mirroredBind (lookupMirrored (partRequest mine)) fun request _ => ?_
  rw [lookupUnchanged pm]
  refine mirroredBind (stopMirrored process) fun _ _ => ?_
  rw [(stopSilent m process pm).1]
  refine mirroredBind (mirroredLift _) fun alive _ => ?_
  exact mirroredBind (deleteMirrored mine) fun _ _ => mirroredPure _

theorem flushMirrored (mine : inPart session pm uuid = true) :
    Mirrored (part session) (flushOne m uuid) (flushOne m uuid) pm := by
  refine mirroredRead ?_
  rw [partRequest mine,partProcess mine]
  cases pm.bootRequest.get? uuid with
  | none => exact mirroredBind (mirroredEmit _) fun _ _ => mirroredPure _
  | some request =>
    refine mirroredBind (lookupMirrored (partProcess mine)) fun process _ => ?_
    rw [lookupUnchanged pm]
    refine mirroredBind (mirroredLift _) fun alive _ => ?_
    cases alive
    · refine mirroredBind (mirroredLift _) fun still _ => ?_
      exact mirroredBind (deleteMirrored mine) fun _ _ => mirroredPure _
    · exact mirroredPure _

theorem psMirrored (mine : inPart session pm uuid = true) : Mirrored (part session) (psOne m uuid) (psOne m uuid) pm := by
  refine mirroredRead ?_
  rw [partProcess mine]
  cases pm.processStore.get? uuid with
  | none => exact mirroredBind (mirroredEmit _) fun _ _ => mirroredPure _
  | some process =>
    refine mirroredBind (lookupMirrored (partRequest mine)) fun request _ => ?_
    rw [lookupUnchanged pm]
    exact mirroredBind (mirroredLift _) fun alive _ => mirroredBind (mirroredLift _) fun still _ => mirroredPure _

theorem partKept {uuids : List String} {after : SSHProcessManager} (shrinks : Shrinks uuids pm after) :
    inPart session after uuid = inPart session pm uuid := by
  unfold inPart
  rw [shrinks.requests]

theorem eachMirrored {β : Type} {f : String → Do SSHProcessManager β} {uuids : List String}
    (one : ∀ uuid pm, inPart session pm uuid = true → Mirrored (part session) (f uuid) (f uuid) pm)
    (shrinks : ∀ uuid, Leaves (Shrinks [uuid]) (f uuid)) (mine : ∀ uuid ∈ uuids, inPart session pm uuid = true) :
    Mirrored (part session) (each f uuids) (each f uuids) pm :=
  mirroredEach (P := fun pm => ∀ uuid ∈ uuids, inPart session pm uuid = true)
    (fun uuid mem pm all => one uuid pm (all uuid mem))
    (fun uuid _ pm all other mem => (partKept (shrinks uuid pm)).trans (all other mem)) mine

section Boot
variable {br : BootRequest}

structure Launching (session uuid : String) (pm : SSHProcessManager) : Prop where
  recorded : Recorded pm
  mine : inPart session pm uuid = true

theorem storeProcessMirrored (launching : Launching session uuid pm) (process : Nat) :
    Mirrored (part session) (storeProcess uuid process) (storeProcess uuid process) pm ∧
    Launching session uuid (storeProcess uuid process pm).state := by
  refine ⟨mirroredUpdate ?_,⟨fun other mem => ?_,launching.mine⟩⟩
  · rw [partSetProcess,if_pos launching.mine]
  · obtain ⟨found,here⟩ := Dict.memKeys.mp mem
    by_cases own : other = uuid
    · obtain ⟨br,known,_⟩ := inPartIff.mp launching.mine
      exact Dict.memKeys.mpr ⟨br,own ▸ known⟩
    · refine launching.recorded other (Dict.memKeys.mpr ⟨found,?_⟩)
      simpa [storeProcess,own] using here

theorem tryHostsMirrored (br : BootRequest) (launching : Launching session uuid pm) (i : Nat) (hostname : String) (hosts : List String) :
    Mirrored (part session) (tryHosts m br uuid i hostname hosts) (tryHosts m br uuid i hostname hosts) pm ∧
    Launching session uuid (tryHosts m br uuid i hostname hosts pm).state := by
  induction hosts generalizing i hostname pm with
  | nil => exact ⟨mirroredPure _,launching⟩
  | cons host rest ih =>
    unfold tryHosts
    cases m.ssh i (br.sshArguments host) with
    | error e => exact ih launching (i+1) host
    | ok process =>
      obtain ⟨stores,still⟩ := storeProcessMirrored launching process
      dsimp only
      rw [emitBind,afterState,storeProcess,updateBind]
      constructor
      · refine mirroredBind (mirroredEmit _) fun _ _ => mirroredBind stores fun _ _ => ?_
        cases m.watch i process with
        | error e => exact (ih still (i+1) host).1
        | ok _ => exact mirroredPure _
      · cases m.watch i process with
        | error e => exact (ih still (i+1) host).2
        | ok _ => exact still

def hosted (m : Machines) (uuid hostname : String) : Do SSHProcessManager ProcessInstance := do
  let request ← lookup bootRequest uuid
  let request := request.withHostname hostname
  storeBootRequest uuid request
  let pm ← read
  match pm.processStore.get? uuid with
  | none => pure (instanceOf request uuid .dead none)
  | some process => pure (instanceOf request uuid (bootedStatus m process).1 (bootedStatus m process).2)

theorem hostedMirrored (launching : Launching session uuid pm) (hostname : String) :
    Mirrored (part session) (hosted m uuid hostname) (hosted m uuid hostname) pm := by
  obtain ⟨request,known,within⟩ := inPartIff.mp launching.mine
  refine mirroredBind (lookupMirrored (partRequest launching.mine)) fun other found => ?_
  rw [lookupFound known] at found ⊢
  obtain rfl := Except.ok.inj found
  have stores : Mirrored (part session) (storeBootRequest uuid (request.withHostname hostname))
      (storeBootRequest uuid (request.withHostname hostname)) pm := by
    refine mirroredUpdate ?_
    rw [partSetRequest launching.recorded fun old there => ?_]
    · exact (if_pos (show (request.withHostname hostname).within session = true from within)).symm
    · obtain rfl : request = old := Option.some.inj (known.symm.trans there)
      rfl
  refine mirroredBind stores fun _ _ => mirroredRead ?_
  have mine : inPart session (storeBootRequest uuid (request.withHostname hostname) pm).state uuid = true :=
    inPartIff.mpr ⟨request.withHostname hostname,by simp [storeBootRequest],within⟩
  rw [partProcess mine]
  cases (storeBootRequest uuid (request.withHostname hostname) pm).state.processStore.get? uuid <;> exact mirroredPure _

theorem bootMirrored (recorded : Recorded pm) (within : br.within session = true) (fresh : uuid ∉ pm.bootRequest.keys) :
    Mirrored (part session) (boot m br uuid) (boot m br uuid) pm := by
  have absent : pm.bootRequest.get? uuid = none :=
    Option.eq_none_iff_forall_ne_some.mpr fun v found => fresh (Dict.memKeys.mpr ⟨v,found⟩)
  have unknown : uuid ∉ (part session pm).bootRequest.keys := by
    intro mem
    obtain ⟨v,found⟩ := Dict.memKeys.mp mem
    simp [part,absent] at found
  refine mirroredRead ?_
  rw [if_neg fresh,if_neg unknown]
  by_cases hosts : br.processRestriction.allowedHosts = []
  · rw [if_pos hosts]
    exact mirroredRaise _
  · rw [if_neg hosts]
    have launching : Launching session uuid { pm with bootRequest := pm.bootRequest.set uuid br } :=
      ⟨setRecorded recorded,by simp [inPart,within]⟩
    have stores : Mirrored (part session) (storeBootRequest uuid br) (storeBootRequest uuid br) pm := by
      refine mirroredUpdate ?_
      rw [partSetRequest recorded (fun old found => by rw [absent] at found; contradiction),if_pos within]
    refine mirroredBind stores fun _ _ => ?_
    obtain ⟨tries,launched⟩ := tryHostsMirrored (m := m) br launching 0 "" br.processRestriction.allowedHosts
    refine mirroredBind tries fun hostname _ => ?_
    exact hostedMirrored launched hostname

end Boot
theorem candidatesKnown (recorded : Recorded pm) (inBootRequest : Bool) :
    ∀ uuid ∈ pm.candidates inBootRequest, uuid ∈ pm.bootRequest.keys := by
  cases inBootRequest
  · exact recorded
  · exact fun _ mem => mem

section Queries
variable [Re]

theorem acceptedOnSession {br : BootRequest} (user : br.processDescription.metadata.user ≠ "") :
    accepted (.onSession session) uuid br.processDescription.metadata = .ok (br.within session) := by
  have other : (("" : String) == br.processDescription.metadata.user) = false := by simpa using user.symm
  simp only [accepted,anyFound,ProcessQuery.onSession,BootRequest.within,bind,Except.bind,other,List.not_mem_nil,decide_false,
    Bool.false_or,Bool.or_false,Except.ok.injEq]
  rw [Bool.eq_iff_iff,beq_iff_eq,beq_iff_eq]
  exact eq_comm

theorem selectOnSession (owned : Owned pm) {uuids : List String} (known : ∀ uuid ∈ uuids, uuid ∈ pm.bootRequest.keys) :
    selectAmong (.onSession session) uuids pm = ⟨.ok (uuids.filter (inPart session pm)),pm,[]⟩ := by
  induction uuids with
  | nil => rfl
  | cons uuid rest ih =>
    obtain ⟨request,stored⟩ := Dict.memKeys.mp (known uuid List.mem_cons_self)
    have others := ih fun other mem => known other (List.mem_cons_of_mem _ mem)
    have mine : inPart session pm uuid = request.within session := by simp only [inPart,stored,Option.any_some]
    unfold selectAmong
    rw [bindOk (a := request) (by rw [lookupFound stored]),lookupFound stored,acceptedOnSession (owned.users uuid request stored),
      afterNil,liftOkBind,bindOk (a := rest.filter (inPart session pm)) (by rw [others]),others,afterNil,List.filter_cons,mine]
    rfl

theorem uidOnSession (owned : Owned pm) (inBootRequest : Bool) :
    getProcessUid (.onSession session) inBootRequest pm =
      ⟨.ok ((pm.candidates inBootRequest).filter (inPart session pm)),pm,[]⟩ :=
  selectOnSession owned (candidatesKnown owned.recorded inBootRequest)

end Queries

theorem candidatesPart (inBootRequest : Bool) :
    (part session pm).candidates inBootRequest = (pm.candidates inBootRequest).filter (inPart session pm) := by
  cases inBootRequest
  · exact Dict.filterKeys (inPart session pm)
  · have keyed : pm.bootRequest.filter (fun _ br => br.within session) =
        pm.bootRequest.filter fun uuid _ => inPart session pm uuid :=
      Dict.filterCongr fun uuid br found => by simp only [inPart,found,Option.any_some]
    change (pm.bootRequest.filter fun _ br => br.within session).keys = _
    rw [keyed]
    exact Dict.filterKeys (inPart session pm)

theorem partOwned (owned : Owned pm) : Owned (part session pm) := by
  refine ⟨fun uuid mem => ?_,fun uuid br found => ?_⟩
  · obtain ⟨process,found⟩ := Dict.memKeys.mp mem
    simp only [part,Dict.getFilter] at found
    obtain ⟨_,mine⟩ := Option.filter_eq_some_iff.mp found
    obtain ⟨br,known,within⟩ := inPartIff.mp mine
    exact Dict.memKeys.mpr ⟨br,(partRequest mine).trans known⟩
  · simp only [part,Dict.getFilter] at found
    exact owned.users uuid br (Option.filter_eq_some_iff.mp found).1

section Requests
variable [Re]

theorem selectMirrored (owned : Owned pm) (inBootRequest : Bool) :
    Mirrored (part session) (getProcessUid (.onSession session) inBootRequest) (getProcessUid (.onSession session) inBootRequest)
      pm := by
  unfold Mirrored
  have same : ((pm.candidates inBootRequest).filter (inPart session pm)).filter (inPart session (part session pm)) =
      (pm.candidates inBootRequest).filter (inPart session pm) := by
    refine List.filter_eq_self.mpr fun uuid mem => ?_
    rw [inPartPart]
    exact (List.mem_filter.mp mem).2
  rw [uidOnSession (partOwned owned),uidOnSession owned,candidatesPart,same]

theorem selectedMirrored {β : Type} (owned : Owned pm) (inBootRequest : Bool) {act : List String → Do SSHProcessManager β}
    (one : ∀ uuids, (∀ uuid ∈ uuids, inPart session pm uuid = true) → Mirrored (part session) (act uuids) (act uuids) pm) :
    Mirrored (part session) (getProcessUid (.onSession session) inBootRequest >>= act)
      (getProcessUid (.onSession session) inBootRequest >>= act) pm := by
  refine mirroredBind (selectMirrored owned inBootRequest) fun uuids selected => ?_
  rw [uidOnSession owned] at selected ⊢
  obtain rfl := Except.ok.inj selected
  exact one _ fun uuid mem => (List.mem_filter.mp mem).2

theorem killSelects (query : ProcessQuery) (pm : SSHProcessManager) :
    killImpl m query pm = (getProcessUid query false >>= killProcesses m) pm := by
  unfold killImpl
  rw [readBind]
  split
  · rename_i few
    have nobody : getProcessUid query false pm = ⟨.ok [],pm,[]⟩ := by
      change selectAmong query (pm.processStore.entries.map Prod.fst) pm = _
      rw [few]
      rfl
    rw [bindOk (a := []) (by rw [nobody]),nobody]
    rfl
  · rfl

theorem restartMirrored (owned : Owned pm) :
    Mirrored (part session) (restartImpl m (.onSession session)) (restartImpl m (.onSession session)) pm := by
  refine selectedMirrored owned true fun uuids mine => ?_
  have ensures : Mirrored (part session) (ensureOneProcess uuids true) (ensureOneProcess uuids true) pm := by
    refine mirroredRead ?_
    match uuids, mine with
    | [], _ => exact mirroredRaise _
    | [uuid], mine =>
      have same : uuid ∈ (part session pm).bootRequest.keys ↔ uuid ∈ pm.bootRequest.keys := by
        rw [Dict.memKeys,Dict.memKeys,partRequest (mine uuid (List.mem_singleton_self _))]
      simp only [same,if_true]
      split
      · exact mirroredPure _
      · exact mirroredRaise _
    | _ :: _ :: _, _ => exact mirroredRaise _
  refine mirroredBind ensures fun uuid ensured => ?_
  obtain ⟨rfl,known⟩ := ensuredOne ensured
  have mine := mine uuid (List.mem_singleton_self _)
  rw [(ensureOneSilent [uuid] true pm).1]
  obtain ⟨br,stored,within⟩ := inPartIff.mp mine
  refine mirroredBind (lookupMirrored (partRequest mine)) fun request found => ?_
  rw [lookupFound stored] at found ⊢
  obtain rfl := Except.ok.inj found
  have terminates : Mirrored (part session) (terminateProcess m uuid) (terminateProcess m uuid) pm := by
    refine mirroredRead ?_
    rw [partProcess mine]
    cases pm.processStore.get? uuid with
    | none => exact mirroredPure _
    | some process =>
      refine mirroredBind (mirroredLift _) fun alive _ => ?_
      cases alive
      · exact mirroredPure _
      · exact mirroredLift _
  refine mirroredBind terminates fun _ _ => ?_
  rw [(terminateSilent m uuid pm).1]
  refine mirroredBind (deleteMirrored mine) fun _ deleted => ?_
  cases running : pm.processStore.get? uuid with
  | none =>
    rw [deleteProcessMissing running] at deleted
    contradiction
  | some process =>
    rw [deleteProcessFound running]
    have erases : Mirrored (part session) (deleteBootRequest uuid) (deleteBootRequest uuid)
        { pm with processStore := pm.processStore.erase uuid } := by
      refine mirroredBind (lookupMirrored (partRequest mine)) fun _ _ => ?_
      rw [lookupUnchanged]
      refine mirroredUpdate (partEraseRequest ?_).symm
      simp
    refine mirroredBind erases fun _ _ => ?_
    have deleted : deleteBootRequest uuid { pm with processStore := pm.processStore.erase uuid } = ⟨.ok (),pm.without uuid,[]⟩ :=
      deleteBootRequestFound stored
    rw [deleted]
    have recorded : Recorded (pm.without uuid) := withoutRecorded owned.recorded
    refine bootMirrored recorded within fun mem => ?_
    obtain ⟨v,there⟩ := Dict.memKeys.mp mem
    simp [without] at there

end Requests
end Shown
section Hidden
variable {session other uuid : String} {pm : SSHProcessManager} {m : Machines} {br : BootRequest}

theorem otherSession (apart : other ≠ session) (theirs : inPart other pm uuid = true) : inPart session pm uuid = false := by
  obtain ⟨br,found,within⟩ := inPartIff.mp theirs
  simp only [BootRequest.within,beq_iff_eq] at within
  simp [inPart,found,BootRequest.within,within,apart]

theorem partAbsent (foreign : inPart session pm uuid = false) : (part session pm).processStore.get? uuid = none := by
  simp only [part,Dict.getFilter,foreign]
  cases pm.processStore.get? uuid <;> rfl

/-- Forgetting some of the foreign processes is not seen by the session. -/
def Spares (session : String) (uuids : List String) (a b : SSHProcessManager) : Prop :=
  (∀ uuid ∈ uuids, inPart session a uuid = false) → part session b = part session a ∧ b.bootRequest = a.bootRequest

section Forget
variable {uuids : List String}

theorem sparesRefl (a : SSHProcessManager) : Spares session uuids a a := fun _ => ⟨rfl,rfl⟩

theorem sparesTrans (a b c : SSHProcessManager) (first : Spares session uuids a b) (second : Spares session uuids b c) :
    Spares session uuids a c := by
  intro foreign
  obtain ⟨same,requests⟩ := first foreign
  obtain ⟨same',requests'⟩ := second fun uuid mem => by
    unfold inPart
    rw [requests]
    exact foreign uuid mem
  exact ⟨same'.trans same,requests'.trans requests⟩

theorem unchangedSpares {α : Type} {x : Do SSHProcessManager α} (kept : Leaves Unchanged x) : Leaves (Spares session uuids) x :=
  leavesMono (fun a b same => by rw [same]; exact sparesRefl a) kept

theorem deleteSpares (mem : uuid ∈ uuids) : Leaves (Spares session uuids) (deleteProcess uuid) := by
  refine leavesBind sparesTrans (unchangedSpares lookupUnchanged) fun _ pm foreign => ⟨?_,rfl⟩
  change part session { pm with processStore := pm.processStore.erase uuid } = _
  rw [partErase,Dict.eraseAbsent (partAbsent (foreign uuid mem))]

theorem killSpares (mem : uuid ∈ uuids) : Leaves (Spares session uuids) (killProcess m uuid) := by
  refine leavesBind sparesTrans (unchangedSpares lookupUnchanged) fun process =>
    leavesBind sparesTrans (unchangedSpares lookupUnchanged) fun request => ?_
  refine leavesBind sparesTrans (silentLeaves sparesRefl (stopSilent m process)) fun _ => ?_
  refine leavesBind sparesTrans (leavesLift sparesRefl _) fun alive => ?_
  exact leavesBind sparesTrans (deleteSpares mem) fun _ => leavesPure sparesRefl _

theorem flushSpares (mem : uuid ∈ uuids) : Leaves (Spares session uuids) (flushOne m uuid) := by
  refine leavesBind sparesTrans (leavesRead sparesRefl) fun pm => ?_
  split
  · exact leavesBind sparesTrans (leavesEmit sparesRefl _) fun _ => leavesPure sparesRefl _
  · refine leavesBind sparesTrans (unchangedSpares lookupUnchanged) fun process =>
      leavesBind sparesTrans (leavesLift sparesRefl _) fun alive => ?_
    cases alive
    · refine leavesBind sparesTrans (leavesLift sparesRefl _) fun still => ?_
      exact leavesBind sparesTrans (deleteSpares mem) fun _ => leavesPure sparesRefl _
    · exact leavesPure sparesRefl _

theorem selectedHidden [Re] {β : Type} {act : List String → Do SSHProcessManager β} (owned : Owned pm) (apart : other ≠ session)
    (spares : ∀ uuids, Leaves (Spares session uuids) (act uuids)) :
    part session ((getProcessUid (.onSession other) false >>= act) pm).state = part session pm := by
  rw [bindOk (a := (pm.candidates false).filter (inPart other pm)) (by rw [uidOnSession owned]),uidOnSession owned,afterState]
  exact (spares _ pm fun uuid mem => otherSession apart (List.mem_filter.mp mem).2).1

end Forget

structure Foreign (session uuid : String) (pm : SSHProcessManager) : Prop where
  recorded : Recorded pm
  known : uuid ∈ pm.bootRequest.keys
  foreign : inPart session pm uuid = false

def Unseen (session uuid : String) (a b : SSHProcessManager) : Prop :=
  Foreign session uuid a → part session b = part session a ∧ Foreign session uuid b

theorem unseenRefl (a : SSHProcessManager) : Unseen session uuid a a := fun foreign => ⟨rfl,foreign⟩

theorem unseenTrans (a b c : SSHProcessManager) (first : Unseen session uuid a b) (second : Unseen session uuid b c) :
    Unseen session uuid a c := by
  intro foreign
  obtain ⟨same,still⟩ := first foreign
  exact ⟨(second still).1.trans same,(second still).2⟩

theorem storeProcessUnseen (process : Nat) : Leaves (Unseen session uuid) (storeProcess uuid process) := by
  intro pm foreign
  refine ⟨?_,fun other mem => ?_,foreign.known,foreign.foreign⟩
  · change part session { pm with processStore := pm.processStore.set uuid process } = _
    rw [partSetProcess,foreign.foreign,if_neg (by decide)]
  · by_cases own : other = uuid
    · exact own ▸ foreign.known
    · obtain ⟨v,found⟩ := Dict.memKeys.mp mem
      exact foreign.recorded other (Dict.memKeys.mpr ⟨v,by simpa [storeProcess,own] using found⟩)

theorem tryHostsUnseen (i : Nat) (hostname : String) (hosts : List String) :
    Leaves (Unseen session uuid) (tryHosts m br uuid i hostname hosts) := by
  induction hosts generalizing i hostname with
  | nil => exact leavesPure unseenRefl _
  | cons host rest ih =>
    unfold tryHosts
    split
    · exact ih (i+1) host
    · refine leavesBind unseenTrans (leavesEmit unseenRefl _) fun _ => leavesBind unseenTrans (storeProcessUnseen _) fun _ => ?_
      split
      · exact ih (i+1) host
      · exact leavesPure unseenRefl _

theorem storeRequestUnseen (apart : br.within session = false) : Leaves (Unseen session uuid) (storeBootRequest uuid br) := by
  intro pm foreign
  refine ⟨?_,setRecorded foreign.recorded,Dict.memKeys.mpr ⟨br,by simp [storeBootRequest]⟩,by simp [inPart,storeBootRequest,apart]⟩
  have same : ∀ old, pm.bootRequest.get? uuid = some old → old.within session = br.within session := by
    intro old found
    have kept := foreign.foreign
    simp only [inPart,found,Option.any_some] at kept
    exact kept.trans apart.symm
  change part session { pm with bootRequest := pm.bootRequest.set uuid br } = _
  rw [partSetRequest foreign.recorded same,apart,if_neg (by decide)]

theorem hostedUnseen (hostname : String) : Leaves (Unseen session uuid) (hosted m uuid hostname) := by
  intro pm foreign
  obtain ⟨request,found⟩ := Dict.memKeys.mp foreign.known
  have apart : (request.withHostname hostname).within session = false := by
    have kept := foreign.foreign
    simp only [inPart,found,Option.any_some] at kept
    exact kept
  unfold hosted
  rw [bindOk (a := request) (by rw [lookupFound found]),lookupFound found,afterState]
  refine leavesBind unseenTrans (storeRequestUnseen apart) (fun _ => leavesBind unseenTrans (leavesRead unseenRefl) fun pm => ?_) pm foreign
  split <;> exact leavesPure unseenRefl _

theorem bootHidden (recorded : Recorded pm) (apart : br.within session = false) :
    part session (boot m br uuid pm).state = part session pm := by
  unfold boot
  rw [readBind]
  split
  · rfl
  · split
    · rfl
    · rename_i fresh
      have absent : pm.bootRequest.get? uuid = none :=
        Option.eq_none_iff_forall_ne_some.mpr fun v found => fresh (Dict.memKeys.mpr ⟨v,found⟩)
      have stored : part session { pm with bootRequest := pm.bootRequest.set uuid br } = part session pm := by
        rw [partSetRequest recorded (fun old found => by rw [absent] at found; contradiction),apart,if_neg (by decide)]
      have foreign : Foreign session uuid { pm with bootRequest := pm.bootRequest.set uuid br } :=
        ⟨setRecorded recorded,Dict.memKeys.mpr ⟨br,by simp⟩,by simp [inPart,apart]⟩
      rw [storeBootRequest,updateBind]
      have rest : Leaves (Unseen session uuid) (tryHosts m br uuid 0 "" br.processRestriction.allowedHosts >>= hosted m uuid) :=
        leavesBind unseenTrans (tryHostsUnseen 0 "" _) hostedUnseen
      exact ((rest _ foreign).1).trans stored

theorem withoutHidden (foreign : inPart session pm uuid = false) : part session (pm.without uuid) = part session pm := by
  have gone : ({ pm with processStore := pm.processStore.erase uuid } : SSHProcessManager).processStore.get? uuid = none := by simp
  have absent : (part session pm).bootRequest.get? uuid = none := by
    simp only [part,Dict.getFilter]
    cases found : pm.bootRequest.get? uuid with
    | none => rfl
    | some br => simpa [inPart,found,Option.filter_some] using foreign
  refine (partEraseRequest gone).trans ?_
  rw [partErase]
  rw [Dict.eraseAbsent (partAbsent foreign),Dict.eraseAbsent absent]

theorem restartHidden [Re] (owned : Owned pm) (apart : other ≠ session) :
    part session (restartImpl m (.onSession other) pm).state = part session pm := by
  rcases restartEnds m (.onSession other) pm with same | ⟨uuid,br,selected,found,same⟩
  · rw [same]
  · rw [uidOnSession owned] at selected
    have mine : uuid ∈ (pm.candidates true).filter (inPart other pm) := by
      rw [Except.ok.inj selected]
      exact List.mem_singleton_self _
    have foreign := otherSession apart (List.mem_filter.mp mine).2
    have apart' : br.within session = false := by simpa [inPart,found] using foreign
    rw [same,bootHidden (withoutRecorded owned.recorded) apart',withoutHidden foreign]

end Hidden
end SSHProcessManager

namespace ManagerRound

def session (r : ManagerRound) : Option String :=
  match r.request.data with
  | some (.bootRequest br) => some br.processDescription.metadata.session
  | some (.processQuery query) => some query.session
  | _ => none

def concerns (session : String) (r : ManagerRound) : Bool := r.session == some session

/-- A request that names one session and nothing else; a termination names them all. -/
structure Confined (r : ManagerRound) : Prop where
  command : r.command ≠ .terminate
  boots : ∀ br, r.request.data = some (.bootRequest br) → br.processDescription.metadata.user ≠ ""
  queries : ∀ query, r.request.data = some (.processQuery query) → query = .onSession query.session

def Fresh (pm : SSHProcessManager) (r : ManagerRound) : Prop := r.command = .boot → r.machines.uuid4 ∉ pm.bootRequest.keys

theorem concernsIff {session : String} {r : ManagerRound} : r.concerns session = true ↔ r.session = some session := by
  simp [concerns]

end ManagerRound

namespace SSHProcessManager
section Rounds
variable {session uuid : String} {pm : SSHProcessManager} {m : Machines} {r : ManagerRound}

def Users (pm : SSHProcessManager) : Prop :=
  ∀ uuid br, pm.bootRequest.get? uuid = some br → br.processDescription.metadata.user ≠ ""

theorem bootUsers {br : BootRequest} (user : br.processDescription.metadata.user ≠ "") (users : Users pm) :
    Users (boot m br uuid pm).state := by
  by_cases refused : br.processRestriction.allowedHosts = [] ∨ uuid ∈ pm.bootRequest.keys
  · obtain ⟨e,run⟩ := bootRefused (m := m) refused
    rw [run]
    exact users
  · rw [not_or] at refused
    obtain ⟨hostname,instance',_,run⟩ := bootBoots m refused.1 refused.2
    rw [run]
    intro other kept here
    by_cases own : other = uuid
    · obtain rfl : br.withHostname hostname = kept := by simpa [afterBoot,own] using here
      exact user
    · exact users other kept (by simpa [afterBoot,own] using here)

theorem packedMirrored {α : Type} {pack : α → Payload} {impl : Do SSHProcessManager α}
    (mirrored : Mirrored (part session) impl impl pm) : Mirrored (part session) (packed pack impl) (packed pack impl) pm :=
  mirroredBind mirrored fun _ _ => mirroredRead (mirroredPure _)

variable [Re]

theorem serveUsers (confined : r.Confined) (recorded : Recorded pm) (users : Users pm) : Users (serve pm r) := by
  have shrunk : ∀ uuids after, Shrinks uuids pm after → Users after := fun uuids after shrinks uuid br here =>
    users uuid br (shrinks.requests ▸ here)
  rcases runCases r pm with refused | ⟨_,works⟩
  · exact (show serve pm r = pm from refused.state).symm ▸ users
  rcases (serveEnds recorded r).1 with same | permitted
  · exact same.symm ▸ users
  obtain ⟨w,m,isAuthorised,command,request⟩ := r
  cases command with
  | boot =>
    obtain ⟨br,data,performs⟩ := works
    rw [show serve pm ⟨w,m,isAuthorised,.boot,request⟩ = (boot m br m.uuid4 pm).state from performs.state]
    exact bootUsers (confined.boots br data) users
  | restart =>
    obtain ⟨query,_,performs⟩ := works
    rw [show serve pm ⟨w,m,isAuthorised,.restart,request⟩ = (restartImpl m query pm).state from performs.state]
    rcases restartEnds m query pm with same | ⟨uuid,br,_,found,same⟩
    · rw [same]
      exact users
    · rw [same]
      refine bootUsers (users uuid br found) fun other kept here => ?_
      by_cases own : other = uuid
      · simp [without,own] at here
      · exact users other kept (by simpa [without,own] using here)
  | terminate => exact absurd rfl confined.command
  | kill =>
    obtain ⟨uuids,_,shrinks⟩ := permitted
    exact shrunk uuids _ shrinks
  | flush =>
    obtain ⟨uuids,_,shrinks⟩ := permitted
    exact shrunk uuids _ shrinks
  | ps => exact permitted.elim

theorem serveOwned (owned : Owned pm) (confined : r.Confined) : Owned (serve pm r) :=
  ⟨(serveEnds owned.recorded r).2.1,serveUsers confined owned.recorded owned.users⟩

theorem concernedMirrored (owned : Owned pm) (confined : r.Confined) (fresh : r.Fresh pm) (mine : r.concerns session = true) :
    Mirrored (part session) (run r) (run r) pm := by
  have mine := ManagerRound.concernsIff.mp mine
  obtain ⟨w,m,isAuthorised,command,request⟩ := r
  have queries : ∀ {β : Type} (pack : β → Payload) (impl : ProcessQuery → Do SSHProcessManager β),
      Mirrored (part session) (impl (.onSession session)) (impl (.onSession session)) pm → ∀ query,
        (unpackTo "ProcessQuery" asProcessQuery).read request.data = some query →
        Mirrored (part session) (packed pack (impl query)) (packed pack (impl query)) pm := by
    intro β pack impl mirrored query read
    have data := queryRead read
    obtain rfl : query.session = session := by simpa [ManagerRound.session,data] using mine
    rw [confined.queries query data]
    exact packedMirrored mirrored
  refine mirroredRead ?_
  cases command with
  | boot =>
    refine stackMirrored fun br read => packedMirrored ?_
    have data : request.data = some (.bootRequest br) := bootRequestRead read
    refine bootMirrored owned.recorded ?_ (fresh rfl)
    simpa [ManagerRound.session,data,BootRequest.within] using mine
  | terminate => exact absurd rfl confined.command
  | restart => exact stackMirrored (queries .processInstance (restartImpl m) (restartMirrored owned))
  | kill =>
    refine stackMirrored (queries .processInstanceList (killImpl m) ?_)
    unfold Mirrored
    rw [killSelects,killSelects]
    exact selectedMirrored owned false fun uuids all =>
      eachMirrored (fun _ _ => killMirrored) (fun _ => killShrinks (List.mem_singleton_self _)) all
  | ps =>
    refine stackMirrored (queries .processInstanceList (psImpl m) ?_)
    exact selectedMirrored owned false fun uuids all =>
      eachMirrored (fun _ _ => psMirrored) (fun uuid => leavesMono (fun pm _ same => by rw [same]; exact shrinksRefl _ pm)
        (psUnchanged m uuid)) all
  | flush =>
    refine stackMirrored (queries .processInstanceList (flushImpl m) ?_)
    refine selectedMirrored owned false fun uuids all => mirroredBind ?_ fun _ _ => mirroredPure _
    exact eachMirrored (fun _ _ => flushMirrored) (fun _ => flushShrinks (List.mem_singleton_self _)) all

theorem unconcernedHidden (owned : Owned pm) (confined : r.Confined) (foreign : r.concerns session = false) :
    part session (serve pm r) = part session pm := by
  have apart : r.session ≠ some session := fun same => by
    rw [ManagerRound.concernsIff.mpr same] at foreign
    contradiction
  rcases runCases r pm with refused | ⟨_,works⟩
  · rw [show serve pm r = pm from refused.state]
  obtain ⟨w,m,isAuthorised,command,request⟩ := r
  have queried : ∀ {query}, request.data = some (.processQuery query) →
      query = .onSession query.session ∧ query.session ≠ session := by
    intro query data
    exact ⟨confined.queries query data,by simpa [ManagerRound.session,data] using apart⟩
  cases command with
  | boot =>
    obtain ⟨br,data,performs⟩ := works
    have data : request.data = some (.bootRequest br) := data
    rw [show serve pm ⟨w,m,isAuthorised,.boot,request⟩ = (boot m br m.uuid4 pm).state from performs.state]
    refine bootHidden owned.recorded ?_
    simpa [ManagerRound.session,data,BootRequest.within] using apart
  | terminate => exact absurd rfl confined.command
  | restart =>
    obtain ⟨query,data,performs⟩ := works
    obtain ⟨named,other⟩ := queried data
    rw [show serve pm ⟨w,m,isAuthorised,.restart,request⟩ = (restartImpl m query pm).state from performs.state,named]
    exact restartHidden owned other
  | kill =>
    obtain ⟨query,data,performs⟩ := works
    obtain ⟨named,other⟩ := queried data
    rw [show serve pm ⟨w,m,isAuthorised,.kill,request⟩ = (killImpl m query pm).state from performs.state,killSelects,named]
    exact selectedHidden owned other fun uuids => leavesEach sparesRefl sparesTrans fun _ mem => killSpares mem
  | ps =>
    obtain ⟨query,data,performs⟩ := works
    rw [show serve pm ⟨w,m,isAuthorised,.ps,request⟩ = pm from performs.state.trans (psEnds m query pm).1]
  | flush =>
    obtain ⟨query,data,performs⟩ := works
    obtain ⟨named,other⟩ := queried data
    rw [show serve pm ⟨w,m,isAuthorised,.flush,request⟩ = (flushImpl m query pm).state from performs.state,named]
    refine selectedHidden owned other fun uuids => leavesBind sparesTrans ?_ fun _ => leavesPure sparesRefl _
    exact leavesEach sparesRefl sparesTrans fun _ mem => flushSpares mem

end Rounds
end SSHProcessManager
namespace Sample

def otherRequest : BootRequest :=
  ⟨⟨⟨"app","user","other","","0"⟩,[],[⟨"daq_application",[]⟩],"/tmp","/tmp/log"⟩,⟨["host"]⟩⟩

def otherRound : ManagerRound :=
  { bootRound with machines := { healthy with uuid4 := "uuid-2" }, request := ⟨user,some (.bootRequest otherRequest)⟩ }

def twoSessions : List ManagerRound := [bootRound,otherRound,killRound (.onSession "other")]

theorem twoSessionsConfined : ∀ r ∈ twoSessions, r.Confined := by
  simp only [twoSessions,List.forall_mem_cons]
  refine ⟨⟨by decide,?_,?_⟩,⟨by decide,?_,?_⟩,⟨by decide,?_,?_⟩,fun _ mem => absurd mem List.not_mem_nil⟩
  all_goals
    intro _ data
    cases data <;> decide

theorem twoSessionsFresh :
    Along SSHProcessManager.serve (fun pm r => r.Fresh pm) (.started "manager") twoSessions :=
  ⟨fun _ => by decide,fun _ => by decide,fun boots => absurd boots (by decide),trivial⟩

end Sample

open Sample in
example : (SSHProcessManager.serveAll (.started "manager") twoSessions).processStore.keys = ["uuid-1"] := by decide

end Drunc
