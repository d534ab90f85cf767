import Drunc.Launching
import Drunc.ProcessTable

/-! What `ps` lists after booting: one process instance for each boot request, in the order
of the boots. So the lists that the table of the processes is made of are those that the
manager gives. A boot of which no host accepts the launch leaves nothing to be listed. -/
namespace Drunc
open Library (Dict)
open Library.Act
open ProcessManagerDriver (convertOksToBootRequest)

namespace SSHProcessManager

def bootAll (boots : List (Machines × BootRequest)) (pm : SSHProcessManager) : SSHProcessManager :=
  boots.foldl (fun pm boot => (bootImpl boot.1 boot.2 pm).state) pm

def KeptFor (pm : SSHProcessManager) (uuid : String) (br : BootRequest) : Prop :=
  ∃ hostname, pm.bootRequest.get? uuid = some (br.withHostname hostname)

def Keeping (pm : SSHProcessManager) (requests : List BootRequest) : Prop :=
  List.Forall₂ (KeptFor pm) pm.processStore.keys requests

def ListedFor (pm : SSHProcessManager) (uuid : String) (p : ProcessInstance) : Prop :=
  p.uuid = uuid ∧ ∃ request, pm.bootRequest.get? uuid = some request ∧
    p.processDescription = request.processDescription ∧ p.processRestriction = request.processRestriction

section Boots
variable {m : Machines} {br : BootRequest} {uuid : String} {pm : SSHProcessManager} {requests : List BootRequest}

theorem storeLaunchedAgain {store : Dict String Nat} (mem : uuid ∈ store.keys) (processes : List Nat) :
    (storeLaunched uuid processes store).keys = store.keys := by
  induction processes generalizing store with
  | nil => rfl
  | cons process rest ih =>
    have same : (store.set uuid process).keys = store.keys := (Dict.assignKeys uuid process store.entries).trans (if_pos mem)
    exact (ih (same ▸ mem)).trans same

theorem storeLaunchedKeys {processes : List Nat} (some : processes ≠ []) {store : Dict String Nat} (fresh : uuid ∉ store.keys) :
    (storeLaunched uuid processes store).keys = store.keys ++ [uuid] := by
  cases processes with
  | nil => exact absurd rfl some
  | cons process rest =>
    have first : (store.set uuid process).keys = store.keys ++ [uuid] :=
      (Dict.assignKeys uuid process store.entries).trans (if_neg fresh)
    have mem : uuid ∈ (store.set uuid process).keys := first ▸ List.mem_append_right _ List.mem_cons_self
    exact (storeLaunchedAgain mem rest).trans first

theorem keepingRecorded (keeping : Keeping pm requests) : Recorded pm := by
  have known : List.Forall₂ (fun uuid br => uuid ∈ pm.bootRequest.keys ∧ KeptFor pm uuid br) pm.processStore.keys requests :=
    keeping.imp fun uuid br kept => ⟨Dict.memKeys.mpr ⟨_,kept.choose_spec⟩,kept⟩
  exact ((List.forall₂_and_left _ _).mp known).1

theorem bootKeeping (keeping : Keeping pm requests) (hosts : br.processRestriction.allowedHosts ≠ [])
    (fresh : m.uuid4 ∉ pm.bootRequest.keys) (launch : launched m br ≠ []) :
    Keeping (bootImpl m br pm).state (requests ++ [br]) ∧
      ∀ uuid, uuid ∈ (bootImpl m br pm).state.bootRequest.keys → uuid ∈ pm.bootRequest.keys ∨ uuid = m.uuid4 := by
  obtain ⟨hostname,_,_,run⟩ := bootBoots m hosts fresh
  have found : ∀ uuid, (afterBoot m br m.uuid4 hostname pm).bootRequest.get? uuid =
      if uuid = m.uuid4 then some (br.withHostname hostname) else pm.bootRequest.get? uuid := by
    intro uuid
    by_cases own : uuid = m.uuid4 <;> simp [afterBoot,own]
  have others : ∀ uuid ∈ pm.processStore.keys, uuid ≠ m.uuid4 := by
    rintro _ mem rfl
    exact fresh (keepingRecorded keeping _ mem)
  have keys : (afterBoot m br m.uuid4 hostname pm).processStore.keys = pm.processStore.keys ++ [m.uuid4] :=
    storeLaunchedKeys launch fun mem => others _ mem rfl
  unfold bootImpl Keeping
  rw [run]
  dsimp only
  rw [keys]
  constructor
  · have before := ((List.forall₂_and_left _ _).mpr ⟨others,keeping⟩).imp (S := KeptFor (afterBoot m br m.uuid4 hostname pm))
      fun uuid request both => both.2.imp fun _ kept => (found uuid).trans ((if_neg both.1).trans kept)
    exact List.rel_append before (.cons ⟨hostname,(found m.uuid4).trans (if_pos rfl)⟩ .nil)
  · intro uuid mem
    obtain ⟨request,here⟩ := Dict.memKeys.mp mem
    rw [found] at here
    split at here
    · exact .inr ‹_›
    · exact .inl (Dict.memKeys.mpr ⟨request,here⟩)

theorem bootAllKeeping {boots : List (Machines × BootRequest)} (keeping : Keeping pm requests)
    (fresh : ∀ boot ∈ boots, boot.1.uuid4 ∉ pm.bootRequest.keys) (apart : (boots.map fun boot => boot.1.uuid4).Nodup)
    (each : ∀ boot ∈ boots, boot.2.processRestriction.allowedHosts ≠ [] ∧ launched boot.1 boot.2 ≠ []) :
    Keeping (bootAll boots pm) (requests ++ boots.map Prod.snd) := by
  induction boots generalizing pm requests with
  | nil => rwa [List.map_nil,List.append_nil]
  | cons boot rest ih =>
    obtain ⟨other,apart⟩ := List.nodup_cons.mp apart
    obtain ⟨hosts,launch⟩ := each boot List.mem_cons_self
    obtain ⟨after,only⟩ := bootKeeping keeping hosts (fresh boot List.mem_cons_self) launch
    have later := ih after (fun next mem known => ?_) apart fun next mem => each next (List.mem_cons_of_mem boot mem)
    · rwa [List.append_assoc] at later
    · rcases only _ known with old | own
      · exact fresh next (List.mem_cons_of_mem boot mem) old
      · exact other (List.mem_map.mpr ⟨next,mem,own⟩)

end Boots

theorem lookupReads {ν : Type} {dict : SSHProcessManager → Dict String ν} {uuid : String} {pm : SSHProcessManager} {v : ν}
    (ok : (lookup dict uuid pm).result = .ok v) : (dict pm).get? uuid = some v := by
  cases found : (dict pm).get? uuid with
  | none =>
    rw [lookupMissing found] at ok
    contradiction
  | some w =>
    rw [lookupFound found] at ok
    cases ok
    rfl

section Ps
variable {m : Machines} {uuid : String} {uuids : List String} {pm : SSHProcessManager}

theorem psOneReads (stored : uuid ∈ pm.processStore.keys) {p : ProcessInstance} (ok : (psOne m uuid pm).result = .ok p) :
    ListedFor pm uuid p := by
  obtain ⟨process,found⟩ := Dict.memKeys.mp stored
  unfold psOne at ok
  rw [readBind,found] at ok
  obtain ⟨request,known,ok⟩ := bindReturned ok
  obtain ⟨_,_,ok⟩ := bindReturned ok
  obtain ⟨_,_,ok⟩ := bindReturned ok
  cases ok
  exact ⟨rfl,request,lookupReads known,rfl,rfl⟩

theorem psEachReads (stored : ∀ uuid ∈ uuids, uuid ∈ pm.processStore.keys) {values : List ProcessInstance}
    (ok : (each (psOne m) uuids pm).result = .ok values) : List.Forall₂ (ListedFor pm) uuids values := by
  have reads := eachReturned (psUnchanged m) ok
  exact ((List.forall₂_and_left _ _).mpr ⟨stored,reads⟩).imp fun uuid p both => psOneReads both.1 both.2

theorem readLaunched {requests : List BootRequest} {values : List ProcessInstance} (reads : List.Forall₂ (ListedFor pm) uuids values)
    (kept : List.Forall₂ (KeptFor pm) uuids requests) : List.Forall₂ Launched values requests := by
  induction reads generalizing requests with
  | nil =>
    cases kept
    exact .nil
  | cons listed _ ih =>
    obtain ⟨_,request,known,description,restriction⟩ := listed
    cases kept with
    | cons first rest =>
      obtain ⟨hostname,here⟩ := first
      cases known.symm.trans here
      exact .cons ⟨hostname,description,restriction⟩ (ih rest)

theorem readUuids {values : List ProcessInstance} (reads : List.Forall₂ (ListedFor pm) uuids values) :
    values.map ProcessInstance.uuid = uuids := by
  induction reads with
  | nil => rfl
  | cons listed _ ih => rw [List.map_cons,listed.1,ih]

theorem psHeld [Re] (name : String) {boots : List (Machines × BootRequest)} (apart : (boots.map fun boot => boot.1.uuid4).Nodup)
    (launch : ∀ boot ∈ boots, launched boot.1 boot.2 ≠ []) {query : ProcessQuery} {calls : List BootCall}
    (booted : ∀ c ∈ calls, (convertOksToBootRequest c).2 = none)
    (alternating : ∀ c ∈ calls, ProcessManagerDriver.Alternating c.session.segment) (sessions : (calls.map BootCall.sessionName).Nodup)
    (requested : (boots.map Prod.snd).Perm (calls.flatMap fun c => (convertOksToBootRequest c).1))
    (chosen : (getProcessUid query false (bootAll boots (.started name))).result = .ok (bootAll boots (.started name)).processStore.keys)
    {values : List ProcessInstance} (listed : (psImpl m query (bootAll boots (.started name))).result = .ok values) : Held calls values := by
  have keeping : Keeping (bootAll boots (.started name)) (boots.map Prod.snd) := by
    refine bootAllKeeping (.nil : Keeping (.started name) []) (fun _ _ => List.not_mem_nil) apart fun boot mem => ⟨?_,launch boot mem⟩
    obtain ⟨c,_,sent⟩ := List.mem_flatMap.mp (requested.subset (List.mem_map_of_mem mem))
    exact ProcessManagerDriver.convertedHosts sent
  generalize bootAll boots (.started name) = pm at keeping chosen listed
  obtain ⟨uuids,all,listed⟩ := bindReturned listed
  rw [getProcessUidUnchanged query false pm] at listed
  cases Except.ok.inj (all.symm.trans chosen)
  have reads := psEachReads (fun _ mem => mem) listed
  refine ⟨booted,alternating,sessions,⟨_,requested,readLaunched reads keeping⟩,?_⟩
  rw [readUuids reads]
  exact pm.processStore.distinct

end Ps
end SSHProcessManager
end Drunc
