import Drunc.Library.Heap
import Drunc.OksParser

/-! The environments of the processes, as the dictionaries of a heap. The walk over the
segments copies what its caller has passed and writes into the copies only, so it comes
to what `collectApps` computes from values, and each process has a dictionary to itself.
The walk over the infrastructure applications writes into its caller's dictionary, and
copies that for each process. Either way a variable has the last value that the process,
else the session, else the base environment gives it. -/
namespace Drunc
open Library (Dict Heap)
open Library.Heap (Keeps keepsRefl keepsTrans keepsCopy keepsUpdate)

/-- What `collect_apps` lists for a process: `env` is a reference to its dictionary. -/
structure AppReference where
  name : String
  type : String
  args : List String
  restriction : String
  host : String
  env : Nat
  treeId : String
  logPath : String

def AppReference.read (h : Heap (Dict String String)) (a : AppReference) : AppEntry :=
  ⟨a.name,a.type,a.args,a.restriction,a.host,h.cell a.env,a.treeId,a.logPath⟩

namespace OksParser

mutual
def collectVariableAt (envDict : Nat) (h : Heap (Dict String String)) : EnvironmentItem → Heap (Dict String String)
  | .variable name value => h.update envDict (fun d => d.set name value)
  | .variableSet contains => collectVariablesAt envDict h contains
  | .other _ => h
def collectVariablesAt (envDict : Nat) (h : Heap (Dict String String)) : List EnvironmentItem → Heap (Dict String String)
  | [] => h
  | item :: rest => collectVariablesAt envDict (collectVariableAt envDict h item) rest
end

section Walk
variable (m : ConfModel) (dbPath : Option String) (session : Session)

def sessionEnvironmentAt (defenv : Nat) (h : Heap (Dict String String)) : Heap (Dict String String) :=
  collectVariablesAt defenv (match dbPath with
    | none => h
    | some path => h.update defenv (fun d => d.set "DUNEDAQ_DB_PATH" path)) session.environment

def ownEnvironmentAt (defenv : Nat) (app : OksApplication) (h : Heap (Dict String String)) : Heap (Dict String String) × Nat :=
  let (h,appEnv) := h.copy defenv
  let h := collectVariablesAt appEnv h app.applicationEnvironment
  (h.update appEnv (fun d => d.set "DUNEDAQ_APPLICATION_NAME" app.id),appEnv)

def appAt (defenv : Nat) (app : OksApplication) (args : List String) (treePrefix : List Nat) (h : Heap (Dict String String)) :
    Heap (Dict String String) × AppReference :=
  let (h,appEnv) := ownEnvironmentAt defenv app h
  (h,⟨app.id,app.applicationName,args,app.runsOn,app.runsOn,appEnv,String.intercalate "." (treePrefix.map toString),app.logPath⟩)

def collectApplicationsAt (defenv : Nat) (treePrefix : List Nat) (appIndex : Nat) (h : Heap (Dict String String)) :
    List OksApplication → Heap (Dict String String) × List AppReference
  | [] => (h,[])
  | app :: rest =>
      if applicationEnabled m session app then
        let (h,first) := appAt defenv app (getCla m session.id app) (treePrefix ++ [appIndex]) h
        let (h,apps) := collectApplicationsAt defenv treePrefix (appIndex+1) h rest
        (h,first :: apps)
      else collectApplicationsAt defenv treePrefix appIndex h rest

mutual
def collectAppsAt (env : Nat) (treePrefix : List Nat) (h : Heap (Dict String String)) :
    Segment → Heap (Dict String String) × List AppReference
  | .mk _ controller segments applications =>
      let (h,defenv) := h.copy env
      let h := sessionEnvironmentAt dbPath session defenv h
      let (h,own) := appAt defenv controller.toOksApplication (getCla m session.id controller.toOksApplication) treePrefix h
      let (h,below) := collectSegmentsAt env treePrefix 0 h segments
      let (h,apps) := collectApplicationsAt m session defenv treePrefix 0 h applications
      (h,own :: (below ++ apps))
def collectSegmentsAt (env : Nat) (treePrefix : List Nat) (idx : Nat) (h : Heap (Dict String String)) :
    List Segment → Heap (Dict String String) × List AppReference
  | [] => (h,[])
  | seg :: rest =>
      if m.componentDisabled session.id seg.id then collectSegmentsAt env treePrefix (idx+1) h rest
      else
        let (h,inside) := collectAppsAt env (treePrefix ++ [idx]) h seg
        let (h,apps) := collectSegmentsAt env treePrefix (idx+1) h rest
        (h,inside ++ apps)
end

def collectInfraAt (defenv : Nat) (front : List Nat) (last appIndex : Nat) (h : Heap (Dict String String)) :
    List OksApplication → Heap (Dict String String) × List AppReference
  | [] => (h,[])
  | app :: rest =>
      if app.applicationName = "" then collectInfraAt defenv front last (appIndex+1) h rest
      else
        let (h,first) := appAt defenv app app.commandlineParameters (front ++ [last + appIndex]) h
        let (h,apps) := collectInfraAt defenv front last (appIndex+1) h rest
        (h,first :: apps)

/-- The tree prefix is given as what comes before its last number, and that number. -/
def collectInfraApps (infrastructureApplications : List OksApplication) (env : Nat) (front : List Nat) (last : Nat)
    (h : Heap (Dict String String)) : Heap (Dict String String) × List AppReference :=
  collectInfraAt env front last 0 (sessionEnvironmentAt dbPath session env h) infrastructureApplications

end Walk

mutual
theorem variableAt (envDict : Nat) (h : Heap (Dict String String)) :
    ∀ item, collectVariableAt envDict h item = h.update envDict (fun d => collectVariable d item)
  | .variable _ _ => rfl
  | .variableSet contains => variablesAt envDict h contains
  | .other _ => Heap.updateNothing.symm
theorem variablesAt (envDict : Nat) (h : Heap (Dict String String)) :
    ∀ items, collectVariablesAt envDict h items = h.update envDict (fun d => collectVariables d items)
  | [] => Heap.updateNothing.symm
  | item :: rest => by
      rw [collectVariablesAt,variableAt,variablesAt,Heap.updateTwice]
      rfl
end

theorem sessionAt (dbPath : Option String) (session : Session) (defenv : Nat) (h : Heap (Dict String String)) :
    sessionEnvironmentAt dbPath session defenv h = h.update defenv (defaultEnv dbPath session) := by
  unfold sessionEnvironmentAt
  rw [variablesAt]
  cases dbPath with
  | none => rfl
  | some path => exact Heap.updateTwice

def entryWith (d : Dict String String) (app : OksApplication) (args : List String) (treePrefix : List Nat) : AppEntry :=
  ⟨app.id,app.applicationName,args,app.runsOn,app.runsOn,
    (collectVariables d app.applicationEnvironment).set "DUNEDAQ_APPLICATION_NAME" app.id,
    String.intercalate "." (treePrefix.map toString),app.logPath⟩

structure Collected (h later : Heap (Dict String String)) (apps : List AppReference) (entries : List AppEntry) : Prop where
  keeps : Keeps h later
  fresh : ∀ a ∈ apps, h.next ≤ a.env ∧ a.env < later.next
  apart : (apps.map AppReference.env).Nodup
  reads : apps.map (AppReference.read later) = entries

section Collected
variable {h mid later : Heap (Dict String String)} {one two : List AppReference} {entries others : List AppEntry}

theorem collectedNone (h : Heap (Dict String String)) : Collected h h [] [] :=
  ⟨keepsRefl h,fun _ mem => absurd mem List.not_mem_nil,List.nodup_nil,rfl⟩

theorem readKept (kept : Keeps mid later) (old : ∀ a ∈ one, a.env < mid.next) :
    one.map (AppReference.read later) = one.map (AppReference.read mid) := by
  refine List.map_congr_left fun a mem => ?_
  unfold AppReference.read
  rw [kept.same a.env (old a mem)]

theorem collectedThen (first : Collected h mid one entries) (second : Collected mid later two others) :
    Collected h later (one ++ two) (entries ++ others) := by
  refine ⟨keepsTrans first.keeps second.keeps,fun a mem => ?_,?_,?_⟩
  · rcases List.mem_append.mp mem with mem | mem
    · exact ⟨(first.fresh a mem).1,(first.fresh a mem).2.trans_le second.keeps.room⟩
    · exact ⟨first.keeps.room.trans (second.fresh a mem).1,(second.fresh a mem).2⟩
  · rw [List.map_append]
    refine first.apart.append second.apart fun r inOne inTwo => ?_
    obtain ⟨a,memA,rfl⟩ := List.mem_map.mp inOne
    obtain ⟨b,memB,same⟩ := List.mem_map.mp inTwo
    -- what the second walk made is newer than all that the first one has
    exact absurd (same ▸ (second.fresh b memB).1) (Nat.not_le.mpr (first.fresh a memA).2)
  · rw [List.map_append,readKept second.keeps fun a mem => (first.fresh a mem).2]
    exact congrArg₂ _ first.reads second.reads

theorem collectedLater (kept : Keeps h mid) (rest : Collected mid later one entries) : Collected h later one entries :=
  ⟨keepsTrans kept rest.keeps,fun a mem => ⟨kept.room.trans (rest.fresh a mem).1,(rest.fresh a mem).2⟩,rest.apart,rest.reads⟩

theorem appSplit (defenv : Nat) (app : OksApplication) (args : List String) (treePrefix : List Nat) (h : Heap (Dict String String)) :
    appAt defenv app args treePrefix h = ((h.copy defenv).1.update h.next fun d =>
        (collectVariables d app.applicationEnvironment).set "DUNEDAQ_APPLICATION_NAME" app.id,
      ⟨app.id,app.applicationName,args,app.runsOn,app.runsOn,h.next,String.intercalate "." (treePrefix.map toString),app.logPath⟩) := by
  have own : ownEnvironmentAt defenv app h = ((collectVariablesAt h.next (h.copy defenv).1 app.applicationEnvironment).update h.next
      fun d => d.set "DUNEDAQ_APPLICATION_NAME" app.id,h.next) := rfl
  rw [variablesAt,Heap.updateTwice] at own
  rw [appAt,own]
  rfl

theorem collectedApp (h : Heap (Dict String String)) (defenv : Nat) (app : OksApplication) (args : List String) (treePrefix : List Nat) :
    Collected h (appAt defenv app args treePrefix h).1 [(appAt defenv app args treePrefix h).2]
      [entryWith (h.cell defenv) app args treePrefix] := by
  rw [appSplit]
  dsimp only
  refine ⟨keepsUpdate (keepsCopy h defenv) (Nat.le_refl _),?_,List.nodup_singleton _,?_⟩
  · intro a mem
    rw [List.mem_singleton.mp mem]
    exact ⟨Nat.le_refl _,Nat.lt_succ_self _⟩
  · unfold AppReference.read entryWith
    simp only [List.map_singleton,Heap.updateHere,Heap.copyHere]

end Collected

section Walk
variable {m : ConfModel} {dbPath : Option String} {session : Session} {base : Dict String String} {env defenv : Nat}

theorem collectedApplications (treePrefix : List Nat) (appIndex : Nat) {h : Heap (Dict String String)} (apps : List OksApplication)
    (old : defenv < h.next) (here : h.cell defenv = defaultEnv dbPath session base) :
    Collected h (collectApplicationsAt m session defenv treePrefix appIndex h apps).1
      (collectApplicationsAt m session defenv treePrefix appIndex h apps).2
      (collectApplications m dbPath session base treePrefix appIndex apps) := by
  induction apps generalizing h appIndex with
  | nil => exact collectedNone h
  | cons app rest ih =>
    rw [collectApplicationsAt,collectApplications]
    split
    · have first := collectedApp h defenv app (getCla m session.id app) (treePrefix ++ [appIndex])
      rw [here] at first
      exact collectedThen first (ih (appIndex+1) (old.trans_le first.keeps.room) ((first.keeps.same defenv old).trans here))
    · exact ih appIndex old here

theorem collectedSegments {segments : List Segment}
    (each : ∀ seg ∈ segments, ∀ treePrefix, ∀ h : Heap (Dict String String), env < h.next →
      Collected h (collectAppsAt m dbPath session env treePrefix h seg).1 (collectAppsAt m dbPath session env treePrefix h seg).2
        (collectApps m dbPath session (h.cell env) treePrefix seg))
    (treePrefix : List Nat) (idx : Nat) {h : Heap (Dict String String)} (old : env < h.next) (here : h.cell env = base) :
    Collected h (collectSegmentsAt m dbPath session env treePrefix idx h segments).1
      (collectSegmentsAt m dbPath session env treePrefix idx h segments).2
      (collectSegments m dbPath session base treePrefix idx segments) := by
  induction segments generalizing h idx with
  | nil => exact collectedNone h
  | cons seg rest ih =>
    have later := ih fun other mem => each other (List.mem_cons_of_mem seg mem)
    rw [collectSegmentsAt,collectSegments]
    split
    · exact later (idx+1) old here
    · have first := each seg List.mem_cons_self (treePrefix ++ [idx]) h old
      rw [here] at first
      exact collectedThen first (later (idx+1) (old.trans_le first.keeps.room) ((first.keeps.same env old).trans here))

theorem collectAppsAtSplit (env : Nat) (treePrefix : List Nat) (h : Heap (Dict String String)) (s : Segment) :
    collectAppsAt m dbPath session env treePrefix h s =
      let defenv := sessionEnvironmentAt dbPath session h.next (h.copy env).1
      let own := appAt h.next s.controller.toOksApplication (getCla m session.id s.controller.toOksApplication) treePrefix defenv
      let below := collectSegmentsAt m dbPath session env treePrefix 0 own.1 s.segments
      let apps := collectApplicationsAt m session h.next treePrefix 0 below.1 s.applications
      (apps.1,own.2 :: (below.2 ++ apps.2)) := by
  obtain ⟨id,controller,segments,applications⟩ := s
  rw [collectAppsAt]
  rfl

theorem collectedApps (env : Nat) (treePrefix : List Nat) (h : Heap (Dict String String)) (s : Segment) (old : env < h.next) :
    Collected h (collectAppsAt m dbPath session env treePrefix h s).1 (collectAppsAt m dbPath session env treePrefix h s).2
      (collectApps m dbPath session (h.cell env) treePrefix s) := by
  induction s using Segment.inductOn generalizing treePrefix h with
  | step s ih =>
    rw [collectAppsAtSplit,collectAppsSplit,sessionAt]
    have there : ((h.copy env).1.update h.next (defaultEnv dbPath session)).cell h.next = defaultEnv dbPath session (h.cell env) := by
      rw [Heap.updateHere,Heap.copyHere]
    have copied : Keeps h ((h.copy env).1.update h.next (defaultEnv dbPath session)) :=
      keepsUpdate (keepsCopy h env) (Nat.le_refl _)
    have room : h.next < ((h.copy env).1.update h.next (defaultEnv dbPath session)).next := Nat.lt_succ_self _
    -- only what this copy holds and keeps counts from here on
    generalize (h.copy env).1.update h.next (defaultEnv dbPath session) = defenv at there copied room ⊢
    have own := collectedApp defenv h.next s.controller.toOksApplication
      (getCla m session.id s.controller.toOksApplication) treePrefix
    have kept := keepsTrans copied own.keeps
    have below := collectedSegments ih treePrefix 0 (old.trans_le kept.room) (kept.same env old)
    have through := keepsTrans own.keeps below.keeps
    have apps := collectedApplications (m := m) treePrefix 0 s.applications (room.trans_le through.room)
      ((through.same h.next room).trans there)
    rw [there] at own
    exact collectedLater copied (collectedThen own (collectedThen below apps))

def infraEntries (d : Dict String String) (front : List Nat) (last appIndex : Nat) (apps : List OksApplication) : List AppEntry :=
  ((apps.zipIdx appIndex).filter fun app => app.1.applicationName ≠ "").map fun app =>
    entryWith d app.1 app.1.commandlineParameters (front ++ [last + app.2])

theorem collectedInfra (defenv : Nat) (front : List Nat) (last appIndex : Nat) {h : Heap (Dict String String)} (apps : List OksApplication)
    (old : defenv < h.next) : Collected h (collectInfraAt defenv front last appIndex h apps).1
      (collectInfraAt defenv front last appIndex h apps).2 (infraEntries (h.cell defenv) front last appIndex apps) := by
  induction apps generalizing h appIndex with
  | nil => exact collectedNone h
  | cons app rest ih =>
    rw [collectInfraAt,infraEntries,List.zipIdx_cons]
    split
    · rename_i skipped
      rw [List.filter_cons_of_neg (by simp [skipped])]
      exact ih (appIndex+1) old
    · rename_i named
      have first := collectedApp h defenv app app.commandlineParameters (front ++ [last + appIndex])
      have later := ih (appIndex+1) (old.trans_le first.keeps.room)
      rw [first.keeps.same defenv old] at later
      rw [List.filter_cons_of_pos (by simp [named])]
      exact collectedThen first later

theorem infraEnvironments (d : Dict String String) (front : List Nat) (last : Nat) (apps : List OksApplication) :
    (infraEntries d front last 0 apps).map (fun e => (e.name,e.env)) = (apps.filter fun app => app.applicationName ≠ "").map fun app =>
      (app.id,(collectVariables d app.applicationEnvironment).set "DUNEDAQ_APPLICATION_NAME" app.id) := by
  have listed := List.filter_map (f := Prod.fst) (p := fun app : OksApplication => decide (app.applicationName ≠ "")) (l := apps.zipIdx)
  rw [List.zipIdx_map_fst] at listed
  rw [listed,infraEntries,List.map_map,List.map_map]
  rfl

end Walk

mutual
def assignments : EnvironmentItem → List (String × String)
  | .variable name value => [(name,value)]
  | .variableSet contains => assignmentsAmong contains
  | .other _ => []
def assignmentsAmong : List EnvironmentItem → List (String × String)
  | [] => []
  | item :: rest => assignments item ++ assignmentsAmong rest
end

def assigned (items : List EnvironmentItem) (key : String) : Option String := (assignmentsAmong items).reverse.lookup key

def givenVariable (dbPath : Option String) (session : Session) (base : Dict String String) (app : OksApplication)
    (key : String) : Option String :=
  if key = "DUNEDAQ_APPLICATION_NAME" then some app.id
  else (assigned app.applicationEnvironment key).or
    ((assigned session.environment key).or ((if key = "DUNEDAQ_DB_PATH" then dbPath else none).or (base.get? key)))

mutual
def processes (m : ConfModel) (session : Session) : Segment → List OksApplication
  | .mk _ controller segments applications =>
      controller.toOksApplication :: (processesAmong m session segments ++ applications.filter (applicationEnabled m session))
def processesAmong (m : ConfModel) (session : Session) : List Segment → List OksApplication
  | [] => []
  | seg :: rest =>
      if m.componentDisabled session.id seg.id then processesAmong m session rest
      else processes m session seg ++ processesAmong m session rest
end

def Given (dbPath : Option String) (session : Session) (base : Dict String String) (h : Heap (Dict String String))
    (app : OksApplication) (a : AppReference) : Prop :=
  a.name = app.id ∧ ∀ key, (h.cell a.env).get? key = givenVariable dbPath session base app key

section Spec

mutual
theorem variableAssigns (d : Dict String String) :
    ∀ item, collectVariable d item = (assignments item).foldl (fun d a => d.set a.1 a.2) d
  | .variable _ _ => rfl
  | .variableSet contains => variablesAssign d contains
  | .other _ => rfl
theorem variablesAssign (d : Dict String String) :
    ∀ items, collectVariables d items = (assignmentsAmong items).foldl (fun d a => d.set a.1 a.2) d
  | [] => rfl
  | item :: rest => by rw [collectVariables,variableAssigns,variablesAssign,assignmentsAmong,List.foldl_append]
end

theorem lastAssigned (d : Dict String String) (key : String) (pairs : List (String × String)) :
    (pairs.foldl (fun d a => d.set a.1 a.2) d).get? key = (pairs.reverse.lookup key).or (d.get? key) := by
  induction pairs generalizing d with
  | nil => rfl
  | cons a rest ih =>
    rw [List.foldl_cons,ih,List.reverse_cons,List.lookup_append,Dict.getSet,List.lookup_cons,List.lookup_nil,Option.or_assoc]
    by_cases same : key = a.1
    · simp [same]
    · rw [if_neg same,beq_false_of_ne same,Option.none_or]

theorem getCollected (d : Dict String String) (items : List EnvironmentItem) (key : String) :
    (collectVariables d items).get? key = (assigned items key).or (d.get? key) := by
  rw [variablesAssign,lastAssigned]
  rfl

theorem getOwn (dbPath : Option String) (session : Session) (base : Dict String String) (app : OksApplication) (key : String) :
    ((collectVariables (defaultEnv dbPath session base) app.applicationEnvironment).set "DUNEDAQ_APPLICATION_NAME" app.id).get? key =
      givenVariable dbPath session base app key := by
  unfold givenVariable defaultEnv
  rw [Dict.getSet,getCollected,getCollected]
  cases dbPath with
  | none => simp
  | some path =>
    rw [Dict.getSet]
    by_cases same : key = "DUNEDAQ_DB_PATH" <;> simp [same]

theorem applicationEnvironments {m : ConfModel} {dbPath : Option String} {session : Session} {base : Dict String String}
    (treePrefix : List Nat) (appIndex : Nat) (apps : List OksApplication) :
    (collectApplications m dbPath session base treePrefix appIndex apps).map (fun e => (e.name,e.env)) =
      (apps.filter (applicationEnabled m session)).map fun app => (app.id,
        (collectVariables (defaultEnv dbPath session base) app.applicationEnvironment).set "DUNEDAQ_APPLICATION_NAME" app.id) := by
  induction apps generalizing appIndex with
  | nil => rfl
  | cons app rest ih =>
    rw [collectApplications,List.filter_cons]
    split
    · rw [List.map_cons,List.map_cons,ih]
      rfl
    · exact ih appIndex

theorem collectedEnvironments {m : ConfModel} {dbPath : Option String} {session : Session} {base : Dict String String}
    (treePrefix : List Nat) (s : Segment) :
    (collectApps m dbPath session base treePrefix s).map (fun e => (e.name,e.env)) = (processes m session s).map fun app => (app.id,
      (collectVariables (defaultEnv dbPath session base) app.applicationEnvironment).set "DUNEDAQ_APPLICATION_NAME" app.id) := by
  induction s using Segment.inductOn generalizing treePrefix with
  | step s ih =>
    have among : ∀ idx segments, (∀ seg ∈ segments, seg ∈ s.segments) →
        (collectSegments m dbPath session base treePrefix idx segments).map (fun e => (e.name,e.env)) =
          (processesAmong m session segments).map fun app => (app.id,
            (collectVariables (defaultEnv dbPath session base) app.applicationEnvironment).set "DUNEDAQ_APPLICATION_NAME" app.id) := by
      intro idx segments below
      induction segments generalizing idx with
      | nil => rfl
      | cons seg rest later =>
        have tail := later (idx+1) fun other mem => below other (List.mem_cons_of_mem seg mem)
        rw [collectSegments,processesAmong]
        split
        · exact tail
        · rw [List.map_append,List.map_append,tail,ih seg (below seg List.mem_cons_self)]
    obtain ⟨id,controller,segments,applications⟩ := s
    rw [collectApps,processes,List.map_cons,List.map_append,List.map_cons,List.map_append,applicationEnvironments,
      among 0 segments fun _ mem => mem]
    rfl

theorem givenEach {dbPath : Option String} {session : Session} {base : Dict String String} {h later : Heap (Dict String String)}
    {apps : List OksApplication} {refs : List AppReference} {entries : List AppEntry} (collected : Collected h later refs entries)
    (same : entries.map (fun e => (e.name,e.env)) = apps.map fun app => (app.id,
      (collectVariables (defaultEnv dbPath session base) app.applicationEnvironment).set "DUNEDAQ_APPLICATION_NAME" app.id)) :
    List.Forall₂ (Given dbPath session base later) apps refs := by
  rw [← collected.reads,List.map_map,← List.forall₂_eq_eq_eq,List.forall₂_map_left_iff,List.forall₂_map_right_iff] at same
  refine same.flip.imp fun app a both => ?_
  obtain ⟨named,held⟩ := Prod.mk.inj both
  exact ⟨named,fun key => (congrArg (fun d => d.get? key) held).trans (getOwn dbPath session base app key)⟩

/-- The caller's dictionary is any one of a heap; what comes after the walk over the segments
finds it, and all other dictionaries that were there before, as they were. -/
theorem environmentsGiven (m : ConfModel) (dbPath : Option String) (session : Session) (h : Heap (Dict String String))
    (env : Fin h.next) (treePrefix : List Nat) (s : Segment) (infrastructureApplications : List OksApplication)
    (front : List Nat) (last : Nat) :
    (List.Forall₂ (Given dbPath session (h.cell env) (collectAppsAt m dbPath session env treePrefix h s).1) (processes m session s)
        (collectAppsAt m dbPath session env treePrefix h s).2 ∧
      Keeps h (collectAppsAt m dbPath session env treePrefix h s).1 ∧
      ((collectAppsAt m dbPath session env treePrefix h s).2.map AppReference.env).Nodup) ∧
    List.Forall₂ (Given dbPath session (h.cell env) (collectInfraApps dbPath session infrastructureApplications env front last h).1)
        (infrastructureApplications.filter fun app => app.applicationName ≠ "")
        (collectInfraApps dbPath session infrastructureApplications env front last h).2 ∧
      ((collectInfraApps dbPath session infrastructureApplications env front last h).2.map AppReference.env).Nodup := by
  have apps : Collected h (collectAppsAt m dbPath session env treePrefix h s).1 _ _ := collectedApps env treePrefix h s env.2
  refine ⟨⟨givenEach apps (collectedEnvironments treePrefix s),apps.keeps,apps.apart⟩,?_⟩
  unfold collectInfraApps
  rw [sessionAt]
  have infra := collectedInfra env front last 0 (h := h.update env (defaultEnv dbPath session)) infrastructureApplications env.2
  rw [Heap.updateHere] at infra
  exact ⟨givenEach infra (infraEnvironments ..),infra.apart⟩

end Spec
end OksParser
end Drunc
