import Drunc.ChildLookup
import Drunc.TreeIds
import Drunc.ProcessEnvironments
import Drunc.ProcessManager

/-! What the driver of the process manager asks it to boot for a session: the
infrastructure applications first, then what the segments bring. The tree ids of the
latter begin with 0, so those of the infrastructure applications are single numbers from
1 on. The requests are generated one at a time: those before the first that cannot be
made have been sent when this raises. A `BootShell` is what the driver finds around it. -/
namespace Drunc
open Library (Dict Heap dotted boundOk)
open Segment (Within)

structure BootableSession extends Session where
  infrastructureApplications : List OksApplication
  rteScript : String
  logPath : String

structure BootShell where
  pwd : String
  getenv : String → Option String
  pathExists : String → Bool
  ownHostNames : List String
  nowStr : Nat → String

namespace BootShell
variable (shell : BootShell)

def given (key : String) : Option String :=
  match shell.getenv key with
  | some "" | none => none
  | some text => some text

def hostIsLocal (host : String) : Bool :=
  decide (host ∈ "localhost" :: shell.ownHostNames) || pyStartsWith host "127." || pyStartsWith host "0."

end BootShell

def pathJoin (a b : String) : String :=
  if pyStartsWith b "/" then b
  else if a = "" ∨ a.toList.getLast? = some '/' then a ++ b
  else a ++ "/" ++ b

def dirname (path : String) : String :=
  let head := (path.toList.reverse.dropWhile (· ≠ '/')).reverse
  String.ofList (if head.all (· = '/') then head else (head.reverse.dropWhile (· = '/')).reverse)

namespace ProcessManagerUtils
variable (shell : BootShell)

def environmentVariable (key text : String) : Except Exn String :=
  match shell.given key with
  | some value => .ok value
  | none => .error (.other "RuntimeError" text)

def getVersion : Except Exn String :=
  environmentVariable shell "DUNE_DAQ_BASE_RELEASE"
    ("Utils: dunedaq version not in the variable env DUNE_DAQ_BASE_RELEASE! Exit drunc and\n" ++
      "export DUNE_DAQ_BASE_RELEASE=dunedaq-vX.XX.XX\n")

def getReleasesDir : Except Exn String :=
  environmentVariable shell "SPACK_RELEASES_DIR"
    "Utils: cannot get env SPACK_RELEASES_DIR! Exit drunc and\nrun dbt-workarea-env or dbt-setup-release."

def releaseOrDev : String :=
  if (shell.given "DBT_SETUP_RELEASE_SCRIPT_SOURCED").isSome then "rel"
  else if (shell.given "DBT_WORKAREA_ENV_SCRIPT_SOURCED").isSome then "dev"
  else "rel"

def tentativeRteScript : Except Exn String := do
  if releaseOrDev shell = "rel" then
    let ver ← getVersion shell
    let releasesDir ← getReleasesDir shell
    .ok (pathJoin (pathJoin releasesDir ver) "daq_app_rte.sh")
  else match shell.getenv "DBT_INSTALL_DIR" with
    | none => .error (.typeError "expected str, bytes or os.PathLike object, not NoneType")
    | some dbtInstallDir => .ok (pathJoin dbtInstallDir "daq_app_rte.sh")

def getRteScript : Except Exn String := do
  let script ← tentativeRteScript shell
  if shell.pathExists script then .ok script
  else .error (setupException ("Couldn't understand where to find the rte script tentative: " ++ script))

def getLogPath (index : Nat) (user sessionName applicationName : String) (overrideLogs : Bool)
    (appLogPath sessionLogPath : String) : String :=
  let log := fun dir => dir ++ "/log_" ++ user ++ "_" ++ sessionName ++ "_" ++ applicationName
  let stamped := fun dir => log dir ++ "_" ++ shell.nowStr index ++ ".txt"
  if appLogPath ≠ "" then stamped appLogPath
  else if sessionLogPath ≠ "" then stamped sessionLogPath
  else if overrideLogs then log shell.pwd ++ ".txt"
  else stamped shell.pwd

end ProcessManagerUtils

structure BootCall where
  m : ConfModel
  shell : BootShell
  user : String
  session : BootableSession
  sessionName : String
  overrideLogs : Bool

namespace ProcessManagerDriver
open OksParser

def nextTreeId (treeIds : List String) : Except Exn Int := do
  let firsts ← treeIds.mapM fun treeId => pyInt (String.ofList ((treeId.toList.splitOn '.').headD []))
  match firsts.max? with
  | none => .error (.valueError "max() arg is an empty sequence")
  | some last => .ok (last+1)

section Convert
variable (c : BootCall)

def collectedEntries : Except Exn (List AppEntry) := do
  let dbPath := c.shell.getenv "DUNEDAQ_DB_PATH"
  let env : Heap (Dict String String) := ⟨fun _ => Dict.empty.set "DUNEDAQ_SESSION" c.sessionName,1⟩
  let apps := collectAppsAt c.m dbPath c.session.toSession 0 [0] env c.session.segment
  let next ← nextTreeId (apps.2.map AppReference.treeId)
  let infraApps := collectInfraApps dbPath c.session.toSession c.session.infrastructureApplications 0 [] next.toNat apps.1
  .ok ((infraApps.2 ++ apps.2).map (AppReference.read infraApps.1))

def rteScript : Except Exn String :=
  if c.session.rteScript ≠ "" then .ok c.session.rteScript
  else do
    let rteScript ← ProcessManagerUtils.getRteScript c.shell
    if rteScript = "" then .error (setupException "No RTE script found.") else .ok rteScript

def logPathOf (index : Nat) (app : AppEntry) : String :=
  let sessionLogPath := if c.session.logPath = "./" then c.shell.pwd else c.session.logPath
  let appLogPath := if app.logPath = "./" then c.shell.pwd else app.logPath
  ProcessManagerUtils.getLogPath c.shell index c.user c.sessionName app.name c.overrideLogs appLogPath sessionLogPath

def requestOf (index : Nat) (app : AppEntry) : Except Exn BootRequest := do
  let script ← rteScript c
  let logPath := logPathOf c index app
  if c.shell.hostIsLocal app.restriction && !c.shell.pathExists (dirname logPath) then
    .error (.drunc "DruncShellException" ("Log path " ++ logPath ++ " does not exist."))
  else match c.shell.getenv "DUNE_DAQ_BASE_RELEASE",c.shell.getenv "SPACK_RELEASES_DIR" with
    | some release,some releasesDir =>
        let env := (app.env.set "DUNE_DAQ_BASE_RELEASE" release).set "SPACK_RELEASES_DIR" releasesDir
        .ok ⟨⟨⟨app.name,c.user,c.sessionName,"",app.treeId⟩,env.entries,
          [⟨"source",[script]⟩,⟨app.type,app.args⟩],c.shell.pwd,logPath⟩,⟨[app.restriction]⟩⟩
    -- a message takes texts only
    | _,_ => .error (.typeError "bad argument type for built-in operation")

def requestsOf (index : Nat) : List AppEntry → List BootRequest × Option Exn
  | [] => ([],none)
  | app :: rest => match requestOf c index app with
    | .error e => ([],some e)
    | .ok breq => (breq :: (requestsOf (index+1) rest).1,(requestsOf (index+1) rest).2)

def convertOksToBootRequest : List BootRequest × Option Exn :=
  match collectedEntries c with
  | .error e => ([],some e)
  | .ok apps => requestsOf c 0 apps

end Convert

def infraPlaces (c : BootCall) : List (List Nat) :=
  ((c.session.infrastructureApplications.zipIdx).filter fun app => app.1.applicationName ≠ "").map fun app => [1 + app.2]

def segmentPlaces (c : BootCall) : List (List Nat) :=
  ((placements c.m c.session.toSession c.session.segment).flatMap (positions c.m c.session.toSession)).map fun path => 0 :: path

def places (c : BootCall) : List (List Nat) := infraPlaces c ++ segmentPlaces c

def Alternating (s : Segment) : Prop := ∀ inner, Within s inner → inner.segments = [] ∨ inner.applications = []

section Numbers
variable {c : BootCall}

theorem firstNumber (path : List Nat) :
    pyInt (String.ofList (((dotted (0 :: path)).toList.splitOn '.').headD [])) = .ok 0 := by
  rw [Library.Dotted.splitDotted (List.cons_ne_nil 0 path)]
  exact (by decide : pyInt (String.ofList (Nat.toDigits 10 0)) = .ok 0)

theorem nextIsOne {treeIds : List String} (some : treeIds ≠ []) (rooted : ∀ t ∈ treeIds, ∃ path, t = dotted (0 :: path)) :
    nextTreeId treeIds = .ok 1 := by
  have firsts : treeIds.mapM (fun treeId => pyInt (String.ofList ((treeId.toList.splitOn '.').headD []))) =
      Except.ok (List.replicate treeIds.length 0) := by
    clear some
    induction treeIds with
    | nil => rfl
    | cons t rest ih =>
      obtain ⟨path,rfl⟩ := rooted t List.mem_cons_self
      rw [List.mapM_cons,firstNumber,ih fun t mem => rooted t (List.mem_cons_of_mem _ mem)]
      rfl
  have last : (List.replicate treeIds.length (0 : Int)).max? = Option.some 0 :=
    List.max?_replicate_of_pos (List.length_pos_iff.mpr some)
  exact boundOk.mpr ⟨_,firsts,by rw [last]; rfl⟩

theorem segmentNumbers (c : BootCall) (dbPath : Option String) (env : Dict String String) :
    ((collectApps c.m dbPath c.session.toSession env [0] c.session.segment).map AppEntry.treeId).Perm ((segmentPlaces c).map dotted) := by
  unfold segmentPlaces
  rw [List.map_map]
  exact treeIdsPlaced dbPath env (List.cons_ne_nil 0 []) c.session.segment

theorem infraNumbers (c : BootCall) (dbPath : Option String) {h : Heap (Dict String String)} (room : 0 < h.next) :
    (collectInfraApps dbPath c.session.toSession c.session.infrastructureApplications 0 [] 1 h).2.map AppReference.treeId =
      (infraPlaces c).map dotted := by
  unfold collectInfraApps infraPlaces
  rw [sessionAt]
  have walk := collectedInfra 0 [] 1 0 (h := h.update 0 (defaultEnv dbPath c.session.toSession)) c.session.infrastructureApplications room
  have ids := congrArg (List.map AppEntry.treeId) walk.reads
  unfold infraEntries at ids
  rw [List.map_map,List.map_map] at ids
  rw [List.map_map]
  exact ids

theorem entriesNumbered (c : BootCall) : ∃ apps, collectedEntries c = .ok apps ∧
    (apps.map AppEntry.treeId).Perm ((places c).map dotted) := by
  unfold collectedEntries
  dsimp only
  generalize c.shell.getenv "DUNEDAQ_DB_PATH" = dbPath
  generalize atStart : (⟨fun _ => Dict.empty.set "DUNEDAQ_SESSION" c.sessionName,1⟩ : Heap (Dict String String)) = env
  have room : 0 < env.next := atStart ▸ Nat.one_pos
  have walk : Collected env _ _ (collectApps c.m dbPath c.session.toSession (env.cell 0) [0] c.session.segment) :=
    collectedApps 0 [0] env c.session.segment room
  generalize collectAppsAt c.m dbPath c.session.toSession 0 [0] env c.session.segment = apps at walk ⊢
  have ids := congrArg (List.map AppEntry.treeId) walk.reads
  rw [List.map_map] at ids
  have numbered := segmentNumbers c dbPath (env.cell 0)
  rw [← ids] at numbered
  have rooted : ∀ t ∈ apps.2.map AppReference.treeId, ∃ path, t = dotted (0 :: path) := by
    intro t mem
    obtain ⟨place,inside,rfl⟩ := List.mem_map.mp (numbered.mem_iff.mp mem)
    obtain ⟨path,_,rfl⟩ := List.mem_map.mp inside
    exact ⟨path,rfl⟩
  have some : apps.2.map AppReference.treeId ≠ [] := by
    intro none
    have first := ids.symm.trans none
    rw [collectAppsSplit] at first
    exact List.cons_ne_nil _ _ first
  refine ⟨_,boundOk.mpr ⟨1,nextIsOne some rooted,rfl⟩,?_⟩
  rw [List.map_map,List.map_append]
  unfold places
  rw [List.map_append]
  exact .append (.of_eq (infraNumbers c dbPath (room.trans_le walk.keeps.room))) numbered

theorem requestFrom {index : Nat} {app : AppEntry} {br : BootRequest} (ok : requestOf c index app = .ok br) :
    br.processDescription.metadata = ⟨app.name,c.user,c.sessionName,"",app.treeId⟩ ∧
      br.processRestriction.allowedHosts = [app.restriction] := by
  obtain ⟨script,_,made⟩ := boundOk.mp ok
  dsimp only at made
  split at made
  · contradiction
  · split at made
    · cases made
      exact ⟨rfl,rfl⟩
    · contradiction

theorem requestsFrom {index : Nat} {apps : List AppEntry} (all : (requestsOf c index apps).2 = none) :
    (requestsOf c index apps).1.map (fun br => br.processDescription.metadata) =
      apps.map fun app => ⟨app.name,c.user,c.sessionName,"",app.treeId⟩ := by
  induction apps generalizing index with
  | nil => rfl
  | cons app rest ih =>
    rw [requestsOf] at all ⊢
    split at all
    · contradiction
    · rename_i br made
      rw [List.map_cons,List.map_cons,(requestFrom made).1,ih all]

theorem requestsHosts {index : Nat} {apps : List AppEntry} {br : BootRequest} (mem : br ∈ (requestsOf c index apps).1) :
    br.processRestriction.allowedHosts ≠ [] := by
  induction apps generalizing index with
  | nil => contradiction
  | cons app rest ih =>
    rw [requestsOf] at mem
    split at mem
    · contradiction
    · rename_i made
      rcases List.mem_cons.mp mem with rfl | mem
      · rw [(requestFrom made).2]
        exact List.cons_ne_nil _ _
      · exact ih mem

theorem convertedHosts {br : BootRequest} (mem : br ∈ (convertOksToBootRequest c).1) : br.processRestriction.allowedHosts ≠ [] := by
  unfold convertOksToBootRequest at mem
  split at mem
  · contradiction
  · exact requestsHosts mem

theorem requestsNumbered (all : (convertOksToBootRequest c).2 = none) :
    ((convertOksToBootRequest c).1.map fun br => (br.processDescription.metadata.session,br.processDescription.metadata.treeId)).Perm
      ((places c).map fun path => (c.sessionName,dotted path)) := by
  obtain ⟨apps,collected,numbered⟩ := entriesNumbered c
  unfold convertOksToBootRequest at all ⊢
  rw [collected] at all ⊢
  have pairs := congrArg (List.map fun md : ProcessMetadata => (md.session,md.treeId)) (requestsFrom all)
  have listed := numbered.map fun treeId => (c.sessionName,treeId)
  rw [List.map_map,List.map_map] at pairs listed
  exact (List.Perm.of_eq pairs).trans listed

end Numbers

section Places
variable {c : BootCall} {xs path : List Nat} {n : Nat}

theorem roomyAlternating (alternating : Alternating c.session.segment) : Roomy c.m c.session.toSession c.session.segment := by
  intro inner reached idx child place _
  rcases alternating inner (reachedWithin reached) with none | none
  · rw [none] at place
    contradiction
  · unfold enabledApplications
    rw [none]
    exact Nat.zero_le idx

theorem memInfra (mem : path ∈ infraPlaces c) : ∃ k, path = [1 + k] := by
  obtain ⟨app,_,rfl⟩ := List.mem_map.mp mem
  exact ⟨app.2,rfl⟩

theorem placeWritten (mem : path ∈ places c) : path ≠ [] := by
  rcases List.mem_append.mp mem with infra | inside
  · obtain ⟨k,rfl⟩ := memInfra infra
    exact List.cons_ne_nil _ _
  · obtain ⟨rest,_,rfl⟩ := List.mem_map.mp inside
    exact List.cons_ne_nil 0 rest

theorem placesParent (written : xs ≠ []) (mem : xs ++ [n] ∈ places c) : xs ∈ places c := by
  rcases List.mem_append.mp mem with infra | inside
  · obtain ⟨k,single⟩ := memInfra infra
    exact absurd (List.append_eq_singleton_iff.mp single) (by simp [written])
  · obtain ⟨path,placed,longer⟩ := List.mem_map.mp inside
    obtain ⟨first,ys,rfl⟩ := List.exists_cons_of_ne_nil written
    cases longer
    refine List.mem_append_right _ (List.mem_map.mpr ⟨ys,?_,rfl⟩)
    obtain ⟨place,listed,here⟩ := List.mem_flatMap.mp placed
    rcases memPositions.mp here with same | ⟨k,_,same⟩
    · -- a segment is reached through the one that has it
      obtain ⟨p,there,_⟩ := segmentAtSnoc.mp (same ▸ memPlacements.mp listed)
      exact List.mem_flatMap.mpr ⟨(ys,p),memPlacements.mpr there,memPositions.mpr (.inl rfl)⟩
    · cases (List.append_inj' same rfl).1
      exact List.mem_flatMap.mpr ⟨place,listed,memPositions.mpr (.inl rfl)⟩

theorem placesOnce (alternating : Alternating c.session.segment) : (places c).Nodup := by
  have segments : (segmentPlaces c).Nodup :=
    ((positionsIff c.session.segment).mpr (roomyAlternating alternating)).map List.cons_injective
  have infra : (infraPlaces c).Nodup := by
    have indices : (c.session.infrastructureApplications.zipIdx.map Prod.snd).Nodup := by
      rw [List.zipIdx_map_snd]
      exact List.nodup_range'
    have named := indices.sublist (List.filter_sublist (p := fun app => decide (app.1.applicationName ≠ "")).map Prod.snd)
    have single := named.map (f := fun k => [1 + k]) fun a b same => Nat.add_left_cancel (List.singleton_inj.mp same)
    rwa [List.map_map] at single
  refine infra.append segments fun path one two => ?_
  obtain ⟨k,rfl⟩ := memInfra one
  obtain ⟨path,_,same⟩ := List.mem_map.mp two
  exact absurd (List.cons.inj same).1 (by omega)

end Places

end ProcessManagerDriver
end Drunc
