import Drunc.Configuration

/-! What a session boots, read from its segments: a controller, then what its enabled
sub-segments boot, then its enabled applications. An application that is not a
component cannot be disabled here. `Reached` are the segments the walk goes through. -/
namespace Drunc
open Library (Dict)
open Segment (Within)

structure AppEntry where
  name : String
  type : String
  args : List String
  restriction : String
  host : String
  env : Dict String String
  treeId : String
  logPath : String

namespace OksParser

mutual
def collectVariable (env : Dict String String) : EnvironmentItem → Dict String String
  | .variable name value => env.set name value
  | .variableSet contains => collectVariables env contains
  | .other _ => env
def collectVariables (env : Dict String String) : List EnvironmentItem → Dict String String
  | [] => env
  | item :: rest => collectVariables (collectVariable env item) rest
end

section Collect
variable (m : ConfModel) (dbPath : Option String) (session : Session) (env : Dict String String)

def defaultEnv : Dict String String :=
  collectVariables (match dbPath with
    | none => env
    | some path => env.set "DUNEDAQ_DB_PATH" path) session.environment

def appEntry (app : OksApplication) (treePrefix : List Nat) : AppEntry :=
  { name := app.id
    type := app.applicationName
    args := getCla m session.id app
    restriction := app.runsOn
    host := app.runsOn
    env := (collectVariables (defaultEnv dbPath session env) app.applicationEnvironment).set "DUNEDAQ_APPLICATION_NAME" app.id
    treeId := String.intercalate "." (treePrefix.map toString)
    logPath := app.logPath }

def applicationEnabled (app : OksApplication) : Bool :=
  if "Component" ∈ app.oksTypes then !m.componentDisabled session.id app.id else true

def collectApplications (treePrefix : List Nat) (appIndex : Nat) : List OksApplication → List AppEntry
  | [] => []
  | app :: rest =>
      if applicationEnabled m session app then
        appEntry m dbPath session env app (treePrefix ++ [appIndex]) :: collectApplications treePrefix (appIndex+1) rest
      else collectApplications treePrefix appIndex rest

mutual
def collectApps (treePrefix : List Nat) : Segment → List AppEntry
  | .mk _ controller segments applications =>
      appEntry m dbPath session env controller.toOksApplication treePrefix ::
        (collectSegments treePrefix 0 segments ++ collectApplications m dbPath session env treePrefix 0 applications)
def collectSegments (treePrefix : List Nat) (idx : Nat) : List Segment → List AppEntry
  | [] => []
  | seg :: rest =>
      if m.componentDisabled session.id seg.id then collectSegments treePrefix (idx+1) rest
      else collectApps (treePrefix ++ [idx]) seg ++ collectSegments treePrefix (idx+1) rest
end

end Collect

inductive Reached (m : ConfModel) (session : Session) : Segment → Segment → Prop
  | here (s : Segment) : Reached m session s s
  | inside {s child inner : Segment} (mem : child ∈ s.segments) (enabled : m.componentDisabled session.id child.id = false)
      (reached : Reached m session child inner) : Reached m session s inner

def brings (m : ConfModel) (session : Session) (s : Segment) : List String :=
  s.controller.id :: (s.applications.filter (applicationEnabled m session)).map OksApplication.id

section Names
variable {m : ConfModel} {dbPath : Option String} {session : Session} {env : Dict String String} {name : String}

theorem reachedWithin {s inner : Segment} (reached : Reached m session s inner) : Within s inner := by
  induction reached with
  | here s => exact .here s
  | inside mem _ _ ih => exact .inside mem ih

theorem reachedSnoc {s p inner : Segment} (reached : Reached m session s p) (mem : inner ∈ p.segments)
    (enabled : m.componentDisabled session.id inner.id = false) : Reached m session s inner := by
  induction reached with
  | here s => exact .inside mem enabled (.here inner)
  | inside first on _ ih => exact .inside first on (ih mem)

theorem reachedLast {s inner : Segment} (reached : Reached m session s inner) :
    inner = s ∨ m.componentDisabled session.id inner.id = false ∧ ∃ p, Reached m session s p ∧ inner ∈ p.segments := by
  induction reached with
  | here s => exact .inl rfl
  | @inside s child inner mem enabled reached ih =>
    rcases ih with rfl | ⟨last,p,before,below⟩
    · exact .inr ⟨enabled,s,.here s,mem⟩
    · exact .inr ⟨last,p,.inside mem enabled before,below⟩

theorem applicationNames (treePrefix : List Nat) (appIndex : Nat) (apps : List OksApplication) :
    (collectApplications m dbPath session env treePrefix appIndex apps).map AppEntry.name =
      (apps.filter (applicationEnabled m session)).map OksApplication.id := by
  induction apps generalizing appIndex with
  | nil => rfl
  | cons app rest ih =>
    unfold collectApplications
    rw [List.filter_cons]
    split
    · rw [List.map_cons,List.map_cons,ih]
      rfl
    · exact ih appIndex

theorem segmentNames (dbPath : Option String) (env : Dict String String) {P : Segment → Prop} {segments : List Segment}
    (each : ∀ seg ∈ segments, ∀ treePrefix, name ∈ (collectApps m dbPath session env treePrefix seg).map AppEntry.name ↔ P seg)
    (treePrefix : List Nat) (idx : Nat) :
    name ∈ (collectSegments m dbPath session env treePrefix idx segments).map AppEntry.name ↔
      ∃ seg ∈ segments, m.componentDisabled session.id seg.id = false ∧ P seg := by
  induction segments generalizing idx with
  | nil => simp [collectSegments]
  | cons seg rest ih =>
    have later := ih (fun other mem => each other (List.mem_cons_of_mem seg mem)) (idx+1)
    rw [collectSegments,List.exists_mem_cons_iff]
    split
    · rename_i disabled
      rw [later,disabled]
      simp
    · rename_i enabled
      rw [List.map_append,List.mem_append,later,each seg List.mem_cons_self,Bool.eq_false_iff.mpr enabled]
      simp

theorem collectAppsSplit (s : Segment) (treePrefix : List Nat) : collectApps m dbPath session env treePrefix s =
    appEntry m dbPath session env s.controller.toOksApplication treePrefix ::
      (collectSegments m dbPath session env treePrefix 0 s.segments ++
        collectApplications m dbPath session env treePrefix 0 s.applications) := by
  cases s
  rw [collectApps]
  rfl

theorem collectedIff (s : Segment) (treePrefix : List Nat) :
    name ∈ (collectApps m dbPath session env treePrefix s).map AppEntry.name ↔
      ∃ inner, Reached m session s inner ∧ name ∈ brings m session inner := by
  induction s using Segment.inductOn generalizing treePrefix with
  | step s ih =>
    rw [collectAppsSplit,List.map_cons,List.map_append,List.mem_cons,List.mem_append,segmentNames dbPath env ih,applicationNames]
    constructor
    · rintro (rfl | ⟨seg,mem,enabled,inner,reached,own⟩ | own)
      · exact ⟨_,.here _,List.mem_cons_self⟩
      · exact ⟨inner,.inside mem enabled reached,own⟩
      · exact ⟨_,.here _,List.mem_cons_of_mem _ own⟩
    · rintro ⟨inner,reached,own⟩
      cases reached with
      | here =>
        rcases List.mem_cons.mp own with rfl | own
        · exact .inl rfl
        · exact .inr (.inr own)
      | inside mem enabled reached => exact .inr (.inl ⟨_,mem,enabled,inner,reached,own⟩)

end Names
end OksParser
end Drunc
