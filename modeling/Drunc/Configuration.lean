import Drunc.Fsm

/-! The configuration of a session: a tree of segments, each with its controller and
its applications. `ConfModel` has what the configuration library answers: whether a
component is disabled in a session, and the command lines it makes for the three kinds
of applications it knows. `Within` holds of a segment and of all the ones below it. -/
namespace Drunc
open Library (Dict)

inductive EnvironmentItem where
  | variable (name : String) (value : String)
  | variableSet (contains : List EnvironmentItem)
  | other (className : String)

structure OksApplication where
  id : String
  applicationName : String
  oksTypes : List String
  applicationEnvironment : List EnvironmentItem
  runsOn : String
  commandlineParameters : List String
  logPath : String
  proxy : Option (List (Option String))

structure RCApplication extends OksApplication where
  fsm : Option FSMConf

inductive Segment where
  | mk (id : String) (controller : RCApplication) (segments : List Segment) (applications : List OksApplication)

namespace Segment

def id : Segment → String
  | .mk id _ _ _ => id

def controller : Segment → RCApplication
  | .mk _ controller _ _ => controller

def segments : Segment → List Segment
  | .mk _ _ segments _ => segments

def applications : Segment → List OksApplication
  | .mk _ _ _ applications => applications

theorem inductOn {P : Segment → Prop} (step : ∀ s : Segment, (∀ child ∈ s.segments, P child) → P s) (s : Segment) :
    P s :=
  @Segment.rec P (fun segments => ∀ child ∈ segments, P child)
    (fun id controller segments applications below => step (.mk id controller segments applications) below)
    (fun _ mem => absurd mem List.not_mem_nil)
    (fun _ _ first rest _ mem => by
      rcases List.mem_cons.mp mem with rfl | mem
      · exact first
      · exact rest _ mem) s

inductive Within : Segment → Segment → Prop
  | here (s : Segment) : Within s s
  | inside {s child inner : Segment} (mem : child ∈ s.segments) (within : Within child inner) : Within s inner

mutual
def names : Segment → List String
  | .mk _ controller segments applications =>
      controller.id :: (namesAmong segments ++ applications.map OksApplication.id)
def namesAmong : List Segment → List String
  | [] => []
  | child :: rest => names child ++ namesAmong rest
end

theorem namesAmongFlat (segments : List Segment) : namesAmong segments = segments.flatMap names := by
  induction segments with
  | nil => rfl
  | cons child rest ih => rw [namesAmong,List.flatMap_cons,ih]

def ownNames (s : Segment) : List String := s.controller.id :: s.applications.map OksApplication.id

def childNames (s : Segment) : List String := s.segments.map (fun child => child.controller.id) ++ s.applications.map OksApplication.id

def namesBelow (s : Segment) : List String := s.segments.flatMap names ++ s.applications.map OksApplication.id

theorem namesSplit (s : Segment) : s.names = s.controller.id :: s.namesBelow := by
  obtain ⟨id,controller,segments,applications⟩ := s
  rw [names,namesAmongFlat]
  rfl

theorem namesOwn (s : Segment) : s.names.Perm (s.ownNames ++ s.segments.flatMap names) := by
  rw [namesSplit]
  exact .cons _ List.perm_append_comm

theorem namesBelowChildren (s : Segment) : s.namesBelow.Perm (s.childNames ++ s.segments.flatMap namesBelow) := by
  have split : (s.segments.map (fun child => child.controller.id) ++ s.segments.flatMap namesBelow).Perm (s.segments.flatMap names) := by
    rw [funext namesSplit]
    exact List.map_append_flatMap_perm s.segments _ namesBelow
  unfold childNames namesBelow
  rw [List.append_assoc]
  refine (split.symm.append_right _).trans ?_
  rw [List.append_assoc]
  exact List.perm_append_comm.append_left _

section Within
variable {all own : Segment → List String} {s inner : Segment} {name : String}

theorem withinMem (parts : ∀ s, (all s).Perm (own s ++ s.segments.flatMap all)) (within : Within s inner)
    (mem : name ∈ own inner) : name ∈ all s := by
  induction within with
  | here s => exact (parts s).mem_iff.mpr (List.mem_append_left _ mem)
  | @inside s child inner below _ ih =>
    exact (parts s).mem_iff.mpr (List.mem_append_right _ (List.mem_flatMap.mpr ⟨child,below,ih mem⟩))

theorem withinUnique (parts : ∀ s, (all s).Perm (own s ++ s.segments.flatMap all)) (distinct : (all s).Nodup)
    {a b : Segment} (insideA : Within s a) (insideB : Within s b) (ownA : name ∈ own a) (ownB : name ∈ own b) : a = b := by
  induction insideA generalizing b with
  | here s =>
    cases insideB with
    | here => rfl
    | inside below within =>
      have apart := List.disjoint_of_nodup_append ((parts s).nodup_iff.mp distinct)
      exact absurd (List.mem_flatMap.mpr ⟨_,below,withinMem parts within ownB⟩) (apart ownA)
  | @inside s t a belowA withinA ih =>
    have apart := (parts s).nodup_iff.mp distinct
    cases insideB with
    | here => exact absurd (List.mem_flatMap.mpr ⟨_,belowA,withinMem parts withinA ownA⟩) (List.disjoint_of_nodup_append apart ownB)
    | @inside _ u _ belowB withinB =>
      obtain ⟨each,pairs⟩ := List.nodup_flatMap.mp (List.nodup_append.mp apart).2.1
      have same : t = u := by
        by_contra other
        have : Std.Symm (Function.onFun List.Disjoint all) := ⟨fun _ _ => List.Disjoint.symm⟩
        exact pairs.forall belowA belowB other (withinMem parts withinA ownA) (withinMem parts withinB ownB)
      subst same
      exact ih (each t belowA) withinB ownA ownB

theorem withinSnoc {child : Segment} (within : Within s inner) (mem : child ∈ inner.segments) : Within s child := by
  induction within with
  | here s => exact .inside mem (.here child)
  | inside below _ ih => exact .inside below (ih mem)

theorem withinNodup (within : Within s inner) (distinct : s.names.Nodup) : inner.names.Nodup := by
  induction within with
  | here s => exact distinct
  | inside below _ ih =>
    rw [(namesOwn _).nodup_iff] at distinct
    exact ih ((List.nodup_flatMap.mp (List.nodup_append.mp distinct).2.1).1 _ below)

theorem belowNodup (distinct : s.names.Nodup) : s.namesBelow.Nodup := by
  rw [namesSplit] at distinct
  exact (List.nodup_cons.mp distinct).2

theorem childNamesNodup (distinct : s.names.Nodup) : s.childNames.Nodup :=
  (List.nodup_append.mp ((namesBelowChildren s).nodup_iff.mp (belowNodup distinct))).1

theorem childNotTop (distinct : s.names.Nodup) (within : Within s inner) (mem : name ∈ inner.childNames) :
    name ≠ s.controller.id := by
  rintro rfl
  rw [namesSplit] at distinct
  exact (List.nodup_cons.mp distinct).1 (withinMem namesBelowChildren within mem)

end Within
end Segment

structure Session where
  id : String
  environment : List EnvironmentItem
  segment : Segment

structure ConfModel where
  componentDisabled : String → String → Bool
  rcCommandline : String → String → List String
  smartDaqCommandline : String → String → List String
  daqCommandline : String → String → List String

def getCla (m : ConfModel) (sessionUid : String) (obj : OksApplication) : List String :=
  if "RCApplication" ∈ obj.oksTypes then m.rcCommandline sessionUid obj.id
  else if "SmartDaqApplication" ∈ obj.oksTypes then m.smartDaqCommandline sessionUid obj.id
  else if "DaqApplication" ∈ obj.oksTypes then m.daqCommandline sessionUid obj.id
  else obj.commandlineParameters

namespace ControllerConfHandler

mutual
def findSegment (id : String) : Segment → Option Segment
  | .mk segmentId controller segments applications =>
      if controller.id = id then some (.mk segmentId controller segments applications)
      else findSegmentAmong id segments
def findSegmentAmong (id : String) : List Segment → Option Segment
  | [] => none
  | childSegment :: rest =>
      match findSegment id childSegment with
      | some segment => some segment
      | none => findSegmentAmong id rest
end

section Find
open Segment (Within)
variable {id : String} {s inner : Segment}

theorem findSegmentAmongFirst (id : String) (segments : List Segment) :
    findSegmentAmong id segments = segments.findSome? (findSegment id) := by
  induction segments with
  | nil => rfl
  | cons child rest ih =>
    rw [findSegmentAmong,List.findSome?_cons,ih]
    cases findSegment id child <;> rfl

theorem findSegmentSplit (id : String) (s : Segment) :
    findSegment id s = if s.controller.id = id then some s else s.segments.findSome? (findSegment id) := by
  obtain ⟨own,controller,segments,applications⟩ := s
  rw [findSegment,findSegmentAmongFirst]
  rfl

theorem foundWithin (found : findSegment id s = some inner) : Within s inner ∧ inner.controller.id = id := by
  induction s using Segment.inductOn with
  | step s ih =>
    rw [findSegmentSplit] at found
    split at found
    · rename_i same
      obtain rfl := Option.some.inj found
      exact ⟨.here _,same⟩
    · obtain ⟨child,mem,found⟩ := List.exists_of_findSome?_eq_some found
      obtain ⟨within,same⟩ := ih child mem found
      exact ⟨.inside mem within,same⟩

theorem findSome (within : Within s inner) : ∃ found, findSegment inner.controller.id s = some found := by
  rw [← Option.isSome_iff_exists]
  induction within with
  | here s =>
    rw [findSegmentSplit,if_pos rfl]
    rfl
  | @inside s child inner mem _ ih =>
    rw [findSegmentSplit]
    split
    · rfl
    · exact List.findSome?_isSome_iff.mpr ⟨child,mem,ih⟩

theorem findUnique (distinct : s.names.Nodup) (within : Within s inner) :
    findSegment inner.controller.id s = some inner := by
  obtain ⟨found,same⟩ := findSome within
  obtain ⟨inside,named⟩ := foundWithin same
  have only : inner = found :=
    Segment.withinUnique Segment.namesOwn distinct within inside List.mem_cons_self (named ▸ List.mem_cons_self)
  exact same.trans (congrArg some only.symm)

end Find
end ControllerConfHandler
end Drunc
