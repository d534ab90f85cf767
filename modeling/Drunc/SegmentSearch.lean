import Drunc.Booting

/-! Two searches of a session's segments for the one of a given controller. `preorder`
is the tree as a list: a segment, then all that is below its first sub-segment, and so on.
`find_segment` finds the first one in that order. `find_controlled_apps` goes through the
enabled segments only, and each branch overwrites what the one before has found: below
the top it keeps the controllers along the last enabled branches, and no application. -/
namespace Drunc
open Segment (Within)
open OksParser (Reached reachedWithin)

namespace Segment

mutual
def preorder : Segment → List Segment
  | .mk id controller segments applications => .mk id controller segments applications :: preorderAmong segments
def preorderAmong : List Segment → List Segment
  | [] => []
  | child :: rest => preorder child ++ preorderAmong rest
end

def controllerIds (s : Segment) : List String := s.preorder.map (fun inner => inner.controller.id)

theorem preorderAmongFlat (segments : List Segment) : preorderAmong segments = segments.flatMap preorder := by
  induction segments with
  | nil => rfl
  | cons child rest ih => rw [preorderAmong,List.flatMap_cons,ih]

theorem preorderSplit (s : Segment) : s.preorder = s :: s.segments.flatMap preorder := by
  obtain ⟨id,controller,segments,applications⟩ := s
  rw [preorder,preorderAmongFlat]
  rfl

theorem controllerIdsSplit (s : Segment) :
    s.controllerIds.Perm ([s.controller.id] ++ s.segments.flatMap controllerIds) := by
  unfold controllerIds
  rw [preorderSplit,List.map_cons,List.map_flatMap]
  exact .refl _

theorem controllersApart {s a b : Segment} (distinct : s.controllerIds.Nodup) (insideA : Within s a) (insideB : Within s b)
    (same : a.controller.id = b.controller.id) : a = b :=
  withinUnique controllerIdsSplit distinct insideA insideB List.mem_cons_self (same ▸ List.mem_cons_self)

theorem memPreorder {s inner : Segment} : inner ∈ s.preorder ↔ Within s inner := by
  induction s using inductOn with
  | step s ih =>
    rw [preorderSplit,List.mem_cons,List.mem_flatMap]
    constructor
    · rintro (rfl | ⟨child,mem,below⟩)
      · exact .here _
      · exact .inside mem ((ih child mem).mp below)
    · intro within
      cases within with
      | here => exact .inl rfl
      | inside mem within => exact .inr ⟨_,mem,(ih _ mem).mpr within⟩

end Segment

namespace ControllerConfHandler
open Segment (preorder preorderSplit memPreorder)

theorem findPreorder (id : String) (s : Segment) :
    findSegment id s = s.preorder.find? (fun inner => inner.controller.id = id) := by
  induction s using Segment.inductOn with
  | step s ih =>
    rw [findSegmentSplit,preorderSplit,List.find?_cons,List.find?_flatMap]
    by_cases own : s.controller.id = id
    · simp [own]
    · simp only [own,if_false,decide_false]
      rw [← List.head?_filterMap,← List.head?_filterMap,List.filterMap_congr ih]

theorem findNone {id : String} {s : Segment} :
    findSegment id s = none ↔ ∀ inner, Within s inner → inner.controller.id ≠ id := by
  rw [findPreorder,List.find?_eq_none]
  simp only [memPreorder,decide_eq_true_eq,ne_eq]

theorem foundFirst (id : String) (s : Segment) :
    findSegment id s = s.preorder.find? (fun inner => inner.controller.id = id) ∧
    (findSegment id s = none ↔ ∀ inner, Within s inner → inner.controller.id ≠ id) ∧
    ∀ earlier child later, s.segments = earlier ++ child :: later → s.controller.id ≠ id →
      (∀ branch ∈ earlier, ∀ inner, Within branch inner → inner.controller.id ≠ id) →
      (∃ inner, Within child inner ∧ inner.controller.id = id) →
      ∃ found, findSegment id s = some found ∧ findSegment id child = some found ∧ Within child found := by
  refine ⟨findPreorder id s,findNone,?_⟩
  rintro earlier child later split other vain ⟨inner,within,rfl⟩
  obtain ⟨found,there⟩ := findSome within
  refine ⟨found,?_,there,(foundWithin there).1⟩
  have nothing : earlier.findSome? (findSegment inner.controller.id) = none :=
    List.findSome?_eq_none_iff.mpr fun branch mem => findNone.mpr (vain branch mem)
  rw [findSegmentSplit,if_neg other,split,List.findSome?_append,nothing,List.findSome?_cons,there]
  rfl

end ControllerConfHandler

namespace OksParser

section Controlled
variable (m : ConfModel) (session : Session) (mycontroller : String)

def enabledSegments (segments : List Segment) : List Segment :=
  segments.filter fun seg => !m.componentDisabled session.id seg.id

def controlledBy (s : Segment) : List String × List String :=
  (s.applications.map OksApplication.id,(enabledSegments m session s.segments).map (fun seg => seg.controller.id))

mutual
def findControlledApps : Segment → List String × List String
  | .mk id controller segments applications =>
      if controller.id = mycontroller then controlledBy m session (.mk id controller segments applications)
      else findControlledAmong [] [] segments
def findControlledAmong (apps controllers : List String) : List Segment → List String × List String
  | [] => (apps,controllers)
  | seg :: rest =>
      if m.componentDisabled session.id seg.id then findControlledAmong apps controllers rest
      else
        -- the applications of the branch go to a name that nothing reads: `apps` stays as it was
        let found := findControlledApps seg
        if apps.length > 0 then (apps,found.2) else findControlledAmong apps found.2 rest
end

def Controlled (s : Segment) (found : List String × List String) : Prop :=
  (∀ inner, Reached m session s inner → inner.controller.id = mycontroller → found = controlledBy m session inner) ∧
  ((∀ inner, Reached m session s inner → inner.controller.id ≠ mycontroller) → found = ([],[]))

inductive LastReached : Segment → Segment → Prop
  | here (s : Segment) : LastReached s s
  | inside {s child inner : Segment} (last : child ∈ (enabledSegments m session s.segments).getLast?)
      (reached : LastReached child inner) : LastReached s inner

end Controlled

section Search
variable {m : ConfModel} {session : Session} {mycontroller : String} {s inner child : Segment}

theorem memEnabled {segments : List Segment} : child ∈ enabledSegments m session segments ↔
    child ∈ segments ∧ m.componentDisabled session.id child.id = false := by
  unfold enabledSegments
  rw [List.mem_filter,Bool.not_eq_true']

theorem amongLast (controllers : List String) (segments : List Segment) :
    findControlledAmong m session mycontroller [] controllers segments =
      ([],((enabledSegments m session segments).getLast?.map fun seg => (findControlledApps m session mycontroller seg).2).getD controllers) := by
  induction segments generalizing controllers with
  | nil => rfl
  | cons seg rest ih =>
    unfold enabledSegments at *
    rw [findControlledAmong,List.filter_cons]
    cases disabled : m.componentDisabled session.id seg.id with
    | true => simpa using ih controllers
    | false =>
      rw [if_neg Bool.false_ne_true,Bool.not_false,if_pos rfl,List.getLast?_cons]
      dsimp only [List.length_nil]
      rw [if_neg (Nat.lt_irrefl 0),ih]
      cases (rest.filter fun seg => !m.componentDisabled session.id seg.id).getLast? <;> rfl

theorem controlledSplit (s : Segment) : findControlledApps m session mycontroller s =
    if s.controller.id = mycontroller then controlledBy m session s
    else ([],((enabledSegments m session s.segments).getLast?.map fun seg => (findControlledApps m session mycontroller seg).2).getD []) := by
  obtain ⟨id,controller,segments,applications⟩ := s
  rw [findControlledApps,amongLast]
  rfl

theorem controlledOwn (s : Segment) : findControlledApps m session s.controller.id s = controlledBy m session s := by
  rw [controlledSplit,if_pos rfl]

theorem controlledLast (other : s.controller.id ≠ mycontroller) (last : child ∈ (enabledSegments m session s.segments).getLast?) :
    findControlledApps m session mycontroller s = ([],(findControlledApps m session mycontroller child).2) := by
  rw [controlledSplit,if_neg other,Option.mem_def.mp last]
  rfl

theorem controlledVain (vain : ∀ inner, Reached m session s inner → inner.controller.id ≠ mycontroller) :
    findControlledApps m session mycontroller s = ([],[]) := by
  induction s using Segment.inductOn with
  | step s ih =>
    cases last : (enabledSegments m session s.segments).getLast? with
    | none => rw [controlledSplit,if_neg (vain s (.here s)),last]; rfl
    | some child =>
      obtain ⟨mem,enabled⟩ := memEnabled.mp (List.mem_of_getLast? last)
      rw [controlledLast (vain s (.here s)) last,ih child mem fun inner reached => vain inner (.inside mem enabled reached)]

theorem lastReached (reached : LastReached m session s inner) : Reached m session s inner := by
  induction reached with
  | here s => exact .here s
  | inside last _ ih =>
    obtain ⟨mem,enabled⟩ := memEnabled.mp (List.mem_of_getLast? last)
    exact .inside mem enabled ih

section Apart
variable (distinct : s.controllerIds.Nodup)
include distinct

theorem reachedApart {other : Segment} (one : Reached m session s inner) (two : Reached m session s other)
    (same : inner.controller.id = other.controller.id) : inner = other :=
  Segment.controllersApart distinct (reachedWithin one) (reachedWithin two) same

theorem childApart (mem : child ∈ s.segments) : child.controllerIds.Nodup := by
  rw [(Segment.controllerIdsSplit s).nodup_iff] at distinct
  exact (List.nodup_flatMap.mp (List.nodup_append.mp distinct).2.1).1 child mem

theorem topApart (reached : Reached m session s inner) (below : inner ≠ s) : s.controller.id ≠ inner.controller.id :=
  fun same => below (reachedApart distinct reached (.here s) same.symm)

theorem keptAlong (reached : LastReached m session s inner) :
    (findControlledApps m session inner.controller.id s).2 = (controlledBy m session inner).2 := by
  induction reached with
  | here s => rw [controlledOwn]
  | @inside s child inner last reached ih =>
    have mem := (memEnabled.mp (List.mem_of_getLast? last)).1
    have below : s.controller.id ≠ inner.controller.id := by
      rw [(Segment.controllerIdsSplit s).nodup_iff] at distinct
      intro same
      refine (List.nodup_cons.mp distinct).1 (List.mem_flatMap.mpr ⟨child,mem,?_⟩)
      rw [same]
      exact List.mem_map_of_mem (Segment.memPreorder.mpr (reachedWithin (lastReached reached)))
    rw [controlledLast below last]
    exact ih (childApart distinct mem)

theorem lostAside (reached : Reached m session s inner) (aside : ¬ LastReached m session s inner) :
    findControlledApps m session inner.controller.id s = ([],[]) := by
  induction s using Segment.inductOn with
  | step s ih =>
    have below : s.controller.id ≠ inner.controller.id :=
      topApart distinct reached fun top => aside (by rw [top]; exact .here s)
    cases last : (enabledSegments m session s.segments).getLast? with
    | none => rw [controlledSplit,if_neg below,last]; rfl
    | some child =>
      obtain ⟨mem,enabled⟩ := memEnabled.mp (List.mem_of_getLast? last)
      have nothing : findControlledApps m session inner.controller.id child = ([],[]) := by
        by_cases through : Reached m session child inner
        · exact ih child mem (childApart distinct mem) through fun along => aside (.inside last along)
        · -- the branch of `inner` is an earlier one: in the last branch its name is nowhere
          refine controlledVain fun other there same => through ?_
          rwa [← reachedApart distinct (.inside mem enabled there) reached same]
      rw [controlledLast below last,nothing]

theorem controlledIff : Controlled m session mycontroller s (findControlledApps m session mycontroller s) ↔
    ∀ inner, Reached m session s inner → inner.controller.id = mycontroller →
      inner = s ∨ inner.applications = [] ∧ (enabledSegments m session inner.segments = [] ∨ LastReached m session s inner) := by
  constructor
  · rintro ⟨found,_⟩ inner reached rfl
    by_cases top : inner = s
    · exact .inl top
    have here := found inner reached rfl
    have below := topApart distinct reached top
    have applications : inner.applications = [] := by
      rw [controlledSplit,if_neg below] at here
      exact List.map_eq_nil_iff.mp (congrArg Prod.fst here).symm
    refine .inr ⟨applications,?_⟩
    by_cases along : LastReached m session s inner
    · exact .inr along
    · rw [lostAside distinct reached along] at here
      exact .inl (List.map_eq_nil_iff.mp (congrArg Prod.snd here).symm)
  · refine fun holds => ⟨?_,controlledVain⟩
    rintro inner reached rfl
    obtain rfl | ⟨applications,rest⟩ := holds inner reached rfl
    · exact controlledOwn inner
    by_cases top : inner = s
    · exact top ▸ controlledOwn inner
    refine Prod.ext ?_ ?_
    · rw [controlledSplit,if_neg (topApart distinct reached top)]
      exact (congrArg (List.map OksApplication.id) applications).symm
    · by_cases along : LastReached m session s inner
      · exact keptAlong distinct along
      · rw [lostAside distinct reached along]
        exact (congrArg (List.map fun seg => seg.controller.id) (rest.resolve_right along)).symm

end Apart

end Search

end OksParser

namespace Sample

def readoutSegment : Segment := .mk "readout" (controllerNamed "readout-controller") [ruSegment] []

def nestedSession : Session :=
  ⟨"session",[],.mk "root" (controllerNamed "root-controller") [readoutSegment,triggerSegment] [applicationNamed "dfo"]⟩

end Sample

namespace OksParser

open Sample in
theorem readoutControlled : Controlled confModel nestedSession "readout-controller" nestedSession.segment
    (findControlledApps confModel nestedSession "readout-controller" nestedSession.segment) := by
  have last : readoutSegment ∈ (enabledSegments confModel nestedSession nestedSession.segment.segments).getLast? := rfl
  have along : LastReached confModel nestedSession nestedSession.segment readoutSegment := .inside last (.here _)
  refine (controlledIff (by decide)).mpr fun inner reached same => ?_
  obtain rfl : inner = readoutSegment := reachedApart (by decide) reached (lastReached along) same
  exact .inr ⟨rfl,.inr along⟩

open Sample in
theorem ruAppsLost : ¬ Controlled confModel bootSession "ru-controller" bootSession.segment
    (findControlledApps confModel bootSession "ru-controller" bootSession.segment) := by
  intro ⟨found,_⟩
  have reached : Reached confModel bootSession bootSession.segment ruSegment :=
    .inside List.mem_cons_self (by decide) (.here ruSegment)
  exact absurd (found ruSegment reached rfl) (by decide)

end OksParser
end Drunc
