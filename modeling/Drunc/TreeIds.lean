import Drunc.Library.Dotted
import Drunc.SegmentSearch

/-! The dotted numbers of what a session boots. A segment that is reached through enabled
ones has a place: the positions, disabled sub-segments counted, by which it is reached.
A controller has the number of its segment's place. The applications of a segment are
numbered from zero as well, so that an application takes the number of a sub-segment
whose position is below the number of enabled applications. -/
namespace Drunc
open Library (Dict dotted)
open Library.Dotted (dottedInjective dottedSnoc)

namespace OksParser

section Places
variable (m : ConfModel) (session : Session)

def enabledApplications (s : Segment) : List OksApplication := s.applications.filter (applicationEnabled m session)

def segmentAt : List Nat → Segment → Option Segment
  | [], s => some s
  | idx :: path, s => match s.segments[idx]? with
    | none => none
    | some seg => if m.componentDisabled session.id seg.id then none else segmentAt path seg

mutual
def placements : Segment → List (List Nat × Segment)
  | .mk id controller segments applications => ([],.mk id controller segments applications) :: placementsAmong 0 segments
def placementsAmong (idx : Nat) : List Segment → List (List Nat × Segment)
  | [] => []
  | seg :: rest =>
      if m.componentDisabled session.id seg.id then placementsAmong (idx+1) rest
      else (placements seg).map (fun place => (idx :: place.1,place.2)) ++ placementsAmong (idx+1) rest
end

def numbers (treePrefix : List Nat) (place : List Nat × Segment) : List (String × String) :=
  (place.2.controller.id,dotted (treePrefix ++ place.1)) ::
    (enabledApplications m session place.2).zipIdx.map fun app =>
      (app.1.id,dotted (treePrefix ++ place.1) ++ "." ++ toString app.2)

def Roomy (s : Segment) : Prop :=
  ∀ inner, Reached m session s inner → ∀ idx child, inner.segments[idx]? = some child →
    m.componentDisabled session.id child.id = false → (enabledApplications m session inner).length ≤ idx

structure Numbered (treePrefix : List Nat) (s : Segment) (entries : List AppEntry) : Prop where
  listed : (entries.map fun e => (e.name,e.treeId)).Perm ((placements m session s).flatMap (numbers m session treePrefix))
  places : ((placements m session s).map Prod.fst).Nodup
  reached : ∀ inner, Reached m session s inner ↔ ∃ path, (path,inner) ∈ placements m session s
  nested : ∀ path inner, (path,inner) ∈ placements m session s → ∀ idx child, inner.segments[idx]? = some child →
    m.componentDisabled session.id child.id = false → (path ++ [idx],child) ∈ placements m session s ∧
      dotted (treePrefix ++ (path ++ [idx])) = dotted (treePrefix ++ path) ++ "." ++ toString idx
  apart : (entries.map AppEntry.treeId).Nodup

end Places

section Flat
variable {m : ConfModel} {session : Session} {dbPath : Option String} {env : Dict String String}

theorem placementsAmongFlat (idx : Nat) (segments : List Segment) : placementsAmong m session idx segments =
    (segments.zipIdx idx).flatMap fun seg => if m.componentDisabled session.id seg.1.id then []
      else (placements m session seg.1).map fun place => (seg.2 :: place.1,place.2) := by
  induction segments generalizing idx with
  | nil => rfl
  | cons seg rest ih =>
    rw [placementsAmong,List.zipIdx_cons,List.flatMap_cons,ih]
    cases m.componentDisabled session.id seg.id <;> rfl

theorem placementsSplit (s : Segment) : placements m session s = ([],s) ::
    s.segments.zipIdx.flatMap fun seg => if m.componentDisabled session.id seg.1.id then []
      else (placements m session seg.1).map fun place => (seg.2 :: place.1,place.2) := by
  obtain ⟨id,controller,segments,applications⟩ := s
  rw [placements,placementsAmongFlat]
  rfl

theorem collectSegmentsFlat (treePrefix : List Nat) (idx : Nat) (segments : List Segment) :
    collectSegments m dbPath session env treePrefix idx segments =
      (segments.zipIdx idx).flatMap fun seg => if m.componentDisabled session.id seg.1.id then []
        else collectApps m dbPath session env (treePrefix ++ [seg.2]) seg.1 := by
  induction segments generalizing idx with
  | nil => rfl
  | cons seg rest ih =>
    rw [collectSegments,List.zipIdx_cons,List.flatMap_cons,ih]
    cases m.componentDisabled session.id seg.id <;> rfl

theorem collectApplicationsFlat (treePrefix : List Nat) (appIndex : Nat) (apps : List OksApplication) :
    collectApplications m dbPath session env treePrefix appIndex apps =
      ((apps.filter (applicationEnabled m session)).zipIdx appIndex).map fun app =>
        appEntry m dbPath session env app.1 (treePrefix ++ [app.2]) := by
  induction apps generalizing appIndex with
  | nil => rfl
  | cons app rest ih =>
    rw [collectApplications,List.filter_cons]
    split
    · rw [List.zipIdx_cons,List.map_cons,ih]
    · exact ih appIndex

end Flat

section Places
variable {m : ConfModel} {session : Session} {s inner child : Segment} {path : List Nat} {idx : Nat}

theorem segmentAtCons : segmentAt m session (idx :: path) s = some inner ↔ ∃ seg, s.segments[idx]? = some seg ∧
    m.componentDisabled session.id seg.id = false ∧ segmentAt m session path seg = some inner := by
  rw [segmentAt]
  cases s.segments[idx]? with
  | none => simp
  | some seg => simp

theorem segmentAtSnoc : segmentAt m session (path ++ [idx]) s = some child ↔ ∃ p, segmentAt m session path s = some p ∧
    p.segments[idx]? = some child ∧ m.componentDisabled session.id child.id = false := by
  induction path generalizing s with
  | nil =>
    rw [List.nil_append,segmentAtCons]
    constructor
    · rintro ⟨seg,found,enabled,⟨⟩⟩
      exact ⟨s,rfl,found,enabled⟩
    · rintro ⟨_,⟨⟩,found,enabled⟩
      exact ⟨child,found,enabled,rfl⟩
  | cons i path ih =>
    rw [List.cons_append,segmentAtCons]
    constructor
    · rintro ⟨seg,found,enabled,below⟩
      obtain ⟨p,there,last⟩ := ih.mp below
      exact ⟨p,segmentAtCons.mpr ⟨seg,found,enabled,there⟩,last⟩
    · rintro ⟨p,there,last⟩
      obtain ⟨seg,found,enabled,below⟩ := segmentAtCons.mp there
      exact ⟨seg,found,enabled,ih.mpr ⟨p,below,last⟩⟩

theorem reachedAt : Reached m session s inner ↔ ∃ path, segmentAt m session path s = some inner := by
  constructor
  · intro reached
    induction reached with
    | here s => exact ⟨[],rfl⟩
    | inside mem enabled _ ih =>
      obtain ⟨path,found⟩ := ih
      obtain ⟨idx,place⟩ := List.mem_iff_getElem?.mp mem
      exact ⟨idx :: path,segmentAtCons.mpr ⟨_,place,enabled,found⟩⟩
  · rintro ⟨path,found⟩
    induction path generalizing s with
    | nil =>
      cases found
      exact .here _
    | cons idx path ih =>
      obtain ⟨seg,place,enabled,below⟩ := segmentAtCons.mp found
      exact .inside (List.mem_iff_getElem?.mpr ⟨idx,place⟩) enabled (ih below)

theorem memPlacements : (path,inner) ∈ placements m session s ↔ segmentAt m session path s = some inner := by
  induction s using Segment.inductOn generalizing path with
  | step s ih =>
    rw [placementsSplit,List.mem_cons,List.mem_flatMap]
    constructor
    · rintro (top | ⟨seg,mem,below⟩)
      · cases top
        rfl
      · have place := List.mem_zipIdx_iff_getElem?.mp mem
        split at below
        · exact absurd below List.not_mem_nil
        · rename_i enabled
          obtain ⟨_,there,same⟩ := List.mem_map.mp below
          cases same
          exact segmentAtCons.mpr ⟨seg.1,place,Bool.eq_false_iff.mpr enabled,(ih _ (List.mem_iff_getElem?.mpr ⟨_,place⟩)).mp there⟩
    · intro found
      cases path with
      | nil =>
        cases found
        exact .inl rfl
      | cons idx path =>
        obtain ⟨seg,place,enabled,below⟩ := segmentAtCons.mp found
        refine .inr ⟨(seg,idx),List.mem_zipIdx_iff_getElem?.mpr place,?_⟩
        rw [if_neg (Bool.eq_false_iff.mp enabled)]
        exact List.mem_map.mpr ⟨(path,inner),(ih seg (List.mem_iff_getElem?.mpr ⟨idx,place⟩)).mpr below,rfl⟩

theorem placesApart (s : Segment) : ((placements m session s).map Prod.fst).Nodup := by
  induction s using Segment.inductOn with
  | step s ih =>
    have positions : (s.segments.zipIdx.map Prod.snd).Nodup := by
      rw [List.zipIdx_map_snd]
      exact List.nodup_range'
    rw [placementsSplit,List.map_cons,List.map_flatMap,List.nodup_cons]
    constructor
    · intro mem
      obtain ⟨seg,_,below⟩ := List.mem_flatMap.mp mem
      split at below <;> simp at below
    refine List.nodup_flatMap.mpr ⟨fun seg mem => ?_,(List.pairwise_map.mp positions).imp fun other => ?_⟩
    · split
      · exact List.nodup_nil
      · have same : ((placements m session seg.1).map fun place => (seg.2 :: place.1,place.2)).map Prod.fst =
            ((placements m session seg.1).map Prod.fst).map (List.cons seg.2) := by simp
        rw [same]
        exact (ih _ (List.mem_iff_getElem?.mpr ⟨_,List.mem_zipIdx_iff_getElem?.mp mem⟩)).map List.cons_injective
    · intro path one two
      dsimp only at one two
      split at one <;> split at two <;> simp at one two
      obtain ⟨a,_,rfl⟩ := one
      obtain ⟨b,_,same⟩ := two
      exact other (List.cons.inj same).1.symm

end Places

section Listing
variable {m : ConfModel} {session : Session} {treePrefix : List Nat}

theorem numbersInside (treePrefix : List Nat) (idx : Nat) :
    numbers m session (treePrefix ++ [idx]) = fun place => numbers m session treePrefix (idx :: place.1,place.2) := by
  funext place
  unfold numbers
  rw [List.append_assoc,List.singleton_append]

theorem collectNumbers (dbPath : Option String) (env : Dict String String) (written : treePrefix ≠ []) (s : Segment) :
    ((collectApps m dbPath session env treePrefix s).map fun e => (e.name,e.treeId)).Perm
      ((placements m session s).flatMap (numbers m session treePrefix)) := by
  induction s using Segment.inductOn generalizing treePrefix with
  | step s ih =>
    have applications : (collectApplications m dbPath session env treePrefix 0 s.applications).map (fun e => (e.name,e.treeId)) =
        (enabledApplications m session s).zipIdx.map fun app => (app.1.id,dotted treePrefix ++ "." ++ toString app.2) := by
      rw [collectApplicationsFlat,List.map_map]
      exact List.map_congr_left fun app _ => Prod.ext rfl (dottedSnoc written app.2)
    rw [collectAppsSplit,List.map_cons,List.map_append,placementsSplit,List.flatMap_cons,numbers,List.append_nil,applications,
      collectSegmentsFlat,List.map_flatMap,List.flatMap_assoc]
    refine .cons _ (List.perm_append_comm.trans (.append_left _ (List.Perm.flatMap_left _ fun seg mem => ?_)))
    split
    · exact .refl _
    · have longer : treePrefix ++ [seg.2] ≠ [] := by simp
      have inside := ih seg.1 (List.mem_iff_getElem?.mpr ⟨_,List.mem_zipIdx_iff_getElem?.mp mem⟩) longer
      rw [List.flatMap_map]
      rwa [numbersInside] at inside

def positions (m : ConfModel) (session : Session) (place : List Nat × Segment) : List (List Nat) :=
  place.1 :: (List.range (enabledApplications m session place.2).length).map fun k => place.1 ++ [k]

theorem numbersPositions (written : treePrefix ≠ []) (place : List Nat × Segment) :
    (numbers m session treePrefix place).map Prod.snd =
      (positions m session place).map fun path => dotted (treePrefix ++ path) := by
  have each : ∀ k, dotted (treePrefix ++ (place.1 ++ [k])) = dotted (treePrefix ++ place.1) ++ "." ++ toString k := by
    intro k
    rw [← List.append_assoc]
    exact dottedSnoc (by simp [written]) k
  unfold numbers positions
  rw [List.map_cons,List.map_cons,List.map_map,List.map_map,List.range_eq_range',
    ← List.zipIdx_map_snd 0 (enabledApplications m session place.2),List.map_map]
  exact congrArg _ (List.map_congr_left fun app _ => (each app.2).symm)

theorem treeIdsPlaced (dbPath : Option String) (env : Dict String String) (written : treePrefix ≠ []) (s : Segment) :
    ((collectApps m dbPath session env treePrefix s).map AppEntry.treeId).Perm
      (((placements m session s).flatMap (positions m session)).map fun path => dotted (treePrefix ++ path)) := by
  have numbered : ((collectApps m dbPath session env treePrefix s).map fun e => (e.name,e.treeId)).Perm _ :=
    collectNumbers dbPath env written s
  have ids := numbered.map Prod.snd
  rwa [List.map_map,List.map_flatMap,funext (numbersPositions written),← List.map_flatMap] at ids

theorem treeIdsApart (dbPath : Option String) (env : Dict String String) (written : treePrefix ≠ []) (s : Segment) :
    ((collectApps m dbPath session env treePrefix s).map AppEntry.treeId).Nodup ↔
      ((placements m session s).flatMap (positions m session)).Nodup := by
  refine (treeIdsPlaced dbPath env written s).nodup_iff.trans (List.nodup_map_iff fun a b same => ?_)
  exact List.append_cancel_left (dottedInjective same)

end Listing

section Unique
variable {m : ConfModel} {session : Session} {s inner child : Segment} {path : List Nat} {idx : Nat}

theorem memPositions {place : List Nat × Segment} : path ∈ positions m session place ↔
    path = place.1 ∨ ∃ k < (enabledApplications m session place.2).length, path = place.1 ++ [k] := by
  unfold positions
  simp only [List.mem_cons,List.mem_map,List.mem_range,eq_comm]

theorem ownApart (place : List Nat × Segment) : (positions m session place).Nodup := by
  refine List.nodup_cons.mpr ⟨fun mem => ?_,List.nodup_range.map fun a b same => ?_⟩
  · obtain ⟨k,_,same⟩ := List.mem_map.mp mem
    simp at same
  · exact List.singleton_inj.mp (List.append_cancel_left same)

theorem roomyAt (roomy : Roomy m session s) (found : segmentAt m session path s = some inner)
    (below : segmentAt m session (path ++ [idx]) s = some child) : (enabledApplications m session inner).length ≤ idx := by
  obtain ⟨p,there,place,enabled⟩ := segmentAtSnoc.mp below
  cases found.symm.trans there
  exact roomy inner (reachedAt.mpr ⟨path,found⟩) idx child place enabled

theorem blocksApart (roomy : Roomy m session s) {a b : List Nat × Segment} (one : segmentAt m session a.1 s = some a.2)
    (two : segmentAt m session b.1 s = some b.2) (other : a.1 ≠ b.1) :
    (positions m session a).Disjoint (positions m session b) := by
  intro path inA inB
  rcases memPositions.mp inA with rfl | ⟨k,bound,rfl⟩
  · rcases memPositions.mp inB with same | ⟨j,small,same⟩
    · exact other same
    · -- the place of the one segment is that of an application of the other
      exact absurd (roomyAt roomy two (same ▸ one)) (Nat.not_le.mpr small)
  · rcases memPositions.mp inB with same | ⟨j,_,same⟩
    · exact absurd (roomyAt roomy one (same ▸ two)) (Nat.not_le.mpr bound)
    · exact other (List.append_inj' same rfl).1

theorem positionsIff (s : Segment) : ((placements m session s).flatMap (positions m session)).Nodup ↔ Roomy m session s := by
  constructor
  · intro apart inner reached idx child place enabled
    by_contra short
    obtain ⟨path,found⟩ := reachedAt.mp reached
    have below : segmentAt m session (path ++ [idx]) s = some child := segmentAtSnoc.mpr ⟨inner,found,place,enabled⟩
    have : Std.Symm (Function.onFun List.Disjoint (positions m session)) := ⟨fun _ _ => List.Disjoint.symm⟩
    have blocks := (List.nodup_flatMap.mp apart).2.forall (memPlacements.mpr found) (memPlacements.mpr below) (by simp)
    exact blocks (memPositions.mpr (.inr ⟨idx,Nat.not_le.mp short,rfl⟩)) (memPositions.mpr (.inl rfl))
  · intro roomy
    refine List.nodup_flatMap.mpr ⟨fun place _ => ownApart place,?_⟩
    refine (List.pairwise_map.mp (placesApart s)).imp_of_mem fun one two other => ?_
    exact blocksApart roomy (memPlacements.mp one) (memPlacements.mp two) other

theorem numberedIff (m : ConfModel) (dbPath : Option String) (session : Session) (env : Dict String String)
    (first : Nat) (more : List Nat) (s : Segment) :
    Numbered m session (first :: more) s (collectApps m dbPath session env (first :: more) s) ↔ Roomy m session s := by
  have written : first :: more ≠ [] := List.cons_ne_nil first more
  constructor
  · exact fun numbered => (positionsIff s).mp ((treeIdsApart dbPath env written s).mp numbered.apart)
  · intro roomy
    refine ⟨collectNumbers dbPath env written s,placesApart s,?_,?_,(treeIdsApart dbPath env written s).mpr ((positionsIff s).mpr roomy)⟩
    · intro inner
      simp only [memPlacements,reachedAt]
    · intro path inner place idx child found enabled
      rw [← List.append_assoc]
      exact ⟨memPlacements.mpr (segmentAtSnoc.mpr ⟨inner,memPlacements.mp place,found,enabled⟩),dottedSnoc (by simp) idx⟩

open Sample in
theorem dfoNumberTaken : ¬ Numbered confModel bootSession [0] bootSession.segment
    (collectApps confModel none bootSession Dict.empty [0] bootSession.segment) := by
  intro numbered
  have roomy := (positionsIff bootSession.segment).mp ((treeIdsApart none Dict.empty (by decide) _).mp numbered.apart)
  exact absurd (roomy bootSession.segment (.here _) 0 ruSegment rfl (by decide)) (by decide)

end Unique
end OksParser
end Drunc
