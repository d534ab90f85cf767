import Drunc.Booting

/-! How long a controller looks for its children on the connectivity service. The walk over
the segments carries down how many are above, and each loop over siblings the largest
count so far. A `Chain` goes from a segment down to one without sub-segments; a segment is
added above the top, beside other sub-segments or anywhere below. -/
namespace Drunc
open Segment (Within)

namespace ControllerUtils

mutual
def recurseSegment (recursionCount : Nat) : Segment → Nat
  | .mk _ _ segments _ => if segments.isEmpty then recursionCount else maxRecursionAmong recursionCount 0 segments
def maxRecursionAmong (recursionCount maxRecursion : Nat) : List Segment → Nat
  | [] => maxRecursion
  | childSegment :: rest =>
      let childRecursionCount := recurseSegment (recursionCount+1) childSegment
      maxRecursionAmong recursionCount (if childRecursionCount > maxRecursion then childRecursionCount else maxRecursion) rest
end

def getSegmentLookupTimeout {R : Type} [Semiring R] (segmentConf : Segment) (baseTimeout : R := 60) : R :=
  baseTimeout * (recurseSegment 1 segmentConf : R)

end ControllerUtils

namespace Segment

inductive Chain : Segment → List Segment → Prop
  | leaf {s : Segment} (bare : s.segments = []) : Chain s [s]
  | down {s child : Segment} {chain : List Segment} (mem : child ∈ s.segments) (rest : Chain child chain) : Chain s (s :: chain)

def chainLengths (s : Segment) : Set Nat := { n | ∃ chain, Chain s chain ∧ chain.length = n }

inductive Adds : Segment → Segment → Prop
  | above {s larger : Segment} (mem : s ∈ larger.segments) : Adds s larger
  | beside (id : String) (controller : RCApplication) (before after : List Segment) (added : Segment)
      (applications : List OksApplication) :
      Adds (.mk id controller (before ++ after) applications) (.mk id controller (before ++ added :: after) applications)
  | inside (id : String) (controller : RCApplication) (before after : List Segment) (applications : List OksApplication)
      {child larger : Segment} (adds : Adds child larger) :
      Adds (.mk id controller (before ++ child :: after) applications) (.mk id controller (before ++ larger :: after) applications)

theorem chainPositive {s : Segment} {chain : List Segment} (goes : Chain s chain) : 0 < chain.length := by
  cases goes <;> exact Nat.succ_pos _

end Segment

namespace ControllerUtils
open Segment (Chain chainLengths chainPositive Adds)

theorem recurseSplit (recursionCount : Nat) (s : Segment) : recurseSegment recursionCount s =
    if s.segments.isEmpty then recursionCount else maxRecursionAmong recursionCount 0 s.segments := by
  cases s
  rw [recurseSegment]
  rfl

theorem maxRecursionCons (recursionCount maxRecursion : Nat) (child : Segment) (rest : List Segment) :
    maxRecursionAmong recursionCount maxRecursion (child :: rest) =
      maxRecursionAmong recursionCount (max maxRecursion (recurseSegment (recursionCount+1) child)) rest := by
  have running : (if recurseSegment (recursionCount+1) child > maxRecursion then recurseSegment (recursionCount+1) child
      else maxRecursion) = max maxRecursion (recurseSegment (recursionCount+1) child) := by split <;> omega
  rw [maxRecursionAmong,← running]

theorem maxRecursionBound (recursionCount maxRecursion : Nat) (segments : List Segment) :
    maxRecursion ≤ maxRecursionAmong recursionCount maxRecursion segments ∧
      ∀ child ∈ segments, recurseSegment (recursionCount+1) child ≤ maxRecursionAmong recursionCount maxRecursion segments := by
  induction segments generalizing maxRecursion with
  | nil => simp [maxRecursionAmong]
  | cons child rest ih =>
    rw [maxRecursionCons]
    obtain ⟨soFar,later⟩ := ih (max maxRecursion (recurseSegment (recursionCount+1) child))
    refine ⟨(Nat.le_max_left _ _).trans soFar,fun other mem => ?_⟩
    rcases List.mem_cons.mp mem with rfl | mem
    · exact (Nat.le_max_right _ _).trans soFar
    · exact later other mem

theorem maxRecursionAttained (recursionCount maxRecursion : Nat) (segments : List Segment) :
    maxRecursionAmong recursionCount maxRecursion segments = maxRecursion ∨
      ∃ child ∈ segments, maxRecursionAmong recursionCount maxRecursion segments = recurseSegment (recursionCount+1) child := by
  induction segments generalizing maxRecursion with
  | nil => exact .inl rfl
  | cons child rest ih =>
    rw [maxRecursionCons]
    rcases ih (max maxRecursion (recurseSegment (recursionCount+1) child)) with same | ⟨other,mem,same⟩
    · rw [same]
      rcases Nat.le_total (recurseSegment (recursionCount+1) child) maxRecursion with less | more
      · exact .inl (Nat.max_eq_left less)
      · exact .inr ⟨child,List.mem_cons_self,Nat.max_eq_right more⟩
    · exact .inr ⟨other,List.mem_cons_of_mem _ mem,same⟩

theorem recurseBound {s : Segment} {chain : List Segment} (goes : Chain s chain) (recursionCount : Nat) :
    recursionCount + chain.length ≤ recurseSegment recursionCount s + 1 := by
  induction goes generalizing recursionCount with
  | leaf bare => rw [recurseSplit,if_pos (List.isEmpty_iff.mpr bare),List.length_singleton]
  | @down s child chain mem rest ih =>
    have some : ¬ s.segments.isEmpty = true := fun empty => absurd (List.isEmpty_iff.mp empty ▸ mem) List.not_mem_nil
    have below := ih (recursionCount+1)
    have small := (maxRecursionBound recursionCount 0 s.segments).2 child mem
    rw [recurseSplit,if_neg some,List.length_cons]
    omega

theorem recurseAttained (s : Segment) (recursionCount : Nat) :
    ∃ chain, Chain s chain ∧ recurseSegment recursionCount s + 1 = recursionCount + chain.length := by
  induction s using Segment.inductOn generalizing recursionCount with
  | step s ih =>
    rw [recurseSplit]
    split
    · rename_i empty
      exact ⟨[s],.leaf (List.isEmpty_iff.mp empty),rfl⟩
    · rename_i some
      rcases maxRecursionAttained recursionCount 0 s.segments with zero | ⟨child,mem,same⟩
      · -- zero is below what any sub-segment gives
        obtain ⟨child,mem⟩ := List.exists_mem_of_ne_nil _ fun bare => some (List.isEmpty_iff.mpr bare)
        obtain ⟨chain,goes,deep⟩ := ih child mem (recursionCount+1)
        have small := (maxRecursionBound recursionCount 0 s.segments).2 child mem
        have positive := chainPositive goes
        omega
      · obtain ⟨chain,goes,deep⟩ := ih child mem (recursionCount+1)
        exact ⟨s :: chain,.down mem goes,by rw [same,deep,List.length_cons]; omega⟩

theorem recurseGreatest (s : Segment) : IsGreatest (chainLengths s) (recurseSegment 1 s) := by
  obtain ⟨chain,goes,deep⟩ := recurseAttained s 1
  refine ⟨⟨chain,goes,by omega⟩,?_⟩
  rintro _ ⟨other,along,rfl⟩
  have := recurseBound along 1
  omega

theorem recurseBelow {s child : Segment} (mem : child ∈ s.segments) : recurseSegment 1 child + 1 ≤ recurseSegment 1 s := by
  obtain ⟨chain,goes,deep⟩ := (recurseGreatest child).1
  rw [← deep]
  exact (recurseGreatest s).2 ⟨s :: chain,.down mem goes,rfl⟩

theorem recurseWithin {s inner : Segment} (within : Within s inner) : recurseSegment 1 inner ≤ recurseSegment 1 s := by
  induction within with
  | here s => exact Nat.le_refl _
  | inside mem _ ih =>
    have below := recurseBelow mem
    omega

theorem addedChain {s larger : Segment} {chain : List Segment} (adds : Adds s larger) (goes : Chain s chain) :
    ∃ longer, Chain larger longer ∧ chain.length ≤ longer.length := by
  induction adds generalizing chain with
  | above mem => exact ⟨_,.down mem goes,Nat.le_succ _⟩
  | beside id controller before after added applications =>
    cases goes with
    | leaf bare =>
      obtain ⟨new,along,_⟩ := (recurseGreatest added).1
      exact ⟨_,.down (List.mem_append_right before List.mem_cons_self) along,Nat.succ_le_succ (Nat.zero_le _)⟩
    | @down _ child chain mem rest =>
      have kept : child ∈ before ++ added :: after := ((List.sublist_cons_self added after).append_left before).subset mem
      exact ⟨_,.down kept rest,Nat.le_refl _⟩
  | @inside id controller before after applications child larger adds ih =>
    cases goes with
    | leaf bare => exact absurd bare (by simp [Segment.segments])
    | @down _ other chain mem rest =>
      have split : other ∈ before ∨ other = child ∨ other ∈ after := by simpa [Segment.segments] using mem
      rcases split with first | rfl | last
      · exact ⟨_,.down (List.mem_append_left _ first) rest,Nat.le_refl _⟩
      · obtain ⟨longer,along,more⟩ := ih rest
        exact ⟨_,.down (List.mem_append_right before List.mem_cons_self) along,Nat.succ_le_succ more⟩
      · exact ⟨_,.down (List.mem_append_right before (List.mem_cons_of_mem larger last)) rest,Nat.le_refl _⟩

theorem recurseAdded {s larger : Segment} (added : Relation.ReflTransGen Adds s larger) :
    recurseSegment 1 s ≤ recurseSegment 1 larger := by
  induction added with
  | refl => exact Nat.le_refl _
  | @tail middle larger _ adds ih =>
    obtain ⟨chain,goes,deep⟩ := (recurseGreatest middle).1
    obtain ⟨longer,along,more⟩ := addedChain adds goes
    have bound := (recurseGreatest larger).2 ⟨longer,along,rfl⟩
    omega

theorem lookupTimeoutMono {R : Type} [Ring R] [LinearOrder R] [IsStrictOrderedRing R] {s larger : Segment} {baseTimeout : R}
    (positive : 0 ≤ baseTimeout) (more : recurseSegment 1 s ≤ recurseSegment 1 larger) :
    getSegmentLookupTimeout s baseTimeout ≤ getSegmentLookupTimeout larger baseTimeout :=
  mul_le_mul_of_nonneg_left (Nat.cast_le.mpr more) positive

theorem lookupTimeoutLongest {R : Type} [Ring R] [LinearOrder R] [IsStrictOrderedRing R] (segment : Segment) (baseTimeout : R) :
    (∃ longest : Nat, IsGreatest (chainLengths segment) longest ∧
      getSegmentLookupTimeout segment baseTimeout = baseTimeout * longest) ∧
    (0 ≤ baseTimeout → ∀ child ∈ segment.segments, ∀ inner, Within child inner →
      getSegmentLookupTimeout inner baseTimeout + baseTimeout ≤ getSegmentLookupTimeout segment baseTimeout) ∧
    (0 ≤ baseTimeout → ∀ larger, Relation.ReflTransGen Adds segment larger →
      getSegmentLookupTimeout segment baseTimeout ≤ getSegmentLookupTimeout larger baseTimeout) := by
  refine ⟨⟨recurseSegment 1 segment,recurseGreatest segment,rfl⟩,fun positive child mem inner within => ?_,
    fun positive larger added => lookupTimeoutMono positive (recurseAdded added)⟩
  have below := recurseBelow mem
  have inside := recurseWithin within
  have more : ((recurseSegment 1 inner + 1 : Nat) : R) ≤ (recurseSegment 1 segment : R) := Nat.cast_le.mpr (by omega)
  calc getSegmentLookupTimeout inner baseTimeout + baseTimeout
    _ = baseTimeout * ((recurseSegment 1 inner + 1 : Nat) : R) := by rw [Nat.cast_succ,mul_add,mul_one]; rfl
    _ ≤ getSegmentLookupTimeout segment baseTimeout := mul_le_mul_of_nonneg_left more positive

end ControllerUtils

namespace Sample

def leafSegment (id : String) : Segment := .mk id (controllerNamed id) [] []

def segment2 : Segment := .mk "segment-2" (controllerNamed "segment-2") [leafSegment "segment-3"] []

def segment4 : Segment :=
  .mk "segment-4" (controllerNamed "segment-4") [.mk "segment-5" (controllerNamed "segment-5") [leafSegment "segment-6"] []] []

def segment0 : Segment := .mk "segment-0" (controllerNamed "segment-0")
  [.mk "segment-1" (controllerNamed "segment-1") [segment2,segment4] []] []

end Sample

namespace ControllerUtils
open Segment (Adds)
open Sample (controllerNamed segment0 segment2 segment4)

theorem deepSegmentsTimeout : getSegmentLookupTimeout segment2 (60 : Int) + 60 ≤ getSegmentLookupTimeout segment0 60 ∧
    getSegmentLookupTimeout segment2 (60 : Int) ≤ getSegmentLookupTimeout segment0 60 := by
  have inside : Within (.mk "segment-1" (controllerNamed "segment-1") [segment2,segment4] []) segment2 :=
    .inside List.mem_cons_self (.here segment2)
  have above : Adds segment2 (.mk "segment-1" (controllerNamed "segment-1") [segment2,segment4] []) :=
    .above List.mem_cons_self
  have added : Relation.ReflTransGen Adds segment2 segment0 := .tail (.single above) (.above List.mem_cons_self)
  exact ⟨(lookupTimeoutLongest segment0 60).2.1 (by decide) _ List.mem_cons_self segment2 inside,
    (lookupTimeoutLongest segment2 60).2.2 (by decide) segment0 added⟩

example : getSegmentLookupTimeout segment0 (60 : Int) = 60 * 5 ∧ getSegmentLookupTimeout segment4 (60 : Int) = 60 * 3 := by decide

end ControllerUtils
end Drunc
