import Drunc.ChildrenLookup
import Drunc.OksParser

/-! Booting and controlling walk the same tree on their own: `collect_apps` once from
the top, and each controller that was booted from its own segment, which it finds by
its name. What a controller builds are the ones booted directly below it. -/
namespace Drunc
open Library (Dict)
open Segment (Within)
open OksParser (collectApps applicationEnabled brings Reached collectedIff reachedWithin reachedSnoc reachedLast)
open ControllerConfHandler (findSegment findUnique getChildren configuredChildren registered Answerable answeredNames)
open ChildNode (Wanted Buildable)

structure Startup where
  net : Network
  initToken : Option Token
  schedule : List Nat

section Boot
variable (m : ConfModel) (dbPath : Option String) (session : Session) (env : Dict String String) (treePrefix : List Nat)
  (startup : String → Startup)

def collectedNames : List String := (collectApps m dbPath session env treePrefix session.segment).map AppEntry.name

def Listed (s : Segment) : Prop :=
  Within session.segment s ∧ s.controller.id ∈ collectedNames m dbPath session env treePrefix

def childrenOf (controller : String) : Option (List BuiltChild) :=
  (findSegment controller session.segment).map fun data =>
    (getChildren (startup controller).net m session.id (startup controller).initToken data false Dict.empty
      (startup controller).schedule).children

def Answered : Prop :=
  ∀ s, Listed m dbPath session env treePrefix s →
    ∀ child ∈ configuredChildren m session.id (startup s.controller.id).initToken s, Buildable (startup s.controller.id).net child

def ComponentsOnly : Prop :=
  ∀ s, Within session.segment s → ∀ app ∈ s.applications, "Component" ∉ app.oksTypes →
    m.componentDisabled session.id app.id = false

end Boot

section Agreement
variable {m : ConfModel} {dbPath : Option String} {session : Session} {env : Dict String String} {treePrefix : List Nat}
  {startup : String → Startup} {s inner : Segment} {name : String}

theorem collectedReached : name ∈ collectedNames m dbPath session env treePrefix ↔
    ∃ inner, Reached m session session.segment inner ∧ name ∈ brings m session inner :=
  collectedIff session.segment treePrefix

theorem bringsOwn (own : name ∈ brings m session s) : name ∈ s.ownNames := by
  rcases List.mem_cons.mp own with rfl | own
  · exact List.mem_cons_self
  · exact List.mem_cons_of_mem _ ((List.filter_sublist.map _).subset own)

theorem listedReached (distinct : session.segment.names.Nodup) (listed : Listed m dbPath session env treePrefix s) :
    Reached m session session.segment s := by
  obtain ⟨within,collected⟩ := listed
  obtain ⟨r,reached,own⟩ := collectedReached.mp collected
  rwa [Segment.withinUnique Segment.namesOwn distinct within (reachedWithin reached) List.mem_cons_self (bringsOwn own)]

theorem reachedListed (reached : Reached m session session.segment s) : Listed m dbPath session env treePrefix s :=
  ⟨reachedWithin reached,collectedReached.mpr ⟨s,reached,List.mem_cons_self⟩⟩

theorem configuredNames {initToken : Option Token} :
    (configuredChildren m session.id initToken s).map Wanted.name =
      (s.segments.filter fun segment => !m.componentDisabled session.id segment.id).map (fun child => child.controller.id) ++
        (s.applications.filter fun app => !m.componentDisabled session.id app.id).map OksApplication.id := by
  unfold configuredChildren
  rw [List.map_append,List.map_map,List.map_map]
  rfl

theorem configuredSublist {initToken : Option Token} :
    ((configuredChildren m session.id initToken s).map Wanted.name).Sublist s.childNames := by
  rw [configuredNames]
  exact (List.filter_sublist.map _).append (List.filter_sublist.map _)

theorem answerableAlone {net : Network} {initToken : Option Token} (distinct : s.names.Nodup)
    (built : ∀ child ∈ configuredChildren m session.id initToken s, Buildable net child) :
    Answerable net Dict.empty (configuredChildren m session.id initToken s) :=
  ⟨built,(Segment.childNamesNodup distinct).sublist ((List.filter_sublist.map _).trans configuredSublist)⟩

theorem childrenNames (distinct : session.segment.names.Nodup) (answered : Answered m dbPath session env treePrefix startup)
    (listed : Listed m dbPath session env treePrefix s) :
    ∃ children, childrenOf m session startup s.controller.id = some children ∧
      (children.map BuiltChild.name).Perm ((configuredChildren m session.id (startup s.controller.id).initToken s).map Wanted.name) := by
  refine ⟨_,by rw [childrenOf,findUnique distinct listed.1]; rfl,?_⟩
  exact answeredNames (answerableAlone (Segment.withinNodup listed.1 distinct) (answered s listed))

theorem enabledIff (components : ComponentsOnly m session) (within : Within session.segment s) {app : OksApplication}
    (mem : app ∈ s.applications) : applicationEnabled m session app = true ↔ m.componentDisabled session.id app.id = false := by
  unfold applicationEnabled
  split
  · rw [Bool.not_eq_true']
  · rename_i other
    simp [components s within app mem other]

theorem configuredCollected (components : ComponentsOnly m session) (reached : Reached m session session.segment s)
    {initToken : Option Token} (mem : name ∈ (configuredChildren m session.id initToken s).map Wanted.name) :
    name ∈ collectedNames m dbPath session env treePrefix := by
  rw [configuredNames,List.mem_append,List.mem_map,List.mem_map] at mem
  rcases mem with ⟨child,mem,rfl⟩ | ⟨app,mem,rfl⟩
  · obtain ⟨mem,enabled⟩ := List.mem_filter.mp mem
    rw [Bool.not_eq_true'] at enabled
    exact collectedReached.mpr ⟨child,reachedSnoc reached mem enabled,List.mem_cons_self⟩
  · obtain ⟨mem,enabled⟩ := List.mem_filter.mp mem
    rw [Bool.not_eq_true',← enabledIff components (reachedWithin reached) mem] at enabled
    exact collectedReached.mpr ⟨s,reached,List.mem_cons_of_mem _ (List.mem_map_of_mem (List.mem_filter.mpr ⟨mem,enabled⟩))⟩

theorem topNotBelow (distinct : s.names.Nodup) : s.controller.id ∉ s.applications.map OksApplication.id := fun mem =>
  Segment.childNotTop distinct (.here s) (List.mem_append_right _ mem) rfl

theorem collectedConfigured (distinct : session.segment.names.Nodup) (components : ComponentsOnly m session)
    (within : Within session.segment s) {initToken : Option Token} (collected : name ∈ collectedNames m dbPath session env treePrefix)
    (below : name ∈ s.childNames) : name ∈ (configuredChildren m session.id initToken s).map Wanted.name := by
  obtain ⟨r,reached,own⟩ := collectedReached.mp collected
  have inside := reachedWithin reached
  rw [configuredNames,List.mem_append]
  rcases List.mem_append.mp below with segment | application
  · left
    obtain ⟨child,mem,rfl⟩ := List.mem_map.mp segment
    have same : child = r := Segment.withinUnique Segment.namesOwn distinct (Segment.withinSnoc within mem) inside
      List.mem_cons_self (bringsOwn own)
    subst same
    rcases reachedLast reached with top | ⟨enabled,_⟩
    · exact absurd (congrArg (fun s => s.controller.id) top) (Segment.childNotTop distinct within below)
    · exact List.mem_map_of_mem (List.mem_filter.mpr ⟨mem,by rw [enabled]; rfl⟩)
  · right
    have same : s = r := Segment.withinUnique Segment.namesOwn distinct within inside
      (List.mem_cons_of_mem _ application) (bringsOwn own)
    subst same
    rcases List.mem_cons.mp own with rfl | own
    · exact absurd application (topNotBelow (Segment.withinNodup within distinct))
    · obtain ⟨app,mem,rfl⟩ := List.mem_map.mp own
      obtain ⟨mem,enabled⟩ := List.mem_filter.mp mem
      rw [enabledIff components within mem] at enabled
      exact List.mem_map_of_mem (List.mem_filter.mpr ⟨mem,by rw [enabled]; rfl⟩)

theorem childrenCollected (distinct : session.segment.names.Nodup) (components : ComponentsOnly m session)
    (answered : Answered m dbPath session env treePrefix startup) (listed : Listed m dbPath session env treePrefix s) :
    ∃ children, childrenOf m session startup s.controller.id = some children ∧
      ∀ name, name ∈ children.map BuiltChild.name ↔
        name ∈ collectedNames m dbPath session env treePrefix ∧ name ∈ s.childNames := by
  obtain ⟨children,found,same⟩ := childrenNames distinct answered listed
  refine ⟨children,found,fun name => ?_⟩
  rw [same.mem_iff]
  constructor
  · exact fun mem => ⟨configuredCollected components (listedReached distinct listed) mem,configuredSublist.subset mem⟩
  · exact fun ⟨collected,below⟩ => collectedConfigured distinct components listed.1 collected below

theorem collectedBelow (collected : name ∈ collectedNames m dbPath session env treePrefix) :
    name = session.segment.controller.id ∨ ∃ s, Listed m dbPath session env treePrefix s ∧ name ∈ s.childNames := by
  obtain ⟨r,reached,own⟩ := collectedReached.mp collected
  rcases List.mem_cons.mp own with rfl | own
  · rcases reachedLast reached with rfl | ⟨_,p,before,below⟩
    · exact .inl rfl
    · exact .inr ⟨p,reachedListed before,List.mem_append_left _ (List.mem_map_of_mem (f := fun child => child.controller.id) below)⟩
  · exact .inr ⟨r,reachedListed reached,List.mem_append_right _ ((List.filter_sublist.map _).subset own)⟩

theorem bootedAreControlled (distinct : session.segment.names.Nodup) (components : ComponentsOnly m session)
    (answered : Answered m dbPath session env treePrefix startup) :
    (∀ s, Listed m dbPath session env treePrefix s → ∃ children, childrenOf m session startup s.controller.id = some children ∧
      ∀ name, name ∈ children.map BuiltChild.name ↔
        name ∈ collectedNames m dbPath session env treePrefix ∧ name ∈ s.childNames) ∧
    ∀ name ∈ collectedNames m dbPath session env treePrefix, name ≠ session.segment.controller.id →
      ∃! controller, (∃ s, Listed m dbPath session env treePrefix s ∧ s.controller.id = controller) ∧
        ∃ children, childrenOf m session startup controller = some children ∧ name ∈ children.map BuiltChild.name := by
  refine ⟨fun s listed => childrenCollected distinct components answered listed,fun name collected notTop => ?_⟩
  obtain top | ⟨s,listed,below⟩ := collectedBelow collected
  · exact absurd top notTop
  obtain ⟨children,found,same⟩ := childrenCollected distinct components answered listed
  refine ⟨s.controller.id,⟨⟨s,listed,rfl⟩,children,found,(same name).mpr ⟨collected,below⟩⟩,?_⟩
  rintro _ ⟨⟨t,other,rfl⟩,others,built,mem⟩
  obtain ⟨_,again,sameThere⟩ := childrenCollected distinct components answered other
  cases built.symm.trans again
  have belowThere := ((sameThere name).mp mem).2
  rw [Segment.withinUnique Segment.namesBelowChildren (Segment.belowNodup distinct) listed.1 other.1 below belowThere]

end Agreement

namespace Sample

def liveNetwork : Network :=
  ⟨.ok "10.0.0.1",fun _ => none,none,fun _ _ _ => .ok .none,fun _ _ => none,fun _ _ => true⟩

def confModel : ConfModel :=
  ⟨fun _ id => id = "trigger" || id = "ru-02",fun _ _ => ["grpc://np04:3333"],fun _ _ => ["rest://np04:4444"],fun _ _ => []⟩

def controllerNamed (id : String) : RCApplication := ⟨⟨id,"drunc-controller",["RCApplication"],[],"np04",[],"",none⟩,none⟩

def applicationNamed (id : String) : OksApplication :=
  ⟨id,"daq_application",["SmartDaqApplication","Component"],[],"np04",[],"",none⟩

def ruSegment : Segment := .mk "ru" (controllerNamed "ru-controller") [] [applicationNamed "ru-01",applicationNamed "ru-02"]

def triggerSegment : Segment := .mk "trigger" (controllerNamed "trg-controller") [] [applicationNamed "mlt"]

def bootSession : Session :=
  ⟨"session",[],.mk "root" (controllerNamed "root-controller") [ruSegment,triggerSegment] [applicationNamed "dfo"]⟩

def lively : Startup := ⟨liveNetwork,none,[]⟩

theorem bootSegments {s : Segment} (within : Within bootSession.segment s) :
    s = bootSession.segment ∨ s = ruSegment ∨ s = triggerSegment := by
  cases within with
  | here => exact .inl rfl
  | inside mem below =>
    have leaf : ∀ child ∈ bootSession.segment.segments, child.segments = [] := by decide
    cases below with
    | here =>
      exact .inr (by simpa [bootSession,Segment.segments] using mem)
    | inside deeper =>
      rw [leaf _ mem] at deeper
      contradiction

theorem liveController (id : String) : Buildable liveNetwork ⟨id,["grpc://np04:3333"],none,none,none⟩ :=
  ChildNode.buildableIff.mp ⟨_,rfl⟩

theorem liveApplication (id : String) : Buildable liveNetwork ⟨id,["rest://np04:4444"],none,some none,none⟩ :=
  ChildNode.buildableIff.mp ⟨_,rfl⟩

theorem bootComponents : ComponentsOnly confModel bootSession := by
  intro s within app mem other
  have all : ∀ s ∈ [bootSession.segment,ruSegment,triggerSegment], ∀ app ∈ s.applications, "Component" ∈ app.oksTypes := by decide
  exact absurd (all s (by simpa using bootSegments within) app mem) other

theorem bootAnswered : Answered confModel none bootSession Dict.empty [0] fun _ => lively := by
  rintro s ⟨within,collected⟩ child mem
  rcases bootSegments within with rfl | rfl | rfl
  · rcases List.mem_cons.mp mem with rfl | mem
    · exact liveController _
    · rw [List.mem_singleton.mp mem]
      exact liveApplication _
  · rw [List.mem_singleton.mp mem]
    exact liveApplication _
  · exact absurd collected (by decide)

end Sample

open Sample in
theorem ru01Controlled :
    ∃! controller, (∃ s, Listed confModel none bootSession Dict.empty [0] s ∧ s.controller.id = controller) ∧
      ∃ children, childrenOf confModel bootSession (fun _ => lively) controller = some children ∧
        "ru-01" ∈ children.map BuiltChild.name :=
  (bootedAreControlled (by decide) bootComponents bootAnswered).2 "ru-01" (by decide) (by decide)

end Drunc
