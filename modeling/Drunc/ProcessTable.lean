import Drunc.Library.Sorting
import Drunc.BootRequests
import Drunc.Booting

/-! The table of the processes. Its rows are in the order of the tree ids as texts, and
their indentation is the number of dots; the sessions play no part in either. The rows
are those of the trees of the processes as long as no process that has a child is
followed, in the list that the table is made of, by the process of another session that
has the same tree id. -/
namespace Drunc
open Library (dotted)
open Library.Dotted (dottedInjective dottedBelow dottedBetween dottedContinued dottedSnoc splitDotted)
open Library.Sorting (Before sortedBy sortedPerm sortedKeys beforeMem beforeApart beforeEither beforeSorted)
open ProcessManagerDriver (places convertOksToBootRequest)

namespace ProcessInstance

def name (p : ProcessInstance) : String := p.processDescription.metadata.name
def user (p : ProcessInstance) : String := p.processDescription.metadata.user
def session (p : ProcessInstance) : String := p.processDescription.metadata.session
def hostname (p : ProcessInstance) : String := p.processDescription.metadata.hostname
def treeId (p : ProcessInstance) : String := p.processDescription.metadata.treeId

end ProcessInstance

structure ProcessTable where
  title : String
  columns : List String
  rows : List (List String)

namespace ProcessManagerUtils

def makeTree (values : List ProcessInstance) : List String :=
  values.map fun result =>
    let treeLevels := result.treeId.toList.splitOn '.'
    String.join (List.replicate (treeLevels.length - 1) "  ") ++ result.name

def rowOf (long : Bool) (process : ProcessInstance) (line : String) : List String :=
  let alive := if process.statusCode = .running then "True" else "[danger]False[/danger]"
  -- a return code that is not set reads as 0
  let exitCode := match process.returnCode with
    | none => "0"
    | some code => toString code
  let executables := process.processDescription.executableAndArguments.map ExecAndArgs.exec
  [process.session,line,process.user,process.hostname,process.uuid] ++
    (if long then [String.intercalate "; " executables] else []) ++ [alive,exitCode]

def tabulateProcessInstanceList (values : List ProcessInstance) (title : String) (long : Bool) : ProcessTable :=
  let sortedPil := sortedBy ProcessInstance.treeId values
  let treeStr := makeTree sortedPil
  { title := title
    columns := ["session","friendly name","user","host","uuid","alive","exit-code"] ++ (if long then ["executable"] else [])
    rows := (sortedPil.zip treeStr).map fun processLine => rowOf long processLine.1 processLine.2 }

end ProcessManagerUtils

def ParentOf (p c : ProcessInstance) : Prop := p.session = c.session ∧ ∃ n : Nat, c.treeId = p.treeId ++ "." ++ toString n

def Descends (values : List ProcessInstance) : ProcessInstance → ProcessInstance → Prop :=
  Relation.TransGen fun p c => p ∈ values ∧ c ∈ values ∧ ParentOf p c

def Shows (depth : ProcessInstance → Nat) (p : ProcessInstance) (row : List String) : Prop :=
  row.take 5 = [p.session,String.join (List.replicate (depth p) "  ") ++ p.name,p.user,p.hostname,p.uuid]

structure ShownAs (values order : List ProcessInstance) (depth : ProcessInstance → Nat) (rows : List (List String)) : Prop where
  once : order.Perm values
  shown : List.Forall₂ (Shows depth) order rows
  nested : ∀ p ∈ values, ∀ c ∈ values, ParentOf p c →
    Before order p c ∧ (∀ d, Before order p d → Before order d c → Descends values p d) ∧ depth c = depth p + 1

def ShowsTrees (values : List ProcessInstance) (rows : List (List String)) : Prop :=
  ∃ order depth, ShownAs values order depth rows

def Unshadowed (values : List ProcessInstance) : Prop :=
  ∀ p ∈ values, ∀ c ∈ values, ParentOf p c → ∀ other, Before values p other → other.session ≠ p.session → other.treeId ≠ p.treeId

def Launched (p : ProcessInstance) (br : BootRequest) : Prop :=
  ∃ hostname, p.processDescription = (br.withHostname hostname).processDescription ∧ p.processRestriction = br.processRestriction

structure Held (calls : List BootCall) (values : List ProcessInstance) : Prop where
  booted : ∀ c ∈ calls, (convertOksToBootRequest c).2 = none
  alternating : ∀ c ∈ calls, ProcessManagerDriver.Alternating c.session.segment
  sessions : (calls.map BootCall.sessionName).Nodup
  launched : ∃ requests, requests.Perm (calls.flatMap fun c => (convertOksToBootRequest c).1) ∧ List.Forall₂ Launched values requests
  uuids : (values.map ProcessInstance.uuid).Nodup

structure Forest (values : List ProcessInstance) : Prop where
  numbered : ∀ p ∈ values, ∃ path, path ≠ [] ∧ p.treeId = dotted path
  parents : ∀ d ∈ values, ∀ xs n, xs ≠ [] → d.treeId = dotted (xs ++ [n]) → ∃ p ∈ values, p.session = d.session ∧ p.treeId = dotted xs
  apart : (values.map fun p => (p.session,p.treeId)).Nodup

section Trees
variable {values : List ProcessInstance} {p c d q : ProcessInstance}

theorem forestSame (forest : Forest values) (memP : p ∈ values) (memQ : q ∈ values) (session : p.session = q.session)
    (treeId : p.treeId = q.treeId) : p = q :=
  List.inj_on_of_nodup_map forest.apart memP memQ (Prod.ext session treeId)

theorem descendsLonger (descends : Descends values p d) : p.treeId < d.treeId := by
  have step : ∀ {p c}, ParentOf p c → p.treeId < c.treeId := by
    rintro p c ⟨_,n,longer⟩
    rw [longer]
    exact dottedContinued p.treeId (toString n)
  induction descends with
  | single child => exact step child.2.2
  | tail _ child ih => exact ih.trans (step child.2.2)

theorem forestAncestor (forest : Forest values) {xs more : List Nat} {n : Nat} (written : xs ≠ []) (mem : d ∈ values)
    (treeId : d.treeId = dotted (xs ++ n :: more)) : ∃ p ∈ values, p.session = d.session ∧ p.treeId = dotted xs ∧
      Descends values p d ∧ ∃ c ∈ values, ParentOf p c := by
  induction more using List.reverseRecOn generalizing d with
  | nil =>
    obtain ⟨p,memP,session,above⟩ := forest.parents d mem xs n written treeId
    have parent : ParentOf p d := ⟨session,n,by rw [treeId,above,dottedSnoc written]⟩
    exact ⟨p,memP,session,above,.single ⟨memP,mem,parent⟩,d,mem,parent⟩
  | append_singleton more k ih =>
    have longer : d.treeId = dotted ((xs ++ n :: more) ++ [k]) := by rw [treeId,List.append_assoc,List.cons_append]
    obtain ⟨q,memQ,sessionQ,aboveQ⟩ := forest.parents d mem _ k (by simp) longer
    obtain ⟨p,memP,session,above,descends,child⟩ := ih memQ aboveQ
    have parent : ParentOf q d := ⟨sessionQ,k,by rw [longer,aboveQ,dottedSnoc (by simp)]⟩
    exact ⟨p,memP,session.trans sessionQ,above,descends.tail ⟨memQ,mem,parent⟩,child⟩

theorem forestBetween (forest : Forest values) (memP : p ∈ values) (memD : d ∈ values) (parent : ParentOf p c)
    (low : p.treeId ≤ d.treeId) (high : d.treeId ≤ c.treeId) :
    d.treeId = p.treeId ∨ ∃ q ∈ values, q.session = d.session ∧ q.treeId = p.treeId ∧ Descends values q d ∧
      ∃ c ∈ values, ParentOf q c := by
  obtain ⟨xs,written,ofP⟩ := forest.numbered p memP
  obtain ⟨ys,_,ofD⟩ := forest.numbered d memD
  obtain ⟨_,n,ofC⟩ := parent
  rw [ofC,ofP,ofD] at high
  rw [ofP,ofD] at low
  rcases dottedBetween low high with same | ⟨rest,longer⟩
  · exact .inl (by rw [ofD,same,ofP])
  · obtain ⟨k,more,rfl⟩ := dottedBelow written longer
    rw [ofP]
    exact .inr (forestAncestor forest written memD ofD)

theorem unshadowedNested (forest : Forest values) (unshadowed : Unshadowed values) (memP : p ∈ values) (memC : c ∈ values)
    (parent : ParentOf p c) : Before (sortedBy ProcessInstance.treeId values) p c ∧
      ∀ d, Before (sortedBy ProcessInstance.treeId values) p d → Before (sortedBy ProcessInstance.treeId values) d c →
        Descends values p d := by
  have once : values.Nodup := forest.apart.of_map
  refine ⟨(beforeSorted once).mpr (.inl ⟨memP,memC,descendsLonger (.single ⟨memP,memC,parent⟩)⟩),fun d after before => ?_⟩
  have memD : d ∈ values := (sortedPerm ProcessInstance.treeId values).mem_iff.mp (beforeMem after).2
  rcases forestBetween forest memP memD parent (sortedKeys after) (sortedKeys before) with same | found
  · rcases (beforeSorted once).mp after with ⟨_,_,less⟩ | ⟨_,first⟩
    · exact absurd same less.ne'
    · by_cases session : d.session = p.session
      · exact absurd (forestSame forest memP memD session.symm same.symm) (beforeApart once first)
      · exact absurd same (unshadowed p memP c memC parent d first session)
  · obtain ⟨q,memQ,sessionQ,same,descends,child,memChild,below⟩ := found
    by_cases session : q.session = p.session
    · exact forestSame forest memQ memP session same ▸ descends
    · -- the root of the other tree would shadow this one, or be shadowed by it
      have other : p ≠ q := fun equal => session (congrArg ProcessInstance.session equal.symm)
      rcases beforeEither memP memQ other with first | first
      · exact absurd same (unshadowed p memP c memC parent q first session)
      · exact absurd same.symm (unshadowed q memQ child memChild below p first (Ne.symm session))

theorem nestedUnshadowed (forest : Forest values) (nested : ∀ p ∈ values, ∀ c ∈ values, ParentOf p c → ∀ d,
      Before (sortedBy ProcessInstance.treeId values) p d → Before (sortedBy ProcessInstance.treeId values) d c →
        Descends values p d) : Unshadowed values := by
  have once : values.Nodup := forest.apart.of_map
  intro p memP c memC parent other first _ same
  have less : other.treeId < c.treeId := same ▸ descendsLonger (.single ⟨memP,memC,parent⟩)
  have after := (beforeSorted once).mpr (.inr ⟨same.symm,first⟩)
  have before := (beforeSorted once).mpr (.inl ⟨(beforeMem first).2,memC,less⟩)
  exact absurd (descendsLonger (nested p memP c memC parent other after before)) (same ▸ lt_irrefl _)

end Trees

section Rows
variable {values order : List ProcessInstance} {rows : List (List String)} {depth : ProcessInstance → Nat}

def levels (p : ProcessInstance) : Nat := (p.treeId.toList.splitOn '.').length - 1

theorem rowsShow (values : List ProcessInstance) (title : String) (long : Bool) : List.Forall₂ (Shows levels)
    (sortedBy ProcessInstance.treeId values) (ProcessManagerUtils.tabulateProcessInstanceList values title long).rows := by
  unfold ProcessManagerUtils.tabulateProcessInstanceList ProcessManagerUtils.makeTree
  dsimp only
  generalize sortedBy ProcessInstance.treeId values = sorted
  induction sorted with
  | nil => exact .nil
  | cons p rest ih => exact .cons rfl ih

theorem levelsBelow (forest : Forest values) {p c : ProcessInstance} (memP : p ∈ values) (parent : ParentOf p c) :
    levels c = levels p + 1 := by
  obtain ⟨xs,written,ofP⟩ := forest.numbered p memP
  obtain ⟨_,n,ofC⟩ := parent
  rw [ofP,← dottedSnoc written] at ofC
  unfold levels
  rw [ofC,ofP,splitDotted written,splitDotted (by simp),List.length_map,List.length_map,List.length_append]
  exact (Nat.sub_add_cancel (List.length_pos_iff.mpr written)).symm

theorem shownUuids (shown : List.Forall₂ (Shows depth) order rows) :
    order.map ProcessInstance.uuid = rows.map fun row => (row.take 5).getD 4 "" := by
  induction shown with
  | nil => rfl
  | cons shows _ ih =>
    rw [List.map_cons,List.map_cons,ih,shows]
    rfl

theorem uuidsSettle (uuids : (values.map ProcessInstance.uuid).Nodup) {one two : List ProcessInstance} (subOne : one ⊆ values)
    (subTwo : two ⊆ values) (same : one.map ProcessInstance.uuid = two.map ProcessInstance.uuid) : one = two := by
  induction one generalizing two with
  | nil => exact (List.map_eq_nil_iff.mp same.symm).symm
  | cons a rest ih =>
    obtain ⟨b,later,rfl,head,tail⟩ := List.map_eq_cons_iff.mp same.symm
    have equal : a = b := List.inj_on_of_nodup_map uuids (subOne List.mem_cons_self) (subTwo List.mem_cons_self) head.symm
    rw [equal,ih (fun p mem => subOne (List.mem_cons_of_mem a mem)) (fun p mem => subTwo (List.mem_cons_of_mem b mem)) tail.symm]

theorem forestTable (forest : Forest values) (uuids : (values.map ProcessInstance.uuid).Nodup) (title : String) (long : Bool) :
    ShowsTrees values (ProcessManagerUtils.tabulateProcessInstanceList values title long).rows ↔ Unshadowed values := by
  have rowsInOrder := rowsShow values title long
  have sorted := sortedPerm ProcessInstance.treeId values
  constructor
  · rintro ⟨order,depth,shown⟩
    have same : order = sortedBy ProcessInstance.treeId values :=
      uuidsSettle uuids shown.once.subset sorted.subset ((shownUuids shown.shown).trans (shownUuids rowsInOrder).symm)
    rw [same] at shown
    exact nestedUnshadowed forest fun p memP c memC parent => (shown.nested p memP c memC parent).2.1
  · intro unshadowed
    refine ⟨_,levels,sorted,rowsInOrder,fun p memP c memC parent => ?_⟩
    obtain ⟨before,between⟩ := unshadowedNested forest unshadowed memP memC parent
    exact ⟨before,between,levelsBelow forest memP parent⟩

end Rows

section Booted
variable {calls : List BootCall} {values : List ProcessInstance}

theorem launchedIds {requests : List BootRequest} (launched : List.Forall₂ Launched values requests) :
    values.map (fun p => (p.session,p.treeId)) =
      requests.map fun br => (br.processDescription.metadata.session,br.processDescription.metadata.treeId) := by
  induction launched with
  | nil => rfl
  | @cons p br _ _ first _ ih =>
    obtain ⟨hostname,description,_⟩ := first
    rw [List.map_cons,List.map_cons,ih,ProcessInstance.session,ProcessInstance.treeId,description]
    rfl

theorem heldIds (held : Held calls values) : (values.map fun p => (p.session,p.treeId)).Perm
    (calls.flatMap fun c => (places c).map fun path => (c.sessionName,dotted path)) := by
  obtain ⟨requests,perm,launched⟩ := held.launched
  rw [launchedIds launched]
  refine (perm.map _).trans ?_
  rw [List.map_flatMap]
  exact List.Perm.flatMap_left calls fun c mem => ProcessManagerDriver.requestsNumbered (held.booted c mem)

theorem heldPlace (held : Held calls values) {id : String × String} : id ∈ values.map (fun p => (p.session,p.treeId)) ↔
    ∃ c ∈ calls, ∃ path ∈ places c, id = (c.sessionName,dotted path) := by
  rw [(heldIds held).mem_iff,List.mem_flatMap]
  simp only [List.mem_map,eq_comm]

theorem heldForest (held : Held calls values) : Forest values := by
  refine ⟨fun p mem => ?_,fun d mem xs n written treeId => ?_,(heldIds held).nodup_iff.mpr (List.nodup_flatMap.mpr ⟨?_,?_⟩)⟩
  · obtain ⟨c,_,path,placed,same⟩ := (heldPlace held).mp (List.mem_map.mpr ⟨p,mem,rfl⟩)
    exact ⟨path,ProcessManagerDriver.placeWritten placed,(Prod.mk.inj same).2⟩
  · obtain ⟨c,listed,path,placed,same⟩ := (heldPlace held).mp (List.mem_map.mpr ⟨d,mem,rfl⟩)
    obtain ⟨session,same⟩ := Prod.mk.inj same
    cases dottedInjective (treeId.symm.trans same)
    have above := ProcessManagerDriver.placesParent written placed
    obtain ⟨p,memP,ofP⟩ := List.mem_map.mp ((heldPlace held).mpr ⟨c,listed,xs,above,rfl⟩)
    obtain ⟨sessionP,treeIdP⟩ := Prod.mk.inj ofP
    exact ⟨p,memP,sessionP.trans session.symm,treeIdP⟩
  · intro c mem
    refine (ProcessManagerDriver.placesOnce (held.alternating c mem)).map fun a b same => ?_
    exact dottedInjective (Prod.mk.inj same).2
  · refine (List.pairwise_map.mp held.sessions).imp fun {a b} other id one two => ?_
    obtain ⟨_,_,rfl⟩ := List.mem_map.mp one
    obtain ⟨_,_,same⟩ := List.mem_map.mp two
    exact other (Prod.mk.inj same).1.symm

/-- The list is in any order: the sessions may be booted one after the other or at once. -/
theorem heldTable (calls : List BootCall) (values : List ProcessInstance) (title : String) (long : Bool)
    (held : Held calls values) :
    ShowsTrees values (ProcessManagerUtils.tabulateProcessInstanceList values title long).rows ↔ Unshadowed values :=
  forestTable (heldForest held) held.uuids title long

end Booted

namespace Sample
open ProcessManagerUtils (tabulateProcessInstanceList)

def bootShell : BootShell where
  pwd := "/tmp"
  getenv key := if key = "DUNE_DAQ_BASE_RELEASE" then some "dunedaq-v5" else if key = "SPACK_RELEASES_DIR" then some "/releases" else none
  pathExists _ := true
  ownHostNames := []
  nowStr _ := "2024-06-01-12-00-00"

def bootCall (sessionName : String) (segment : Segment) : BootCall :=
  ⟨confModel,bootShell,"user",⟨⟨"readout",[],segment⟩,[],"/rte.sh",""⟩,sessionName,true⟩

def loneSegment : Segment := .mk "lone" (controllerNamed "lone-controller") [] []

def requestNamed (sessionName name treeId exec : String) (args : List String) : BootRequest :=
  ⟨⟨⟨name,"user",sessionName,"",treeId⟩,[("DUNEDAQ_SESSION",sessionName),("DUNEDAQ_APPLICATION_NAME",name),
      ("DUNE_DAQ_BASE_RELEASE","dunedaq-v5"),("SPACK_RELEASES_DIR","/releases")],
    [⟨"source",["/rte.sh"]⟩,⟨exec,args⟩],"/tmp","/tmp/log_user_" ++ sessionName ++ "_" ++ name ++ ".txt"⟩,⟨["np04"]⟩⟩

def readoutRequests (sessionName : String) : List BootRequest :=
  [requestNamed sessionName "ru-controller" "0" "drunc-controller" ["grpc://np04:3333"],
    requestNamed sessionName "ru-01" "0.0" "daq_application" ["rest://np04:4444"]]

def loneRequest (sessionName : String) : BootRequest :=
  requestNamed sessionName "lone-controller" "0" "drunc-controller" ["grpc://np04:3333"]

def running (uuid : String) (br : BootRequest) : ProcessInstance :=
  SSHProcessManager.instanceOf (br.withHostname "np04") uuid .running none

def twoReadouts : List ProcessInstance :=
  List.zipWith running ["a","b","c","d"] (readoutRequests "one" ++ readoutRequests "two")

def readoutLast : List ProcessInstance := List.zipWith running ["a","b","c"] (loneRequest "one" :: readoutRequests "two")

theorem leafAlternates {s : Segment} (leaf : s.segments = []) : ProcessManagerDriver.Alternating s := by
  intro inner within
  cases within with
  | here => exact .inl leaf
  | inside mem _ =>
    rw [leaf] at mem
    contradiction

theorem runningLaunched (uuid : String) (br : BootRequest) : Launched (running uuid br) br := ⟨"np04",rfl,rfl⟩

theorem twoReadoutsHeld : Held [bootCall "one" ruSegment,bootCall "two" ruSegment] twoReadouts where
  booted := by decide
  alternating := by
    intro c mem
    rcases List.mem_pair.mp mem with rfl | rfl <;> exact leafAlternates rfl
  sessions := by decide
  launched := ⟨readoutRequests "one" ++ readoutRequests "two",.of_eq (by decide),
    .cons (runningLaunched ..) (.cons (runningLaunched ..) (.cons (runningLaunched ..) (.cons (runningLaunched ..) .nil)))⟩
  uuids := by decide

theorem readoutLastHeld : Held [bootCall "one" loneSegment,bootCall "two" ruSegment] readoutLast where
  booted := by decide
  alternating := by
    intro c mem
    rcases List.mem_pair.mp mem with rfl | rfl <;> exact leafAlternates rfl
  sessions := by decide
  launched := ⟨loneRequest "one" :: readoutRequests "two",.of_eq (by decide),
    .cons (runningLaunched ..) (.cons (runningLaunched ..) (.cons (runningLaunched ..) .nil))⟩
  uuids := by decide

theorem sessionsIntertwined : Held [bootCall "one" ruSegment,bootCall "two" ruSegment] twoReadouts ∧
    ¬ ShowsTrees twoReadouts (tabulateProcessInstanceList twoReadouts "Processes running" false).rows := by
  refine ⟨twoReadoutsHeld,fun shows => ?_⟩
  have unshadowed := (forestTable (heldForest twoReadoutsHeld) twoReadoutsHeld.uuids "Processes running" false).mp shows
  have first : Before twoReadouts _ _ := .cons_cons _ (.cons _ (.cons_cons _ (List.nil_sublist _)))
  exact unshadowed _ List.mem_cons_self _ (List.mem_cons_of_mem _ List.mem_cons_self) ⟨rfl,0,by decide⟩ _ first (by decide) rfl

theorem readoutLastShown : ShowsTrees readoutLast (tabulateProcessInstanceList readoutLast "Processes running" false).rows := by
  have onlyLone : ∀ p ∈ readoutLast, ∀ other ∈ readoutLast, [p,other].Sublist readoutLast → other.session ≠ p.session →
      ∀ c ∈ readoutLast, p.session = c.session → c = p := by decide
  refine (heldTable _ readoutLast "Processes running" false readoutLastHeld).mpr fun p memP c memC parent other first session => ?_
  have same := onlyLone p memP other (beforeMem first).2 first session c memC parent.1
  exact absurd (descendsLonger (.single ⟨memP,memC,parent⟩)) (same ▸ lt_irrefl _)

end Sample
end Drunc
