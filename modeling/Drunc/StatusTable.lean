import Drunc.Messages

/-! How the shell pairs the statuses of a controller's children with their
descriptions: each status goes with the first description of its name. That the number of
pairs is the number of descriptions is the only check, and a status too many makes up for
a description that goes with no status. The children are told apart by where they are
in their lists (`located`), also where two of them hold the same. -/
namespace Drunc
open Library

structure ChildMessage (α : Type) where
  name : String
  descriptor : String
  data : α

namespace ShellUtils
variable {σ δ : Type}

def checkMessageType {α : Type} (message : ChildMessage α) (expectedType : String) : Except Exn Unit :=
  if message.descriptor ≠ expectedType then .error (.typeError "Message \x7bmessage.name\x7d is not of type 'Description'!")
  else .ok ()

def matchChild (status : ChildMessage σ) : List (ChildMessage δ) → Except Exn (Option (ChildMessage σ × ChildMessage δ))
  | [] => .ok none
  | description :: rest =>
      if description.name = status.name then do
        checkMessageType description "Description"
        return some (status,description)
      else matchChild status rest

def matchEach (descriptions : List (ChildMessage δ)) : List (ChildMessage σ) → Except Exn (List (ChildMessage σ × ChildMessage δ))
  | [] => .ok []
  | status :: rest => do
      checkMessageType status "Status"
      let child ← matchChild status descriptions
      let children ← matchEach descriptions rest
      return child.toList ++ children

def malformedCommand : Exn :=
  .drunc "MalformedCommand" "Command match_children has assigned the incorrect number of children!"

def matchChildren (statuses : List (ChildMessage σ)) (descriptions : List (ChildMessage δ)) :
    Except Exn (List (ChildMessage σ × ChildMessage δ)) := do
  let children ← matchEach descriptions statuses
  if descriptions.length ≠ children.length then .error malformedCommand
  else .ok children

def pairs (statuses : List (ChildMessage σ)) (descriptions : List (ChildMessage δ)) : List (ChildMessage σ × ChildMessage δ) :=
  statuses.filterMap fun status =>
    (descriptions.find? fun description => description.name = status.name).map fun description => (status,description)

def located {α : Type} (messages : List (ChildMessage α)) : List (ChildMessage (α × Nat)) :=
  messages.zipIdx.map fun message => ⟨message.1.name,message.1.descriptor,(message.1.data,message.2)⟩

structure PairedOnce (statuses : List (ChildMessage σ)) (descriptions : List (ChildMessage δ))
    (children : List (ChildMessage σ × ChildMessage δ)) : Prop where
  named : ∀ child ∈ children, child.1.name = child.2.name
  statuses : (children.map Prod.fst).Perm statuses
  descriptions : (children.map Prod.snd).Perm descriptions

def Matched (statuses : List (ChildMessage σ)) (descriptions : List (ChildMessage δ)) : Prop :=
  matchChildren statuses descriptions = .error malformedCommand ∨
    ∃ children, matchChildren statuses descriptions = .ok children ∧ PairedOnce statuses descriptions children

def Orderless (statuses : List (ChildMessage σ)) (descriptions : List (ChildMessage δ)) : Prop :=
  ∀ statuses' descriptions', statuses.Perm statuses' → descriptions.Perm descriptions' →
    (statuses.map ChildMessage.name).Nodup → (descriptions.map ChildMessage.name).Nodup →
    (matchChildren statuses descriptions = .error malformedCommand ∧ matchChildren statuses' descriptions' = .error malformedCommand) ∨
    ∃ children children', matchChildren statuses descriptions = .ok children ∧ matchChildren statuses' descriptions' = .ok children' ∧
      children.Perm children'

def OneEach (statuses : List (ChildMessage σ)) (descriptions : List (ChildMessage δ)) : Prop :=
  (statuses.map ChildMessage.name).Nodup ∧ (statuses.map ChildMessage.name).Perm (descriptions.map ChildMessage.name)

def described (descriptions : List (ChildMessage δ)) (status : ChildMessage σ) : Bool :=
  status.name ∈ descriptions.map ChildMessage.name

section Run
variable {statuses : List (ChildMessage σ)} {descriptions : List (ChildMessage δ)}

theorem matchChildFirst (status : ChildMessage σ) (typed : ∀ d ∈ descriptions, d.descriptor = "Description") :
    matchChild status descriptions =
      .ok ((descriptions.find? fun description => description.name = status.name).map fun description => (status,description)) := by
  induction descriptions with
  | nil => rfl
  | cons description rest ih =>
    rw [matchChild,List.find?_cons]
    by_cases same : description.name = status.name
    · simp only [same,if_true,decide_true,checkMessageType,typed description List.mem_cons_self,ne_eq,not_true,if_false]
      rfl
    · simp only [same,if_false,decide_false]
      exact ih fun d mem => typed d (List.mem_cons_of_mem _ mem)

theorem matchEachPairs (typedS : ∀ s ∈ statuses, s.descriptor = "Status")
    (typedD : ∀ d ∈ descriptions, d.descriptor = "Description") : matchEach descriptions statuses = .ok (pairs statuses descriptions) := by
  induction statuses with
  | nil => rfl
  | cons status rest ih =>
    have tail := ih fun s mem => typedS s (List.mem_cons_of_mem _ mem)
    unfold pairs at *
    rw [matchEach,checkMessageType,if_neg (not_not.mpr (typedS status List.mem_cons_self)),matchChildFirst status typedD,tail,
      List.filterMap_cons]
    cases (descriptions.find? fun description => description.name = status.name) <;> rfl

theorem matchChildrenPairs (typedS : ∀ s ∈ statuses, s.descriptor = "Status")
    (typedD : ∀ d ∈ descriptions, d.descriptor = "Description") : matchChildren statuses descriptions =
      if descriptions.length ≠ (pairs statuses descriptions).length then .error malformedCommand
      else .ok (pairs statuses descriptions) := by
  rw [matchChildren,matchEachPairs typedS typedD]
  rfl

theorem pairsStatuses (statuses : List (ChildMessage σ)) (descriptions : List (ChildMessage δ)) :
    (pairs statuses descriptions).map Prod.fst = statuses.filter (described descriptions) := by
  have found : ∀ status : ChildMessage σ, described descriptions status =
      (descriptions.find? fun description => description.name = status.name).isSome := by
    intro status
    rw [Bool.eq_iff_iff,List.find?_isSome]
    simp [described]
  induction statuses with
  | nil => rfl
  | cons status rest ih =>
    unfold pairs at *
    rw [List.filterMap_cons,List.filter_cons,found status]
    cases (descriptions.find? fun description => description.name = status.name) with
    | none => exact ih
    | some description =>
      rw [Option.map_some,List.map_cons,ih]
      rfl

theorem memPairs {child : ChildMessage σ × ChildMessage δ} : child ∈ pairs statuses descriptions ↔
    child.1 ∈ statuses ∧ descriptions.find? (fun description => description.name = child.1.name) = some child.2 := by
  unfold pairs
  rw [List.mem_filterMap]
  constructor
  · rintro ⟨status,mem,found⟩
    obtain ⟨description,there,rfl⟩ := Option.map_eq_some_iff.mp found
    exact ⟨mem,there⟩
  · rintro ⟨mem,found⟩
    exact ⟨child.1,mem,by rw [found]; rfl⟩

theorem pairsNamed : ∀ child ∈ pairs statuses descriptions, child.1.name = child.2.name := by
  intro child mem
  simpa [eq_comm] using List.find?_some (memPairs.mp mem).2

theorem firstPaired {children : List (ChildMessage σ × ChildMessage δ)} (once : PairedOnce statuses descriptions children) :
    (statuses.map ChildMessage.name).Perm (descriptions.map ChildMessage.name) := by
  have same : (children.map Prod.fst).map ChildMessage.name = (children.map Prod.snd).map ChildMessage.name := by
    rw [List.map_map,List.map_map]
    exact List.map_congr_left once.named
  exact (once.statuses.map _).symm.trans (same ▸ once.descriptions.map _)

theorem pairedDistinct (apart : descriptions.Nodup) (once : PairedOnce statuses descriptions (pairs statuses descriptions)) :
    OneEach statuses descriptions := by
  have perm := firstPaired once
  -- each description is in a pair, hence the first one of its name
  have first : ∀ d ∈ descriptions, descriptions.find? (fun description => description.name = d.name) = some d := by
    intro d mem
    obtain ⟨child,inside,rfl⟩ := List.mem_map.mp (once.descriptions.mem_iff.mpr mem)
    rw [← once.named child inside]
    exact (memPairs.mp inside).2
  have names : (descriptions.map ChildMessage.name).Nodup := by
    refine apart.map_on fun a memA b memB same => ?_
    have found := first b memB
    rw [← same,first a memA] at found
    exact Option.some.inj found
  exact ⟨perm.nodup_iff.mpr names,perm⟩

theorem distinctPaired (one : OneEach statuses descriptions)
    (counted : descriptions.length = (pairs statuses descriptions).length) :
    PairedOnce statuses descriptions (pairs statuses descriptions) := by
  obtain ⟨apart,perm⟩ := one
  have all : (pairs statuses descriptions).map Prod.fst = statuses := by
    rw [pairsStatuses,List.filter_eq_self]
    exact fun status mem => decide_eq_true (perm.mem_iff.mp (List.mem_map_of_mem mem))
  have names : ((pairs statuses descriptions).map Prod.snd).map ChildMessage.name = statuses.map ChildMessage.name := by
    rw [← congrArg (List.map ChildMessage.name) all,List.map_map,List.map_map]
    exact List.map_congr_left fun child mem => (pairsNamed child mem).symm
  have inside : (pairs statuses descriptions).map Prod.snd ⊆ descriptions := by
    intro d mem
    obtain ⟨child,there,rfl⟩ := List.mem_map.mp mem
    exact List.mem_of_find?_eq_some (memPairs.mp there).2
  have different : ((pairs statuses descriptions).map Prod.snd).Nodup := (names ▸ apart).of_map
  refine ⟨pairsNamed,by rw [all],(List.subperm_of_subset different inside).perm_of_length_le ?_⟩
  rw [List.length_map,counted]

theorem matchedIff (typedS : ∀ s ∈ statuses, s.descriptor = "Status") (typedD : ∀ d ∈ descriptions, d.descriptor = "Description")
    (apart : descriptions.Nodup) : Matched statuses descriptions ↔
      (statuses.filter (described descriptions)).length ≠ descriptions.length ∨ OneEach statuses descriptions := by
  have size : (statuses.filter (described descriptions)).length = (pairs statuses descriptions).length := by
    rw [← pairsStatuses,List.length_map]
  unfold Matched
  rw [matchChildrenPairs typedS typedD,size]
  by_cases counted : descriptions.length = (pairs statuses descriptions).length
  · rw [if_neg (not_not.mpr counted)]
    constructor
    · rintro (⟨⟨⟩⟩ | ⟨children,⟨⟩,once⟩)
      exact .inr (pairedDistinct apart once)
    · rintro (other | one)
      · exact absurd counted.symm other
      · exact .inr ⟨_,rfl,distinctPaired one counted⟩
  · rw [if_pos counted]
    exact ⟨fun _ => .inl (Ne.symm counted),fun _ => .inl rfl⟩

theorem findNamed {description : ChildMessage δ} {name : String} (apart : (descriptions.map ChildMessage.name).Nodup) :
    descriptions.find? (fun d => d.name = name) = some description ↔ description ∈ descriptions ∧ description.name = name := by
  constructor
  · exact fun found => ⟨List.mem_of_find?_eq_some found,by simpa using List.find?_some found⟩
  · rintro ⟨mem,rfl⟩
    have there : (descriptions.find? fun d => d.name = description.name).isSome := List.find?_isSome.mpr ⟨_,mem,decide_eq_true rfl⟩
    obtain ⟨other,found⟩ := Option.isSome_iff_exists.mp there
    have same : other.name = description.name := by simpa using List.find?_some found
    rw [found,List.inj_on_of_nodup_map apart (List.mem_of_find?_eq_some found) mem same]

theorem pairsPerm {statuses' : List (ChildMessage σ)} {descriptions' : List (ChildMessage δ)} (permS : statuses.Perm statuses')
    (permD : descriptions.Perm descriptions') (apart : (descriptions.map ChildMessage.name).Nodup) :
    (pairs statuses descriptions).Perm (pairs statuses' descriptions') := by
  have same : ∀ name, descriptions.find? (fun d => d.name = name) = descriptions'.find? fun d => d.name = name := by
    intro name
    refine Option.ext fun d => ?_
    rw [findNamed apart,findNamed ((permD.map _).nodup_iff.mp apart),permD.mem_iff]
  unfold pairs
  simp only [same]
  exact permS.filterMap _

theorem orderless (typedS : ∀ s ∈ statuses, s.descriptor = "Status") (typedD : ∀ d ∈ descriptions, d.descriptor = "Description") :
    Orderless statuses descriptions := by
  intro statuses' descriptions' permS permD _ apart
  have perm := pairsPerm permS permD apart
  rw [matchChildrenPairs typedS typedD,matchChildrenPairs (fun s mem => typedS s (permS.mem_iff.mpr mem))
    fun d mem => typedD d (permD.mem_iff.mpr mem),← permD.length_eq,← perm.length_eq]
  split
  · exact .inl ⟨rfl,rfl⟩
  · exact .inr ⟨_,_,rfl,rfl,perm⟩

theorem locatedNames {α : Type} (messages : List (ChildMessage α)) :
    (located messages).map ChildMessage.name = messages.map ChildMessage.name := by
  unfold located
  rw [List.map_map,← List.zipIdx_map_fst 0 messages,List.map_map,List.zipIdx_map_fst]
  rfl

theorem locatedDescriptors {α : Type} {messages : List (ChildMessage α)} {descriptor : String}
    (typed : ∀ m ∈ messages, m.descriptor = descriptor) : ∀ m ∈ located messages, m.descriptor = descriptor := by
  intro m mem
  obtain ⟨⟨message,idx⟩,there,rfl⟩ := List.mem_map.mp mem
  exact typed message (List.mem_iff_getElem?.mpr ⟨idx,List.mem_zipIdx_iff_getElem?.mp there⟩)

theorem locatedApart {α : Type} (messages : List (ChildMessage α)) : (located messages).Nodup := by
  have positions : (((located messages).map fun m => m.data.2)).Nodup := by
    unfold located
    rw [List.map_map]
    exact List.zipIdx_map_snd 0 messages ▸ List.nodup_range'
  exact positions.of_map

theorem describedCount (statuses : List (ChildMessage σ)) (descriptions : List (ChildMessage δ)) :
    ((located statuses).filter (described (located descriptions))).length = (statuses.filter (described descriptions)).length := by
  have counts : ∀ names : List String, ∀ {τ : Type} (xs : List (ChildMessage τ)),
      (xs.filter fun x => x.name ∈ names).length = ((xs.map ChildMessage.name).filter (· ∈ names)).length := by
    intro names τ xs
    rw [List.filter_map,List.length_map]
    rfl
  unfold described
  rw [counts,counts,locatedNames,locatedNames]

theorem childrenMatched (typedS : ∀ s ∈ statuses, s.descriptor = "Status")
    (typedD : ∀ d ∈ descriptions, d.descriptor = "Description") :
    (Matched (located statuses) (located descriptions) ∧ Orderless statuses descriptions) ↔
      (statuses.filter (described descriptions)).length ≠ descriptions.length ∨ OneEach statuses descriptions := by
  have length : (located descriptions).length = descriptions.length := by
    unfold located
    rw [List.length_map,List.length_zipIdx]
  have one : OneEach (located statuses) (located descriptions) ↔ OneEach statuses descriptions := by
    unfold OneEach
    rw [locatedNames,locatedNames]
  rw [matchedIff (locatedDescriptors typedS) (locatedDescriptors typedD) (locatedApart _),describedCount,length,one]
  exact and_iff_left (orderless typedS typedD)

theorem matchChildTyped {status : ChildMessage σ} {description : ChildMessage δ}
    {child : Option (ChildMessage σ × ChildMessage δ)} (matched : matchChild status descriptions = .ok child)
    (found : descriptions.find? (fun d => d.name = status.name) = some description) : description.descriptor = "Description" := by
  induction descriptions with
  | nil => contradiction
  | cons first rest ih =>
    rw [List.find?_cons] at found
    rw [matchChild] at matched
    by_cases same : first.name = status.name
    · simp only [same,decide_true] at found
      cases found
      rw [if_pos same] at matched
      obtain ⟨_,checked,_⟩ := boundOk.mp matched
      by_contra other
      rw [checkMessageType,if_pos other] at checked
      contradiction
    · simp only [same,decide_false] at found
      rw [if_neg same] at matched
      exact ih matched found

theorem matchEachTyped {children : List (ChildMessage σ × ChildMessage δ)} {status : ChildMessage σ} {description : ChildMessage δ}
    (matched : matchEach descriptions statuses = .ok children) (mem : status ∈ statuses)
    (found : descriptions.find? (fun d => d.name = status.name) = some description) : description.descriptor = "Description" := by
  induction statuses generalizing children with
  | nil => contradiction
  | cons first rest ih =>
    rw [matchEach] at matched
    obtain ⟨_,_,next⟩ := boundOk.mp matched
    obtain ⟨child,paired,last⟩ := boundOk.mp next
    obtain ⟨others,below,_⟩ := boundOk.mp last
    rcases List.mem_cons.mp mem with rfl | inside
    · exact matchChildTyped paired found
    · exact ih below inside

theorem matchChildrenIff (typedS : ∀ s ∈ statuses, s.descriptor = "Status") (apart : (descriptions.map ChildMessage.name).Nodup)
    (perm : (statuses.map ChildMessage.name).Perm (descriptions.map ChildMessage.name)) :
    (∃ children, matchChildren statuses descriptions = .ok children) ↔ ∀ d ∈ descriptions, d.descriptor = "Description" := by
  constructor
  · rintro ⟨children,matched⟩ d mem
    obtain ⟨each,paired,_⟩ := boundOk.mp matched
    obtain ⟨status,inside,same⟩ := List.mem_map.mp (perm.mem_iff.mpr (List.mem_map_of_mem mem))
    exact matchEachTyped paired inside ((findNamed apart).mpr ⟨mem,same.symm⟩)
  · intro typedD
    have all : statuses.filter (described descriptions) = statuses :=
      List.filter_eq_self.mpr fun status mem => decide_eq_true (perm.mem_iff.mp (List.mem_map_of_mem mem))
    have counted : descriptions.length = (pairs statuses descriptions).length := by
      rw [← List.length_map Prod.fst,pairsStatuses,all]
      simpa using perm.length_eq.symm
    exact ⟨_,by rw [matchChildrenPairs typedS typedD,if_neg (not_not.mpr counted)]⟩

end Run

namespace Sample

def statusOf (name : String) : ChildMessage Status := ⟨name,"Status",⟨"configured","configured",false,true⟩⟩

def descriptionOf (name : String) : ChildMessage String := ⟨name,"Description",name⟩

theorem ruMatched : Matched (located [statusOf "ru-02",statusOf "ru-01"]) (located [descriptionOf "ru-01",descriptionOf "ru-02"]) ∧
    Orderless [statusOf "ru-02",statusOf "ru-01"] [descriptionOf "ru-01",descriptionOf "ru-02"] :=
  (childrenMatched (by decide) (by decide)).mpr (.inr ⟨by decide,by decide⟩)

theorem secondRuLost : (∀ s ∈ [statusOf "ru-01",statusOf "ru-01"], s.descriptor = "Status") ∧
    (∀ d ∈ [descriptionOf "ru-01",descriptionOf "ru-02"], d.descriptor = "Description") ∧
    ¬ Matched (located [statusOf "ru-01",statusOf "ru-01"]) (located [descriptionOf "ru-01",descriptionOf "ru-02"]) := by
  refine ⟨by decide,by decide,fun matched => ?_⟩
  rcases matched with failed | ⟨children,paired,once⟩
  · cases failed
  · cases paired
    exact absurd (once.descriptions.map ChildMessage.name) (by decide)

end Sample
end ShellUtils
end Drunc
