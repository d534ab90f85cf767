import Drunc.Description
import Drunc.ShellSession

/-! The status table of a tree. `Tree.listing` is what a tree is to look like: its nodes in the
order of the configuration, each one with its own state, and with nothing of the order in
which the children of a node answer. Where every node answers, the table is the listing, or
there is none: an application that is excluded anywhere takes the whole table away. -/
namespace Drunc
open Library (boundError)
open Library.Act
open GRPCDriver (handleResponse handleChildren)

section Listing
open ShellUtils (formatBool)

def ClientSideChild.row (alive : Bool) (pre : String) (child : ClientSideChild) : TableRow :=
  ⟨pre ++ child.name,child.description.info.getD "",child.state.assumedOperationalState.getD "",
    if child.state.executingCommand then "executing_cmd" else "idle",formatBool (child.state.errored || !alive) true,
    formatBool child.state.included false,child.endpoint.getD ""⟩

def StatefulNode.shownState (n : StatefulNode) : String :=
  if n.operationalState = n.operationalSubState then n.operationalState.getD ""
  else n.operationalState.getD "" ++ " (" ++ pyStr n.operationalSubState ++ ")"

def StatefulNode.shown (node : StatefulNode) : Status :=
  ⟨node.shownState,node.operationalSubState.getD "",node.inError,node.included⟩

def Controller.row {κ : Type} (pre : String) (c : Controller κ) : TableRow :=
  ⟨pre ++ c.name,(getDetectorName c.configuration).getD "",c.statefulNode.shownState,
    c.statefulNode.operationalSubState.getD "",formatBool c.statefulNode.inError true,formatBool c.statefulNode.included false,
    c.uri.getD "unknown"⟩

def Tree.listing : {n : Nat} → Surrounded → String → Tree n → List TableRow
  | 0, _, _, child => child.elim
  | _+1, _, pre, .clientSide child => [child.row true pre]
  | _+1, env, pre, .restApi child => [child.row (env []).application.pings pre]
  | _+1, env, pre, .grpc _ controller => controller.row pre ::
      (controller.childrenNodes.mapIdx fun i child => Tree.listing (env.below i) (pre ++ "  ") child).flatten

def Controller.listing {n : Nat} (env : Surrounded) (root : Controller (Tree n)) : List TableRow :=
  root.row "" :: (root.childrenNodes.mapIdx fun i child => child.listing (env.below i) "  ").flatten

def Tree.appsIncluded : {n : Nat} → Tree n → Bool
  | 0, child => child.elim
  | _+1, .clientSide child => child.state.included
  | _+1, .restApi child => child.state.included
  | _+1, .grpc _ controller => controller.childrenNodes.all Tree.appsIncluded

def ChildNode.ownName {κ : Type} : ChildNode κ → String
  | .clientSide child => child.name
  | .restApi child => child.name
  | .grpc _ controller => controller.name

def Tree.ownName : {n : Nat} → Tree n → String
  | 0, child => child.elim
  | _+1, child => ChildNode.ownName child

def Tree.Listable : {n : Nat} → Tree n → Prop
  | 0, child => child.elim
  -- a child without a server of its own can be asked only once it is in error
  | _+1, .clientSide child => child.state.errored = true
  | _+1, .restApi _ => True
  | _+1, .grpc _ controller => controller.statefulNode.Readable ∧ (controller.childrenNodes.map Tree.ownName).Nodup ∧
      ∀ child ∈ controller.childrenNodes, Tree.Listable child

def Controller.Listable {n : Nat} (root : Controller (Tree n)) : Prop :=
  root.statefulNode.Readable ∧ (root.childrenNodes.map Tree.ownName).Nodup ∧ ∀ child ∈ root.childrenNodes, child.Listable

end Listing

namespace ShellUtils

def printer (s : DecodedResponse Status) : ChildMessage Printer :=
  ⟨(childMessage ControllerDriver.status s).name,(childMessage ControllerDriver.status s).descriptor,addStatusToTable s⟩

def wrongType : Exn := .typeError "Message \x7bmessage.name\x7d is not of type 'Description'!"

section Matching
variable {σ δ : Type} {statuses : List (ChildMessage σ)} {descriptions : List (ChildMessage δ)}

theorem matchChildGivenSome (status : ChildMessage σ) (descriptions : List (ChildMessage δ)) :
    matchChildGiven status (descriptions.map some) = matchChild status descriptions := by
  induction descriptions with
  | nil => rfl
  | cons description rest ih => rw [List.map_cons,matchChildGiven,ih,matchChild]

theorem matchEachGivenSome (statuses : List (ChildMessage σ)) (descriptions : List (ChildMessage δ)) :
    matchEachGiven (descriptions.map some) (statuses.map some) = matchEach descriptions statuses := by
  induction statuses with
  | nil => rfl
  | cons status rest ih => rw [List.map_cons,matchEachGiven,ih,matchChildGivenSome,matchEach]

theorem matchChildrenGivenSome (statuses : List (ChildMessage σ)) (descriptions : List (ChildMessage δ)) :
    matchChildrenGiven (statuses.map some) (descriptions.map some) = matchChildren statuses descriptions := by
  rw [matchChildrenGiven,matchEachGivenSome,matchChildren,List.length_map]

theorem printersSome (ss : List (DecodedResponse Status)) : printers (ss.map some) = (ss.map printer).map some := by
  induction ss with
  | nil => rfl
  | cons s rest ih =>
    rw [List.map_cons,printers,ih]
    rfl

theorem matchChildFails {status : ChildMessage σ} {e : Exn} (failed : matchChild status descriptions = .error e) : e = wrongType := by
  induction descriptions with
  | nil => contradiction
  | cons description rest ih =>
    rw [matchChild] at failed
    split at failed
    · unfold checkMessageType at failed
      split at failed
      · cases failed
        rfl
      · contradiction
    · exact ih failed

theorem matchEachFails {e : Exn} (typed : ∀ s ∈ statuses, s.descriptor = "Status")
    (failed : matchEach descriptions statuses = .error e) : e = wrongType := by
  induction statuses with
  | nil => contradiction
  | cons status rest ih =>
    have checked : checkMessageType status "Status" = .ok () := if_neg (not_not.mpr (typed status List.mem_cons_self))
    rw [matchEach,checked] at failed
    rcases boundError.mp failed with never | ⟨_,_,failed⟩
    · contradiction
    rcases boundError.mp failed with here | ⟨child,_,failed⟩
    · exact matchChildFails here
    rcases boundError.mp failed with below | ⟨_,_,never⟩
    · exact ih (fun s mem => typed s (List.mem_cons_of_mem _ mem)) below
    · contradiction

theorem matchChildrenUntyped (typed : ∀ s ∈ statuses, s.descriptor = "Status") (apart : (descriptions.map ChildMessage.name).Nodup)
    (perm : (statuses.map ChildMessage.name).Perm (descriptions.map ChildMessage.name))
    (untyped : ¬ ∀ d ∈ descriptions, d.descriptor = "Description") : matchChildren statuses descriptions = .error wrongType := by
  cases matched : matchEach descriptions statuses with
  | error e =>
    rw [matchChildren,matched,matchEachFails typed matched]
    rfl
  | ok children =>
    refine absurd (fun d mem => ?_) untyped
    obtain ⟨status,inside,same⟩ := List.mem_map.mp (perm.mem_iff.mpr (List.mem_map_of_mem mem))
    exact matchEachTyped matched inside ((findNamed apart).mpr ⟨mem,same.symm⟩)

theorem pairsEach {α : Type} {xs : List α} {f : α → ChildMessage σ} {g : α → ChildMessage δ}
    (named : ∀ x ∈ xs, (f x).name = (g x).name) (apart : (xs.map fun x => (g x).name).Nodup)
    (perm : descriptions.Perm (xs.map g)) : pairs (xs.map f) descriptions = xs.map fun x => (f x,g x) := by
  have distinct : (descriptions.map ChildMessage.name).Nodup := by
    rw [(perm.map _).nodup_iff,List.map_map]
    exact apart
  unfold pairs
  rw [List.filterMap_map,← List.filterMap_eq_map]
  refine List.filterMap_congr fun x mem => ?_
  have found : descriptions.find? (fun d => d.name = (f x).name) = some (g x) :=
    (findNamed distinct).mpr ⟨perm.mem_iff.mpr (List.mem_map_of_mem mem),(named x mem).symm⟩
  change ((descriptions.find? fun d => d.name = (f x).name).map fun d => (f x,d)) = some (f x,g x)
  rw [found]
  rfl

end Matching
section Adding
variable {α : Type} {xs : List α} {S : α → DecodedResponse Status} {D : α → DecodedResponse Description}

theorem addEachMapped {pre : String} {good : α → Bool} {rows : α → List TableRow}
    (each : ∀ x ∈ xs, addStatusToTable (S x) (D x) pre = if good x then .ok (rows x) else .error wrongType) :
    addEach pre (xs.map fun x => (printer (S x),descriptionMessage (D x))) =
      if xs.all good then .ok (xs.map rows).flatten else .error wrongType := by
  induction xs with
  | nil => rfl
  | cons x rest ih =>
    have here : (printer (S x)).data (descriptionMessage (D x)).data pre = if good x then .ok (rows x) else .error wrongType :=
      each x List.mem_cons_self
    rw [List.map_cons,addEach,here,ih fun y mem => each y (List.mem_cons_of_mem _ mem),List.all_cons]
    cases good x with
    | false => rfl
    | true => cases rest.all good <;> rfl

/-- The reply of a child to `status` and its outcome of `describe`, as the table takes them. -/
structure Tabled (name : String) (included : Prop) (rows : String → Except Exn (List TableRow)) (s : DecodedResponse Status)
    (d : DecodedResponse Description) : Prop where
  status : (printer s).name = name
  typed : (printer s).descriptor = "Status"
  description : (descriptionMessage d).name = name
  described : (descriptionMessage d).descriptor = "Description" ↔ included
  added : included → ∀ pre, addStatusToTable s d pre = rows pre

theorem childrenAdded {ds : List (DecodedResponse Description)} {names : α → String} {included : α → Prop} (good : α → Bool)
    (rows : α → String → List TableRow) (pre : String) (apart : (xs.map names).Nodup) (perm : ds.Perm (xs.map D))
    (inside : ∀ x ∈ xs, good x = true → included x)
    (each : ∀ x ∈ xs, Tabled (names x) (included x)
      (fun pre => if good x then .ok (rows x pre) else .error wrongType) (S x) (D x)) :
    (matchChildrenGiven (printers ((xs.map S).map some)) ((ds.map some).map fun d => d.map descriptionMessage) >>=
      addEach pre) = if xs.all good then .ok (xs.map fun x => rows x pre).flatten else .error wrongType := by
  have given : (ds.map some).map (fun d => d.map descriptionMessage) = (ds.map descriptionMessage).map some := by
    rw [List.map_map,List.map_map]
    rfl
  have mapped : (ds.map descriptionMessage).Perm (xs.map fun x => descriptionMessage (D x)) := by
    rw [← Function.comp_def,← List.map_map]
    exact perm.map _
  have printed : ((xs.map S).map printer).map ChildMessage.name = xs.map names := by
    rw [List.map_map,List.map_map]
    exact List.map_congr_left fun x mem => (each x mem).status
  have described : ((ds.map descriptionMessage).map ChildMessage.name).Perm (xs.map names) := by
    refine (mapped.map _).trans (List.Perm.of_eq ?_)
    rw [List.map_map]
    exact List.map_congr_left fun x mem => (each x mem).description
  have typed : ∀ s ∈ (xs.map S).map printer, s.descriptor = "Status" := by
    intro s mem
    obtain ⟨_,there,rfl⟩ := List.mem_map.mp mem
    obtain ⟨x,here,rfl⟩ := List.mem_map.mp there
    exact (each x here).typed
  have all : (∀ d ∈ ds.map descriptionMessage, d.descriptor = "Description") ↔ ∀ x ∈ xs, included x := by
    constructor
    · exact fun typed x mem => (each x mem).described.mp (typed _ (mapped.mem_iff.mpr (List.mem_map_of_mem mem)))
    · intro every d mem
      obtain ⟨x,there,rfl⟩ := List.mem_map.mp (mapped.mem_iff.mp mem)
      exact (each x there).described.mpr (every x there)
  rw [given,printersSome,matchChildrenGivenSome]
  by_cases every : ∀ x ∈ xs, included x
  · have paired : pairs ((xs.map S).map printer) (ds.map descriptionMessage) =
        xs.map fun x => (printer (S x),descriptionMessage (D x)) := by
      rw [List.map_map]
      refine pairsEach (fun x mem => ((each x mem).status).trans (each x mem).description.symm) ?_ mapped
      exact (List.map_congr_left fun x mem => (each x mem).description) ▸ apart
    rw [matchChildrenPairs typed (all.mpr every),paired,if_neg (by simp [perm.length_eq])]
    exact addEachMapped fun x mem => (each x mem).added (every x mem) pre
  · have out : xs.all good = false := by
      rw [← Bool.not_eq_true,List.all_eq_true]
      exact fun good => every fun x mem => inside x mem (good x mem)
    rw [matchChildrenUntyped typed (described.nodup_iff.mpr apart) (printed ▸ described.symm) fun typed => every (all.mp typed),out]
    rfl

end Adding
end ShellUtils

namespace GRPCDriver
variable {α δ : Type} {outformat : Outformat δ}

theorem handledMapped {xs : List α} {r : α → Response} {d : α → DecodedResponse δ}
    (each : ∀ x ∈ xs, handleResponse outformat (r x) = .ok (some (d x))) :
    handleChildren outformat (xs.map r) = .ok ((xs.map d).map some) := by
  induction xs with
  | nil => rfl
  | cons x rest ih =>
    rw [List.map_cons,handleChildren,each x List.mem_cons_self,ih fun y mem => each y (List.mem_cons_of_mem _ mem)]
    rfl

theorem handledPerm {xs : List α} {r : α → Response} {d : α → DecodedResponse δ} {responses : List Response}
    (perm : responses.Perm (xs.map r)) (each : ∀ x ∈ xs, handleResponse outformat (r x) = .ok (some (d x))) :
    ∃ ds : List (DecodedResponse δ), handleChildren outformat responses = .ok (ds.map some) ∧ ds.Perm (xs.map d) := by
  have decoded : ∀ response ∈ responses, ∃ s, handleResponse outformat response = .ok (some s) := by
    intro response mem
    obtain ⟨x,inside,rfl⟩ := List.mem_map.mp (perm.mem_iff.mp mem)
    exact ⟨_,each x inside⟩
  have some' : Nonempty (DecodedResponse δ) := ⟨.mk "" none .executedSuccessfully none []⟩
  choose! decode gives using decoded
  have handled := handledMapped (r := fun response : Response => response) gives
  rw [List.map_id'] at handled
  refine ⟨responses.map decode,handled,(perm.map decode).trans (List.Perm.of_eq ?_)⟩
  rw [List.map_map]
  refine List.map_congr_left fun x mem => ?_
  have there := gives (r x) (perm.mem_iff.mpr (List.mem_map_of_mem mem))
  rw [each x mem] at there
  exact (Option.some.inj (Except.ok.inj there)).symm

end GRPCDriver

theorem Controller.queriedMap {κ β : Type} {c : Controller κ} (f : Nat → κ → β) :
    (c.queried.map fun x => f x.1 x.2) = c.childrenNodes.mapIdx f := by
  refine List.ext_getElem (by simp [queried]) fun i _ _ => ?_
  simp [queried]

theorem StatefulNode.statusShown {node : StatefulNode} (readable : node.Readable) : Controller.getStatusMessage node =
    .ok ⟨node.shownState,node.operationalSubState.getD "",node.inError,node.included⟩ := by
  unfold Controller.getStatusMessage shownState
  by_cases same : node.operationalState = node.operationalSubState
  · simp [same]
  · cases state : node.operationalState with
    | none => exact absurd (state.trans (readable state).symm) same
    | some state' =>
      rw [state] at same
      simp [same]

section Rows
open ShellUtils
variable {n : Nat}

def Tree.rows (env : Surrounded) (child : Tree n) (pre : String) : Except Exn (List TableRow) :=
  if child.appsIncluded then .ok (child.listing env pre) else .error wrongType

def Controller.rows (env : Surrounded) (c : Controller (Tree n)) (pre : String) : Except Exn (List TableRow) :=
  if c.childrenNodes.all Tree.appsIncluded then
    .ok (c.row pre :: (c.childrenNodes.mapIdx fun i child => child.listing (env.below i) (pre ++ "  ")).flatten)
  else .error wrongType

def Tree.Included : {n : Nat} → Tree n → Prop
  | 0, child => child.elim
  | _+1, child => ChildNode.Included child

theorem Tree.appsIncludedOwn {child : Tree n} (all : child.appsIncluded = true) : child.Included := by
  cases n with
  | zero => exact child.elim
  | succ n =>
    intro app is
    cases child with
    | clientSide child => cases is; exact all
    | restApi child => cases is; exact all
    | grpc name controller => contradiction

/-- What the answers of a node come to: decoded, and in the table. -/
def Displays (name : String) (included : Prop) (rows : String → Except Exn (List TableRow)) (s d : Response) : Prop :=
  ∃ S D, handleResponse ControllerDriver.status s = .ok (some S) ∧ handleResponse ControllerDriver.describe d = .ok (some D) ∧
    Tabled name included rows S D

structure Controller.Reports (env : Surrounded) (c : Controller (Tree n)) (s d : Response)
    (S : DecodedResponse Status) (D : DecodedResponse Description) : Prop where
  status : handleResponse ControllerDriver.status s = .ok (some S)
  description : handleResponse ControllerDriver.describe d = .ok (some D)
  own : S.data = some (.decoded c.statefulNode.shown)
  described : D.data = some (.decoded c.description)
  tabled : Tabled c.name True (c.rows env) S D

section Level
variable {c : Controller (Tree n)} {env : Surrounded} {S : Nat × Tree n → DecodedResponse Status}
  {D : Nat × Tree n → DecodedResponse Description}

theorem Controller.queriedAll (p : Tree n → Bool) : (c.queried.all fun x => p x.2) = c.childrenNodes.all p := by
  rw [Bool.eq_iff_iff,List.all_eq_true,List.all_eq_true]
  constructor
  · intro all child mem
    obtain ⟨i,found⟩ := List.mem_iff_getElem?.mp mem
    exact all (i,child) (memQueried.mpr found)
  · rintro all ⟨i,child⟩ mem
    exact all child (List.mem_of_getElem? (memQueried.mp mem))

theorem Controller.tabledOwn {token token' : Option Token} {ds : List (DecodedResponse Description)}
    (apart : (c.childrenNodes.map Tree.ownName).Nodup) (perm : ds.Perm (c.queried.map D))
    (tabled : ∀ x ∈ c.queried, Tabled x.2.ownName x.2.Included (x.2.rows (env.below x.1)) (S x) (D x)) :
    Tabled c.name True (c.rows env)
      (.mk c.name token .executedSuccessfully (some (.decoded c.statefulNode.shown)) ((c.queried.map S).map some))
      (.mk c.name token' .executedSuccessfully (some (.decoded c.description)) (ds.map some)) := by
  have names : (c.queried.map fun x => x.2.ownName) = c.childrenNodes.map Tree.ownName := by
    rw [queriedMap (c := c) fun _ (child : Tree n) => child.ownName]
    exact List.ext_getElem (by simp) fun i _ _ => by simp
  refine ⟨rfl,rfl,rfl,iff_of_true rfl trivial,fun _ pre => ?_⟩
  have added := childrenAdded (fun x => x.2.appsIncluded) (fun x pre => x.2.listing (env.below x.1) pre) (pre ++ "  ")
    (names ▸ apart) perm (fun x _ all => Tree.appsIncludedOwn all) tabled
  rw [queriedAll Tree.appsIncluded,queriedMap (c := c) fun i (child : Tree n) => child.listing (env.below i) (pre ++ "  ")] at added
  rw [addStatusToTable]
  change (do
    let matched ← matchChildrenGiven _ _
    let rows ← addEach (pre ++ "  ") matched
    return c.row pre :: rows) = c.rows env pre
  rw [← bind_assoc]
  refine (congrArg (· >>= fun rows => pure (c.row pre :: rows)) added).trans ?_
  unfold rows
  cases c.childrenNodes.all Tree.appsIncluded <;> rfl

end Level

theorem ClientSideChild.displays {alive : Bool} {s d : Response} {child : ClientSideChild} {token : Token}
    (status : s = ⟨child.name,none,some (.status ⟨child.state.assumedOperationalState.getD "",
      if child.state.executingCommand then "executing_cmd" else "idle",child.state.errored || !alive,child.state.included⟩),
      .executedSuccessfully,[]⟩)
    (inside : child.state.included = true → d = child.describe token)
    (outside : child.state.included = false → ∃ e flag, d = ⟨child.name,some token,some (.stacktrace e),flag,[]⟩ ∧
      flag ≠ .executedSuccessfully) :
    Displays child.name (child.state.included = true)
      (fun pre => if child.state.included then .ok [child.row alive pre] else .error wrongType) s d := by
  subst status
  cases included : child.state.included with
  | true =>
    rw [inside included]
    refine ⟨_,_,GRPCDriver.handledSucceeded rfl rfl,GRPCDriver.handledSucceeded rfl rfl,rfl,rfl,rfl,iff_of_true rfl rfl,
      fun _ pre => ?_⟩
    unfold row
    rw [included]
    rfl
  | false =>
    obtain ⟨e,flag,rfl,failed⟩ := outside included
    have foreign : "Any" ≠ "Description" := by decide
    exact ⟨_,_,GRPCDriver.handledSucceeded rfl rfl,GRPCDriver.handledFailed failed rfl,rfl,rfl,rfl,
      iff_of_false foreign Bool.false_ne_true,fun inside => absurd inside Bool.false_ne_true⟩

theorem ChildNode.includedIff {κ : Type} {child : ChildNode κ} {app : ClientSideChild} (is : child.application = some app) :
    (app.state.included = true) = child.Included := by
  refine propext ⟨?_,fun included => included app is⟩
  intro included other same
  cases is.symm.trans same
  exact included

variable [Re]

theorem Controller.reports {w w' : World} {kids kids' : ChildInterface (Tree n)} {token : Token} {c : Controller (Tree n)}
    (env : Surrounded) (quiet : w.Quiet) (quiet' : w'.Quiet) (readable : c.statefulNode.Readable)
    (apart : (c.childrenNodes.map Tree.ownName).Nodup)
    (each : ∀ i child, c.childrenNodes[i]? = some child → ∃ reply, kids.getStatus i child token = .ok (some reply) ∧
      Displays child.ownName child.Included (child.rows (env.below i)) reply (outcome kids' .describe none token i child)) :
    ∃ s d S D, (handle w kids .status ⟨token,none⟩ c).result = .ok s ∧ (handle w' kids' .describe ⟨token,none⟩ c).result = .ok d ∧
      c.Reports env s d S D := by
  have shown : ∀ x ∈ c.queried, ∃ reply S D, kids.getStatus x.1 x.2 token = .ok (some reply) ∧
      handleResponse ControllerDriver.status reply = .ok (some S) ∧
      handleResponse ControllerDriver.describe (outcome kids' .describe none token x.1 x.2) = .ok (some D) ∧
      Tabled x.2.ownName x.2.Included (x.2.rows (env.below x.1)) S D := by
    rintro ⟨i,child⟩ mem
    obtain ⟨reply,answered,S,D,handledS,handledD,tabled⟩ := each i child (memQueried.mp mem)
    exact ⟨reply,S,D,answered,handledS,handledD,tabled⟩
  have junk : Nonempty Response := ⟨⟨"",none,none,.executedSuccessfully,[]⟩⟩
  have junkS : Nonempty (DecodedResponse Status) := ⟨.mk "" none .executedSuccessfully none []⟩
  have junkD : Nonempty (DecodedResponse Description) := ⟨.mk "" none .executedSuccessfully none []⟩
  choose! reply S D replies handledS handledD tabled using shown
  obtain ⟨responses,returned,perm⟩ := describeAnswers quiet' kids' ⟨token,none⟩ c
  rw [← queriedMap] at perm
  obtain ⟨ds,below,permD⟩ := GRPCDriver.handledPerm perm handledD
  have gathered : List.Forall₂ (fun x r => kids.getStatus x.1 x.2 token = .ok (some r)) c.queried (c.queried.map reply) :=
    List.forall₂_map_right_iff.mpr (List.forall₂_same.mpr replies)
  have status := statusOk.mpr ⟨_,_,StatefulNode.statusShown readable,gathered,rfl⟩
  have replied : (handle w kids .status ⟨token,none⟩ c).result =
      .ok (c.respond (some token) (.status c.statefulNode.shown) .executedSuccessfully (c.queried.map reply)) := by
    rw [statusHandled (quiet _),status,Drunc.answered,quiet]
    rfl
  exact ⟨_,_,_,_,replied,returned,GRPCDriver.handledSucceeded rfl (GRPCDriver.handledMapped handledS),
    GRPCDriver.handledSucceeded rfl below,rfl,rfl,tabledOwn apart permD tabled⟩

theorem ChildNode.describesOrRaises {κ : Type} (here : Nat → Surroundings) (below : Nat → ChildInterface κ) (token : Token)
    (i : Nat) {child : ChildNode κ} {app : ClientSideChild} (is : child.application = some app) :
    (app.state.included = true → outcome (ChildNode.interface here below) .describe none token i child = app.describe token) ∧
    (app.state.included = false → ∃ e flag, outcome (ChildNode.interface here below) .describe none token i child =
      ⟨app.name,some token,some (.stacktrace e),flag,[]⟩ ∧ flag ≠ .executedSuccessfully) := by
  refine ⟨fun included => describedOutcome is included,fun excluded => ?_⟩
  obtain ⟨e,raised,flag⟩ := excludedOutcome here below token i is excluded (by decide : Command.describe ≠ .include) (by decide)
  refine ⟨e,exceptionFlag e,?_,by rw [flag]; decide⟩
  rw [raised]
  exact congrArg (fun name => Response.mk name _ _ _ _) (applicationRuns here below .describe token i is).1

structure Surroundings.Calm (s : Surroundings) : Prop where
  quiet : s.world.Quiet
  link : s.link = .up

theorem Tree.displays (env env' : Surrounded) (calm : ∀ path, (env path).Calm) (calm' : ∀ path, (env' path).Calm) {token : Token}
    {i : Nat} {child : Tree n} (listable : child.Listable) :
    ∃ reply, (Tree.interface n env).getStatus i child token = .ok (some reply) ∧
      Displays child.ownName child.Included (child.rows (env.below i)) reply
        (outcome (Tree.interface n env') .describe none token i child) := by
  induction n generalizing env env' i with
  | zero => exact child.elim
  | succ n ih =>
    cases child with
    | clientSide child =>
      obtain ⟨inside,outside⟩ := ChildNode.describesOrRaises (fun j => env' [j]) (fun j => Tree.interface n (env'.below j)) token i
        (show (ChildNode.clientSide child).application = some child from rfl)
      have errored : child.state.errored = true := listable
      have same := ChildNode.includedIff (show (ChildNode.clientSide child : ChildNode (Tree n)).application = some child from rfl)
      refine ⟨_,?_,same.subst (motive := fun included => Displays child.name included _ _ _) (ClientSideChild.displays rfl inside outside)⟩
      change (child.getStatus none).map some = _
      unfold ClientSideChild.getStatus
      rw [errored]
      rfl
    | restApi child =>
      obtain ⟨inside,outside⟩ := ChildNode.describesOrRaises (fun j => env' [j]) (fun j => Tree.interface n (env'.below j)) token i
        (show (ChildNode.restApi child).application = some child from rfl)
      have same := ChildNode.includedIff (show (ChildNode.restApi child : ChildNode (Tree n)).application = some child from rfl)
      refine ⟨_,?_,same.subst (motive := fun included => Displays child.name included _ _ _) (ClientSideChild.displays rfl inside outside)⟩
      change (child.getStatus (some (env [i]).application)).map some = _
      unfold ClientSideChild.getStatus
      cases child.state.errored <;> rfl
    | grpc name controller =>
      obtain ⟨readable,apart,below⟩ := listable
      obtain ⟨s,d,S,D,replied,described,reports⟩ := Controller.reports (env.below i) (calm [i]).quiet (calm' [i]).quiet readable
        apart fun j child found => ih (env.below i) (env'.below i) (fun path => calm (i :: path))
          (fun path => calm' (i :: path)) (below child (List.mem_of_getElem? found))
      have included : ChildNode.Included (.grpc name controller) := fun app is => by contradiction
      refine ⟨s,?_,S,D,reports.status,?_,reports.tabled.status,reports.tabled.typed,reports.tabled.description,
        iff_of_true (reports.tabled.described.mpr trivial) included,fun _ => reports.tabled.added trivial⟩
      · change ChildNode.getStatus (env [i]) (Tree.interface n (env.below i)) token (.grpc name controller) = _
        rw [ChildNode.getStatus,ChildNode.sendCommandUp (calm [i]).link replied]
      · have reply : ((Tree.interface (n+1) env').propagateCommand i (.grpc name controller) .describe none token).1 = .ok d :=
          congrArg Prod.fst (ChildNode.sendCommandUp (calm' [i]).link described)
        unfold outcome
        rw [reply]
        exact reports.description

theorem Controller.treeReports {env env' : Surrounded} (calm : ∀ path, (env path).Calm) (calm' : ∀ path, (env' path).Calm)
    (token : Token) {root : Controller (Tree n)} (listable : root.Listable) :
    ∃ s d S D, (Tree.handle env .status ⟨token,none⟩ root).result = .ok s ∧
      (Tree.handle env' .describe ⟨token,none⟩ root).result = .ok d ∧ root.Reports env s d S D := by
  obtain ⟨readable,apart,below⟩ := listable
  exact Controller.reports env (calm []).quiet (calm' []).quiet readable apart fun i child found =>
    Tree.displays env env' calm calm' (below child (List.mem_of_getElem? found))

theorem Controller.describesFsm {env : Surrounded} (quiet : (env []).world.Quiet) (token : Token) {root : Controller (Tree n)}
    {transitions : List Transition} (offered : transitionsOf root.statefulNode "" = .ok transitions) :
    (Tree.handle env .describeFsm ⟨token,some (.plainText "")⟩ root).result = .ok (root.respond none
      (.fsmCommandsDescription ⟨"controller",root.name,root.session,convertFsmTransition transitions⟩) .executedSuccessfully []) := by
  refine quietAnswer quiet rfl ?_
  change (describeFsm "" root).result = _
  rw [describeRuns,offered]
  rfl

variable [ProtoText]

def Controller.summary (root : Controller (Tree n)) (transitions : List Transition) : String :=
  if root.statefulNode.inError then
    "[red] FSM is in error (" ++ ProtoText.statusText root.statefulNode.shown ++ ")[/red], not currently accepting new commands."
  else ShellContext.statusSummary root.statefulNode.shownState (transitions.map fun t => t.name.map ShellUtils.hyphened)

section Printing
variable {envs : Nat → Surrounded} {token : Token} {s : ShellSession n} {transitions : List Transition}
open ShellContext

theorem Controller.summaryPrinted (token : Token) (s : ShellSession n) (calm : ∀ k path, (envs k path).Calm) (listable : s.tree.Listable)
    (offered : transitionsOf s.tree.statefulNode "" = .ok transitions) :
    ∃ asked, printStatusSummary envs token s = ⟨.ok (),⟨s.tree,asked⟩,[.text (s.tree.summary transitions)]⟩ := by
  obtain ⟨r,_,S,_,replied,_,reports⟩ := treeReports (calm s.asked) (calm s.asked) token listable
  unfold printStatusSummary summary
  rw [requestBind _ (calm s.asked []).link replied reports.status,Tree.readsKeep .status rfl]
  unfold dataOf
  dsimp only
  rw [liftOkBind,reports.own]
  unfold ShellUtils.readAttr
  dsimp only
  rw [liftOkBind]
  dsimp only [id]
  change ∃ asked, (if s.tree.statefulNode.inError = true then _ else _ : ShellDo n Unit) ⟨s.tree,s.asked+1⟩ = _
  cases inError : s.tree.statefulNode.inError with
  | true => exact ⟨_,rfl⟩
  | false =>
    rw [if_neg Bool.false_ne_true,if_neg Bool.false_ne_true]
    have fsm := describesFsm (calm (s.asked+1) []).quiet token offered
    rw [requestBind _ (calm (s.asked+1) []).link fsm (GRPCDriver.handledSucceeded rfl rfl),Tree.readsKeep .describeFsm rfl]
    have told : ((convertFsmTransition transitions).map fun command => command.name.map ShellUtils.hyphened) =
        transitions.map fun t => t.name.map ShellUtils.hyphened := by
      unfold convertFsmTransition
      rw [List.map_map]
      rfl
    rw [← told]
    exact ⟨_,rfl⟩

theorem Controller.tableShowsTree (calm : ∀ k path, (envs k path).Calm) (listable : s.tree.Listable)
    (offered : transitionsOf s.tree.statefulNode "" = .ok transitions) :
    ∃ asked, ShellContext.status envs token s =
      if s.tree.childrenNodes.all Tree.appsIncluded then ⟨.ok (),⟨s.tree,asked⟩,
        [.statusTable ("[dark_green]" ++ s.tree.session ++ "[/dark_green] status") (s.tree.listing (envs s.asked)),
          .text (s.tree.summary transitions)]⟩
      else ⟨.error wrongType,⟨s.tree,asked⟩,[]⟩ := by
  obtain ⟨r,r',S,D,replied,described,reports⟩ := treeReports (calm s.asked) (calm (s.asked+1)) token listable
  unfold ShellContext.status
  rw [requestBind _ (calm s.asked []).link replied reports.status,Tree.readsKeep .status rfl,
    requestBind _ (calm (s.asked+1) []).link described reports.description,Tree.readsKeep .describe rfl]
  unfold printStatusTable
  dsimp only
  rw [reports.own]
  dsimp only
  rw [reports.described]
  unfold ShellUtils.readAttr
  dsimp only
  rw [liftOkBind,reports.tabled.added trivial]
  unfold rows
  cases s.tree.childrenNodes.all Tree.appsIncluded with
  | false => exact ⟨_,rfl⟩
  | true =>
    obtain ⟨asked,printed⟩ := summaryPrinted token ⟨s.tree,s.asked+1+1⟩ calm listable offered
    rw [if_pos rfl,liftOkBind,emitBind,printed]
    exact ⟨asked,rfl⟩

end Printing

end Rows

namespace Sample

theorem peacefulCalm : ∀ path, (peaceful path).Calm := fun _ => ⟨fun _ => rfl,rfl⟩

theorem deepRootListable : deepRoot.Listable := by
  refine ⟨fun same => same,by decide,fun child mem => ?_⟩
  obtain rfl := List.mem_singleton.mp mem
  refine ⟨fun same => same,by decide,fun child mem => ?_⟩
  obtain rfl := List.mem_singleton.mp mem
  trivial

@[reducible] def shellText : ProtoText := ⟨fun _ => "dunedaq.druncschema.Stacktrace",fun status => status.state⟩

theorem flagsApart : Function.Injective ResponseFlag.ctorIdx := by
  intro a b same
  cases a <;> cases b <;> first | rfl | contradiction

theorem fsmFlagsApart : Function.Injective FSMResponseFlag.ctorIdx := by
  intro a b same
  cases a <;> cases b <;> first | rfl | contradiction

@[reducible] def enums : ProtoEnums where
  number := ResponseFlag.ctorIdx
  fsmNumber := FSMResponseFlag.ctorIdx
  apart := flagsApart
  fsmApart := fsmFlagsApart
  first := rfl
  fsmFirst := rfl

end Sample

open Sample in
theorem deepRootTable :
    (∃ asked, @ShellContext.status 2 _ (fun _ => peaceful) user shellText ⟨deepRoot,0⟩ = ⟨.ok (),⟨deepRoot,asked⟩,
      [.statusTable "[dark_green]session[/dark_green] status" (deepRoot.listing peaceful),
        .text (@Controller.summary 2 shellText deepRoot [configure])]⟩) ∧
    (deepRoot.listing peaceful).map TableRow.name = ["root","  sub","    app"] := by
  obtain ⟨asked,shown⟩ := @Controller.tableShowsTree 2 _ shellText (fun _ => peaceful) user ⟨deepRoot,0⟩ [configure]
    (fun _ => peacefulCalm) deepRootListable rfl
  exact ⟨⟨asked,shown.trans rfl⟩,by decide⟩

end Drunc
