import Drunc.Control
import Drunc.StatusGathering
import Drunc.ShellResponses
import Drunc.StatusTable

/-! Commands that carry no data, and the children that are excluded. A child on the side
of its controller that is excluded makes its answer from the data of an FSM command, also
where the command is another one and there is none: it raises. Its controller counts that
against taking control, has an exception where the child's description would be, and the
shell finds no description to go with the child's status. -/
namespace Drunc
open Library (boundOk)
open Library.Act

theorem mapIdxAll {α β : Type} {f : Nat → α → β} {xs : List α} {ys : List β} (perm : ys.Perm (xs.mapIdx f)) {P : β → Prop}
    {Q : α → Prop} (each : ∀ i x, xs[i]? = some x → (P (f i x) ↔ Q x)) : (∀ y ∈ ys, P y) ↔ ∀ x ∈ xs, Q x := by
  constructor
  · intro all x mem
    obtain ⟨i,found⟩ := List.mem_iff_getElem?.mp mem
    obtain ⟨bound,rfl⟩ := List.getElem?_eq_some_iff.mp found
    exact (each i _ found).mp (all _ (perm.mem_iff.mpr (List.mem_mapIdx.mpr ⟨i,bound,rfl⟩)))
  · intro all y mem
    obtain ⟨i,bound,rfl⟩ := List.mem_mapIdx.mp (perm.mem_iff.mp mem)
    exact (each i _ (List.getElem?_eq_getElem bound)).mpr (all _ (List.getElem_mem bound))

namespace ClientSideChild
variable {execute : FSMCommand → Token → Do ClientSideChild Response} {child : ClientSideChild} {command : Command} {token : Token}

theorem excludedRaises (excluded : child.state.included = false) (stays : command ≠ .include) (out : command ≠ .exclude) :
    (propagateCommand execute command none token child).result =
      .error (.attributeError "'NoneType' object has no attribute 'command_name'") := by
  unfold propagateCommand
  rw [readBind]
  cases command with
  | «include» => contradiction
  | exclude => contradiction
  | _ => simp [excluded,fsmCommandOf,bindError]

theorem includedDescribes (included : child.state.included = true) :
    (propagateCommand execute .describe none token child).result = .ok (child.describe token) := by
  unfold propagateCommand
  rw [readBind]
  simp [included]

theorem includedIgnores (included : child.state.included = true)
    (ignored : command ∉ [.include,.exclude,.executeFsmCommand,.describe]) :
    (propagateCommand execute command none token child).result =
      .ok (child.respond token none .notExecutedNotImplemented) := by
  unfold propagateCommand
  rw [readBind]
  cases command <;> first | simp [included]; done | simp at ignored

theorem datalessIff (other : command ≠ .executeFsmCommand) :
    (∃ r, (propagateCommand execute command none token child).result = .ok r) ↔
      child.state.included = true ∨ command = .include ∨ command = .exclude := by
  by_cases always : command = .include ∨ command = .exclude
  · have replied : ∃ r, (propagateCommand execute command none token child).result = .ok r := by
      rcases always with rfl | rfl <;> exact ⟨_,rfl⟩
    exact iff_of_true replied (.inr always)
  · obtain ⟨stays,out⟩ := not_or.mp always
    cases included : child.state.included with
    | false => simp [excludedRaises included stays out,stays,out]
    | true =>
      have replied : ∃ r, (propagateCommand execute command none token child).result = .ok r := by
        by_cases describes : command = .describe
        · subst describes
          exact ⟨_,includedDescribes included⟩
        · exact ⟨_,includedIgnores included (by simp [stays,out,other,describes])⟩
      exact iff_of_true replied (.inl rfl)

end ClientSideChild

namespace ChildNode
variable {κ : Type}

def application : ChildNode κ → Option ClientSideChild
  | .clientSide child => some child
  | .restApi child => some child
  | .grpc _ _ => none

def Included (child : ChildNode κ) : Prop := ∀ app, child.application = some app → app.state.included = true

variable [Re] {here : Nat → Surroundings} {below : Nat → ChildInterface κ} {command : Command} {token : Token} {i : Nat}
  {child : ChildNode κ} {app : ClientSideChild}

theorem applicationRuns (here : Nat → Surroundings) (below : Nat → ChildInterface κ) (command : Command) (token : Token)
    (i : Nat) (is : child.application = some app) : child.name = app.name ∧
    ∃ execute, ((ChildNode.interface here below).propagateCommand i child command none token).1 =
      (ClientSideChild.propagateCommand execute command none token app).result := by
  cases child with
  | clientSide child =>
    cases is
    exact ⟨rfl,_,rfl⟩
  | restApi child =>
    cases is
    exact ⟨rfl,_,rfl⟩
  | grpc name controller => contradiction

theorem excludedOutcome (here : Nat → Surroundings) (below : Nat → ChildInterface κ) (token : Token) (i : Nat)
    (is : child.application = some app) (excluded : app.state.included = false) (stays : command ≠ .include)
    (out : command ≠ .exclude) : ∃ e : Exn, outcome (ChildNode.interface here below) command none token i child =
      childException (ChildNode.interface here below) token child e ∧ exceptionFlag e = .unhandledExceptionThrown := by
  obtain ⟨_,execute,runs⟩ := applicationRuns here below command token i is
  refine ⟨.attributeError "'NoneType' object has no attribute 'command_name'",?_,rfl⟩
  unfold outcome
  rw [runs,ClientSideChild.excludedRaises excluded stays out]

theorem describedOutcome (is : child.application = some app) (included : app.state.included = true) :
    outcome (ChildNode.interface here below) .describe none token i child = app.describe token := by
  obtain ⟨_,execute,runs⟩ := applicationRuns here below .describe token i is
  unfold outcome
  rw [runs,ClientSideChild.includedDescribes included]

theorem ignoredOutcome (is : child.application = some app) (included : app.state.included = true)
    (ignored : command ∉ [.include,.exclude,.executeFsmCommand,.describe]) :
    outcome (ChildNode.interface here below) command none token i child = app.respond token none .notExecutedNotImplemented := by
  obtain ⟨_,execute,runs⟩ := applicationRuns here below command token i is
  unfold outcome
  rw [runs,ClientSideChild.includedIgnores included ignored]

end ChildNode

namespace Controller
section Endpoints
variable {κ : Type} [Re] {w : World} {kids : ChildInterface κ} {request : Request} {c : Controller κ}

theorem quietAnswer {command : Command} {r : Response} (quiet : w.Quiet) (accepted : admitted command request c = true)
    (returned : (unpacked w kids c.servicer command request c).result = .ok r) :
    (handle w kids command request c).result = .ok r := by
  rw [handleAdmitted (quiet _) accepted,returned,answered,quiet]

theorem takeControlAnswers (quiet : w.Quiet) (kids : ChildInterface κ) (request : Request) (c : Controller κ) :
    ∃ r responses, (handle w kids .takeControl request c).result = .ok r ∧
      responses.Perm (c.childrenNodes.mapIdx (outcome kids .takeControl none request.token)) ∧
      (r.flag = .executedSuccessfully ↔ childrenAnswered responses = true) := by
  have uncut : Library.firstCut [(w.broadcast .propagation,{ c with actor := request.token })] = none := by rw [quiet]; rfl
  have returned := (passesThrough (takeControlRuns w kids request.token c) uncut).1
  refine ⟨_,_,quietAnswer quiet rfl returned,collectedOutcomes quiet c.childrenNodes,?_⟩
  unfold changedAnswer
  cases childrenAnswered (collected w kids .takeControl none request.token c.childrenNodes) <;> simp [respond]

theorem describeAnswers (quiet : w.Quiet) (kids : ChildInterface κ) (request : Request) (c : Controller κ) :
    ∃ responses, (handle w kids .describe request c).result =
      .ok (c.respond none (.description c.description) .executedSuccessfully responses) ∧
      responses.Perm (c.childrenNodes.mapIdx (outcome kids .describe none request.token)) := by
  obtain ⟨responses,ran,perm⟩ : ∃ responses,
      (propagateToList w kids .describe none request.token c).result = .ok responses ∧
      responses.Perm (c.childrenNodes.mapIdx (outcome kids .describe none request.token)) := propagatesOutcomes quiet
  refine ⟨responses,quietAnswer quiet rfl ?_,perm⟩
  change (describe w kids request.token c).result = _
  unfold describe
  rw [readBind,bindOk ran]
  rfl

end Endpoints
end Controller

def DecodedResponse.children {δ : Type} : DecodedResponse δ → List (Option (DecodedResponse δ))
  | .mk _ _ _ _ children => children

namespace ControllerDriver

def status : Outformat Status := ⟨"Status",fun data => match data with
  | .status status => some status
  | _ => none⟩

def describe : Outformat Description := ⟨"Description",fun data => match data with
  | .description description => some description
  | _ => none⟩

end ControllerDriver

namespace ShellUtils
open GRPCDriver
variable {δ : Type} {outformat : Outformat δ}

def childMessage (outformat : Outformat δ) : DecodedResponse δ → ChildMessage (Option (DecodedData δ))
  | .mk name _ _ data _ => ⟨name,match data with | some (.decoded _) => outformat.name | _ => "Any",data⟩

structure Shown (outformat : Outformat δ) (r : Response) (d : DecodedResponse δ) : Prop where
  name : (childMessage outformat d).name = r.name
  descriptor : (childMessage outformat d).descriptor = if r.flag = .executedSuccessfully then outformat.name else "Any"

theorem shown {r : Response} (decodable : Decodable outformat r) (explained : r.flag ≠ .executedSuccessfully → r.data ≠ none) :
    ∃ d, handleResponse outformat r = .ok (some d) ∧ Shown outformat r d := by
  obtain ⟨below,handled,_⟩ := childrenHandled fun child mem => responseHandled (decodableInside decodable mem)
  obtain ⟨name,token,data,flag,children⟩ := r
  by_cases done : flag = .executedSuccessfully
  · subst done
    obtain ⟨message,unpacked⟩ := decodable _ (.here _) rfl
    exact ⟨_,handledSucceeded unpacked handled,rfl,rfl⟩
  · cases data with
    | none => exact absurd rfl (explained done)
    | some payload => exact ⟨_,handledFailed done handled,rfl,(if_neg done).symm⟩

theorem shownEach {children : List Response}
    (each : ∀ child ∈ children, Decodable outformat child ∧ (child.flag ≠ .executedSuccessfully → child.data ≠ none)) :
    ∃ ds, handleChildren outformat children = .ok (ds.map some) ∧ List.Forall₂ (Shown outformat) children ds := by
  induction children with
  | nil => exact ⟨[],rfl,.nil⟩
  | cons child rest ih =>
    obtain ⟨decodable,explained⟩ := each child List.mem_cons_self
    obtain ⟨d,handled,here⟩ := shown decodable explained
    obtain ⟨ds,below,there⟩ := ih fun child mem => each child (List.mem_cons_of_mem _ mem)
    refine ⟨d :: ds,?_,.cons here there⟩
    rw [handleChildren,handled,below]
    rfl

theorem shownNames {children : List Response} {ds : List (DecodedResponse δ)}
    (each : List.Forall₂ (Shown outformat) children ds) :
    (ds.map (childMessage outformat)).map ChildMessage.name = children.map fun r => r.name := by
  induction each with
  | nil => rfl
  | cons here there ih => rw [List.map_cons,List.map_cons,List.map_cons,ih,here.name]

theorem shownTyped {children : List Response} {ds : List (DecodedResponse δ)}
    (each : List.Forall₂ (Shown outformat) children ds) (real : outformat.name ≠ "Any") :
    (∀ m ∈ ds.map (childMessage outformat), m.descriptor = outformat.name) ↔
      ∀ r ∈ children, r.flag = .executedSuccessfully := by
  induction each with
  | nil => simp
  | @cons r d rest ds here there ih =>
    rw [List.map_cons,List.forall_mem_cons,List.forall_mem_cons,ih,here.descriptor]
    refine and_congr_left' ?_
    by_cases done : r.flag = .executedSuccessfully
    · simp [done]
    · simp [done,real.symm]

structure Answered (outformat : Outformat δ) (r : Response) : Prop where
  flag : r.flag = .executedSuccessfully
  data : ∃ message, r.data.bind outformat.unpack = some message
  children : ∀ child ∈ r.children, Decodable outformat child ∧ (child.flag ≠ .executedSuccessfully → child.data ≠ none)

theorem answeredShown {r : Response} (answered : Answered outformat r) :
    ∃ d ds, handleResponse outformat r = .ok (some d) ∧ d.children = ds.map some ∧
      List.Forall₂ (Shown outformat) r.children ds := by
  obtain ⟨ds,handled,each⟩ := shownEach answered.children
  obtain ⟨message,unpacked⟩ := answered.data
  obtain ⟨name,token,data,flag,children⟩ := r
  obtain rfl := answered.flag
  exact ⟨_,ds,handledSucceeded unpacked handled,rfl,each⟩

def Paired (statuses descriptions : Response) : Prop :=
  ∃ (s : DecodedResponse Status) (ss : List (DecodedResponse Status)) (d : DecodedResponse Description)
    (ds : List (DecodedResponse Description)) (children : _),
    handleResponse ControllerDriver.status statuses = .ok (some s) ∧ s.children = ss.map some ∧
    handleResponse ControllerDriver.describe descriptions = .ok (some d) ∧ d.children = ds.map some ∧
    matchChildren (ss.map (childMessage ControllerDriver.status)) (ds.map (childMessage ControllerDriver.describe)) = .ok children

theorem pairedIff {statuses descriptions : Response} (status : Answered ControllerDriver.status statuses)
    (description : Answered ControllerDriver.describe descriptions)
    (succeeded : ∀ child ∈ statuses.children, child.flag = .executedSuccessfully)
    (apart : (statuses.children.map fun r => r.name).Nodup)
    (perm : (statuses.children.map fun r => r.name).Perm (descriptions.children.map fun r => r.name)) :
    Paired statuses descriptions ↔ ∀ child ∈ descriptions.children, child.flag = .executedSuccessfully := by
  obtain ⟨s,ss,handledS,belowS,eachS⟩ := answeredShown status
  obtain ⟨d,ds,handledD,belowD,eachD⟩ := answeredShown description
  have typed := (shownTyped eachS (by decide)).mpr succeeded
  rw [← shownNames eachS] at apart perm
  rw [← shownNames eachD] at perm
  rw [← shownTyped eachD (by decide)]
  refine Iff.trans ?_ (matchChildrenIff typed (perm.nodup_iff.mp apart) perm)
  constructor
  · rintro ⟨s',ss',d',ds',children,sameS,listS,sameD,listD,matched⟩
    cases handledS.symm.trans sameS
    cases handledD.symm.trans sameD
    have equalS : ss = ss' := List.map_injective_iff.mpr (Option.some_injective _) (belowS.symm.trans listS)
    have equalD : ds = ds' := List.map_injective_iff.mpr (Option.some_injective _) (belowD.symm.trans listD)
    exact ⟨children,by rw [equalS,equalD,matched]⟩
  · rintro ⟨children,matched⟩
    exact ⟨s,ss,d,ds,children,handledS,belowS,handledD,belowD,matched⟩

end ShellUtils

section Exclusion
open GRPCDriver
variable {κ : Type}

theorem leafDecodable {δ : Type} {outformat : Outformat δ} {name : String} {token : Option Token} {data : Option Payload}
    {flag : ResponseFlag} (own : flag = .executedSuccessfully → ∃ message, data.bind outformat.unpack = some message) :
    Decodable outformat ⟨name,token,data,flag,[]⟩ := by
  intro node within done
  cases within with
  | here => exact own done
  | inside mem _ => contradiction

structure Serves (kids : ChildInterface κ) (token : Token) (i : Nat) (child : κ) : Prop where
  takes : (outcome kids .takeControl none token i child).flag ∈ [.executedSuccessfully,.notExecutedNotImplemented]
  status : ∀ r, kids.getStatus i child token = .ok (some r) →
    r.name = kids.name child ∧ r.flag = .executedSuccessfully ∧ Decodable ControllerDriver.status r
  describes : (outcome kids .describe none token i child).flag = .executedSuccessfully
  description : Decodable ControllerDriver.describe (outcome kids .describe none token i child)
  name : (outcome kids .describe none token i child).name = kids.name child

variable [Re] {here : Nat → Surroundings} {below : Nat → ChildInterface κ} {token : Token} {i : Nat} {child : ChildNode κ}
  {app : ClientSideChild}

theorem takesIncluded (serves : child.application = none → Serves (ChildNode.interface here below) token i child) :
    (outcome (ChildNode.interface here below) .takeControl none token i child).flag ∈
      [.executedSuccessfully,.notExecutedNotImplemented] ↔ child.Included := by
  cases is : child.application with
  | none => exact iff_of_true (serves is).takes fun app there => by rw [is] at there; contradiction
  | some app =>
    have all : child.Included ↔ app.state.included = true := by simp [ChildNode.Included,is]
    rw [all]
    cases included : app.state.included with
    | true =>
      rw [ChildNode.ignoredOutcome is included (by decide)]
      simp [ClientSideChild.respond]
    | false =>
      obtain ⟨e,raised,flag⟩ := ChildNode.excludedOutcome here below token i is included
        (by decide : Command.takeControl ≠ .include) (by decide)
      rw [raised]
      simp [childException,flag]

structure DescribedAs (child : ChildNode κ) (r : Response) : Prop where
  included : child.Included → r.flag = .executedSuccessfully
  excluded : ¬ child.Included → r.flag = .unhandledExceptionThrown
  name : r.name = child.name
  decodable : Decodable ControllerDriver.describe r
  explained : r.flag ≠ .executedSuccessfully → r.data ≠ none

theorem describedAs (serves : child.application = none → Serves (ChildNode.interface here below) token i child) :
    DescribedAs child (outcome (ChildNode.interface here below) .describe none token i child) := by
  cases is : child.application with
  | none =>
    have vacuous : child.Included := fun app there => by rw [is] at there; contradiction
    have done := (serves is).describes
    exact ⟨fun _ => done,absurd vacuous,(serves is).name,(serves is).description,absurd done⟩
  | some app =>
    have all : child.Included ↔ app.state.included = true := by simp [ChildNode.Included,is]
    have named := (ChildNode.applicationRuns here below .describe token i is).1
    cases included : app.state.included with
    | true =>
      rw [ChildNode.describedOutcome is included]
      exact ⟨fun _ => rfl,absurd (all.mpr included),named.symm,leafDecodable fun _ => ⟨_,rfl⟩,absurd rfl⟩
    | false =>
      obtain ⟨e,raised,flag⟩ := ChildNode.excludedOutcome here below token i is included
        (by decide : Command.describe ≠ .include) (by decide)
      have out : ¬ child.Included := fun inside => by rw [all.mp inside] at included; contradiction
      have failed : exceptionFlag e ≠ .executedSuccessfully := by rw [flag]; decide
      rw [raised]
      exact ⟨fun inside => absurd inside out,fun _ => flag,rfl,leafDecodable fun done => absurd done failed,
        fun _ => Option.some_ne_none _⟩

theorem statusShown (serves : child.application = none → Serves (ChildNode.interface here below) token i child) {r : Response}
    (replied : (ChildNode.interface here below).getStatus i child token = .ok (some r)) :
    r.name = child.name ∧ r.flag = .executedSuccessfully ∧ Decodable ControllerDriver.status r := by
  have own : ∀ {commander : Option Application} {app : ClientSideChild}, (app.getStatus commander).map some = .ok (some r) →
      r.name = app.name ∧ r.flag = .executedSuccessfully ∧ Decodable ControllerDriver.status r := by
    intro commander app answered
    obtain ⟨reply,gave,same⟩ := Library.mappedOk.mp answered
    cases same
    unfold ClientSideChild.getStatus at gave
    cases errored : app.state.errored with
    | true =>
      rw [errored] at gave
      cases gave
      exact ⟨rfl,rfl,leafDecodable fun _ => ⟨_,rfl⟩⟩
    | false =>
      rw [errored] at gave
      cases commander with
      | none => contradiction
      | some application =>
        cases gave
        exact ⟨rfl,rfl,leafDecodable fun _ => ⟨_,rfl⟩⟩
  cases child with
  | clientSide app => exact own replied
  | restApi app => exact own replied
  | grpc name controller => exact (serves rfl).status r replied

end Exclusion

namespace Controller
section Served
open GRPCDriver (Decodable)
variable {κ : Type} [Re]

def TakesControl (w : World) (kids : ChildInterface κ) (request : Request) (c : Controller κ) : Prop :=
  ∃ r, (handle w kids .takeControl request c).result = .ok r ∧ r.flag = .executedSuccessfully

def DescribesCleanly (w : World) (kids : ChildInterface κ) (request : Request) (c : Controller κ) : Prop :=
  ∃ r, (handle w kids .describe request c).result = .ok r ∧ r.flag = .executedSuccessfully ∧
    ∀ entry ∈ r.children, entry.flag ≠ .druncExceptionThrown ∧ entry.flag ≠ .unhandledExceptionThrown

def PairsChildren (w : World) (kids : ChildInterface κ) (request : Request) (c : Controller κ) : Prop :=
  ∃ statuses descriptions, (handle w kids .status request c).result = .ok statuses ∧
    (handle w kids .describe request c).result = .ok descriptions ∧ ShellUtils.Paired statuses descriptions

def AllIncluded (c : Controller (ChildNode κ)) : Prop := ∀ child ∈ c.childrenNodes, child.Included

variable {w : World} {here : Nat → Surroundings} {below : Nat → ChildInterface κ} {request : Request}
  {c : Controller (ChildNode κ)}

/-- Of a controller below, what it answers to the three commands. -/
def SubControllersServe (kids : ChildInterface (ChildNode κ)) (token : Token) (c : Controller (ChildNode κ)) : Prop :=
  ∀ i child, c.childrenNodes[i]? = some child → child.application = none → Serves kids token i child

theorem takesControlIff (quiet : w.Quiet) (serve : SubControllersServe (ChildNode.interface here below) request.token c) :
    TakesControl w (ChildNode.interface here below) request c ↔ c.AllIncluded := by
  obtain ⟨r,responses,returned,perm,flags⟩ := takeControlAnswers quiet (ChildNode.interface here below) request c
  have answered : childrenAnswered responses = true ↔
      ∀ r ∈ responses, r.flag ∈ [.executedSuccessfully,.notExecutedNotImplemented] := by
    simp [childrenAnswered]
  have taken : TakesControl w (ChildNode.interface here below) request c ↔ r.flag = .executedSuccessfully := by
    unfold TakesControl
    rw [returned]
    exact ⟨fun ⟨_,same,flag⟩ => Except.ok.inj same ▸ flag,fun flag => ⟨r,rfl,flag⟩⟩
  rw [taken,flags,answered]
  exact mapIdxAll perm fun i child found => takesIncluded (serve i child found)

theorem describesCleanlyIff (quiet : w.Quiet) (serve : SubControllersServe (ChildNode.interface here below) request.token c) :
    DescribesCleanly w (ChildNode.interface here below) request c ↔ c.AllIncluded := by
  obtain ⟨responses,returned,perm⟩ := describeAnswers quiet (ChildNode.interface here below) request c
  have clean : DescribesCleanly w (ChildNode.interface here below) request c ↔
      ∀ entry ∈ responses, entry.flag ≠ .druncExceptionThrown ∧ entry.flag ≠ .unhandledExceptionThrown := by
    unfold DescribesCleanly
    rw [returned]
    exact ⟨fun ⟨_,same,_,all⟩ => by cases same; exact all,fun all => ⟨_,rfl,rfl,all⟩⟩
  rw [clean]
  refine mapIdxAll perm fun i child found => ?_
  have described := describedAs (serve i child found)
  constructor
  · intro ⟨_,unraised⟩
    by_contra out
    exact unraised (described.excluded out)
  · intro included
    rw [described.included included]
    decide

theorem statusAnswered (quiet : w.Quiet) (serve : SubControllersServe (ChildNode.interface here below) request.token c)
    (gathers : Gathers (ChildNode.interface here below) request.token c) :
    ∃ r, (handle w (ChildNode.interface here below) .status request c).result = .ok r ∧
      ShellUtils.Answered ControllerDriver.status r ∧ (∀ reply ∈ r.children, reply.flag = .executedSuccessfully) ∧
      (r.children.map fun reply => reply.name) = c.childrenNodes.map ChildNode.name := by
  obtain ⟨r,replied,gathered⟩ := gatheredIff.mpr ⟨quiet _,quiet _,gathers⟩
  have entry : ∀ (i : Nat) (child : ChildNode κ), c.childrenNodes[i]? = some child → ∃ reply, r.children[i]? = some reply ∧
      reply.name = child.name ∧ reply.flag = .executedSuccessfully ∧ Decodable ControllerDriver.status reply := by
    intro i child found
    obtain ⟨reply,answered⟩ := gathers.2 i child found
    exact ⟨reply,gathered.entries i child reply found answered,statusShown (serve i child found) answered⟩
  have entries : ∀ reply ∈ r.children, reply.flag = .executedSuccessfully ∧ Decodable ControllerDriver.status reply := by
    intro reply mem
    obtain ⟨i,there⟩ := List.mem_iff_getElem?.mp mem
    obtain ⟨bound,_⟩ := List.getElem?_eq_some_iff.mp there
    obtain ⟨same,listed,_,flag,decodable⟩ := entry i _ (List.getElem?_eq_getElem (gathered.each ▸ bound))
    cases there.symm.trans listed
    exact ⟨flag,decodable⟩
  obtain ⟨own,_,data⟩ := gathered.own
  refine ⟨r,replied,⟨gathered.flag,⟨own,by rw [data]; rfl⟩,fun reply mem => ?_⟩,fun reply mem => (entries reply mem).1,?_⟩
  · exact ⟨(entries reply mem).2,fun failed => absurd (entries reply mem).1 failed⟩
  · refine List.ext_getElem (by simpa using gathered.each) fun i bound inside => ?_
    rw [List.length_map] at bound inside
    obtain ⟨reply,listed,name,_⟩ := entry i _ (List.getElem?_eq_getElem inside)
    rw [List.getElem_map,List.getElem_map,← name,(List.getElem?_eq_some_iff.mp listed).2]

theorem descriptionAnswered (quiet : w.Quiet) (serve : SubControllersServe (ChildNode.interface here below) request.token c) :
    ∃ r, (handle w (ChildNode.interface here below) .describe request c).result = .ok r ∧
      ShellUtils.Answered ControllerDriver.describe r ∧
      ((∀ reply ∈ r.children, reply.flag = .executedSuccessfully) ↔ c.AllIncluded) ∧
      (r.children.map fun reply => reply.name).Perm (c.childrenNodes.map ChildNode.name) := by
  obtain ⟨responses,returned,perm⟩ := describeAnswers quiet (ChildNode.interface here below) request c
  refine ⟨_,returned,⟨rfl,⟨_,rfl⟩,fun reply mem => ?_⟩,mapIdxAll perm fun i child found => ?_,?_⟩
  · obtain ⟨i,bound,rfl⟩ := List.mem_mapIdx.mp (perm.mem_iff.mp mem)
    have described := describedAs (serve i _ (List.getElem?_eq_getElem bound))
    exact ⟨described.decodable,described.explained⟩
  · have described := describedAs (serve i child found)
    refine ⟨fun done => ?_,described.included⟩
    by_contra out
    exact absurd (done.symm.trans (described.excluded out)) (by decide)
  · refine (perm.map _).trans (List.Perm.of_eq (List.ext_getElem (by simp) fun i bound inside => ?_))
    rw [List.length_map] at inside
    simpa using (describedAs (serve i _ (List.getElem?_eq_getElem inside))).name

theorem pairsChildrenIff (quiet : w.Quiet) (serve : SubControllersServe (ChildNode.interface here below) request.token c)
    (apart : (c.childrenNodes.map ChildNode.name).Nodup) (gathers : Gathers (ChildNode.interface here below) request.token c) :
    PairsChildren w (ChildNode.interface here below) request c ↔ c.AllIncluded := by
  obtain ⟨statuses,replied,status,succeeded,names⟩ := statusAnswered quiet serve gathers
  obtain ⟨descriptions,returned,description,all,perm⟩ := descriptionAnswered quiet serve
  have pairs : PairsChildren w (ChildNode.interface here below) request c ↔ ShellUtils.Paired statuses descriptions := by
    unfold PairsChildren
    rw [replied,returned]
    exact ⟨fun ⟨_,_,same,also,paired⟩ => by cases same; cases also; exact paired,fun paired => ⟨_,_,rfl,rfl,paired⟩⟩
  rw [pairs,← all]
  exact ShellUtils.pairedIff status description succeeded (names ▸ apart) (names ▸ perm.symm)

theorem datalessServedIff :
    (∀ execute child command token, command ≠ .executeFsmCommand →
      ((∃ r, (ClientSideChild.propagateCommand execute command none token child).result = .ok r) ↔
        child.state.included = true ∨ command = .include ∨ command = .exclude)) ∧
    ∀ (κ : Type) (w : World) (here : Nat → Surroundings) (below : Nat → ChildInterface κ) (request : Request)
      (c : Controller (ChildNode κ)), w.Quiet → SubControllersServe (ChildNode.interface here below) request.token c →
      (TakesControl w (ChildNode.interface here below) request c ↔ c.AllIncluded) ∧
      (DescribesCleanly w (ChildNode.interface here below) request c ↔ c.AllIncluded) ∧
      ((c.childrenNodes.map ChildNode.name).Nodup → Gathers (ChildNode.interface here below) request.token c →
        (PairsChildren w (ChildNode.interface here below) request c ↔ c.AllIncluded)) := by
  refine ⟨fun execute child command token other => ClientSideChild.datalessIff other,?_⟩
  intro κ w here below request c quiet serve
  exact ⟨takesControlIff quiet serve,describesCleanlyIff quiet serve,pairsChildrenIff quiet serve⟩

end Served
end Controller

namespace Sample

def appsRoot (first second : Bool) : Controller (ChildNode Empty) :=
  root [.restApi (follower "app-1" first),.restApi (follower "app-2" second)]

abbrev apps : ChildInterface (ChildNode Empty) := ChildNode.interface (fun i => peaceful [i]) fun _ => childless

def asking : Request := ⟨user,none⟩

theorem appsServe (first second : Bool) : Controller.SubControllersServe apps asking.token (appsRoot first second) := by
  intro i child found is
  rcases List.mem_pair.mp (List.mem_of_getElem? found) with rfl | rfl <;> cases is

theorem appsGather (first second : Bool) : Controller.Gathers apps asking.token (appsRoot first second) := by
  refine ⟨fun none => none,fun i child found => ?_⟩
  rcases List.mem_pair.mp (List.mem_of_getElem? found) with rfl | rfl <;> exact ⟨_,rfl⟩

theorem appsIncluded {first second : Bool} : (appsRoot first second).AllIncluded ↔ first = true ∧ second = true := by
  unfold Controller.AllIncluded appsRoot root
  simp [ChildNode.Included,ChildNode.application,follower]

end Sample

open Sample in
theorem includedAppsServed :
    Controller.TakesControl calm apps asking (appsRoot true true) ∧
    Controller.DescribesCleanly calm apps asking (appsRoot true true) ∧
    Controller.PairsChildren calm apps asking (appsRoot true true) := by
  have included := appsIncluded.mpr ⟨rfl,rfl⟩
  obtain ⟨taken,described,paired⟩ := Controller.datalessServedIff.2 Empty calm (fun i => peaceful [i]) (fun _ => childless)
    asking (appsRoot true true) (fun _ => rfl) (appsServe true true)
  exact ⟨taken.mpr included,described.mpr included,(paired (by decide) (appsGather true true)).mpr included⟩

open Sample in
theorem excludedAppBreaks :
    (∀ r, (ClientSideChild.propagateCommand ClientSideChild.propagateFsmCommand .takeControl none user
      (follower "app-2" false)).result ≠ .ok r) ∧
    ¬ Controller.TakesControl calm apps asking (appsRoot true false) ∧
    ¬ Controller.DescribesCleanly calm apps asking (appsRoot true false) ∧
    ¬ Controller.PairsChildren calm apps asking (appsRoot true false) := by
  have out : ¬ (appsRoot true false).AllIncluded := fun all => absurd (appsIncluded.mp all).2 (by decide)
  have quiet : calm.Quiet := fun _ => rfl
  refine ⟨fun r replied => ?_,fun taken => out ?_,fun described => out ?_,fun paired => out ?_⟩
  · cases replied
  · exact (Controller.takesControlIff quiet (appsServe true false)).mp taken
  · exact (Controller.describesCleanlyIff quiet (appsServe true false)).mp described
  · exact (Controller.pairsChildrenIff quiet (appsServe true false) (by decide) (appsGather true false)).mp paired

end Drunc
