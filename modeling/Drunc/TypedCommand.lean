import Drunc.Description
import Drunc.ExecutionReport

/-! What a user makes the tree do. At peace the shell with the whole tree behind it works as
one node that is told the transitions by their names: `Controller.TypedAnswer` has what it then
prints of a command, and a `Line` is either a command that is typed or an order that another
client gives between two of them. -/
namespace Drunc
open Library (Dict Refines refinesRun)
open Library.Act
open ShellContext (fsmRequest)

inductive Line where
  | typed (transitionName : String) (kwargs : Dict String PyObj)
  | other (order : Order)

namespace Response
open ShellUtils (boolToSuccess)

def successRow (name : String) : ReportRow := ⟨name,boolToSuccess true,boolToSuccess true⟩

theorem succeededFlag {r : Response} (succeeded : r.succeeded = true) : r.flag = .executedSuccessfully := by
  unfold Response.succeeded at succeeded
  exact beq_iff_eq.mp (Bool.and_eq_true _ _ ▸ succeeded).1

theorem reportSucceeded {r : Response} (succeeded : r.succeeded = true) (pre : String) :
    r.report pre = successRow (pre ++ r.name) :: reportEach ("  " ++ pre) r.children := by
  obtain ⟨name,token,data,flag,children⟩ := r
  obtain rfl : flag = .executedSuccessfully := succeededFlag succeeded
  rw [report,succeeded]
  rfl

theorem Bare.reported {r : Response} (bare : r.Bare) :
    r.report "" = [⟨r.name,boolToSuccess (r.flag = .executedSuccessfully),boolToSuccess false⟩] := by
  have alone := bare.alone
  have failed := bare.unsuccessful
  obtain ⟨name,token,data,flag,children⟩ := r
  obtain rfl : children = [] := alone
  rw [report,failed,reportEach,String.empty_append]

theorem reportEachParts (pre : String) (responses : List Response) :
    reportEach pre responses = (responses.map (report pre)).flatten := by
  induction responses with
  | nil => rfl
  | cons response rest ih => rw [reportEach,ih,List.map_cons,List.flatten_cons]

end Response

section Rows
open Response (successRow)

/-- The rows of a report on nodes that have all succeeded, brothers in any order. -/
def Tree.Succeeds : {n : Nat} → String → Tree n → List ReportRow → Prop
  | 0, _, child, _ => child.elim
  | _+1, pre, .clientSide child, rows => rows = [successRow (pre ++ child.name)]
  | _+1, pre, .restApi child, rows => rows = [successRow (pre ++ child.name)]
  | _+1, pre, .grpc _ controller, rows => ∃ ordered parts, ordered.Perm controller.childrenNodes ∧
      List.Forall₂ (Tree.Succeeds ("  " ++ pre)) ordered parts ∧ rows = successRow (pre ++ controller.name) :: parts.flatten

def Controller.Succeeds {n : Nat} (root : Controller (Tree n)) (rows : List ReportRow) : Prop :=
  ∃ ordered parts, ordered.Perm root.childrenNodes ∧ List.Forall₂ (Tree.Succeeds "  ") ordered parts ∧
    rows = successRow root.name :: parts.flatten

variable {n : Nat} {replies ordered : List Response} {children : List (Tree n)}

theorem eachSucceeds (pre : String) (each : ∀ reply (child : Tree n), child.Mirrors reply → child.Succeeds pre (reply.report pre))
    (perm : replies.Perm ordered) (mirrors : List.Forall₂ Tree.Mirrors ordered children) :
    ∃ others parts, others.Perm children ∧ List.Forall₂ (Tree.Succeeds pre) others parts ∧
      Response.reportEach pre replies = parts.flatten := by
  obtain ⟨others,answered,same⟩ := List.perm_comp_forall₂ perm mirrors
  refine ⟨others,replies.map (Response.report pre),same,?_,Response.reportEachParts pre replies⟩
  rw [List.forall₂_map_right_iff]
  exact answered.flip.imp fun child reply mirrors => each reply child mirrors

theorem Tree.mirrorsReport {r : Response} {child : Tree n} (mirrors : child.Mirrors r) (pre : String) :
    child.Succeeds pre (r.report pre) := by
  have succeeded := Tree.mirrorsSucceeded mirrors
  induction n generalizing r pre with
  | zero => exact child.elim
  | succ n ih =>
    rw [Response.reportSucceeded succeeded]
    cases child with
    | clientSide child =>
      obtain ⟨name,_,alone⟩ := mirrors
      rw [name,alone]
      rfl
    | restApi child =>
      obtain ⟨name,_,alone⟩ := mirrors
      rw [name,alone]
      rfl
    | grpc label controller =>
      obtain ⟨name,_,ordered,perm,below⟩ := mirrors
      obtain ⟨others,parts,same,answered,rows⟩ := eachSucceeds ("  " ++ pre)
        (fun reply child mirrors => ih mirrors _ (Tree.mirrorsSucceeded mirrors)) perm below
      exact ⟨others,parts,same,answered,by rw [name,rows]⟩

theorem Controller.mirrorsReport {r : Response} {root : Controller (Tree n)} (mirrors : root.Mirrors r) :
    root.Succeeds (r.report "") := by
  obtain ⟨name,succeeded,ordered,perm,below⟩ := mirrors
  obtain ⟨others,parts,same,answered,rows⟩ := eachSucceeds "  "
    (fun reply child mirrors => Tree.mirrorsReport mirrors _) perm below
  refine ⟨others,parts,same,answered,?_⟩
  rw [Response.reportSucceeded succeeded,String.empty_append,name,String.append_empty,rows]

end Rows

section Search
variable {transitionName : String} {transitions : List Transition}

theorem searchConverted (transitionName : String) (transitions : List Transition) :
    (ShellUtils.searchFsmCommand transitionName (convertFsmTransition transitions)).map FSMCommandDescription.arguments =
      (transitions.find? fun t => t.name == transitionName).map Transition.arguments := by
  induction transitions with
  | nil => rfl
  | cons t rest ih =>
    change (if transitionName = t.name then _ else _ : Option FSMCommandDescription).map _ = _
    rw [List.find?_cons]
    by_cases same : transitionName = t.name
    · rw [if_pos same,beq_iff_eq.mpr same.symm]
      rfl
    · rw [if_neg same,beq_false_of_ne (Ne.symm same)]
      exact ih

end Search

section Spec
variable [Re] (transitions : List Transition) (token : Token)

def OneNode.offers (s : OneNode) (transitionName : String) : Option Transition :=
  (transitions.filter fun t => t.executable s.state).find? fun t => t.name == transitionName

variable [Builtins] [DruncSchema]

def OneNode.types (s : OneNode) (transitionName : String) (kwargs : Dict String PyObj) : OneNode :=
  match s.offers transitions transitionName with
  | none => s
  | some t => match (validateAndFormatFsmArguments t.arguments kwargs).result with
    | .error _ => s
    | .ok arguments => { s with state := (s.next transitions (fsmRequest token transitionName arguments)).getD s.state }

def OneNode.hears (s : OneNode) : Line → OneNode
  | .typed transitionName kwargs => s.types transitions token transitionName kwargs
  | .other order => s.step transitions order

def ShellSession.hears {n : Nat} [ProtoText] [ProtoEnums] (envs : Nat → Surrounded) (token : Token) (controllerName : String)
    (session : ShellSession n) : Line → ShellSession n
  | .typed transitionName kwargs =>
      (ShellContext.runOneFsmCommand envs token controllerName transitionName kwargs session).state
  | .other order => { session with tree := session.tree.obey order }

/-- What is printed of a command. `asked` counts the requests of the shell before it. -/
inductive Controller.TypedAnswer {n : Nat} [ProtoText] (envs : Nat → Surrounded) (root : Controller (Tree n)) (s : OneNode)
    (asked : Nat) (transitionName : String) (kwargs : Dict String PyObj) : List Printed → Prop
  | unknown (missing : s.offers transitions transitionName = none) : TypedAnswer envs root s asked transitionName kwargs
      [.error ("Command \"" ++ transitionName ++ "\" does not exist, or is not accessible right now")]
  | refused {t : Transition} {e : Exn} (offered : s.offers transitions transitionName = some t)
      (refuses : (validateAndFormatFsmArguments t.arguments kwargs).result = .error e) :
      TypedAnswer envs root s asked transitionName kwargs (if ShellContext.isArgumentException e then [.text e.text] else [])
  | moved {t : Transition} {arguments : Dict String ArgumentValue} {state : String} {rows : List ReportRow}
      (offered : s.offers transitions transitionName = some t)
      (formats : (validateAndFormatFsmArguments t.arguments kwargs).result = .ok arguments)
      (moves : s.next transitions (fsmRequest token transitionName arguments) = some state) (succeeds : (root.asOne s).Succeeds rows) :
      TypedAnswer envs root s asked transitionName kwargs (.report (transitionName ++ " execution report") rows ::
        (ShellContext.status envs token ⟨root.asOne { s with state := state },asked+2⟩).events)
  | stayed {t : Transition} {arguments : Dict String ArgumentValue} {executed : Bool}
      (offered : s.offers transitions transitionName = some t)
      (formats : (validateAndFormatFsmArguments t.arguments kwargs).result = .ok arguments)
      (stays : s.next transitions (fsmRequest token transitionName arguments) = none) :
      TypedAnswer envs root s asked transitionName kwargs (.report (transitionName ++ " execution report")
        [⟨root.name,ShellUtils.boolToSuccess executed,ShellUtils.boolToSuccess false⟩] ::
        (ShellContext.status envs token ⟨root.asOne s,asked+2⟩).events)

end Spec

section Typed
variable [Re] {transitions : List Transition} {token : Token} {n : Nat} {envs : Nat → Surrounded} {root : Controller (Tree n)}
  {s : OneNode}

theorem Controller.asOneOffered (uses : root.Uses transitions (Tree n)) (valid : ∀ t ∈ transitions, Valid t.source) :
    transitionsOf (root.asOne s).statefulNode "" = .ok (transitions.filter fun t => t.executable s.state) := by
  have shared : (root.asOne s).statefulNode.fsm.transitions = transitions := uses
  change StatefulNode.executableAmong (some s.state) (root.asOne s).statefulNode.fsm.transitions = _
  rw [shared]
  exact (executableAmongIff _ _).mpr ⟨valid,rfl⟩

variable [ProtoText] [ProtoEnums] {arguments : Dict String ArgumentValue}
open ShellContext

theorem Controller.sentMoves {transitionName : String} (count : Nat) (peaceful : ∀ k path, (envs k path).Peaceful)
    (uses : root.Throughout (Uses transitions) (ClientSideChild.Uses transitions)) {state : String}
    (moves : s.next transitions (fsmRequest token transitionName arguments) = some state) :
    ∃ rows, (root.asOne s).Succeeds rows ∧ sendFsmCommand envs token transitionName arguments ⟨root.asOne s,count⟩ =
      (ShellContext.status envs token ⟨root.asOne { s with state := state },count+1⟩).after
        [.report (transitionName ++ " execution report") rows] := by
  obtain ⟨⟨r,replied,mirrors⟩,after⟩ := asOneMoves (peaceful count) uses (fun _ data => by cases data; rfl) moves
  have sent := sentReported (s := ⟨root.asOne s,count⟩) (peaceful count []).link replied
  rw [after] at sent
  exact ⟨_,Controller.mirrorsReport mirrors,sent⟩

theorem Controller.sentStays {transitionName : String} (count : Nat) (peaceful : ∀ k path, (envs k path).Peaceful)
    (uses : root.Throughout (Uses transitions) (ClientSideChild.Uses transitions)) (named : token ≠ Token.unset)
    (stays : s.next transitions (fsmRequest token transitionName arguments) = none) :
    ∃ executed, sendFsmCommand envs token transitionName arguments ⟨root.asOne s,count⟩ =
      (ShellContext.status envs token ⟨root.asOne s,count+1⟩).after [.report (transitionName ++ " execution report")
        [⟨root.name,ShellUtils.boolToSuccess executed,ShellUtils.boolToSuccess false⟩]] := by
  have quiet := (peaceful count []).quiet
  obtain ⟨r,replied⟩ := quietReplies quiet (Tree.interface n (envs count)) .executeFsmCommand
    (fsmRequest token transitionName arguments) (root.asOne s)
  have sent := sentReported (s := ⟨root.asOne s,count⟩) (peaceful count []).link replied
  rw [asOneStays uses.1 quiet named stays] at sent
  rcases executeReplied rfl replied with ⟨bare,name⟩ | ⟨t,state,completes,_⟩
  · rw [bare.reported,name] at sent
    exact ⟨_,sent⟩
  · obtain ⟨_,included,takes⟩ := asOneStarts uses.1 completes.start (passesIff.mp completes.through).1
    have obeys := (asOneAdmits rfl named).symm.trans completes.accepted
    have moves := OneNode.nextIff.mpr ⟨obeys,included,_,t,completes.data,takes,rfl⟩
    rw [stays] at moves
    contradiction

variable [Builtins] [DruncSchema]

theorem Controller.typedOffered {asked : Nat} {controllerName transitionName : String} {kwargs : Dict String PyObj}
    (peaceful : ∀ k path, (envs k path).Peaceful) (uses : root.Uses transitions (Tree n))
    (valid : ∀ t ∈ transitions, Valid t.source) :
    runOneFsmCommand envs token controllerName transitionName kwargs ⟨root.asOne s,asked⟩ =
      ((match s.offers transitions transitionName with
        | none => emit (.error ("Command \"" ++ transitionName ++ "\" does not exist, or is not accessible right now"))
        | some t => match (validateAndFormatFsmArguments t.arguments kwargs).result with
          | .error e => if isArgumentException e then emit (.text e.text) else raise e
          | .ok arguments => sendFsmCommand envs token transitionName arguments : ShellDo n Unit)
        ⟨root.asOne s,asked+1⟩).after
          [.text ("Running transition '" ++ transitionName ++ "' on controller '" ++ controllerName ++ "'")] := by
  have quiet := (peaceful asked []).quiet
  have told := describesFsm quiet token (asOneOffered (s := s) uses valid)
  unfold runOneFsmCommand
  rw [emitBind,requestBind _ (peaceful asked []).link told (GRPCDriver.handledSucceeded rfl rfl),Tree.readsKeep .describeFsm rfl]
  unfold dataOf ShellUtils.readAttr
  dsimp only [DecodedResponse.data]
  rw [liftOkBind,liftOkBind]
  have found := searchConverted transitionName (transitions.filter fun t => t.executable s.state)
  unfold OneNode.offers
  cases searched : ShellUtils.searchFsmCommand transitionName (convertFsmTransition (transitions.filter fun t => t.executable s.state)) with
  | none =>
    rw [searched] at found
    rw [Option.map_eq_none_iff.mp found.symm]
  | some commandDesc =>
    rw [searched] at found
    obtain ⟨t,there,same⟩ := Option.map_eq_some_iff.mp found.symm
    rw [there]
    cases commandDesc
    cases same
    rfl

/-- What is printed of a command after the line that says that it runs, and what becomes of the tree. -/
structure Controller.TypedRun (transitions : List Transition) (token : Token) (envs : Nat → Surrounded) (root : Controller (Tree n))
    (s : OneNode) (asked : Nat) (controllerName transitionName : String) (kwargs : Dict String PyObj)
    (o : Library.Outcome Printed Exn (ShellSession n) Unit) : Prop where
  tree : o.state.tree = root.asOne (s.types transitions token transitionName kwargs)
  printed : ∃ answer, o.events =
      .text ("Running transition '" ++ transitionName ++ "' on controller '" ++ controllerName ++ "'") :: answer ∧
    root.TypedAnswer transitions token envs s asked transitionName kwargs answer

theorem Controller.typedAnswered (count : Nat) (peaceful : ∀ k path, (envs k path).Peaceful)
    (uses : root.Throughout (Uses transitions) (ClientSideChild.Uses transitions)) (valid : ∀ t ∈ transitions, Valid t.source)
    (named : token ≠ Token.unset) (controllerName transitionName : String) (kwargs : Dict String PyObj) :
    root.TypedRun transitions token envs s count controllerName transitionName kwargs
      (runOneFsmCommand envs token controllerName transitionName kwargs ⟨root.asOne s,count⟩) := by
  rw [typedOffered peaceful uses.1 valid]
  cases offered : s.offers transitions transitionName with
  | none =>
    refine ⟨?_,_,rfl,.unknown offered⟩
    unfold OneNode.types
    rw [offered]
    rfl
  | some t =>
    dsimp only
    have typed : s.types transitions token transitionName kwargs = match (validateAndFormatFsmArguments t.arguments kwargs).result with
        | .error _ => s
        | .ok arguments => { s with state := (s.next transitions (fsmRequest token transitionName arguments)).getD s.state } := by
      unfold OneNode.types
      rw [offered]
    cases formats : (validateAndFormatFsmArguments t.arguments kwargs).result with
    | error e =>
      rw [formats] at typed
      refine ⟨?_,_,rfl,?_⟩
      · rw [typed,afterState]
        dsimp only
        split <;> rfl
      · have answer : root.TypedAnswer transitions token envs s count transitionName kwargs _ := .refused offered formats
        split at answer <;> rename_i isArgument <;> simpa [isArgument] using answer
    | ok arguments =>
      rw [formats] at typed
      dsimp only at typed ⊢
      cases moves : s.next transitions (fsmRequest token transitionName arguments) with
      | none =>
        rw [moves] at typed
        obtain ⟨executed,sent⟩ := sentStays (count+1) peaceful uses named moves
        rw [sent]
        exact ⟨((readsStatus envs token).tree _).trans (congrArg root.asOne typed.symm),_,rfl,.stayed offered formats moves⟩
      | some state =>
        rw [moves] at typed
        obtain ⟨rows,succeeds,sent⟩ := sentMoves (count+1) peaceful uses moves
        rw [sent]
        exact ⟨((readsStatus envs token).tree _).trans (congrArg root.asOne typed.symm),_,rfl,.moved offered formats moves succeeds⟩

end Typed

namespace Sample

def lines : List Line := [.typed "conf" Dict.empty,.other (quietly .exclude userNamed)]

theorem confValid : ∀ t ∈ conf.transitions, Valid t.source := by
  intro t mem
  obtain rfl := List.mem_singleton.mp mem
  exact ⟨_,rfl⟩

end Sample

end Drunc
