import Drunc.Control
import Drunc.ExecutionReport

/-! Several shells on one tree, and which of them is in control. A shell takes control where it
connects; what it then reads in order to give it back is a message, which is no name, so that
none gives it back when it is left (only a user called `no_one` does, where nothing can be read).
Surrendering is answered FAILED, which the driver hands back undecoded; it has no format for the
reply, and would raise at a success. `tries` is how often a shell can ask within the time that it
waits, and `startListening` what comes of listening to the broadcasts that the controller describes. -/
namespace Drunc
open Library (Act Dict)
open Library.Act

namespace ControllerDriver

def takeControl : Outformat String := ⟨"PlainText",asPlainText⟩
def whoIsInCharge : Outformat String := ⟨"PlainText",asPlainText⟩
def includeOrExclude : Outformat String := ⟨"PlainText",asPlainText⟩

end ControllerDriver

def DecodedResponse.flag {δ : Type} : DecodedResponse δ → ResponseFlag
  | .mk _ _ flag _ _ => flag

namespace GRPCDriver

def noDescriptor : Exn := ShellUtils.noAttribute "NoneType" "DESCRIPTOR"

mutual
def handleUnformatted : Response → Except Exn (Option (DecodedResponse Unit))
  | ⟨name,token,data,flag,children⟩ =>
      if flag = .executedSuccessfully then .error noDescriptor
      else match data with
        | none => .ok none
        | some payload => do
          let decoded ← handleUnformattedChildren children
          return some (.mk name token flag (some (.raw payload)) decoded)
def handleUnformattedChildren : List Response → Except Exn (List (Option (DecodedResponse Unit)))
  | [] => .ok []
  | response :: rest => match handleUnformatted response with
      | .ok child => do return child :: (← handleUnformattedChildren rest)
      | .error e => if isServerSideError e then handleUnformattedChildren rest else .error e
end

end GRPCDriver

inductive Who where
  | data (data : Option (DecodedData String))
  | named (name : String)

def Who.equals (user : String) : Who → Bool
  | .data _ => false
  | .named name => name = user

structure ControllerContext (n : Nat) extends ShellSession n where
  tookControl : Bool

abbrev ContextDo (n : Nat) (α : Type) := Act Printed Exn (ControllerContext n) α

namespace ControllerContext
open ShellContext (request dataOf)
variable {n : Nat} {α : Type}

def onSession (x : ShellDo n α) : ContextDo n α :=
  zoom ControllerContext.toShellSession (fun c s => { c with toShellSession := s }) x

variable [Re] (envs : Nat → Surrounded) (token : Token)

def surrenderControl : ShellDo n (Option (DecodedResponse Unit)) := fun s =>
  let env := envs s.asked
  let sent := ChildNode.sendCommand (env []).link s.tree (Tree.handle env .surrenderControl ⟨token,none⟩)
  ⟨match sent.1 with
    | .ok response => GRPCDriver.handleUnformatted response
    | .error .rpcError => .error GRPCDriver.unboundResponse
    | .error e => .error e,⟨sent.2,s.asked+1⟩,[]⟩

def describeOnce : ShellDo n (Option (DecodedData Description)) := do
  let response ← request envs token ControllerDriver.describe .describe none
  lift (dataOf response)

def describeWithin : Nat → ShellDo n (Option (DecodedData Description))
  | 0 => describeOnce envs token
  | left+1 => do
      let tried ← attempt (describeOnce envs token)
      match tried with
      | .ok desc => pure desc
      | .error .serverUnreachable => describeWithin left
      | .error e => raise e

def noteControl (desc : Option (DecodedData Description)) :
    Except Exn (Option (DecodedResponse String)) → ContextDo n (Option (DecodedData Description))
  | .ok (some ret) => do
      update fun c => { c with tookControl := ret.flag = .executedSuccessfully }
      pure desc
  | .ok none => do
      update fun c => { c with tookControl := false }
      raise (ShellUtils.noAttribute "NoneType" "flag")
  | .error e => do
      update fun c => { c with tookControl := false }
      raise e

def controllerSetup (tries : Nat) (startListening : KafkaBroadcastHandlerConfiguration → Except Exn Unit) :
    ContextDo n (Option (DecodedData Description)) := do
  let desc ← onSession (describeWithin envs token tries)
  let _ ← lift (ShellUtils.readAttr "name" Description.name desc)
  let broadcast ← lift (ShellUtils.readAttr "HasField" Description.broadcast desc)
  lift (match broadcast with
    | some broadcast => startListening broadcast
    | none => .ok ())
  let ret ← onSession (attempt (request envs token ControllerDriver.takeControl .takeControl none))
  noteControl desc ret

def controllerCleanup : ContextDo n Unit := do
  let who ← onSession (attempt (do
    let response ← request envs token ControllerDriver.whoIsInCharge .whoIsInCharge none
    lift (dataOf response)))
  let c ← read
  match who with
  -- the driver lets no error of gRPC through
  | .error .rpcError => pure ()
  | .error _ =>
      if (Who.named "no_one").equals token.userName && c.tookControl then do
        let _ ← onSession (attempt (surrenderControl envs token))
  | .ok data =>
      if (Who.data data).equals token.userName && c.tookControl then do
        let _ ← onSession (attempt (surrenderControl envs token))

def takeControl : ShellDo n Unit := do
  let ret ← request envs token ControllerDriver.takeControl .takeControl none
  let _ ← lift (dataOf ret)

def surrender : ShellDo n Unit := do
  let ret ← surrenderControl envs token
  let _ ← lift (dataOf ret)

def whoIsInCharge : ShellDo n Unit := do
  let ret ← request envs token ControllerDriver.whoIsInCharge .whoIsInCharge none
  let who ← lift (dataOf ret)
  match who with
  | none => pure ()
  | some (.decoded text) => emit (.text text)
  | some (.raw _) => raise (ShellUtils.noAttribute "Any" "text")

def includeOrExclude (flag : Bool) : ShellDo n Unit := do
  let result ← request envs token ControllerDriver.includeOrExclude (.including flag)
    (some (.fsmCommand ⟨if flag then "include" else "exclude",Dict.empty,[],.empty⟩))
  let data ← lift (dataOf result)
  match data with
  | none => pure ()
  | some (.decoded text) => emit (.text text)
  | some (.raw _) => raise (ShellUtils.noAttribute "Any" "text")

end ControllerContext

/-- What is done at a shell: `leave` is the clean-up of the controller's shell, and `quit` that of the unified shell. -/
inductive ShellCommand where
  | connect | takeControl | surrenderControl | whoIsInCharge | status
  | putIn (flag : Bool)
  | typed (transitionName : String) (kwargs : Dict String PyObj)
  | leave | quit

structure Shells (n : Nat) extends ShellSession n where
  took : Nat → Bool

structure Deployment where
  envs : Nat → Surrounded
  tokens : Nat → Token
  controllerName : String
  tries : Nat
  startListening : KafkaBroadcastHandlerConfiguration → Except Exn Unit

section Run
variable [Re] [ProtoText] [ProtoEnums] [Builtins] [DruncSchema] {n : Nat}
open ControllerContext

def ShellCommand.run (d : Deployment) (token : Token) : ShellCommand → ContextDo n Unit
  | .connect => do
      let _ ← controllerSetup d.envs token d.tries d.startListening
  | .takeControl => onSession (ControllerContext.takeControl d.envs token)
  | .surrenderControl => onSession (surrender d.envs token)
  | .whoIsInCharge => onSession (ControllerContext.whoIsInCharge d.envs token)
  | .status => onSession (ShellContext.status d.envs token)
  | .putIn flag => onSession (includeOrExclude d.envs token flag)
  | .typed transitionName kwargs => onSession (ShellContext.runOneFsmCommand d.envs token d.controllerName transitionName kwargs)
  | .leave => controllerCleanup d.envs token
  | .quit => pure ()

def Shells.after (d : Deployment) (s : Shells n) (move : Nat × ShellCommand) : Shells n :=
  let ended := (move.2.run d (d.tokens move.1) ⟨s.toShellSession,s.took move.1⟩).state
  ⟨ended.toShellSession,Function.update s.took move.1 ended.tookControl⟩

end Run

theorem sentTree {n : Nat} (link : Link) (c : Controller (Tree n)) (x : Do (Controller (Tree n)) Response) :
    (ChildNode.sendCommand link c x).2 = c ∨ (ChildNode.sendCommand link c x).2 = (x c).state := by
  unfold ChildNode.sendCommand
  split
  · exact .inl rfl
  all_goals exact .inr rfl

section Conduct
variable [Re] {n : Nat} {envs : Nat → Surrounded} {token holder : Token}
open ShellContext (request dataOf)
open ControllerContext (surrenderControl)

/-- What a relation between sessions has to be for a shell to keep it: `taking` and
`surrendering` say when the requests for that may be sent. -/
structure Conduct (R : ShellSession n → ShellSession n → Prop) (envs : Nat → Surrounded) (token : Token)
    (taking surrendering : Prop) : Prop where
  same : ∀ s t, t.tree = s.tree → R s t
  trans : ∀ s t u, R s t → R t u → R s u
  asks : ∀ (δ : Type) (outformat : Outformat δ) (command : Command) (data : Option Payload), command ≠ .surrenderControl →
    (command = .takeControl → taking) → Leaves R (request envs token outformat command data)
  surrenders : surrendering → Leaves R (surrenderControl envs token)

def Holds (holder : Token) (s t : ShellSession n) : Prop := s.tree.actor = holder → t.tree.actor = holder

def Spares (holder : Token) (s t : ShellSession n) : Prop := s.tree.actor = holder → t.tree = s.tree

theorem handleHolds {env : Surrounded} {command : Command} {request : Request} {root : Controller (Tree n)}
    (takes : command = .takeControl → request.token = root.actor)
    (surrenders : command = .surrenderControl → request.token ≠ root.actor) :
    (Tree.handle env command request root).state.actor = root.actor := by
  have tells := Controller.serveTells (some root.actor) root ⟨(env []).world,Tree.interface n env,command,request⟩ rfl
  have kept : Round.holderAfter (some root.actor) ⟨(env []).world,Tree.interface n env,command,request⟩ = some root.actor := by
    unfold Round.holderAfter
    split
    · rfl
    · cases command with
      | takeControl => exact congrArg some (takes rfl)
      | surrenderControl => exact if_neg fun same => surrenders rfl (Option.some.inj same).symm
      | _ => rfl
  rw [kept] at tells
  exact tells

theorem handleSpares {env : Surrounded} {command : Command} {request : Request} {root : Controller (Tree n)}
    (foreign : request.token ≠ root.actor) (other : command ≠ .takeControl) :
    (Tree.handle env command request root).state = root := by
  by_cases reads : (Controller.endpoint command).action = .read
  · exact Tree.readsKeep command reads request root
  · have guards : Controller.guarded command = true := by cases command <;> first | rfl | contradiction
    have declined : Controller.admitted command request root = false := by
      rw [← Bool.not_eq_true,Controller.admittedHeld guards]
      exact foreign
    unfold Tree.handle
    cases acknowledged : (env []).world.broadcast .ack with
    | some e => rw [Controller.handleUnacknowledged acknowledged]
    | none => rw [Controller.handleDeclined acknowledged declined]

theorem holdsConduct (envs : Nat → Surrounded) (token holder : Token) :
    Conduct (n := n) (Holds holder) envs token (token = holder) (token ≠ holder) where
  same s t same held := by rw [same,held]
  trans _ _ _ first second held := second (first held)
  asks δ outformat command data other takes s held := by
    rcases sentTree (envs s.asked []).link s.tree (Tree.handle (envs s.asked) command ⟨token,data⟩) with kept | handled
    · exact (congrArg Controller.actor kept).trans held
    · refine (congrArg Controller.actor handled).trans ((handleHolds (fun take => ?_) fun surrender => absurd surrender other).trans held)
      exact (takes take).trans held.symm
  surrenders foreign s held := by
    rcases sentTree (envs s.asked []).link s.tree (Tree.handle (envs s.asked) .surrenderControl ⟨token,none⟩) with kept | handled
    · exact (congrArg Controller.actor kept).trans held
    · refine (congrArg Controller.actor handled).trans ((handleHolds (fun take => by contradiction) fun _ => ?_).trans held)
      exact fun same => foreign (same.trans held)

theorem sparesConduct (envs : Nat → Surrounded) (foreign : token ≠ holder) :
    Conduct (n := n) (Spares holder) envs token False True where
  same _ _ same _ := same
  trans s t u first second held := by
    have kept := first held
    exact (second (kept ▸ held)).trans kept
  asks δ outformat command data other takes s held := by
    rcases sentTree (envs s.asked []).link s.tree (Tree.handle (envs s.asked) command ⟨token,data⟩) with kept | handled
    · exact kept
    · exact handled.trans (handleSpares (fun same => foreign (same.trans held)) takes)
  surrenders _ s held := by
    rcases sentTree (envs s.asked []).link s.tree (Tree.handle (envs s.asked) .surrenderControl ⟨token,none⟩) with kept | handled
    · exact kept
    · exact handled.trans (handleSpares (fun same => foreign (same.trans held)) (by decide))

section Commands
variable {R : ShellSession n → ShellSession n → Prop} {taking surrendering : Prop} (conduct : Conduct R envs token taking surrendering)
include conduct

theorem Conduct.steady {α : Type} {x : ShellDo n α} (still : Leaves (fun s t => t.tree = s.tree) x) : Leaves R x :=
  leavesMono conduct.same still

theorem Conduct.pass {α : Type} (r : Except Exn α) : Leaves R (lift r : ShellDo n α) := conduct.steady fun _ => rfl

theorem Conduct.bind {α β : Type} {x : ShellDo n α} {f : α → ShellDo n β} (first : Leaves R x) (rest : ∀ a, Leaves R (f a)) :
    Leaves R (x >>= f) := leavesBind conduct.trans first rest

theorem Conduct.asking {δ : Type} (outformat : Outformat δ) {command : Command} (data : Option Payload)
    (plain : command ≠ .takeControl ∧ command ≠ .surrenderControl) : Leaves R (request envs token outformat command data) :=
  conduct.asks δ outformat command data plain.2 fun take => absurd take plain.1

theorem Conduct.described : Leaves R (ControllerContext.describeOnce envs token) :=
  conduct.bind (conduct.asking _ _ (by decide)) fun _ => conduct.pass _

theorem Conduct.describedWithin (tries : Nat) : Leaves R (ControllerContext.describeWithin envs token tries) := by
  induction tries with
  | zero => exact conduct.described
  | succ left ih =>
    refine conduct.bind (leavesAttempt conduct.described) fun tried => ?_
    split
    · exact conduct.pass (.ok _)
    · exact ih
    · exact conduct.pass (.error _)

theorem Conduct.askedWho : Leaves R (ControllerContext.whoIsInCharge envs token) := by
  refine conduct.bind (conduct.asking _ _ (by decide)) fun _ => conduct.bind (conduct.pass _) fun who => ?_
  split
  · exact conduct.pass (.ok _)
  · exact conduct.steady fun _ => rfl
  · exact conduct.pass (.error _)

theorem Conduct.putsIn (flag : Bool) : Leaves R (ControllerContext.includeOrExclude envs token flag) := by
  refine conduct.bind (conduct.asking _ _ (by cases flag <;> decide)) fun _ =>
    conduct.bind (conduct.pass _) fun data => ?_
  split
  · exact conduct.pass (.ok _)
  · exact conduct.steady fun _ => rfl
  · exact conduct.pass (.error _)

theorem Conduct.takes (taken : taking) : Leaves R (ControllerContext.takeControl envs token) := by
  refine conduct.bind (conduct.asks _ _ _ _ (by decide) fun _ => taken) fun _ => conduct.bind (conduct.pass _) fun _ => ?_
  exact conduct.pass (.ok _)

theorem Conduct.gives (given : surrendering) : Leaves R (ControllerContext.surrender envs token) := by
  refine conduct.bind (conduct.surrenders given) fun _ => conduct.bind (conduct.pass _) fun _ => ?_
  exact conduct.pass (.ok _)

variable [ProtoText] [ProtoEnums]

theorem Conduct.sends (transitionName : String) (arguments : Dict String ArgumentValue) :
    Leaves R (ShellContext.sendFsmCommand envs token transitionName arguments) := by
  refine conduct.bind (conduct.asking _ _ (by decide)) fun result => ?_
  split
  · exact conduct.pass (.ok _)
  · exact conduct.bind (conduct.pass _) fun _ => conduct.bind (conduct.steady fun _ => rfl) fun _ =>
      conduct.steady (ShellContext.readsStatus envs token).tree

variable [Builtins] [DruncSchema]

theorem Conduct.types (controllerName transitionName : String) (kwargs : Dict String PyObj) :
    Leaves R (ShellContext.runOneFsmCommand envs token controllerName transitionName kwargs) := by
  refine conduct.bind (conduct.steady fun _ => rfl) fun _ => conduct.bind (conduct.asking _ _ (by decide)) fun _ => ?_
  refine conduct.bind (conduct.pass _) fun _ => conduct.bind (conduct.pass _) fun commands => ?_
  split
  · exact conduct.steady fun _ => rfl
  · split
    · split
      · exact conduct.steady fun _ => rfl
      · exact conduct.pass (.error _)
    · exact conduct.sends transitionName _

end Commands
end Conduct

/-- What leaves the one in control where it is: nobody else takes it, and it does not give it back. -/
def ShellCommand.Keeps (token holder : Token) : ShellCommand → Prop
  | .connect | .takeControl => token = holder
  | .surrenderControl => token ≠ holder
  | .leave => token = holder → token.userName ≠ "no_one"
  | .whoIsInCharge | .status | .putIn _ | .typed _ _ | .quit => True

def ShellCommand.takes : ShellCommand → Bool
  | .connect | .takeControl => true
  | _ => false

section Control
variable {n : Nat} {R : ShellSession n → ShellSession n → Prop} {taking surrendering : Prop} {d : Deployment} {token : Token}
open ControllerContext

def Across (R : ShellSession n → ShellSession n → Prop) (c c' : ControllerContext n) : Prop :=
  R c.toShellSession c'.toShellSession

theorem Conduct.across {α : Type} {x : ShellDo n α} (kept : Leaves R x) : Leaves (Across R) (onSession x) :=
  leavesZoom (fun _ _ kept => kept) kept

variable [Re]

theorem Conduct.steadyContext {α : Type} (conduct : Conduct R d.envs token taking surrendering) {x : ContextDo n α}
    (still : Leaves (fun c c' => c'.tree = c.tree) x) : Leaves (Across R) x :=
  leavesMono (fun c c' same => conduct.same c.toShellSession c'.toShellSession same) still

theorem Conduct.then {α β : Type} (conduct : Conduct R d.envs token taking surrendering) {x : ContextDo n α} {f : α → ContextDo n β}
    (first : Leaves (Across R) x) (rest : ∀ a, Leaves (Across R) (f a)) : Leaves (Across R) (x >>= f) :=
  leavesBind (fun c c' c'' => conduct.trans c.toShellSession c'.toShellSession c''.toShellSession) first rest

theorem Conduct.connects (conduct : Conduct R d.envs token taking surrendering) (taken : taking) (tries : Nat)
    (startListening : KafkaBroadcastHandlerConfiguration → Except Exn Unit) :
    Leaves (Across R) (controllerSetup d.envs token tries startListening) := by
  refine conduct.then (Conduct.across (conduct.describedWithin tries)) fun desc => ?_
  refine conduct.then (conduct.steadyContext fun _ => rfl) fun _ => conduct.then (conduct.steadyContext fun _ => rfl) fun broadcast => ?_
  refine conduct.then (conduct.steadyContext fun _ => rfl) fun _ => ?_
  refine conduct.then (Conduct.across (leavesAttempt (conduct.asks _ _ _ _ (by decide) fun _ => taken))) fun ret => ?_
  unfold noteControl
  split
  all_goals exact conduct.steadyContext fun _ => rfl

theorem Conduct.leaves (conduct : Conduct R d.envs token taking surrendering) (quits : surrendering ∨ token.userName ≠ "no_one") :
    Leaves (Across R) (controllerCleanup d.envs token) := by
  refine conduct.then (Conduct.across (leavesAttempt (conduct.bind (conduct.asking _ _ (by decide)) fun _ => conduct.pass _))) fun who => ?_
  refine conduct.then (conduct.steadyContext fun _ => rfl) fun c => ?_
  split
  · exact conduct.steadyContext fun _ => rfl
  · split
    · rename_i named
      refine conduct.then (Conduct.across (leavesAttempt (conduct.surrenders (quits.resolve_right ?_)))) fun _ =>
        conduct.steadyContext fun _ => rfl
      simp only [Who.equals,Bool.and_eq_true,decide_eq_true_eq] at named
      exact fun other => other named.1.symm
    · exact conduct.steadyContext fun _ => rfl
  · exact conduct.steadyContext fun _ => rfl

theorem takenRequest {envs : Nat → Surrounded} {outformat : Outformat String} {data : Option Payload} {s : ShellSession n}
    {ret : Option (DecodedResponse String)} (replied : (ShellContext.request envs token outformat .takeControl data s).result = .ok ret) :
    (ShellContext.request envs token outformat .takeControl data s).state.tree.actor = token := by
  unfold ShellContext.request GRPCDriver.sendCommand at replied ⊢
  dsimp only at replied ⊢
  cases sent : (ChildNode.sendCommand (envs s.asked []).link s.tree (Tree.handle (envs s.asked) .takeControl ⟨token,data⟩)).1 with
  | error e =>
    rw [sent] at replied
    split at replied <;> contradiction
  | ok response =>
    obtain ⟨_,handled,state⟩ := ChildNode.sendCommandOk sent
    rw [state]
    have tells := Controller.serveTells (some s.tree.actor) s.tree
      ⟨(envs s.asked []).world,Tree.interface n (envs s.asked),.takeControl,⟨token,data⟩⟩ rfl
    unfold Round.holderAfter at tells
    cases acknowledged : (envs s.asked []).world.broadcast .ack with
    | some e =>
      unfold Tree.handle at handled
      rw [Controller.handleUnacknowledged acknowledged] at handled
      contradiction
    | none =>
      rw [acknowledged] at tells
      exact tells

theorem setupHolds (envs : Nat → Surrounded) (token : Token) (tries : Nat)
    (startListening : KafkaBroadcastHandlerConfiguration → Except Exn Unit) :
    Returns (fun c => c.tree.actor = token) (controllerSetup (n := n) envs token tries startListening) := by
  refine returnsBind fun desc => returnsBind fun _ => returnsBind fun _ => returnsBind fun _ => ?_
  intro c desc' returned
  have ran := bindOk (f := noteControl desc)
    (show (onSession (attempt (ShellContext.request envs token ControllerDriver.takeControl .takeControl none)) c).result = .ok _ from rfl)
  rw [ran] at returned ⊢
  cases replied : (ShellContext.request envs token ControllerDriver.takeControl .takeControl none c.toShellSession).result with
  | error e =>
    rw [replied] at returned
    contradiction
  | ok ret =>
    cases ret with
    | none =>
      rw [replied] at returned
      contradiction
    | some ret => exact takenRequest replied

variable [ProtoText] [ProtoEnums] [Builtins] [DruncSchema]

theorem Conduct.runs (conduct : Conduct R d.envs token taking surrendering) (command : ShellCommand)
    (takes : command.takes = true → taking) (gives : command = .surrenderControl → surrendering)
    (leaves : command = .leave → surrendering ∨ token.userName ≠ "no_one") : Leaves (Across R) (command.run d token) := by
  cases command with
  | connect => exact conduct.then (conduct.connects (takes rfl) _ _) fun _ => conduct.steadyContext fun _ => rfl
  | takeControl => exact Conduct.across (conduct.takes (takes rfl))
  | surrenderControl => exact Conduct.across (conduct.gives (gives rfl))
  | whoIsInCharge => exact Conduct.across conduct.askedWho
  | status => exact Conduct.across (conduct.steady (ShellContext.readsStatus d.envs token).tree)
  | putIn flag => exact Conduct.across (conduct.putsIn flag)
  | typed transitionName kwargs => exact Conduct.across (conduct.types d.controllerName transitionName kwargs)
  | leave => exact conduct.leaves (leaves rfl)
  | quit => exact conduct.steadyContext fun _ => rfl

theorem keptHolds {holder : Token} {command : ShellCommand} (keeps : command.Keeps token holder) :
    Leaves (Across (n := n) (Holds holder)) (command.run d token) := by
  refine (holdsConduct d.envs token holder).runs command (fun takes => ?_) (fun gives => ?_) fun leaves => ?_
  · cases command <;> first | exact keeps | contradiction
  · subst gives
    exact keeps
  · subst leaves
    by_cases own : token = holder
    · exact .inr (keeps own)
    · exact .inl own

theorem foreignSpares {holder : Token} {command : ShellCommand} (foreign : token ≠ holder) (plain : command.takes = false) :
    Leaves (Across (n := n) (Spares holder)) (command.run d token) :=
  (sparesConduct d.envs foreign).runs command (fun takes => by rw [plain] at takes; contradiction) (fun _ => trivial) fun _ => .inl trivial

theorem Shells.lockOutlives (d : Deployment) (i : Nat) {s : Shells n}
    (connected : (ShellCommand.connect.run d (d.tokens i) ⟨s.toShellSession,s.took i⟩).result = .ok ()) (moves : List (Nat × ShellCommand))
    (kept : ∀ move ∈ moves, move.2.Keeps (d.tokens move.1) (d.tokens i)) :
    (moves.foldl (Shells.after d) (s.after d (i,.connect))).tree.actor = d.tokens i ∧
    ∀ j command, d.tokens j ≠ d.tokens i → command.takes = false →
      ((moves.foldl (Shells.after d) (s.after d (i,.connect))).after d (j,command)).tree =
        (moves.foldl (Shells.after d) (s.after d (i,.connect))).tree := by
  have start : (s.after d (i,.connect)).tree.actor = d.tokens i := by
    obtain ⟨desc,returned,_⟩ := bindReturned connected
    have held := setupHolds d.envs (d.tokens i) d.tries d.startListening ⟨s.toShellSession,s.took i⟩ desc returned
    have ran := bindOk (f := fun _ => (pure () : ContextDo n Unit)) returned
    exact (congrArg (fun o => o.state.tree.actor) ran).trans held
  have holds : (moves.foldl (Shells.after d) (s.after d (i,.connect))).tree.actor = d.tokens i :=
    Library.alongKeeps (I := fun s : Shells n => s.tree.actor = d.tokens i) (P := fun _ move => move.2.Keeps (d.tokens move.1) (d.tokens i))
      (fun s move held keeps => keptHolds keeps ⟨s.toShellSession,s.took move.1⟩ held) start (Library.alongAll kept)
  exact ⟨holds,fun j command foreign plain => foreignSpares foreign plain ⟨_,_⟩ holds⟩

end Control

namespace Sample

def twoUsers : Deployment := ⟨fun _ => peaceful,fun i => if i = 0 then stranger else user,"root",1,fun _ => .ok ()⟩

def alone : Shells 2 := ⟨⟨deepRoot,0⟩,fun _ => false⟩

def strangerLeaves : List (Nat × ShellCommand) := [(1,.typed "conf" Dict.empty),(0,.leave),(1,.surrenderControl)]

def afterwards : Shells 2 → Nat × ShellCommand → Shells 2 := @Shells.after literal shellText enums texts generic 2 twoUsers

theorem aloneConnects : (@ShellCommand.run literal shellText enums texts generic 2 twoUsers (twoUsers.tokens 0) .connect
    ⟨alone.toShellSession,alone.took 0⟩).result = .ok () := by decide +kernel

theorem strangerKept : ∀ move ∈ strangerLeaves, move.2.Keeps (twoUsers.tokens move.1) (twoUsers.tokens 0) := by
  intro move mem
  simp only [strangerLeaves,List.mem_cons,List.not_mem_nil,or_false] at mem
  rcases mem with rfl | rfl | rfl
  · trivial
  · exact fun _ => by decide
  · exact (by decide : user ≠ stranger)

end Sample

open Sample in
theorem strangerStaysInControl :
    (strangerLeaves.foldl afterwards (afterwards alone (0,.connect))).tree.actor = twoUsers.tokens 0 ∧
    (afterwards (strangerLeaves.foldl afterwards (afterwards alone (0,.connect))) (1,.typed "conf" Dict.empty)).tree =
      (strangerLeaves.foldl afterwards (afterwards alone (0,.connect))).tree := by
  unfold afterwards
  obtain ⟨holds,spares⟩ :=
    @Shells.lockOutlives 2 literal shellText enums texts generic twoUsers 0 alone aloneConnects strangerLeaves strangerKept
  exact ⟨holds,spares 1 (.typed "conf" Dict.empty) (by decide) rfl⟩

end Drunc
