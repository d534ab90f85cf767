import Drunc.ChildLookup
import Drunc.ResponseListener
import Drunc.Library.Sharing

/-! The children of a controller as its configuration builds them: one thread for each
sub-segment and each application, all of them waited for. The threads meet in the list
of the children and in the handlers of the response listener, where a REST child is
registered last. An exception ends a thread, and nothing asks for it. -/
namespace Drunc
open Library (Dict)
open Library.Sharing (Shared Turned run runKeeps joinedOver)
open ChildNode (Wanted getChild Buildable Usable Built)

inductive LookupCounter where
  | looking
  | registering (name : String) (node : BuiltChild)
  | appending (node : BuiltChild)
  | over
  | raised (e : Exn)

structure LookupThread where
  made : Except Exn (Option BuiltChild)
  pc : LookupCounter

structure LookupBoard where
  handlers : Handlers
  children : List BuiltChild

namespace ControllerConfHandler

def register (handlers : Handlers) (app : String) : Except Exn Handlers :=
  if app ∈ handlers.keys then
    .error (setupException ("Handler already registered with notification listerner for app " ++ app))
  else .ok (handlers.set app ⟨app,[],none⟩)

def lookupTurn (t : LookupThread) (board : LookupBoard) : Option (LookupThread × LookupBoard) :=
  match t.pc with
  -- what the lookup comes to depends on the network alone, so it is given from the start
  | .looking => match t.made with
    | .error e => some ({ t with pc := .raised e },board)
    | .ok none => some ({ t with pc := .over },board)
    | .ok (some (.restApi child host port)) =>
        some ({ t with pc := .registering child.name (.restApi child host port) },board)
    | .ok (some node) => some ({ t with pc := .appending node },board)
  | .registering name node => match register board.handlers name with
    | .error e => some ({ t with pc := .raised e },board)
    | .ok handlers => some ({ t with pc := .appending node },{ board with handlers := handlers })
  | .appending node => some ({ t with pc := .over },{ board with children := board.children ++ [node] })
  | .over => none
  | .raised _ => none

def joined (made : List (Except Exn (Option BuiltChild))) (handlers : Handlers) (schedule : List Nat) :
    Shared LookupThread LookupBoard :=
  run lookupTurn (schedule ++ Library.Interleaving.join 3 made.length)
    ⟨made.map fun made => ⟨made,.looking⟩,⟨handlers,[]⟩⟩

section Configured
variable (net : Network) (m : ConfModel) (session : String) (initToken : Option Token) (data : Segment)

def wantedSegment (segment : Segment) : Wanted :=
  ⟨segment.controller.id,getCla m session segment.controller.toOksApplication,initToken,none,none⟩

def wantedApplication (app : OksApplication) : Wanted :=
  ⟨app.id,getCla m session app,none,some data.controller.fsm,app.proxy⟩

def processSegment (enabledOnly : Bool) (segment : Segment) : Except Exn (Option BuiltChild) :=
  if enabledOnly && m.componentDisabled session segment.id then .ok none
  else (getChild net (wantedSegment m session initToken segment)).map some

def processApplication (enabledOnly : Bool) (app : OksApplication) : Except Exn (Option BuiltChild) :=
  if enabledOnly && m.componentDisabled session app.id then .ok none
  else (getChild net (wantedApplication m session data app)).map some

def lookups (enabledOnly : Bool) : List (Except Exn (Option BuiltChild)) :=
  data.segments.map (processSegment net m session initToken enabledOnly) ++
    data.applications.map (processApplication net m session data enabledOnly)

def getChildren (withoutExcluded : Bool) (handlers : Handlers) (schedule : List Nat) : LookupBoard :=
  (joined (lookups net m session initToken data (!withoutExcluded)) handlers schedule).state

def configuredChildren : List Wanted :=
  (data.segments.filter fun segment => !m.componentDisabled session segment.id).map (wantedSegment m session initToken) ++
    (data.applications.filter fun app => !m.componentDisabled session app.id).map (wantedApplication m session data)

end Configured

def Represents (net : Network) (wanted : Wanted) (node : BuiltChild) : Prop :=
  node.name = wanted.name ∧ (¬ Usable net wanted → node.inError net = true)

def Complete (net : Network) (wanted : List Wanted) (children : List BuiltChild) : Prop :=
  ∃ nodes, children.Perm nodes ∧ List.Forall₂ (Represents net) wanted nodes

def registered (net : Network) (wanted : List Wanted) : List String :=
  (wanted.filter (ChildNode.registers net)).map Wanted.name

def Answerable (net : Network) (handlers : Handlers) (wanted : List Wanted) : Prop :=
  (∀ child ∈ wanted, Buildable net child) ∧ (handlers.keys ++ registered net wanted).Nodup

section Turns

def turnsLeft (t : LookupThread) : Nat :=
  match t.pc with
  | .looking => 3
  | .registering _ _ => 2
  | .appending _ => 1
  | .over => 0
  | .raised _ => 0

theorem turnsMove (t : LookupThread) (board : LookupBoard) (more : 0 < turnsLeft t) :
    ∃ t' board', lookupTurn t board = some (t',board') ∧ turnsLeft t' < turnsLeft t := by
  obtain ⟨made,pc⟩ := t
  cases pc with
  | looking =>
    unfold lookupTurn
    dsimp only
    split <;> exact ⟨_,_,rfl,by simp [turnsLeft]⟩
  | registering name node =>
    unfold lookupTurn
    dsimp only
    split <;> exact ⟨_,_,rfl,by simp [turnsLeft]⟩
  | appending node => exact ⟨_,_,rfl,Nat.zero_lt_one⟩
  | «over» => contradiction
  | raised e => contradiction

theorem turnsStop (t : LookupThread) (board : LookupBoard) (none : turnsLeft t = 0) : lookupTurn t board = .none := by
  obtain ⟨made,pc⟩ := t
  cases pc <;> first | rfl | contradiction

theorem turnsBounded (t : LookupThread) : turnsLeft t ≤ 3 := by
  unfold turnsLeft
  split <;> omega

end Turns

def handlerNames : BuiltChild → List String
  | .restApi child _ _ => [child.name]
  | .grpc _ _ | .clientSide _ => []

def nodesOf : Except Exn (Option BuiltChild) → List BuiltChild
  | .ok (some node) => [node]
  | _ => []

def namesOf (made : Except Exn (Option BuiltChild)) : List String := (nodesOf made).flatMap handlerNames

def yielded (t : LookupThread) : List BuiltChild :=
  match t.pc with
  | .over => nodesOf t.made
  | _ => []

def handled (t : LookupThread) : List String :=
  match t.pc with
  | .appending _ | .over => namesOf t.made
  | _ => []

def Placed (t : LookupThread) (board : LookupBoard) : Prop :=
  match t.pc with
  | .looking => True
  | .registering name node => t.made = .ok (some node) ∧ handlerNames node = [name]
  | .appending node => t.made = .ok (some node)
  | .over => ∃ node, t.made = .ok node
  | .raised _ => ∀ made, t.made = .ok made → ∃ name ∈ namesOf t.made, name ∈ board.handlers.keys

section Invariants
variable {t t' : LookupThread} {board board' : LookupBoard}

theorem registerOk {handlers handlers' : Handlers} {app : String} (registers : register handlers app = .ok handlers') :
    handlers'.keys = handlers.keys ++ [app] := by
  unfold register at registers
  split at registers
  · contradiction
  · rename_i fresh
    cases registers
    exact (Dict.assignKeys _ _ _).trans (if_neg fresh)

theorem registerError {handlers : Handlers} {app : String} {e : Exn} (refused : register handlers app = .error e) :
    app ∈ handlers.keys := by
  unfold register at refused
  split at refused
  · assumption
  · contradiction

inductive LookupTurn : LookupThread → LookupBoard → LookupThread → LookupBoard → Prop
  | fails {board : LookupBoard} (e : Exn) : LookupTurn ⟨.error e,.looking⟩ board ⟨.error e,.raised e⟩ board
  | skips {board : LookupBoard} : LookupTurn ⟨.ok none,.looking⟩ board ⟨.ok none,.over⟩ board
  | finds {board : LookupBoard} {node : BuiltChild} (other : handlerNames node = []) :
      LookupTurn ⟨.ok (some node),.looking⟩ board ⟨.ok (some node),.appending node⟩ board
  | findsRestApi {board : LookupBoard} {node : BuiltChild} {name : String} (own : handlerNames node = [name]) :
      LookupTurn ⟨.ok (some node),.looking⟩ board ⟨.ok (some node),.registering name node⟩ board
  | refused {board : LookupBoard} {made : Except Exn (Option BuiltChild)} {node : BuiltChild} {name : String} {e : Exn}
      (there : name ∈ board.handlers.keys) :
      LookupTurn ⟨made,.registering name node⟩ board ⟨made,.raised e⟩ board
  | registers {board : LookupBoard} {made : Except Exn (Option BuiltChild)} {node : BuiltChild} {name : String}
      {handlers : Handlers} (added : handlers.keys = board.handlers.keys ++ [name]) :
      LookupTurn ⟨made,.registering name node⟩ board ⟨made,.appending node⟩ { board with handlers := handlers }
  | appends {board : LookupBoard} {made : Except Exn (Option BuiltChild)} {node : BuiltChild} :
      LookupTurn ⟨made,.appending node⟩ board ⟨made,.over⟩ { board with children := board.children ++ [node] }

theorem lookupTurnCases (step : lookupTurn t board = some (t',board')) : LookupTurn t board t' board' := by
  obtain ⟨made,pc⟩ := t
  cases pc with
  | looking =>
    cases made with
    | error e =>
      cases step
      exact .fails e
    | ok made =>
      rcases made with _ | ⟨⟨⟩ | ⟨⟩ | ⟨⟩⟩ <;> cases step
      · exact .skips
      · exact .finds rfl
      · exact .findsRestApi rfl
      · exact .finds rfl
  | registering name node =>
    unfold lookupTurn at step
    dsimp only at step
    split at step
    · rename_i refused
      cases step
      exact .refused (registerError refused)
    · rename_i added
      cases step
      exact .registers (registerOk added)
  | appending node =>
    cases step
    exact .appends
  | «over» => contradiction
  | raised e => contradiction

theorem handlersKept (step : lookupTurn t board = some (t',board')) {name : String} (mem : name ∈ board.handlers.keys) :
    name ∈ board'.handlers.keys := by
  cases lookupTurnCases step with
  | registers added =>
    rw [added]
    exact List.mem_append_left _ mem
  | _ => exact mem

theorem turnPlaces (placed : Placed t board) (step : lookupTurn t board = some (t',board')) : Placed t' board' := by
  cases lookupTurnCases step with
  | fails e => exact fun _ absent => nomatch absent
  | skips => exact ⟨none,rfl⟩
  | finds => exact rfl
  | findsRestApi own => exact ⟨rfl,own⟩
  | refused there =>
    obtain ⟨rfl,own⟩ := placed
    exact fun _ _ => ⟨_,by simp [namesOf,nodesOf,own],there⟩
  | registers added => exact placed.1
  | appends => exact ⟨_,placed⟩

theorem placedKept (step : lookupTurn t board = some (t',board')) {u : LookupThread} (placed : Placed u board) :
    Placed u board' := by
  unfold Placed at *
  split at placed <;> try exact placed
  intro made same
  obtain ⟨name,own,there⟩ := placed made same
  exact ⟨name,own,handlersKept step there⟩

theorem childrenBooked (placed : Placed t board) (step : lookupTurn t board = some (t',board')) :
    (board'.children ++ yielded t).Perm (board.children ++ yielded t') := by
  cases lookupTurnCases step with
  | appends =>
    have same : _ = Except.ok (some _) := placed
    dsimp only at same
    subst same
    exact .of_eq (List.append_nil _)
  | _ => exact .refl _

theorem handlersBooked (placed : Placed t board) (step : lookupTurn t board = some (t',board')) :
    (board'.handlers.keys ++ handled t).Perm (board.handlers.keys ++ handled t') := by
  cases lookupTurnCases step with
  | finds other => exact .of_eq (congrArg (board.handlers.keys ++ ·) (by simp [handled,namesOf,nodesOf,other]))
  | registers added =>
    obtain ⟨same,own⟩ := placed
    dsimp only at same
    subst same
    exact .of_eq (by simp [handled,namesOf,nodesOf,own,added])
  | _ => exact .refl _

theorem madeKept (step : lookupTurn t board = some (t',board')) : t'.made = t.made := by
  cases lookupTurnCases step <;> rfl

end Invariants

section Joined
variable {made : List (Except Exn (Option BuiltChild))} {handlers : Handlers} {schedule : List Nat}

theorem joinedMade : ((joined made handlers schedule).threads.map LookupThread.made).Perm made := by
  refine runKeeps (I := fun q => (q.threads.map LookupThread.made).Perm made) ?_ _ (.of_eq (by simp [Function.comp_def]))
  intro p q before after others same turned
  refine ((turned.is.map _).trans ?_).trans ((turned.was.map _).symm.trans same)
  rw [List.map_cons,List.map_cons,madeKept turned.step]

theorem startPlaced (board : LookupBoard) :
    ∀ t ∈ made.map fun made => LookupThread.mk made .looking, Placed t board := by
  intro t mem
  obtain ⟨_,_,rfl⟩ := List.mem_map.mp mem
  trivial

theorem joinedPlaced : ∀ t ∈ (joined made handlers schedule).threads, Placed t (joined made handlers schedule).state :=
  Library.Sharing.runEach (fun _ _ _ _ => turnPlaces) (fun _ _ _ _ _ step placed => placedKept step placed) _ (startPlaced _)

theorem joinedStopped : ∀ t ∈ (joined made handlers schedule).threads, turnsLeft t = 0 := by
  have stopped := joinedOver turnsMove turnsStop (p := ⟨made.map fun made => ⟨made,.looking⟩,⟨handlers,[]⟩⟩)
    (fun t _ => turnsBounded t) schedule
  rwa [List.length_map] at stopped

theorem joinedChildren :
    (joined made handlers schedule).state.children.Perm ((joined made handlers schedule).threads.flatMap yielded) :=
  Library.Sharing.runAccounts LookupBoard.children yielded (fun _ _ _ _ => turnPlaces)
    (fun _ _ _ _ _ step placed => placedKept step placed) (fun _ _ _ _ => childrenBooked) _ (startPlaced _) (by simp [yielded])

theorem joinedHandlers : (joined made handlers schedule).state.handlers.keys.Perm
    (handlers.keys ++ (joined made handlers schedule).threads.flatMap handled) :=
  Library.Sharing.runAccounts (fun board : LookupBoard => board.handlers.keys) handled (fun _ _ _ _ => turnPlaces)
    (fun _ _ _ _ _ step placed => placedKept step placed) (fun _ _ _ _ => handlersBooked) _ (startPlaced _) (by simp [handled])

theorem stoppedCases {t : LookupThread} (stopped : turnsLeft t = 0) : t.pc = .over ∨ ∃ e, t.pc = .raised e := by
  obtain ⟨_,pc⟩ := t
  cases pc <;> first | contradiction | simp

theorem consPerm {α : Type} {a : α} {l : List α} (mem : a ∈ l) : ∃ others, l.Perm (a :: others) := by
  obtain ⟨before,after,rfl⟩ := List.mem_iff_append.mp mem
  exact ⟨_,List.perm_middle⟩

theorem handledNames (t : LookupThread) : (handled t).Sublist (namesOf t.made) := by
  unfold handled
  split <;> simp

theorem madeOf {α : Type} (g : Except Exn (Option BuiltChild) → List α) :
    ((joined made handlers schedule).threads.flatMap fun t => g t.made).Perm (made.flatMap g) := by
  rw [← List.flatMap_map LookupThread.made g]
  exact joinedMade.flatMap_right g

def AllOver (made : List (Except Exn (Option BuiltChild))) (handlers : Handlers) (schedule : List Nat) : Prop :=
  ∀ t ∈ (joined made handlers schedule).threads, t.pc = .over

theorem overChildren (all : AllOver made handlers schedule) :
    (joined made handlers schedule).state.children.Perm (made.flatMap nodesOf) := by
  refine joinedChildren.trans ((List.Perm.flatMap_left _ fun t mem => ?_).trans (madeOf nodesOf))
  simp [yielded,all t mem]

theorem overHandlers (all : AllOver made handlers schedule) :
    (joined made handlers schedule).state.handlers.keys.Perm (handlers.keys ++ made.flatMap namesOf) := by
  refine joinedHandlers.trans (List.Perm.append_left _ ((List.Perm.flatMap_left _ fun t mem => ?_).trans (madeOf namesOf)))
  simp [handled,all t mem]

theorem allOverIff : AllOver made handlers schedule ↔
    (∀ child ∈ made, ∃ node, child = .ok node) ∧ (handlers.keys ++ made.flatMap namesOf).Nodup := by
  constructor
  · refine fun all => ⟨fun child mem => ?_,(overHandlers all).nodup_iff.mp (joined made handlers schedule).state.handlers.distinct⟩
    obtain ⟨t,here,rfl⟩ := List.mem_map.mp (joinedMade.mem_iff.mpr mem)
    have placed := joinedPlaced t here
    rwa [Placed,all t here] at placed
  · rintro ⟨allMade,distinct⟩ t here
    rcases stoppedCases (joinedStopped t here) with «over» | ⟨e,raised⟩
    · exact «over»
    · obtain ⟨node,same⟩ := allMade t.made (joinedMade.mem_iff.mp (List.mem_map.mpr ⟨t,here,rfl⟩))
      have placed := joinedPlaced t here
      rw [Placed,raised] at placed
      -- the name is taken: from before, or by another thread
      obtain ⟨name,own,taken⟩ := placed node same
      obtain ⟨others,split⟩ := consPerm here
      have keys := joinedHandlers.trans (List.Perm.append_left handlers.keys (split.flatMap_right handled))
      have there := keys.mem_iff.mp taken
      rw [List.flatMap_cons,show handled t = [] by simp [handled,raised],List.nil_append] at there
      have apart : (namesOf t.made ++ (handlers.keys ++ others.flatMap fun t => namesOf t.made)).Nodup := by
        refine (List.perm_append_comm_assoc _ _ _).nodup_iff.mp ((List.Perm.append_left handlers.keys ?_).nodup_iff.mp distinct)
        exact (madeOf namesOf).symm.trans (split.flatMap_right _)
      refine absurd ?_ (List.disjoint_of_nodup_append apart own)
      rcases List.mem_append.mp there with before | during
      · exact List.mem_append_left _ before
      · obtain ⟨u,other,named⟩ := List.mem_flatMap.mp during
        exact List.mem_append_right _ (List.mem_flatMap.mpr ⟨u,other,(handledNames u).subset named⟩)

def tried : Except Exn (Option BuiltChild) → Bool
  | .ok none => false
  | _ => true

theorem triedIff {made : Except Exn (Option BuiltChild)} : tried made = false ↔ made = .ok none := by
  rcases made with e | _ | node <;> simp [tried]

theorem yieldedMost (threads : List LookupThread) :
    (threads.flatMap yielded).length ≤ threads.countP fun t => tried t.made := by
  induction threads with
  | nil => exact le_rfl
  | cons t rest ih =>
    have most : (yielded t).length ≤ if tried t.made then 1 else 0 := by
      cases attempted : tried t.made with
      | true =>
        unfold yielded nodesOf
        split <;> (try split) <;> simp
      | false =>
        unfold yielded
        rw [triedIff.mp attempted]
        split <;> exact Nat.zero_le _
    rw [List.flatMap_cons,List.length_append,List.countP_cons]
    omega

theorem raisedLost {t : LookupThread} (here : t ∈ (joined made handlers schedule).threads) {e : Exn} (raised : t.pc = .raised e) :
    (joined made handlers schedule).state.children.length < made.countP tried := by
  have placed := joinedPlaced t here
  rw [Placed,raised] at placed
  have attempted : tried t.made = true := by
    by_contra untried
    have skipped := triedIff.mp (Bool.eq_false_iff.mpr untried)
    obtain ⟨name,own,_⟩ := placed none skipped
    simp [skipped,namesOf,nodesOf] at own
  obtain ⟨others,split⟩ := consPerm here
  have children := joinedChildren.length_eq.trans (split.flatMap_right yielded).length_eq
  have all := (split.map LookupThread.made).symm.trans joinedMade
  rw [List.flatMap_cons,show yielded t = [] by simp [yielded,raised],List.nil_append] at children
  have most := yieldedMost others
  rw [children,← all.countP_eq tried,List.countP_map,List.countP_cons,Function.comp_apply,attempted,if_pos rfl]
  exact Nat.lt_succ_of_le most

end Joined

section Wanted
variable {net : Network} {m : ConfModel} {session : String} {initToken : Option Token} {data : Segment}
  {handlers : Handlers} {schedule : List Nat} {wanted : List Wanted} {nodes : List BuiltChild}

theorem flatMapTried {α : Type} {g : Except Exn (Option BuiltChild) → List α} (skipped : g (.ok none) = [])
    (made : List (Except Exn (Option BuiltChild))) : (made.filter tried).flatMap g = made.flatMap g := by
  induction made with
  | nil => rfl
  | cons child rest ih =>
    rw [List.filter_cons,List.flatMap_cons,← ih]
    split
    · rfl
    · rename_i untried
      rw [triedIff.mp (Bool.eq_false_iff.mpr untried),skipped,List.nil_append]

theorem triedMap {α : Type} (off : α → Bool) (want : α → Wanted) (l : List α) :
    (l.map fun a => if off a then .ok none else (getChild net (want a)).map some).filter tried =
      ((l.filter fun a => !off a).map want).map fun child => (getChild net child).map some := by
  induction l with
  | nil => rfl
  | cons a rest ih =>
    cases disabled : off a with
    | true => simpa [disabled,tried] using ih
    | false =>
      have attempted : tried ((getChild net (want a)).map some) = true := by
        cases getChild net (want a) <;> rfl
      simpa [disabled,attempted] using ih

theorem triedLookups : (lookups net m session initToken data true).filter tried =
    (configuredChildren m session initToken data).map fun child => (getChild net child).map some := by
  unfold lookups configuredChildren
  rw [List.filter_append,List.map_append]
  exact congrArg₂ _ (triedMap _ _ _) (triedMap _ _ _)

theorem builtAll (all : ∀ child ∈ wanted, Buildable net child) : ∃ nodes, List.Forall₂ (Built net) wanted nodes ∧
    (wanted.map fun child => (getChild net child).map some).flatMap nodesOf = nodes := by
  induction wanted with
  | nil => exact ⟨[],.nil,rfl⟩
  | cons child rest ih =>
    obtain ⟨nodes,builts,rfl⟩ := ih fun other mem => all other (List.mem_cons_of_mem child mem)
    obtain ⟨node,same⟩ := ChildNode.buildableIff.mpr (all child List.mem_cons_self)
    exact ⟨_,.cons (ChildNode.getChildIff.mp same) builts,by rw [List.map_cons,List.flatMap_cons,same]; rfl⟩

theorem builtNames (builts : List.Forall₂ (Built net) wanted nodes) : nodes.map BuiltChild.name = wanted.map Wanted.name := by
  induction builts with
  | nil => rfl
  | cons built _ ih => rw [List.map_cons,List.map_cons,ih,ChildNode.builtNamed built]

theorem builtRegistered (builts : List.Forall₂ (Built net) wanted nodes) :
    nodes.flatMap handlerNames = registered net wanted := by
  induction builts with
  | nil => rfl
  | @cons child node rest nodes built _ ih =>
    unfold registered at ih ⊢
    rw [List.flatMap_cons,List.filter_cons,ih]
    cases registers : ChildNode.registers net child with
    | true =>
      obtain ⟨own,host,port,rfl⟩ := (ChildNode.builtRegisters built).mp registers
      rw [if_pos rfl,List.map_cons,← ChildNode.builtNamed built]
      rfl
    | false =>
      have other : handlerNames node = [] := by
        cases node with
        | restApi own host port =>
          rw [(ChildNode.builtRegisters built).mpr ⟨own,host,port,rfl⟩] at registers
          contradiction
        | _ => rfl
      rw [other]
      rfl

theorem lookupsRegister (all : ∀ child ∈ configuredChildren m session initToken data, Buildable net child) :
    (lookups net m session initToken data true).flatMap namesOf = registered net (configuredChildren m session initToken data) := by
  obtain ⟨nodes,builts,same⟩ := builtAll all
  rw [← builtRegistered builts,← same,← triedLookups,List.flatMap_assoc]
  exact (flatMapTried rfl _).symm

theorem lookupsMade : (∀ child ∈ lookups net m session initToken data true, ∃ node, child = .ok node) ↔
    ∀ child ∈ configuredChildren m session initToken data, Buildable net child := by
  constructor
  · intro allMade child mem
    have here := List.mem_map_of_mem (f := fun child => (getChild net child).map some) mem
    rw [← triedLookups] at here
    obtain ⟨made,same⟩ := allMade _ (List.mem_filter.mp here).1
    obtain ⟨node,found,_⟩ := Library.mappedOk.mp same
    exact ChildNode.buildableIff.mp ⟨node,found⟩
  · intro all child mem
    cases attempted : tried child with
    | false => exact ⟨none,triedIff.mp attempted⟩
    | true =>
      have here := List.mem_filter.mpr ⟨mem,attempted⟩
      rw [triedLookups] at here
      obtain ⟨wanted,want,rfl⟩ := List.mem_map.mp here
      obtain ⟨node,same⟩ := ChildNode.buildableIff.mpr (all wanted want)
      exact ⟨some node,by rw [same]; rfl⟩

theorem answerableIff (schedule : List Nat) : AllOver (lookups net m session initToken data true) handlers schedule ↔
    Answerable net handlers (configuredChildren m session initToken data) := by
  rw [allOverIff,lookupsMade]
  exact and_congr_right fun all => by rw [lookupsRegister all]

theorem answeredChildren (answerable : Answerable net handlers (configuredChildren m session initToken data)) :
    ∃ nodes, (getChildren net m session initToken data false handlers schedule).children.Perm nodes ∧
      List.Forall₂ (Built net) (configuredChildren m session initToken data) nodes := by
  obtain ⟨nodes,builts,same⟩ := builtAll answerable.1
  refine ⟨nodes,(overChildren ((answerableIff schedule).mpr answerable)).trans (.of_eq ?_),builts⟩
  rw [← same,← triedLookups]
  exact (flatMapTried rfl _).symm

theorem answeredNames (answerable : Answerable net handlers (configuredChildren m session initToken data)) :
    ((getChildren net m session initToken data false handlers schedule).children.map BuiltChild.name).Perm
      ((configuredChildren m session initToken data).map Wanted.name) := by
  obtain ⟨nodes,same,builts⟩ := answeredChildren answerable
  exact (same.map _).trans (.of_eq (builtNames builts))

theorem getChildrenCompleteIff (net : Network) (m : ConfModel) (session : String) (initToken : Option Token) (data : Segment)
    (handlers : Handlers) (schedule : List Nat) :
    Complete net (configuredChildren m session initToken data)
      (getChildren net m session initToken data false handlers schedule).children ↔
    Answerable net handlers (configuredChildren m session initToken data) := by
  constructor
  · rintro ⟨nodes,same,represented⟩
    refine (answerableIff schedule).mp fun t here => ?_
    rcases stoppedCases (joinedStopped t here) with «over» | ⟨e,raised⟩
    · exact «over»
    · have lost := raisedLost here raised
      have all := represented.length_eq.trans same.length_eq.symm
      rw [List.countP_eq_length_filter,triedLookups,List.length_map,all] at lost
      exact absurd lost (Nat.lt_irrefl _)
  · intro answerable
    obtain ⟨nodes,same,builts⟩ := answeredChildren answerable
    exact ⟨nodes,same,builts.imp fun _ _ built => ⟨ChildNode.builtNamed built,ChildNode.builtUnusable built⟩⟩

end Wanted
end ControllerConfHandler

namespace Sample
def unnumbered : ConfModel := ⟨fun _ _ => false,fun _ _ => [],fun _ _ => ["rest://flx01:http"],fun _ _ => []⟩

def quietNetwork : Network := ⟨.ok "10.0.0.1",fun _ => none,none,fun _ _ _ => .error .serverUnreachable,fun _ _ => none,fun _ _ => false⟩

def readout : Segment :=
  .mk "readout" ⟨⟨"ru-controller","drunc-controller",["RCApplication"],[],"flx01",[],"",none⟩,none⟩ []
    [⟨"ru-01","daq_application",["SmartDaqApplication"],[],"flx01",[],"",none⟩]

end Sample

open Sample ControllerConfHandler in
theorem unnumberedDropped : ¬ Complete quietNetwork (configuredChildren unnumbered "session" none readout)
    (getChildren quietNetwork unnumbered "session" none readout false Dict.empty []).children := by
  have dropped : (getChildren quietNetwork unnumbered "session" none readout false Dict.empty []).children.length = 0 := by
    decide
  rintro ⟨nodes,same,represented⟩
  have lengths := represented.length_eq.trans (same.length_eq.symm.trans dropped)
  exact absurd lengths (by decide)
end Drunc
