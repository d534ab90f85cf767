import Drunc.ConnectivityService
import Drunc.Library.Runs

/-! How long a controller is advertised. A thread of its own publishes the address again and
again; an interrupt stops that thread and takes the address back, in a handler that runs in the
main thread wherever this is, also in `advertise_control_address` or in another handler. A
`Move` is what one of the threads does next; the threads share `running`. -/
namespace Drunc
open Library (Along alongKeeps keptAlways runsDown)
open Library.Retry (ended endedLast)

/-- Where `advertise_control_address` is, from when the handler is installed. -/
inductive Advertising where
  | called | running | threaded | advertised
  deriving DecidableEq, Repr

/-- Where a handler is: `told` once `running` is false, before it joins the thread. -/
inductive Terminating where
  | called | told
  | retracting (attempt : Nat)
  | stopping
  deriving DecidableEq, Repr

inductive Publisher where
  | absent | unstarted | looping
  | publishing (attempt : Nat)
  | sleeping | ended
  deriving DecidableEq, Repr

inductive Contact where
  | published | retracted
  deriving DecidableEq, Repr

inductive Move where
  | main | interrupt
  | handler (answer : HttpOutcome) (stopped : Bool)
  | publisher (answer : HttpOutcome)

structure Advertised where
  main : Advertising
  interrupts : List Terminating
  running : Bool
  publisher : Publisher
  killed : Bool
  contacts : List Contact
  deriving DecidableEq, Repr

namespace Advertised

def start : Advertised := ⟨.called,[],false,.absent,false,[]⟩

variable (client : ConnectivityServiceClient) (uid uri : String)

def advertise (s : Advertised) : Advertised :=
  match s.main with
  | .called => { s with main := .running, running := true }
  | .running => { s with main := .threaded, publisher := .unstarted }
  | .threaded => { s with main := .advertised, publisher := .looping }
  | .advertised => s

def retract (attempt : Nat) (answer : HttpOutcome) (outer : List Terminating) (s : Advertised) : Advertised :=
  let s := { s with contacts := .retracted :: s.contacts }
  match ended ConnectivityServiceClient.retractTolerates (49 - attempt) (client.retractAttempt (fun _ _ => answer) uid attempt) with
  | none => { s with interrupts := .retracting (attempt+1) :: outer }
  | some (.ok _) => { s with interrupts := .stopping :: outer }
  | some (.error _) => { s with killed := true }

def terminate (answer : HttpOutcome) (stopped : Bool) (s : Advertised) : Advertised :=
  match s.interrupts with
  | [] => s
  | .called :: outer => { s with interrupts := .told :: outer, running := false }
  | .told :: outer => match s.publisher with
    | .absent | .ended => { s with interrupts := .retracting 0 :: outer }
    -- a thread that was not started cannot be joined
    | .unstarted => { s with killed := true }
    | .looping | .publishing _ | .sleeping => s
  | .retracting attempt :: outer => s.retract client uid attempt answer outer
  | .stopping :: outer => if stopped then { s with interrupts := outer } else { s with killed := true }

def updateConnectivityService (answer : HttpOutcome) (s : Advertised) : Advertised :=
  match s.publisher with
  | .absent | .unstarted | .ended => s
  | .looping => { s with publisher := if s.running then .publishing 0 else .ended }
  | .sleeping => { s with publisher := .looping }
  | .publishing attempt =>
      let s := { s with contacts := .published :: s.contacts }
      match ended ConnectivityServiceClient.tolerates (49 - attempt)
          (client.publishAttempt (fun _ _ => answer) uid uri "RunControlMessage" attempt) with
      | none => { s with publisher := .publishing (attempt+1) }
      | some (.ok _) => { s with publisher := .sleeping }
      | some (.error _) => { s with publisher := .ended }

def step (s : Advertised) (move : Move) : Advertised :=
  if s.killed then s
  else match move with
    | .main => if s.interrupts = [] then s.advertise else s
    | .interrupt => { s with interrupts := .called :: s.interrupts }
    | .handler answer stopped => s.terminate client uid answer stopped
    | .publisher answer => s.updateConnectivityService client uid uri answer

end Advertised

def Contact.InOrder (contacts : List Contact) : Prop :=
  contacts.Pairwise fun later earlier => earlier = .retracted → later = .retracted

def Terminating.joined : Terminating → Bool
  | .called | .told => false
  | .retracting _ | .stopping => true

namespace Advertised

def Retired (s : Advertised) : Prop := .retracted ∈ s.contacts ∨ ∃ h ∈ s.interrupts, h.joined = true

def Silent (s : Advertised) : Prop :=
  s.publisher = .ended ∨ s.running = false ∧ (s.publisher = .absent ∨ s.publisher = .unstarted ∨ s.publisher = .looping)

def Threaded (s : Advertised) : Prop :=
  match s.main with
  | .called | .running => s.publisher = .absent
  | .threaded => s.publisher = .unstarted
  | .advertised => s.publisher ≠ .absent ∧ s.publisher ≠ .unstarted

structure Orderly (s : Advertised) : Prop where
  fresh : s.main = .called → s.interrupts = [] ∧ s.contacts = []
  told : ∀ h ∈ s.interrupts, h ≠ .called → s.running = false
  silent : s.Retired → s.Silent
  order : Contact.InOrder s.contacts

variable {client : ConnectivityServiceClient} {uid uri : String} {s : Advertised}

theorem startOrderly : start.Orderly where
  fresh _ := ⟨rfl,rfl⟩
  told _ mem := absurd mem List.not_mem_nil
  silent retired := by simp [Retired,start] at retired
  order := List.Pairwise.nil

theorem freshSilent (orderly : s.Orderly) (early : s.main = .called) : ¬ s.Retired := by
  obtain ⟨none,nothing⟩ := orderly.fresh early
  simp [Retired,none,nothing]

theorem advertiseKeeps (thread : s.Threaded) (orderly : s.Orderly) (calm : s.interrupts = []) : s.advertise.Orderly := by
  obtain ⟨main,interrupts,running,publisher,killed,contacts⟩ := s
  obtain rfl : interrupts = [] := calm
  have none : ∀ {now}, ∀ h ∈ ([] : List Terminating), h ≠ .called → now = false := fun _ mem => absurd mem List.not_mem_nil
  have waits : ∀ publisher', publisher ≠ .ended → (publisher' = .unstarted ∨ publisher' = .looping) →
      Retired ⟨main,[],running,publisher,killed,contacts⟩ → ∀ main', Silent ⟨main',[],running,publisher',killed,contacts⟩ := by
    intro publisher' alive place retired main'
    rcases orderly.silent retired with ended | ⟨halted,_⟩
    · exact absurd ended alive
    · exact .inr ⟨halted,.inr place⟩
  cases main with
  | called =>
    refine ⟨fun early => by contradiction,none,fun retired => ?_,orderly.order⟩
    have never := freshSilent orderly rfl
    exact absurd retired never
  | running =>
    obtain rfl : publisher = .absent := thread
    exact ⟨fun early => by contradiction,none,fun retired => waits _ (by simp) (.inl rfl) retired _,orderly.order⟩
  | threaded =>
    obtain rfl : publisher = .unstarted := thread
    exact ⟨fun early => by contradiction,none,fun retired => waits _ (by simp) (.inr rfl) retired _,orderly.order⟩
  | advertised => exact orderly

theorem interruptKeeps (orderly : s.Orderly) (late : s.main ≠ .called) :
    ({ s with interrupts := .called :: s.interrupts } : Advertised).Orderly := by
  refine ⟨fun early => absurd early late,fun h mem other => ?_,fun retired => orderly.silent ?_,orderly.order⟩
  · exact orderly.told h ((List.mem_cons.mp mem).resolve_left other) other
  · simpa [Retired,Terminating.joined] using retired

theorem terminateKeeps (client : ConnectivityServiceClient) (uid : String) (answer : HttpOutcome) (stopped : Bool)
    (orderly : s.Orderly) : (s.terminate client uid answer stopped).Orderly := by
  obtain ⟨main,interrupts,running,publisher,killed,contacts⟩ := s
  have late : ∀ {h : Terminating} {outer : List Terminating}, interrupts = h :: outer → main ≠ .called :=
    fun same early => absurd ((orderly.fresh early).1.symm.trans same) (List.cons_ne_nil _ _).symm
  obtain ⟨fresh,told,silent,order⟩ := orderly
  cases interrupts with
  | nil => exact ⟨fresh,told,silent,order⟩
  | cons h outer =>
    have later := late rfl
    have others : ∀ {now}, running = now → ∀ h ∈ outer, h ≠ .called → now = false :=
      fun same h mem other => same ▸ told h (List.mem_cons_of_mem _ mem) other
    cases h with
    | called =>
      refine ⟨fun early => absurd early later,fun _ _ _ => rfl,fun retired => ?_,order⟩
      rcases silent (by simpa [Retired,terminate,Terminating.joined] using retired) with ended | ⟨_,place⟩
      · exact .inl ended
      · exact .inr ⟨rfl,place⟩
    | told =>
      have halted := told .told List.mem_cons_self (by decide)
      have joins : (publisher = .absent ∨ publisher = .ended) → Orderly ⟨main,.retracting 0 :: outer,running,publisher,killed,contacts⟩ := by
        intro gone
        refine ⟨fun early => absurd early later,fun _ _ _ => halted,fun _ => ?_,order⟩
        rcases gone with absent | ended
        · exact .inr ⟨halted,.inl absent⟩
        · exact .inl ended
      cases publisher with
      | absent => exact joins (.inl rfl)
      | ended => exact joins (.inr rfl)
      | unstarted => exact ⟨fun early => absurd early later,told,silent,order⟩
      | looping => exact ⟨fun early => absurd early later,told,silent,order⟩
      | publishing attempt => exact ⟨fun early => absurd early later,told,silent,order⟩
      | sleeping => exact ⟨fun early => absurd early later,told,silent,order⟩
    | retracting attempt =>
      have halted := told _ List.mem_cons_self (by simp)
      have still := silent (.inr ⟨_,List.mem_cons_self,rfl⟩)
      have more : Contact.InOrder (.retracted :: contacts) := List.pairwise_cons.mpr ⟨fun _ _ _ => rfl,order⟩
      have goes : ∀ interrupts killed, Orderly ⟨main,interrupts,running,publisher,killed,.retracted :: contacts⟩ :=
        fun _ _ => ⟨fun early => absurd early later,fun _ _ _ => halted,fun _ => still,more⟩
      unfold terminate retract
      dsimp only
      split
      all_goals exact goes _ _
    | stopping =>
      have halted := told _ List.mem_cons_self (by simp)
      have still := silent (.inr ⟨_,List.mem_cons_self,rfl⟩)
      unfold terminate
      dsimp only
      split
      all_goals exact ⟨fun early => absurd early later,fun _ _ _ => halted,fun _ => still,order⟩

theorem updateKeeps (client : ConnectivityServiceClient) (uid uri : String) (answer : HttpOutcome) (thread : s.Threaded)
    (orderly : s.Orderly) : (s.updateConnectivityService client uid uri answer).Orderly := by
  obtain ⟨main,interrupts,running,publisher,killed,contacts⟩ := s
  obtain ⟨fresh,told,silent,order⟩ := orderly
  have threaded : publisher ≠ .absent → publisher ≠ .unstarted → main = .advertised := by
    intro present started
    cases main with
    | advertised => rfl
    | called => exact absurd thread present
    | running => exact absurd thread present
    | threaded => exact absurd thread started
  cases publisher with
  | absent => exact ⟨fresh,told,silent,order⟩
  | unstarted => exact ⟨fresh,told,silent,order⟩
  | ended => exact ⟨fresh,told,silent,order⟩
  | looping =>
    obtain rfl := threaded (by simp) (by simp)
    cases running with
    | true =>
      refine ⟨fun early => by contradiction,told,fun retired => ?_,order⟩
      rcases silent retired with ended | ⟨halted,_⟩ <;> contradiction
    | false => exact ⟨fun early => by contradiction,told,fun _ => .inl rfl,order⟩
  | sleeping =>
    obtain rfl := threaded (by simp) (by simp)
    refine ⟨fun early => by contradiction,told,fun retired => ?_,order⟩
    rcases silent retired with ended | ⟨_,place⟩
    · contradiction
    · simp at place
  | publishing attempt =>
    obtain rfl := threaded (by simp) (by simp)
    have busy : ¬ Retired ⟨.advertised,interrupts,running,.publishing attempt,killed,contacts⟩ := by
      intro retired
      rcases silent retired with ended | ⟨_,place⟩
      · contradiction
      · simp at place
    have more : Contact.InOrder (.published :: contacts) := by
      refine List.pairwise_cons.mpr ⟨fun earlier mem same => ?_,order⟩
      exact absurd (.inl (same ▸ mem)) busy
    have goes : ∀ publisher, Orderly ⟨.advertised,interrupts,running,publisher,killed,.published :: contacts⟩ := by
      intro publisher
      refine ⟨fun early => by contradiction,told,fun retired => ?_,more⟩
      refine absurd ?_ busy
      simpa [Retired] using retired
    unfold updateConnectivityService
    dsimp only
    split
    all_goals exact goes _

theorem terminateKept (client : ConnectivityServiceClient) (uid : String) (answer : HttpOutcome) (stopped : Bool) (s : Advertised) :
    (s.terminate client uid answer stopped).main = s.main ∧ (s.terminate client uid answer stopped).publisher = s.publisher ∧
    (s.running = false → (s.terminate client uid answer stopped).running = false) := by
  obtain ⟨main,interrupts,running,publisher,killed,contacts⟩ := s
  unfold terminate retract
  dsimp only
  repeat' split
  all_goals simp

theorem updateKept (client : ConnectivityServiceClient) (uid uri : String) (answer : HttpOutcome) (s : Advertised) :
    (s.updateConnectivityService client uid uri answer).main = s.main ∧
    (s.updateConnectivityService client uid uri answer).running = s.running ∧
    ((s.updateConnectivityService client uid uri answer).publisher = .absent ↔ s.publisher = .absent) ∧
    ((s.updateConnectivityService client uid uri answer).publisher = .unstarted ↔ s.publisher = .unstarted) := by
  obtain ⟨main,interrupts,running,publisher,killed,contacts⟩ := s
  cases publisher with
  | absent | unstarted | ended | sleeping => simp [updateConnectivityService]
  | looping => cases running <;> simp [updateConnectivityService]
  | publishing attempt =>
    unfold updateConnectivityService
    dsimp only
    split <;> simp

theorem stepThreaded (move : Move) (thread : s.Threaded) : (s.step client uid uri move).Threaded := by
  unfold step
  split
  · exact thread
  cases move with
  | main =>
    dsimp only
    split
    · unfold Threaded at thread
      unfold advertise
      cases main : s.main <;> simp_all [Threaded]
    · exact thread
  | interrupt => exact thread
  | handler answer stopped =>
    obtain ⟨main,publisher,_⟩ := terminateKept client uid answer stopped s
    unfold Threaded
    rw [main,publisher]
    exact thread
  | publisher answer =>
    obtain ⟨main,_,absent,unstarted⟩ := updateKept client uid uri answer s
    unfold Threaded
    rw [main]
    cases place : s.main <;> simp only [Threaded,place] at thread ⊢ <;> simp_all

theorem stepKeeps (move : Move) (thread : s.Threaded) (orderly : s.Orderly) (late : move = .interrupt → s.main ≠ .called) :
    (s.step client uid uri move).Orderly := by
  unfold step
  split
  · exact orderly
  cases move with
  | main =>
    dsimp only
    split
    · exact advertiseKeeps thread orderly (by assumption)
    · exact orderly
  | interrupt => exact interruptKeeps orderly (late rfl)
  | handler answer stopped => exact terminateKeeps client uid answer stopped orderly
  | publisher answer => exact updateKeeps client uid uri answer thread orderly

theorem retractedForGood (client : ConnectivityServiceClient) (uid uri : String) (moves : List Move)
    (late : Along (step client uid uri) (fun s move => move = .interrupt → s.main ≠ .called) start moves) :
    Contact.InOrder (moves.foldl (step client uid uri) start).contacts :=
  (alongKeeps (I := fun s : Advertised => s.Threaded ∧ s.Orderly)
    (fun _ move kept late => ⟨stepThreaded move kept.1,stepKeeps move kept.1 kept.2 late⟩)
    ⟨show start.Threaded from rfl,startOrderly⟩ late).2.order

end Advertised

/-- How many turns a thread that is told to stop still has at most. -/
def Publisher.left : Publisher → Nat
  | .absent | .unstarted | .ended => 0
  | .looping => 1
  | .sleeping => 2
  | .publishing attempt => 50 - attempt + 3

def Move.publishes : Move → Bool
  | .publisher _ => true
  | _ => false

namespace Advertised
variable {client : ConnectivityServiceClient} {uid uri : String} {s : Advertised}

structure Halting (s : Advertised) : Prop where
  main : s.main = .advertised
  halted : s.running = false

def left (s : Advertised) : Nat := if s.killed then 0 else s.publisher.left

theorem updateLeft (answer : HttpOutcome) (halted : s.running = false) :
    (s.updateConnectivityService client uid uri answer).publisher.left ≤ s.publisher.left - 1 := by
  obtain ⟨main,interrupts,running,publisher,killed,contacts⟩ := s
  obtain rfl : running = false := halted
  cases publisher with
  | absent | unstarted | ended | looping | sleeping => exact Nat.le_refl _
  | publishing attempt =>
    change (updateConnectivityService client uid uri answer ⟨main,interrupts,false,.publishing attempt,killed,contacts⟩).publisher.left ≤
      50 - attempt + 2
    unfold updateConnectivityService
    dsimp only
    cases after : ended ConnectivityServiceClient.tolerates (49 - attempt)
        (client.publishAttempt (fun _ _ => answer) uid uri "RunControlMessage" attempt) with
    | none =>
      have more : 49 - attempt ≠ 0 := fun last => endedLast _ _ (last ▸ after)
      change 50 - (attempt + 1) + 3 ≤ 50 - attempt + 2
      omega
    | some result =>
      cases result with
      | ok _ =>
        change 2 ≤ _
        omega
      | error e => exact Nat.zero_le _

theorem haltingStep (move : Move) (halting : s.Halting) :
    (s.step client uid uri move).Halting ∧
      (s.step client uid uri move).left ≤ s.left - (if move.publishes then 1 else 0) := by
  obtain ⟨main,halted⟩ := halting
  cases killed : s.killed with
  | true =>
    have same : s.step client uid uri move = s := if_pos killed
    rw [same]
    exact ⟨⟨main,halted⟩,by simp [left,killed]⟩
  | false =>
    have alive : s.left = s.publisher.left := by simp [left,killed]
    have goes : ∀ {t : Advertised}, t.publisher.left ≤ s.publisher.left - (if move.publishes then 1 else 0) →
        t.left ≤ s.left - (if move.publishes then 1 else 0) := by
      intro t less
      rw [alive]
      unfold left
      split
      · exact Nat.zero_le _
      · exact less
    unfold step
    rw [killed,if_neg Bool.false_ne_true]
    cases move with
    | main =>
      have same : s.advertise = s := by unfold advertise; rw [main]
      dsimp only
      rw [same,ite_self]
      exact ⟨⟨main,halted⟩,goes (Nat.le_refl _)⟩
    | interrupt => exact ⟨⟨main,halted⟩,goes (Nat.le_refl _)⟩
    | handler answer stopped =>
      obtain ⟨place,same,still⟩ := terminateKept client uid answer stopped s
      exact ⟨⟨place.trans main,still halted⟩,goes (same ▸ Nat.le_refl _)⟩
    | publisher answer =>
      obtain ⟨place,same,_⟩ := updateKept client uid uri answer s
      exact ⟨⟨place.trans main,same.trans halted⟩,goes (updateLeft answer halted)⟩

theorem joinReturns (client : ConnectivityServiceClient) (uid uri : String) (moves later : List Move)
    (halting : (moves.foldl (step client uid uri) start).Halting) (turns : 53 ≤ later.countP Move.publishes)
    {outer : List Terminating} (waiting : ((moves ++ later).foldl (step client uid uri) start).interrupts = .told :: outer)
    (answer : HttpOutcome) (stopped : Bool) :
    (((moves ++ later).foldl (step client uid uri) start).step client uid uri (.handler answer stopped)).interrupts =
        .retracting 0 :: outer ∨ ((moves ++ later).foldl (step client uid uri) start).killed = true := by
  have thread : ((moves ++ later).foldl (step client uid uri) start).Threaded :=
    keptAlways (fun _ move thread => stepThreaded move thread) (show start.Threaded from rfl) _
  rw [List.foldl_append] at thread waiting ⊢
  generalize moves.foldl (step client uid uri) start = s at halting thread waiting ⊢
  have halts : ∀ (s : Advertised) (move : Move), s.Halting → (s.step client uid uri move).Halting :=
    fun s move halting => (haltingStep move halting).1
  have counted := runsDown halts (fun s move halting => (haltingStep move halting).2) halting later
  have most : s.left ≤ 53 := by
    unfold left
    split
    · exact Nat.zero_le _
    · cases s.publisher <;> simp [Publisher.left]
  have still : (later.foldl (step client uid uri) s).Halting :=
    keptAlways halts halting later
  generalize later.foldl (step client uid uri) s = t at thread waiting counted still ⊢
  cases killed : t.killed with
  | true => exact .inr rfl
  | false =>
    have none : t.publisher.left = 0 := by
      unfold left at counted most
      rw [killed] at counted
      simp only [Bool.false_eq_true,if_false] at counted
      omega
    have started : t.publisher ≠ .absent ∧ t.publisher ≠ .unstarted := by
      unfold Threaded at thread
      rw [still.main] at thread
      exact thread
    have done : t.publisher = .ended := by
      cases place : t.publisher with
      | ended => rfl
      | absent => exact absurd place started.1
      | unstarted => exact absurd place started.2
      | looping | sleeping => rw [place] at none; contradiction
      | publishing attempt => rw [place] at none; contradiction
    unfold step terminate
    rw [killed,waiting,done]
    exact .inl rfl

end Advertised

namespace Sample

def accepted : HttpOutcome := .response ⟨200,.none,emptyPlain⟩

def advertising : List Move := [.main,.main,.main]

def interrupted : List Move := [.interrupt,.handler accepted true]

def retraction : List Move := [.handler accepted true,.handler accepted true,.handler accepted true]

def publications (turns : Nat) : List Move := List.replicate turns (.publisher accepted)

def advertisedUntil : List Move := advertising ++ publications 2 ++ interrupted ++ publications 2 ++ retraction

abbrev life : Advertised → Move → Advertised := Advertised.step service "root_control" "grpc://np04-srv-023:3333"

theorem endedStays {s : Advertised} (ended : s.publisher = .ended) (turns : Nat) : (publications turns).foldl life s = s := by
  have same : life s (.publisher accepted) = s := by
    unfold life Advertised.step Advertised.updateConnectivityService
    rw [ended]
    exact ite_self _
  induction turns with
  | zero => rfl
  | succ turns ih =>
    rw [publications,List.replicate_succ,List.foldl_cons,same]
    exact ih

end Sample

open Sample in
example : (interrupted ++ retraction ++ advertising ++ publications 2).foldl life Advertised.start =
    ⟨.advertised,[],true,.sleeping,false,[.published,.retracted]⟩ := by decide

open Sample in
theorem interruptedLate :
    Contact.InOrder (advertisedUntil.foldl life Advertised.start).contacts ∧
    (advertisedUntil.foldl life Advertised.start).contacts = [.retracted,.published] := by
  refine ⟨Advertised.retractedForGood service "root_control" "grpc://np04-srv-023:3333" advertisedUntil ?_,by decide⟩
  refine ⟨?_,?_,?_,?_,?_,fun _ => by decide,?_,?_,?_,?_,?_,?_,trivial⟩
  all_goals exact fun interrupt => by cases interrupt

open Sample in
theorem joinedWhilePublishing :
    ((((advertising ++ publications 1 ++ interrupted) ++ publications 53).foldl life Advertised.start).step service "root_control"
        "grpc://np04-srv-023:3333" (.handler accepted true)).interrupts = [.retracting 0] ∨
      (((advertising ++ publications 1 ++ interrupted) ++ publications 53).foldl life Advertised.start).killed = true := by
  refine Advertised.joinReturns service "root_control" "grpc://np04-srv-023:3333" (advertising ++ publications 1 ++ interrupted)
    (publications 53) ⟨by decide,by decide⟩ (by decide) ?_ accepted true
  have parts : publications 53 = publications 3 ++ publications 50 := List.replicate_add 3 50 _
  rw [parts,← List.append_assoc,List.foldl_append,endedStays (by decide)]
  rfl

end Drunc
