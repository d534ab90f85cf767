import Drunc.History
import Drunc.Library.Runs

/-! Who holds control of a controller. The holder is nobody or the client of a token;
the controller only keeps a token, and one of its values stands for nobody. A request
takes effect if it changes the controller or reaches a callback or a child; without
a holder, the client of the empty token slips through with anything but a surrender. -/
namespace Drunc
open Library (Refines refinesRun)
open Library.Act

def Round.holderAfter {κ : Type} (holder : Option Token) (r : Round κ) : Option Token :=
  if (r.world.broadcast .ack).isSome then holder
  else match r.command with
    | .takeControl => some r.request.token
    | .surrenderControl => if holder = some r.request.token then none else holder
    | _ => holder

def holderOf {κ : Type} (first : Token) (history : List (Round κ)) : Option Token :=
  history.foldl Round.holderAfter (some first)

def Event.outward : Event → Bool
  | .callback _ | .child .. | .launched .. => true
  | _ => false

theorem ControllerActor.compareTokenIff {a b : Token} : compareToken a b = true ↔ a = b := by
  cases a; cases b
  simp [compareToken,and_comm]

namespace Controller
variable {κ : Type} {w : World} {kids : ChildInterface κ} {request : Request} {command : Command} {token : Token}
  {c : Controller κ} {holder : Option Token}

def Tells (holder : Option Token) (c : Controller κ) : Prop := c.actor = holder.getD Token.unset

theorem admittedHeld (held : guarded command = true) :
    admitted command request c = true ↔ request.token = c.actor := by
  simp [admitted,held,ControllerActor.compareTokenIff]

theorem admittedIff (tells : Tells holder c) (held : guarded command = true) :
    admitted command request c = true ↔
      holder = some request.token ∨ (holder = none ∧ request.token = Token.unset) := by
  rw [admittedHeld held,tells]
  cases holder with
  | none => simp
  | some client => simp [eq_comm]

def changedAnswer (what : String) (done : Token → Token → String) (token : Token) (c : Controller κ)
    (asked : List Response) : Response :=
  if !childrenAnswered asked then
    c.respond (some token) (.plainText ("Could not " ++ what ++ " on all children")) .failed asked
  else c.respond (some token) (.plainText (done c.actor token)) .executedSuccessfully asked

theorem changeActorRuns (w : World) (kids : ChildInterface κ) (command : Command) {change : Token → Do Token (Option Nat)}
    (what : String) (done : Token → Token → String) {actor : Token} (changed : change token c.actor = ⟨.ok (some 0),actor,[]⟩) :
    Passes (changeActor w kids command change what done token) c [(w.broadcast .propagation,{ c with actor := actor })]
      (changedAnswer what done token c (collected w kids command none token c.childrenNodes))
      { c with actor := actor, childrenNodes := childrenAfter w kids command none token c.childrenNodes } := by
  have ran : (onActor (change token) c).result = .ok (some 0) := by simp [onActor,changed]
  have set : (onActor (change token) c).state = { c with actor := actor } := by simp [onActor,changed]
  have acted : Passes (onActor (change token)) c [] (some 0) { c with actor := actor } := ⟨ran,set⟩
  refine passesRead (passesBind acted rfl ?_)
  rw [if_neg (by decide)]
  refine passesBind propagateRuns rfl ?_
  rw [← apply_ite pure]
  exact passesPure

theorem changeActorFails {change : Token → Do Token (Option Nat)} {what : String} {done : Token → Token → String}
    {actor : Token} {status : Option Nat} (changed : change token c.actor = ⟨.ok status,actor,[]⟩) (bad : status ≠ some 0) :
    changeActor w kids command change what done token c =
      ⟨.ok (c.respond (some token) (.plainText ("Could not " ++ what)) .failed []),{ c with actor := actor },[]⟩ := by
  have ran : (onActor (change token) c).result = .ok status := by simp [onActor,changed]
  unfold changeActor
  rw [readBind,bindOk ran,if_pos bad]
  simp [onActor,changed]

theorem surrenderHolder (own : token = c.actor) : surrenderControl w kids token c =
    ⟨.ok (c.respond (some token) (.plainText "Could not surrender control") .failed []),
      { c with actor := Token.unset },[]⟩ := by
  have changed : ControllerActor.surrenderControl token c.actor = ⟨.ok none,Token.unset,[]⟩ := by
    unfold ControllerActor.surrenderControl
    rw [readBind,if_pos (ControllerActor.compareTokenIff.mpr own.symm)]
    rfl
  exact changeActorFails changed (by simp)

theorem takeControlRuns (w : World) (kids : ChildInterface κ) (token : Token) (c : Controller κ) :
    Passes (takeControl w kids token) c [(w.broadcast .propagation,{ c with actor := token })]
      (changedAnswer "take control" (fun _ token => token.userName ++ " took control") token c
        (collected w kids .takeControl none token c.childrenNodes))
      { c with actor := token, childrenNodes := childrenAfter w kids .takeControl none token c.childrenNodes } :=
  changeActorRuns w kids .takeControl _ _ rfl

theorem takeControlActor : (takeControl w kids token c).state.actor = token :=
  passesState (P := fun d => d.actor = token) (takeControlRuns w kids token c) (by simp) rfl

theorem sameActorFrame : Frame (fun c d : Controller κ => d.actor = c.actor) :=
  ⟨fun _ => rfl,fun _ _ _ first second => second.trans first,fun _ _ => rfl,fun _ _ => rfl⟩

variable [Re]

theorem carriedOutActor {t : Transition} {fsmCommand : FSMCommand} {state : String} {result : Except Exn Response}
    {d : Controller κ} (run : CarriedOut w kids t fsmCommand token c state result d) : d.actor = c.actor := by
  cases run <;> rfl

theorem executeActor (w : World) (kids : ChildInterface κ) (fsmCommand : FSMCommand) (token : Token) :
    Leaves (fun c d : Controller κ => d.actor = c.actor) (executeFsmCommand w kids fsmCommand token) := by
  intro c
  by_cases starts : ∃ t state, Starts c fsmCommand t state
  · obtain ⟨t,state,start⟩ := starts
    exact carriedOutActor (startsRun w kids token start)
  · rw [(refuses starts).1]

theorem unpackedActor {obj : Servicer} (keeps : command ≠ .takeControl ∧ command ≠ .surrenderControl) :
    (unpacked w kids obj command request c).state.actor = c.actor :=
  sameActorFrame.unpacked (fun _ fsmCommand => executeActor w kids fsmCommand request.token)
    (fun actors => by rcases actors with rfl | rfl <;> simp at keeps) c

theorem serveTells : Refines (@Tells κ) Round.holderAfter serve := by
  rintro holder c ⟨w,kids,command,request⟩ tells
  unfold serve Round.holderAfter
  cases published : w.broadcast .ack with
  | some e =>
    rw [handleUnacknowledged published]
    exact tells
  | none =>
    cases accepted : admitted command request c with
    | false =>
      have held : guarded command = true := by
        by_contra open'
        simp [admitted,open'] at accepted
      have other : holder ≠ some request.token := fun same => by
        rw [(admittedIff tells held).mpr (.inl same)] at accepted
        contradiction
      rw [handleDeclined published accepted]
      by_cases surrender : command = .surrenderControl
      · subst surrender
        simpa [other] using tells
      · cases command <;> first | exact tells | contradiction
    | true =>
      rw [handleAdmitted published accepted]
      by_cases take : command = .takeControl
      · subst take
        exact takeControlActor
      · by_cases surrender : command = .surrenderControl
        · subst surrender
          have own := (admittedHeld rfl).mp accepted
          change (surrenderControl w kids request.token c).state.actor = _
          rw [surrenderHolder own]
          rcases (admittedIff tells rfl).mp accepted with rfl | ⟨rfl,_⟩ <;> simp
        · change (unpacked w kids c.servicer command request c).state.actor = _
          rw [unpackedActor ⟨take,surrender⟩]
          cases command <;> first | exact tells | contradiction

theorem serveAllTells (c : Controller κ) (history : List (Round κ)) :
    Tells (holderOf c.actor history) (c.serveAll history) :=
  refinesRun serveTells (show Tells (some c.actor) c from rfl) history

def TakesEffect (c : Controller κ) (r : Round κ) : Prop :=
  c.serve r ≠ c ∨ ∃ e ∈ (handle r.world r.kids r.command r.request c).events, e.outward = true

def SlipsThrough (holder : Option Token) (r : Round κ) : Prop :=
  r.command ≠ .surrenderControl ∧ holder = none ∧ r.request.token = Token.unset

theorem declinedSpares {r : Round κ} (declined : admitted r.command r.request c = false) : ¬ TakesEffect c r := by
  unfold TakesEffect serve
  cases published : r.world.broadcast .ack with
  | some e => simp [handleUnacknowledged published,Event.outward]
  | none => simp [handleDeclined published declined,Event.outward]

theorem emptySurrenderSpares {r : Round κ} (surrender : r.command = .surrenderControl) (own : r.request.token = c.actor)
    (empty : c.actor = Token.unset) : ¬ TakesEffect c r := by
  obtain ⟨w,kids,command,request⟩ := r
  obtain rfl : command = .surrenderControl := surrender
  have stays : { c with actor := Token.unset } = c := by rw [← empty]
  have body : unpacked w kids c.servicer .surrenderControl request c = surrenderControl w kids request.token c := rfl
  unfold TakesEffect serve
  cases published : w.broadcast .ack with
  | some e => simp [handleUnacknowledged published,Event.outward]
  | none =>
    have accepted : admitted .surrenderControl request c = true := (admittedHeld rfl).mpr own
    simp [handleAdmitted published accepted,body,surrenderHolder own,stays,announced,Event.outward]

theorem onlyHolderActs (c : Controller κ) (history : List (Round κ)) (r : Round κ) (held : guarded r.command = true)
    (kept : ¬ SlipsThrough (holderOf c.actor history) r) (effect : TakesEffect (c.serveAll history) r) :
    holderOf c.actor history = some r.request.token := by
  have tells := serveAllTells c history
  have accepted : admitted r.command r.request (c.serveAll history) = true := by
    by_contra declined
    exact declinedSpares (Bool.not_eq_true _ ▸ declined) effect
  rcases (admittedIff tells held).mp accepted with holds | ⟨nobody,unset⟩
  · exact holds
  · have surrender : r.command = .surrenderControl := by
      by_contra other
      exact kept ⟨other,nobody,unset⟩
    have own := (admittedHeld held).mp accepted
    exact absurd effect (emptySurrenderSpares surrender own (own.symm.trans unset))

end Controller

namespace Sample

def surrenderRound : Round Empty := ⟨calm,childless,.surrenderControl,⟨user,none⟩⟩

def strayRound : Round Empty := { confRound with request := { confRequest with token := Token.unset } }

def newcomer : Token := ⟨"other-token","other"⟩

def takenRound : Round Empty := ⟨calm,childless,.takeControl,⟨newcomer,none⟩⟩

def newcomerRound : Round Empty := { confRound with request := { confRequest with token := newcomer } }

theorem newcomerMoves : Controller.TakesEffect ((root []).serveAll [takenRound]) newcomerRound :=
  .inl fun same => absurd (congrArg (fun c => c.statefulNode.operationalState) same) (by decide)

end Sample

open Sample in
theorem strayCommandMoves :
    Controller.guarded strayRound.command = true ∧ holderOf (root ([] : List Empty)).actor [surrenderRound] = none ∧
    Controller.TakesEffect ((root []).serveAll [surrenderRound]) strayRound :=
  ⟨rfl,rfl,.inl fun same => absurd (congrArg (fun c => c.statefulNode.operationalState) same) (by decide)⟩

open Sample in
theorem confByHolder : holderOf user [takenRound] = some newcomerRound.request.token :=
  Controller.onlyHolderActs (root []) [takenRound] newcomerRound rfl (fun slips => absurd slips.2.1 (by decide)) newcomerMoves

end Drunc
