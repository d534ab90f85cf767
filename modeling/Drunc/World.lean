import Drunc.Messages
import Drunc.Library.Checkpoints

/-! Everything that one request can meet outside the modelled code: whether each
publication raises, what each callback does, in which order the propagation
threads run. A program point (`Site`) publishes at most once in a request, so an
answer for each site is an answer for each publication. A `Phase` names a
sub-state of a transition, in the order in which they are set. The outcome of a
callback holds the object that was passed in, as the call left it. Two events are
marks: of a lookup that found no key, and of the branch for an unknown uuid. -/
namespace Drunc
open Library (Act)
open Library.Act (emit raise Passes)

inductive Phase where
  | preparing | ready | propagating | propagated | executing | terminated | finalising | idle
  deriving DecidableEq, Repr

inductive Site where
  | ack
  | success
  | subState (phase : Phase)
  | operationalState
  | inclusionState
  | errorState
  | propagation
  | childStart (index : Nat)
  | childResponse (index : Nat)
  | childException (index : Nat)
  deriving DecidableEq, Repr

inductive PreOrPost where
  | pre | post
  deriving DecidableEq, Repr

structure CallbackOutcome where
  input : PyObj
  result : Except Exn PyObj

inductive Event where
  | broadcast (message : String) (btype : BroadcastType)
  | callback (method : String)
  | child (name : String) (command : Command) (data : Option Payload)
  | launched (uuid : String) (process : Nat)
  | missingKey (uuid : String)
  | unknownUuid (uuid : String)

structure World where
  broadcast : Site → Option Exn
  callback : PreOrPost → Nat → PyObj → Library.Dict String PyObj → CallbackOutcome
  schedule : List Nat

abbrev Do (σ α : Type) := Act Event Exn σ α

def World.Quiet (w : World) : Prop := ∀ site, w.broadcast site = none

def World.scheduled (w : World) (schedule : List Nat) : World := { w with schedule := schedule }

def broadcast {σ : Type} (w : World) (site : Site) (message : String) (btype : BroadcastType) : Do σ Unit := do
  emit (.broadcast message btype)
  match w.broadcast site with
  | some e => raise e
  | none => pure ()

section Broadcast
variable {σ : Type} {w : World} {site : Site} {message : String} {btype : BroadcastType} {s : σ}

@[simp] theorem broadcastState : (broadcast w site message btype s).state = s := by
  unfold broadcast
  cases h : w.broadcast site <;> rfl

@[simp] theorem broadcastResult : (broadcast w site message btype s).result =
    match w.broadcast site with | some e => .error e | none => .ok () := by
  unfold broadcast
  cases h : w.broadcast site <;> rfl

@[simp] theorem broadcastEvents : (broadcast w site message btype s).events = [.broadcast message btype] := by
  unfold broadcast
  cases h : w.broadcast site <;> rfl

theorem broadcastPasses : Passes (broadcast w site message btype) s [(w.broadcast site,s)] () s := by
  cases h : w.broadcast site with
  | none => exact ⟨by simp [h],broadcastState⟩
  | some e => exact ⟨by simp [h],broadcastState⟩
end Broadcast

end Drunc
