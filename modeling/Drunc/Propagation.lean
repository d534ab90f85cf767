import Drunc.World
import Drunc.Library.Interleaving

/-! One thread for each child of a controller. The threads share the list of
responses, to which a lock lets them append one at a time; everything else that
a thread touches is its own child. `ChildInterface` has the methods of a child
node that a controller calls: the index tells the children of one controller
apart, and no call renames a child. A thread moves by atomic steps; an exception
of its first or of its last broadcast ends it. `threadAlone` says what one thread
does if left alone, `collectedPerm` and `childrenAfterEach` what all of them leave,
whatever the schedule. -/
namespace Drunc
open Library.Interleaving (Pool run join advance emitted joinedThreads joinedLog)

structure ChildInterface (κ : Type) where
  name : κ → String
  propagateCommand : Nat → κ → Command → Option Payload → Token → Except Exn Response × κ
  nameKept : ∀ index child command data token, name (propagateCommand index child command data token).2 = name child
  getStatus : Nat → κ → Token → Except Exn (Option Response)

def childless : ChildInterface Empty :=
  ⟨Empty.elim,fun _ child => child.elim,fun _ child => child.elim,fun _ child => child.elim⟩

inductive ProgramCounter where
  | start
  | call
  | append (response : Response)
  | report (response : Response)
  | handle (e : Exn)
  | reportException (e : Exn)
  | over

structure ChildThread (κ : Type) where
  index : Nat
  child : κ
  pc : ProgramCounter

inductive Appended where
  | response (response : Response)
  | event (event : Event)

def Appended.response? : Appended → Option Response
  | .response r => some r
  | .event _ => none

def Appended.event? : Appended → Option Event
  | .response _ => none
  | .event e => some e

section Threads
variable {κ : Type} (w : World) (kids : ChildInterface κ) (command : Command) (commandData : Option Payload)
  (token : Token)

def childException (child : κ) (e : Exn) : Response :=
  ⟨kids.name child,some token,some (.stacktrace e),exceptionFlag e,[]⟩

def reportLevel (response : Response) : BroadcastType :=
  if response.flag = .executedSuccessfully then .childCommandExecutionSuccess
  else if response.flag = .notExecutedNotImplemented then .debug else .childCommandExecutionFailed

def reportMessage (child : κ) (response : Response) : String :=
  if response.flag = .executedSuccessfully then
    "Propagated " ++ command.name ++ " to children (" ++ kids.name child ++ ") successfully"
  else "Propagating " ++ command.name ++ " to children (" ++ kids.name child ++ ") failed: " ++
    response.flag.protoName ++ ". See its logs for more information and stacktrace."

def propagateToChild (t : ChildThread κ) : Option (ChildThread κ × List Appended) :=
  match t.pc with
  | .start => some
      ({ t with pc := if (w.broadcast (.childStart t.index)).isSome then .over else .call },
        [.event (.broadcast ("Propagating " ++ command.name ++ " to children (" ++ kids.name t.child ++ ")")
          .childCommandExecutionStart)])
  | .call => some
      (match kids.propagateCommand t.index t.child command commandData token with
        | (.ok response,child) => { t with child := child, pc := .append response }
        | (.error e,child) => { t with child := child, pc := .handle e },
        [.event (.child (kids.name t.child) command commandData)])
  | .append response => some ({ t with pc := .report response },[.response response])
  | .report response => some
      ({ t with pc := match w.broadcast (.childResponse t.index) with | some e => .handle e | none => .over },
        [.event (.broadcast (reportMessage kids command t.child response) (reportLevel response))])
  | .handle e => some ({ t with pc := .reportException e },[.response (childException kids token t.child e)])
  | .reportException e => some
      ({ t with pc := .over },
        [.event (.broadcast ("Failed to propagate " ++ command.name ++ " to " ++ kids.name t.child ++
          " (" ++ kids.name t.child ++ ") EXCEPTION THROWN: " ++ e.text) .childCommandExecutionFailed)])
  | .over => none

def turns : Nat := 6

def childThreads (children : List κ) : List (ChildThread κ) :=
  children.mapIdx fun i child => ⟨i,child,.start⟩

def runChildThreads (children : List κ) : Pool (ChildThread κ) Appended :=
  run (propagateToChild w kids command commandData token)
    (w.schedule ++ join turns (childThreads children).length) ⟨childThreads children,[]⟩

def collected (children : List κ) : List Response :=
  (runChildThreads w kids command commandData token children).log.filterMap Appended.response?

def published (children : List κ) : List Event :=
  (runChildThreads w kids command commandData token children).log.filterMap Appended.event?

def childrenAfter (children : List κ) : List κ :=
  (runChildThreads w kids command commandData token children).threads.map ChildThread.child

def collectedFrom (index : Nat) (child : κ) : List Response :=
  if (w.broadcast (.childStart index)).isSome then []
  else
    let called := kids.propagateCommand index child command commandData token
    match called.1 with
    | .error e => [childException kids token called.2 e]
    | .ok response => match w.broadcast (.childResponse index) with
      | none => [response]
      | some e => [response,childException kids token called.2 e]

def childAfter (index : Nat) (child : κ) : κ :=
  if (w.broadcast (.childStart index)).isSome then child
  else (kids.propagateCommand index child command commandData token).2

theorem threadAlone (index : Nat) (child : κ) :
    (advance (propagateToChild w kids command commandData token) turns ⟨index,child,.start⟩).pc = .over ∧
    (advance (propagateToChild w kids command commandData token) turns ⟨index,child,.start⟩).child =
      childAfter w kids command commandData token index child ∧
    (emitted (propagateToChild w kids command commandData token) turns ⟨index,child,.start⟩).filterMap
      Appended.response? = collectedFrom w kids command commandData token index child := by
  cases started : w.broadcast (.childStart index) with
  | some e =>
    simp [turns,advance,emitted,propagateToChild,started,childAfter,collectedFrom,List.filterMap_cons,
      Appended.response?]
  | none =>
    cases called : kids.propagateCommand index child command commandData token with
    | mk answer after =>
      cases answer with
      | error e =>
        simp [turns,advance,emitted,propagateToChild,started,called,childAfter,collectedFrom,List.filterMap_cons,
          Appended.response?]
      | ok response =>
        cases reported : w.broadcast (.childResponse index) <;>
          simp [turns,advance,emitted,propagateToChild,started,called,reported,childAfter,collectedFrom,
            List.filterMap_cons,Appended.response?]

theorem threadsEnd (children : List κ) : ∀ t ∈ childThreads children, propagateToChild w kids command commandData token
    (advance (propagateToChild w kids command commandData token) turns t) = none := by
  intro t mem
  obtain ⟨i,inside,same⟩ := List.mem_mapIdx.mp mem
  have ended := (threadAlone w kids command commandData token i children[i]).1
  rw [same] at ended
  simp only [propagateToChild,ended]

theorem collectedPerm (children : List κ) :
    (collected w kids command commandData token children).Perm
      (children.mapIdx (collectedFrom w kids command commandData token)).flatten := by
  have log := joinedLog (threadsEnd w kids command commandData token children) w.schedule []
  have responses := log.filterMap Appended.response?
  refine responses.trans (List.Perm.of_eq ?_)
  rw [List.nil_append,List.flatMap_def,List.filterMap_flatten,childThreads]
  congr 1
  apply List.ext_getElem?
  intro i
  simp only [List.getElem?_map,List.getElem?_mapIdx]
  cases children[i]? with
  | none => rfl
  | some child => simp [(threadAlone w kids command commandData token i child).2.2]

theorem childrenAfterEach (children : List κ) :
    childrenAfter w kids command commandData token children =
      children.mapIdx (childAfter w kids command commandData token) := by
  have threads := joinedThreads (threadsEnd w kids command commandData token children) w.schedule []
  unfold childrenAfter runChildThreads
  rw [threads,List.map_map]
  apply List.ext_getElem?
  intro i
  simp only [childThreads,List.getElem?_map,List.getElem?_mapIdx]
  cases children[i]? with
  | none => rfl
  | some child => simp [(threadAlone w kids command commandData token i child).2.1]

end Threads
end Drunc
