import Drunc.Matching
import Drunc.Coverage

/-! The record that a parent keeps of a child without a server: the assumed state, the mark
of a command under way, and the error. `Kept` is what one command should make of it. The
mark is cleared only on the path of success, so that every failure of an application
leaves it; without an application a transition that the assumed state does not offer is
reported as executed and leaves no assumed state at all. -/
namespace Drunc
open Library (Outcome)
open Library.Act

def Application.Succeeds (app : Application) : Prop :=
  app.send = none ∧ ∃ r, app.reply = .ok r ∧ r.success = some true

namespace ClientSideChild

def following (name : String) (fsm : FSM) (state : String) (marked included errored : Bool) : ClientSideChild :=
  { name, fsm := some fsm, state := ⟨marked,some state,included,errored⟩ }

def ReportsSuccess (o : Outcome Event Exn ClientSideChild Response) : Prop :=
  ∃ r name text, o.result = .ok r ∧ r.data = some (.fsmCommandResponse ⟨.fsmExecutedSuccessfully,name,text⟩)

def Refuses (child : ClientSideChild) (o : Outcome Event Exn ClientSideChild Response) : Prop :=
  (∃ e, o.result = .error e) ∧ o.state = child

theorem exchangeSucceedsIff (app : Application) (data : JsonText) (entryState exitState : String) :
    (∃ r, exchange app data (some entryState) (some exitState) = .ok (r,true)) ↔
      app.Succeeds ∧ ∃ document, loads data = .ok document := by
  unfold exchange Application.Succeeds
  cases loads data with
  | error e => simp [bind,Except.bind]
  | ok document =>
    cases app.send with
    | some e => simp [bind,Except.bind]
    | none =>
      cases app.reply with
      | error e => simp [bind,Except.bind]
      | ok r =>
        obtain ⟨success,result,text⟩ := r
        cases success with
        | none => simp [bind,Except.bind]
        | some answer => cases answer <;> cases result <;> simp [bind,Except.bind]

variable [Re]

structure Kept (fsm : FSM) (state commandName : String) (succeeded : Prop) (child : ClientSideChild)
    (o : Outcome Event Exn ClientSideChild Response) : Prop where
  success : ReportsSuccess o → succeeded ∧ ∃ t, fsm.getTransition commandName = .ok t ∧ t.Executable state ∧
    o.state.state.assumedOperationalState = some (t.target state)
  failure : ¬ ReportsSuccess o → o.state.state.assumedOperationalState = some state ∧
    (o.state.state.errored = true ∨ Refuses child o)
  unmarked : o.state.state.executingCommand = false
  assumes : o.state.state.assumedOperationalState ≠ none

def Offers (fsm : FSM) (state commandName : String) : Prop :=
  ∃ t, fsm.getTransition commandName = .ok t ∧ t.Executable state

def Unusable (fsm : FSM) (commandName : String) : Prop :=
  ∀ t, fsm.getTransition commandName = .ok t → ¬ Valid t.source

section Command
variable {name : String} {fsm : FSM} {state : String} {marked included errored : Bool} {fsmCommand : FSMCommand}
  {token : Token} {app : Application}

theorem expectsCases (name : String) (fsm : FSM) (state : String) (marked included errored : Bool) (fsmCommand : FSMCommand) :
    (∃ t, fsm.getTransition fsmCommand.commandName = .ok t ∧ t.Executable state ∧
      (following name fsm state marked included errored).Expects fsmCommand (some (t.target state))) ∨
    (¬ Offers fsm state fsmCommand.commandName ∧ ¬ Unusable fsm fsmCommand.commandName ∧
      (following name fsm state marked included errored).Expects fsmCommand none) ∨
    (¬ Offers fsm state fsmCommand.commandName ∧ Unusable fsm fsmCommand.commandName ∧ ∃ e, ∀ app token,
      propagateFsmCommand fsmCommand token (following name fsm state marked included errored) =
        ⟨.error e,following name fsm state marked included errored,[]⟩ ∧
      propagateToApplication app fsmCommand token (following name fsm state marked included errored) =
        ⟨.error e,following name fsm state marked included errored,[]⟩) := by
  unfold Offers Unusable
  cases found : fsm.getTransition fsmCommand.commandName with
  | error e =>
    refine .inr (.inr ⟨by simp,by simp,?_⟩)
    rcases expectsOrRaises (following name fsm state marked included errored) fsmCommand with ⟨_,_,t,same,here,_⟩ | raises
    · cases same
      rw [found] at here
      contradiction
    · exact raises
  | ok t =>
    have leads : fsm.getDestinationState (some state) t = _ := destinationFollows (gotTransition found).1
    rcases canExecuteCases t state with ⟨can,run,executable,valid⟩ | ⟨run,not,invalid⟩
    · rw [run] at leads
      cases can with
      | true => exact .inl ⟨t,rfl,executable.mpr rfl,⟨fsm,t,rfl,found,leads⟩⟩
      | false =>
        exact .inr (.inl ⟨by simpa using executable,fun unusable => unusable t rfl valid,⟨fsm,t,rfl,found,leads⟩⟩)
    · refine .inr (.inr ⟨by simpa using not,by simpa using invalid,?_⟩)
      rcases expectsOrRaises (following name fsm state marked included errored) fsmCommand with ⟨_,_,u,same,here,there⟩ | raises
      · cases same
        obtain rfl : t = u := by simpa [found] using here
        rw [run] at leads
        exact nomatch leads.symm.trans there
      · exact raises

theorem keptSuccess {succeeded : Prop} {t : Transition} {child after : ClientSideChild} {text : Option String}
    (holds : succeeded) (found : fsm.getTransition fsmCommand.commandName = .ok t) (executable : t.Executable state)
    (assumed : after.state.assumedOperationalState = some (t.target state)) (unmarked : after.state.executingCommand = false) :
    Kept fsm state fsmCommand.commandName succeeded child
      ⟨.ok (child.fsmResponse token fsmCommand .fsmExecutedSuccessfully text),after,[]⟩ where
  success _ := ⟨holds,t,found,executable,assumed⟩
  failure silent := absurd ⟨_,_,_,rfl,rfl⟩ silent
  unmarked := unmarked
  assumes none := by
    rw [assumed] at none
    contradiction

theorem keptRefused {succeeded : Prop} (e : Exn) :
    Kept fsm state fsmCommand.commandName succeeded (following name fsm state marked included errored)
      ⟨.error e,following name fsm state marked included errored,[]⟩ ↔ marked = false := by
  constructor
  · exact fun kept => kept.unmarked
  · intro clear
    refine ⟨fun ⟨_,_,_,replied,_⟩ => ?_,fun _ => ⟨rfl,.inr ⟨⟨e,rfl⟩,rfl⟩⟩,clear,nofun⟩
    contradiction

theorem offersUsable (offers : Offers fsm state fsmCommand.commandName) : ¬ Unusable fsm fsmCommand.commandName := by
  obtain ⟨t,found,executable⟩ := offers
  obtain ⟨pattern,compiled,_⟩ := executableIff.mp executable
  exact fun unusable => unusable t found ⟨pattern,compiled⟩

theorem clientSideKeptIff :
    Kept fsm state fsmCommand.commandName True (following name fsm state marked included errored)
      (propagateFsmCommand fsmCommand token (following name fsm state marked included errored)) ↔
    Offers fsm state fsmCommand.commandName ∨ (Unusable fsm fsmCommand.commandName ∧ marked = false) := by
  rcases expectsCases name fsm state marked included errored fsmCommand with
    ⟨t,found,executable,expects⟩ | ⟨offered,usable,expects⟩ | ⟨offered,unusable,e,raises⟩
  · rw [clientSideRuns expects]
    exact iff_of_true (keptSuccess trivial found executable rfl rfl) (.inl ⟨t,found,executable⟩)
  · rw [clientSideRuns expects]
    exact iff_of_false (fun kept => kept.assumes rfl) (by simp [offered,usable])
  · rw [(raises ⟨none,.error e,false⟩ token).1,keptRefused]
    simp [offered,unusable]

theorem applicationKeptIff :
    Kept fsm state fsmCommand.commandName app.Succeeds (following name fsm state marked included errored)
      (propagateToApplication app fsmCommand token (following name fsm state marked included errored)) ↔
    (Offers fsm state fsmCommand.commandName ∧ app.Succeeds ∧ ∃ document, loads fsmCommand.data = .ok document) ∨
      (Unusable fsm fsmCommand.commandName ∧ marked = false) := by
  rcases expectsCases name fsm state marked included errored fsmCommand with
    ⟨t,found,executable,expects⟩ | ⟨offered,usable,expects⟩ | ⟨offered,unusable,e,raises⟩
  · have offers : Offers fsm state fsmCommand.commandName := ⟨t,found,executable⟩
    rw [applicationRuns expects]
    have succeeds := exchangeSucceedsIff app fsmCommand.data state (t.target state)
    simp only [following,offers,offersUsable offers,true_and,false_and,or_false]
    rw [← succeeds]
    cases exchanged : exchange app fsmCommand.data (some state) (some (t.target state)) with
    | error e => exact iff_of_false (fun kept => nomatch kept.unmarked) (by simp)
    | ok answer =>
      obtain ⟨r,success⟩ := answer
      cases success with
      | false => exact iff_of_false (fun kept => nomatch kept.unmarked) (by simp)
      | true => exact iff_of_true (keptSuccess (succeeds.mp ⟨r,exchanged⟩).1 found executable rfl rfl) ⟨r,rfl⟩
  · rw [applicationRuns expects]
    have raises : ∃ e, exchange app fsmCommand.data (some state) none = .error e := by
      unfold exchange
      cases loads fsmCommand.data <;> exact ⟨_,rfl⟩
    obtain ⟨e,raises⟩ := raises
    simp only [following,raises]
    exact iff_of_false (fun kept => nomatch kept.unmarked) (by simp [offered,usable])
  · rw [(raises app token).2,keptRefused]
    simp [offered,unusable]

end Command

theorem recordKeptIff (name : String) (fsm : FSM) (state : String) (marked included errored : Bool) (fsmCommand : FSMCommand)
    (token : Token) (app : Application) :
    (Kept fsm state fsmCommand.commandName True (following name fsm state marked included errored)
        (propagateFsmCommand fsmCommand token (following name fsm state marked included errored)) ↔
      Offers fsm state fsmCommand.commandName ∨ (Unusable fsm fsmCommand.commandName ∧ marked = false)) ∧
    (Kept fsm state fsmCommand.commandName app.Succeeds (following name fsm state marked included errored)
        (propagateToApplication app fsmCommand token (following name fsm state marked included errored)) ↔
      (Offers fsm state fsmCommand.commandName ∧ app.Succeeds ∧ ∃ document, loads fsmCommand.data = .ok document) ∨
        (Unusable fsm fsmCommand.commandName ∧ marked = false)) :=
  ⟨clientSideKeptIff,applicationKeptIff⟩

end ClientSideChild

open Sample in
theorem failureLeavesMark :
    (∃ r, (ClientSideChild.propagateFsmCommand confCommand user (.following "app" fsm "configured" false true false)).result =
        .ok r ∧ r.succeeded = true) ∧
    (ClientSideChild.propagateFsmCommand confCommand user
      (.following "app" fsm "configured" false true false)).state.state.assumedOperationalState = none ∧
    (ClientSideChild.propagateToApplication refusing ⟨"conf",.empty,[],orEmpty .empty⟩ user
      (.following "app" fsm "initial" false true false)).state.state.executingCommand = true ∧
    ¬ ClientSideChild.Kept fsm "configured" "conf" True (.following "app" fsm "configured" false true false)
      (ClientSideChild.propagateFsmCommand confCommand user (.following "app" fsm "configured" false true false)) ∧
    ¬ ClientSideChild.Kept fsm "initial" "conf" refusing.Succeeds (.following "app" fsm "initial" false true false)
      (ClientSideChild.propagateToApplication refusing ⟨"conf",.empty,[],orEmpty .empty⟩ user
        (.following "app" fsm "initial" false true false)) :=
  ⟨⟨_,rfl,rfl⟩,rfl,rfl,fun kept => kept.assumes rfl,fun kept => nomatch kept.unmarked⟩

end Drunc
