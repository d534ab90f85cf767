import Drunc.ProcessHistory

/-! What a query selects. A field of a query that is not set is read as an empty string,
and compared with metadata that may be empty, too: a process without a session, or
without a user, is selected by every query that leaves the same field open. -/
namespace Drunc
open Library (Dict)
open Library.Act

namespace SSHProcessManager

theorem sameField {asked kept : String} :
    asked = kept ↔ (asked ≠ "" ∧ asked = kept) ∨ (asked = "" ∧ kept = "") := by
  constructor
  · rintro rfl
    by_cases unset : asked = ""
    · exact .inr ⟨unset,unset⟩
    · exact .inl ⟨unset,rfl⟩
  · rintro (⟨_,same⟩ | ⟨rfl,rfl⟩)
    · exact same
    · rfl

variable [Re]

def candidates (pm : SSHProcessManager) (inBootRequest : Bool) : List String :=
  if inBootRequest then pm.bootRequest.keys else pm.processStore.keys

def found (nameReg name : String) : Bool := (Re.compile nameReg).any (·.reSearch name)

def compiles (query : ProcessQuery) : Bool := query.names.all fun nameReg => (Re.compile nameReg).isSome

/-- The process is listed by its uuid, or by a part of its name, or it is in the session
or of the user that the query asks for. -/
def Names (query : ProcessQuery) (uuid : String) (metadata : ProcessMetadata) : Prop :=
  uuid ∈ query.uuids ∨ (∃ nameReg ∈ query.names, found nameReg metadata.name = true) ∨
  (query.session ≠ "" ∧ query.session = metadata.session) ∨ (query.user ≠ "" ∧ query.user = metadata.user)

def SelectsNamed (query : ProcessQuery) (inBootRequest : Bool) (pm : SSHProcessManager) : Prop :=
  ∃ selected, (getProcessUid query inBootRequest pm).result = .ok selected ∧ selected.Nodup ∧
    ∀ uuid, uuid ∈ selected ↔ uuid ∈ pm.candidates inBootRequest ∧
      ∃ request, pm.bootRequest.get? uuid = some request ∧ Names query uuid request.processDescription.metadata

def LeftOpen (query : ProcessQuery) (metadata : ProcessMetadata) : Prop :=
  (query.session = "" ∧ metadata.session = "") ∨ (query.user = "" ∧ metadata.user = "")

def Unmistaken (query : ProcessQuery) (inBootRequest : Bool) (pm : SSHProcessManager) : Prop :=
  (compiles query = true ∨ pm.candidates inBootRequest = []) ∧
  ∀ uuid ∈ pm.candidates inBootRequest, ∀ request, pm.bootRequest.get? uuid = some request →
    LeftOpen query request.processDescription.metadata → Names query uuid request.processDescription.metadata

section Select
variable {query : ProcessQuery} {uuid : String} {uuids : List String} {metadata : ProcessMetadata}
  {pm : SSHProcessManager}

def accepts (query : ProcessQuery) (uuid : String) (metadata : ProcessMetadata) : Bool :=
  decide (uuid ∈ query.uuids) || query.names.any (found · metadata.name) ||
    query.session == metadata.session || query.user == metadata.user

theorem anyFoundCompiled {name : String} {names : List String}
    (all : names.all (fun nameReg => (Re.compile nameReg).isSome) = true) :
    anyFound name names = .ok (names.any (found · name)) := by
  induction names with
  | nil => rfl
  | cons nameReg rest ih =>
    simp only [List.all_cons,Bool.and_eq_true] at all
    obtain ⟨pattern,compiled⟩ := Option.isSome_iff_exists.mp all.1
    simp only [anyFound,compiled,ih all.2,List.any_cons,found,Option.any_some]
    rfl

theorem anyFoundBroken {name : String} {names : List String}
    (broken : names.all (fun nameReg => (Re.compile nameReg).isSome) = false) :
    ∃ e, anyFound name names = .error e := by
  induction names with
  | nil => contradiction
  | cons nameReg rest ih =>
    cases compiled : Re.compile nameReg with
    | none => exact ⟨.reError nameReg,by simp only [anyFound,compiled]⟩
    | some pattern =>
      simp only [List.all_cons,compiled,Option.isSome_some,Bool.true_and] at broken
      obtain ⟨e,raised⟩ := ih broken
      exact ⟨e,by simp only [anyFound,compiled,raised]; rfl⟩

theorem acceptedCompiled (all : compiles query = true) : accepted query uuid metadata = .ok (accepts query uuid metadata) := by
  unfold accepted
  rw [anyFoundCompiled all]
  rfl

theorem acceptsIff : accepts query uuid metadata = true ↔ Names query uuid metadata ∨ LeftOpen query metadata := by
  simp only [accepts,Bool.or_eq_true,decide_eq_true_eq,List.any_eq_true,beq_iff_eq,Names,LeftOpen]
  constructor
  · rintro (((listed | named) | session) | user)
    · exact .inl (.inl listed)
    · exact .inl (.inr (.inl named))
    · exact (sameField.mp session).imp (fun set => .inr (.inr (.inl set))) .inl
    · exact (sameField.mp user).imp (fun set => .inr (.inr (.inr set))) .inr
  · rintro ((listed | named | session | user) | session | user)
    · exact .inl (.inl (.inl listed))
    · exact .inl (.inl (.inr named))
    · exact .inl (.inr session.2)
    · exact .inr user.2
    · exact .inl (.inr (sameField.mpr (.inr session)))
    · exact .inr (sameField.mpr (.inr user))

def selects (query : ProcessQuery) (pm : SSHProcessManager) (uuid : String) : Bool :=
  (pm.bootRequest.get? uuid).any fun request => accepts query uuid request.processDescription.metadata

theorem selectCompiled (all : compiles query = true) (known : ∀ uuid ∈ uuids, uuid ∈ pm.bootRequest.keys) :
    (selectAmong query uuids pm).result = .ok (uuids.filter (selects query pm)) := by
  induction uuids with
  | nil => rfl
  | cons uuid rest ih =>
    obtain ⟨request,stored⟩ := Dict.memKeys.mp (known uuid List.mem_cons_self)
    have others := ih fun other mem => known other (List.mem_cons_of_mem _ mem)
    have chosen : selects query pm uuid = accepts query uuid request.processDescription.metadata := by
      simp only [selects,stored,Option.any_some]
    unfold selectAmong
    rw [bindOk (a := request) (by rw [lookupFound stored]),lookupFound stored,acceptedCompiled all,afterResult,
      liftOkBind,bindOk others,afterResult,List.filter_cons,chosen]
    rfl

theorem selectBroken (uuids : List String) (broken : compiles query = false) (known : uuid ∈ pm.bootRequest.keys) :
    ∃ e, (selectAmong query (uuid :: uuids) pm).result = .error e := by
  obtain ⟨request,stored⟩ := Dict.memKeys.mp known
  obtain ⟨e,raised⟩ : ∃ e, anyFound request.processDescription.metadata.name query.names = .error e := anyFoundBroken broken
  have refused : accepted query uuid request.processDescription.metadata = .error e := by
    unfold accepted
    rw [raised]
    rfl
  unfold selectAmong
  rw [bindOk (a := request) (by rw [lookupFound stored]),lookupFound stored,refused]
  exact ⟨e,rfl⟩

end Select

theorem selectsNamedIff {pm : SSHProcessManager} (recorded : Recorded pm) (query : ProcessQuery) (inBootRequest : Bool) :
    SelectsNamed query inBootRequest pm ↔ Unmistaken query inBootRequest pm := by
  have known : ∀ uuid ∈ pm.candidates inBootRequest, uuid ∈ pm.bootRequest.keys := by
    cases inBootRequest
    · exact recorded
    · exact fun _ mem => mem
  have run : getProcessUid query inBootRequest pm = selectAmong query (pm.candidates inBootRequest) pm := rfl
  have distinct : (pm.candidates inBootRequest).Nodup := by
    cases inBootRequest
    · exact pm.processStore.distinct
    · exact pm.bootRequest.distinct
  unfold SelectsNamed Unmistaken
  rw [run]
  cases all : compiles query with
  | true =>
    rw [selectCompiled all known]
    constructor
    · rintro ⟨selected,same,_,exactly⟩
      refine ⟨.inl rfl,fun uuid mem request stored isOpen => ?_⟩
      obtain rfl : (pm.candidates inBootRequest).filter (selects query pm) = selected := by simpa using same
      have chosen : uuid ∈ (pm.candidates inBootRequest).filter (selects query pm) :=
        List.mem_filter.mpr ⟨mem,by simp only [selects,stored,Option.any_some,acceptsIff]; exact .inr isOpen⟩
      obtain ⟨_,other,again,names⟩ := (exactly uuid).mp chosen
      obtain rfl : request = other := Option.some.inj (stored.symm.trans again)
      exact names
    · rintro ⟨_,unmistaken⟩
      refine ⟨_,rfl,distinct.filter _,fun uuid => ?_⟩
      rw [List.mem_filter]
      refine and_congr_right fun mem => ?_
      obtain ⟨request,stored⟩ := Dict.memKeys.mp (known uuid mem)
      simp only [selects,stored,Option.any_some,acceptsIff,Option.some.injEq,exists_eq_left']
      exact ⟨fun chosen => chosen.elim id (unmistaken uuid mem request stored),.inl⟩
  | false =>
    cases few : pm.candidates inBootRequest with
    | nil => exact ⟨fun _ => ⟨.inr rfl,by simp⟩,fun _ => ⟨[],rfl,List.nodup_nil,by simp⟩⟩
    | cons uuid rest =>
      obtain ⟨e,raised⟩ := selectBroken rest all (known uuid (by simp [few]))
      rw [raised]
      constructor
      · rintro ⟨_,same,_⟩
        contradiction
      · rintro ⟨bad,_⟩
        simp at bad

theorem historySelectsNamedIff (name : String) (history : List ManagerRound) (query : ProcessQuery) (inBootRequest : Bool) :
    SelectsNamed query inBootRequest (serveAll (started name) history) ↔
      Unmistaken query inBootRequest (serveAll (started name) history) :=
  selectsNamedIff (serveAllRecorded name history) query inBootRequest

end SSHProcessManager

namespace Sample

def looseRequest : BootRequest :=
  ⟨⟨⟨"app","user","","","0"⟩,[],[⟨"daq_application",[]⟩],"/tmp","/tmp/log"⟩,⟨["host"]⟩⟩

def looseRound : ManagerRound := { bootRound with request := ⟨user,some (.bootRequest looseRequest)⟩ }

def emptyQuery : ProcessQuery := ⟨[],"","",[]⟩

end Sample

open Sample in
theorem emptyQueryKills :
    ¬ SSHProcessManager.SelectsNamed emptyQuery false (SSHProcessManager.serveAll (.started "manager") [looseRound]) ∧
    (SSHProcessManager.serveAll (.started "manager") [looseRound]).processStore.keys = ["uuid-1"] ∧
    (SSHProcessManager.serveAll (.started "manager") [looseRound,killRound emptyQuery]).processStore.keys = [] := by
  refine ⟨fun ⟨selected,same,_,exactly⟩ => ?_,by decide,by decide⟩
  obtain rfl : ["uuid-1"] = selected := by
    have run : (SSHProcessManager.getProcessUid emptyQuery false
      (SSHProcessManager.serveAll (.started "manager") [looseRound])).result = .ok ["uuid-1"] := rfl
    simpa [run] using same
  obtain ⟨_,request,_,names⟩ := (exactly "uuid-1").mp (by simp)
  simp [SSHProcessManager.Names,emptyQuery] at names

end Drunc
