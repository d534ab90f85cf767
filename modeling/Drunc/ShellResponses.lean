import Drunc.Messages

/-! What a shell makes of the tree of responses that a command brings back. A node that
did not execute the command comes with a payload that says why; where there is none,
the node and all that is below it are replaced by `None`, whatever is there.
`Outformat` is the type of the payloads that the command gives where it succeeds. -/
namespace Drunc

namespace Response

theorem inductOn {P : Response → Prop} (step : ∀ r : Response, (∀ child ∈ r.children, P child) → P r) (r : Response) : P r :=
  @Response.rec P (fun children => ∀ child ∈ children, P child)
    (fun name token data flag children below => step ⟨name,token,data,flag,children⟩ below)
    (fun _ mem => absurd mem List.not_mem_nil)
    (fun _ _ first rest _ mem => by
      rcases List.mem_cons.mp mem with rfl | mem
      · exact first
      · exact rest _ mem) r

inductive Node : Response → Response → Prop
  | here (r : Response) : Node r r
  | inside {r child node : Response} (mem : child ∈ r.children) (within : Node child node) : Node r node

end Response
open Response (Node)

structure Outformat (δ : Type) where
  name : String
  unpack : Payload → Option δ

inductive DecodedData (δ : Type) where
  | decoded (message : δ)
  | raw (data : Payload)

inductive DecodedResponse (δ : Type) where
  | mk (name : String) (token : Option Token) (flag : ResponseFlag) (data : Option (DecodedData δ))
      (children : List (Option (DecodedResponse δ)))

namespace GRPCDriver
variable {δ : Type}

def unpackAny (outformat : Outformat δ) (data : Option Payload) : Except Exn δ :=
  match data.bind outformat.unpack with
  | none => .error (.unpackingError outformat.name)
  | some message => .ok message

def isServerSideError : Exn → Bool
  | .drunc name _ => name = "DruncServerSideError"
  | _ => false

mutual
def handleResponse (outformat : Outformat δ) : Response → Except Exn (Option (DecodedResponse δ))
  | ⟨name,token,data,flag,children⟩ =>
      if flag = .executedSuccessfully then do
        let message ← unpackAny outformat data
        let decoded ← handleChildren outformat children
        return some (.mk name token flag (some (.decoded message)) decoded)
      else match data with
        | none => .ok none
        -- the text or the stack trace that it reads here goes nowhere
        | some payload => do
          let decoded ← handleChildren outformat children
          return some (.mk name token flag (some (.raw payload)) decoded)
def handleChildren (outformat : Outformat δ) : List Response → Except Exn (List (Option (DecodedResponse δ)))
  | [] => .ok []
  | response :: rest =>
      match handleResponse outformat response with
      | .ok child => do return child :: (← handleChildren outformat rest)
      | .error e => if isServerSideError e then handleChildren outformat rest else .error e
end

mutual
def Mirrored (outformat : Outformat δ) : Response → Option (DecodedResponse δ) → Prop
  | ⟨name,_,data,flag,children⟩, decoded => ∃ token held below, decoded = some (.mk name token flag held below) ∧
      (flag = .executedSuccessfully → ∃ message, data.bind outformat.unpack = some message ∧ held = some (.decoded message)) ∧
      MirroredEach outformat children below
def MirroredEach (outformat : Outformat δ) : List Response → List (Option (DecodedResponse δ)) → Prop
  | [], below => below = []
  | response :: rest, below => ∃ first others, below = first :: others ∧ Mirrored outformat response first ∧
      MirroredEach outformat rest others
end

def Decodable (outformat : Outformat δ) (r : Response) : Prop :=
  ∀ node, Node r node → node.flag = .executedSuccessfully → ∃ message, node.data.bind outformat.unpack = some message

def Explained (r : Response) : Prop := ∀ node, Node r node → node.flag ≠ .executedSuccessfully → node.data ≠ none

section Handle
variable {outformat : Outformat δ} {r child : Response}

theorem decodableInside (decodable : Decodable outformat r) (mem : child ∈ r.children) : Decodable outformat child :=
  fun node within => decodable node (.inside mem within)

theorem explainedParts : Explained r ↔
    (r.flag ≠ .executedSuccessfully → r.data ≠ none) ∧ ∀ child ∈ r.children, Explained child := by
  constructor
  · exact fun all => ⟨all r (.here r),fun child mem node within => all node (.inside mem within)⟩
  · rintro ⟨own,below⟩ node within
    cases within with
    | here => exact own
    | inside mem within => exact below _ mem node within

theorem childrenHandled {children : List Response}
    (each : ∀ child ∈ children, ∃ d, handleResponse outformat child = .ok d ∧ (Mirrored outformat child d ↔ Explained child)) :
    ∃ below, handleChildren outformat children = .ok below ∧
      (MirroredEach outformat children below ↔ ∀ child ∈ children, Explained child) := by
  induction children with
  | nil => exact ⟨[],rfl,by simp [MirroredEach]⟩
  | cons response rest ih =>
    obtain ⟨first,handled,mirrors⟩ := each response List.mem_cons_self
    obtain ⟨others,tail,same⟩ := ih fun child mem => each child (List.mem_cons_of_mem _ mem)
    refine ⟨first :: others,?_,?_⟩
    · rw [handleChildren,handled,tail]
      rfl
    · rw [MirroredEach,List.forall_mem_cons,← mirrors,← same]
      constructor
      · rintro ⟨_,_,⟨⟩,here,there⟩
        exact ⟨here,there⟩
      · rintro ⟨here,there⟩
        exact ⟨first,others,rfl,here,there⟩

theorem handledSucceeded {name : String} {token : Option Token} {data : Option Payload} {children : List Response} {message : δ}
    {below : List (Option (DecodedResponse δ))} (unpacked : data.bind outformat.unpack = some message)
    (handled : handleChildren outformat children = .ok below) :
    handleResponse outformat ⟨name,token,data,.executedSuccessfully,children⟩ =
      .ok (some (.mk name token .executedSuccessfully (some (.decoded message)) below)) := by
  rw [handleResponse.eq_def]
  dsimp only
  rw [if_pos rfl,unpackAny,unpacked,handled]
  rfl

theorem handledFailed {name : String} {token : Option Token} {payload : Payload} {flag : ResponseFlag} {children : List Response}
    {below : List (Option (DecodedResponse δ))} (failed : flag ≠ .executedSuccessfully)
    (handled : handleChildren outformat children = .ok below) :
    handleResponse outformat ⟨name,token,some payload,flag,children⟩ =
      .ok (some (.mk name token flag (some (.raw payload)) below)) := by
  rw [handleResponse,if_neg failed,handled]
  rfl

theorem responseHandled (decodable : Decodable outformat r) :
    ∃ d, handleResponse outformat r = .ok d ∧ (Mirrored outformat r d ↔ Explained r) := by
  induction r using Response.inductOn with
  | step r ih =>
    obtain ⟨below,handled,each⟩ := childrenHandled fun child mem => ih child mem (decodableInside decodable mem)
    obtain ⟨name,token,data,flag,children⟩ := r
    by_cases done : flag = .executedSuccessfully
    · subst done
      obtain ⟨message,unpacked⟩ := decodable _ (.here _) rfl
      refine ⟨_,handledSucceeded unpacked handled,?_⟩
      rw [Mirrored,explainedParts,← each]
      constructor
      · rintro ⟨_,_,_,⟨⟩,_,there⟩
        exact ⟨fun other => absurd rfl other,there⟩
      · rintro ⟨_,there⟩
        exact ⟨token,_,below,rfl,fun _ => ⟨message,unpacked,rfl⟩,there⟩
    · cases data with
      | none =>
        refine ⟨none,by rw [handleResponse,if_neg done],?_⟩
        rw [Mirrored,explainedParts]
        constructor
        · rintro ⟨_,_,_,⟨⟩,_⟩
        · rintro ⟨own,_⟩
          exact absurd rfl (own done)
      | some payload =>
        refine ⟨_,handledFailed done handled,?_⟩
        rw [Mirrored,explainedParts,← each]
        constructor
        · rintro ⟨_,_,_,⟨⟩,_,there⟩
          exact ⟨fun _ => Option.some_ne_none _,there⟩
        · rintro ⟨_,there⟩
          exact ⟨token,_,below,rfl,fun same => absurd same done,there⟩

theorem mirroredIff (decodable : Decodable outformat r) :
    (∃ d, handleResponse outformat r = .ok d ∧ Mirrored outformat r d) ↔ Explained r := by
  obtain ⟨d,handled,mirrors⟩ := responseHandled decodable
  rw [← mirrors,handled]
  constructor
  · rintro ⟨_,⟨⟩,same⟩
    exact same
  · exact fun same => ⟨d,rfl,same⟩

end Handle
end GRPCDriver

namespace Sample
open GRPCDriver

def textFormat : Outformat String := ⟨"PlainText",fun data => match data with
  | .plainText text => some text
  | _ => none⟩

/-- What a controller and a child without a server of its own answer to `take_control`. -/
def takenReply (name : String) (children : List Response) : Response :=
  ⟨name,some ⟨"user-token","user"⟩,some (.plainText "user took control"),.executedSuccessfully,children⟩

def ignoredReply : Response := ⟨"local-app",some ⟨"user-token","user"⟩,none,.notExecutedNotImplemented,[]⟩

theorem takenDecodable {name : String} {children : List Response} (each : ∀ child ∈ children, Decodable textFormat child) :
    Decodable textFormat (takenReply name children) := by
  intro node within done
  cases within with
  | here => exact ⟨_,rfl⟩
  | inside mem below => exact each _ mem node below done

theorem ignoredDecodable : Decodable textFormat ignoredReply := by
  intro node within done
  cases within with
  | here => contradiction
  | inside mem below => exact absurd mem List.not_mem_nil

theorem textMirrored : ∃ d, handleResponse textFormat (takenReply "root-controller" [takenReply "sub-controller" []]) = .ok d ∧
    Mirrored textFormat (takenReply "root-controller" [takenReply "sub-controller" []]) d := by
  have leaf : Explained (takenReply "sub-controller" []) :=
    explainedParts.mpr ⟨fun failed => absurd rfl failed,fun _ mem => absurd mem List.not_mem_nil⟩
  refine (mirroredIff (takenDecodable fun child mem => ?_)).mpr (explainedParts.mpr ⟨fun failed => absurd rfl failed,fun child mem => ?_⟩)
  · rw [List.mem_singleton.mp mem]
    exact takenDecodable fun _ mem => absurd mem List.not_mem_nil
  · rw [List.mem_singleton.mp mem]
    exact leaf

theorem childDropped : Decodable textFormat (takenReply "root-controller" [ignoredReply]) ∧
    ¬ ∃ d, handleResponse textFormat (takenReply "root-controller" [ignoredReply]) = .ok d ∧
      Mirrored textFormat (takenReply "root-controller" [ignoredReply]) d := by
  have decodable : Decodable textFormat (takenReply "root-controller" [ignoredReply]) :=
    takenDecodable fun child mem => by
      rw [List.mem_singleton.mp mem]
      exact ignoredDecodable
  refine ⟨decodable,?_⟩
  rintro ⟨d,handled,mirrored⟩
  obtain ⟨again,same,explained⟩ := responseHandled decodable
  cases handled.symm.trans same
  exact explained.mp mirrored _ (.inside List.mem_cons_self (.here _)) (by decide) rfl

end Sample
end Drunc
