import Drunc.Matching
import Drunc.Controller

/-! How the FSM describes itself. Without a name it tells which transitions the current
state offers; for the name of a state it goes by another rule and compares the name with
the text of each source and with the name of each transition, so that one may be told
twice. The transitions have different names, so a description tells which ones they are. -/
namespace Drunc
open Library (boundOk)
open Library.Act

section Lists
variable {α β : Type}

theorem mapInjOn {f : α → β} {xs ys : List α} (inj : ∀ x ∈ xs, ∀ y ∈ ys, f x = f y → x = y) (same : xs.map f = ys.map f) :
    xs = ys := by
  induction xs generalizing ys with
  | nil => exact (List.map_eq_nil_iff.mp same.symm).symm
  | cons x rest ih =>
    cases ys with
    | nil => contradiction
    | cons y others =>
      obtain ⟨first,later⟩ := List.cons.inj same
      obtain rfl := inj x List.mem_cons_self y List.mem_cons_self first
      rw [ih (fun u hu v hv => inj u (List.mem_cons_of_mem _ hu) v (List.mem_cons_of_mem _ hv)) later]

theorem flatMapFilterIff [DecidableEq α] {xs : List α} {f : α → List α} {p : α → Bool} (nodup : xs.Nodup)
    (own : ∀ x, ∀ y ∈ f x, y = x) : xs.flatMap f = xs.filter p ↔ ∀ x ∈ xs, f x = if p x then [x] else [] := by
  induction xs with
  | nil => simp
  | cons a rest ih =>
    obtain ⟨fresh,nodup⟩ := List.nodup_cons.mp nodup
    have head : (a :: rest).filter p = (if p a then [a] else []) ++ rest.filter p := by
      rw [List.filter_cons]
      split <;> rfl
    rw [List.flatMap_cons,head,List.forall_mem_cons,← ih nodup]
    constructor
    · intro same
      -- only the first part of either list holds `a`
      have mine : (f a).filter (· == a) = f a := List.filter_eq_self.mpr fun y mem => by simp [own a y mem]
      have others : (rest.flatMap f).filter (· == a) = [] := List.filter_eq_nil_iff.mpr fun y mem => by
        obtain ⟨x,inside,here⟩ := List.mem_flatMap.mp mem
        rw [own x y here]
        exact fun same => fresh (beq_iff_eq.mp same ▸ inside)
      have rests : (rest.filter p).filter (· == a) = [] := List.filter_eq_nil_iff.mpr fun y mem same =>
        fresh (beq_iff_eq.mp same ▸ (List.mem_filter.mp mem).1)
      have first : f a = if p a then [a] else [] := by
        have cut := congrArg (List.filter (· == a)) same
        rw [List.filter_append,List.filter_append,mine,others,rests,List.append_nil,List.append_nil] at cut
        rw [cut]
        split <;> simp
      exact ⟨first,List.append_cancel_left (first ▸ same)⟩
    · rintro ⟨first,rest⟩
      rw [first,rest]

theorem spelledOnce {a : α} {p q : Prop} [Decidable p] [Decidable q] {chosen : Bool} :
    (if p then [a] else []) ++ (if q then [a] else []) = (if chosen then [a] else []) ↔
      (chosen = true ↔ p ∨ q) ∧ ¬ (p ∧ q) := by
  by_cases first : p <;> by_cases second : q <;> cases chosen <;> simp [first,second]

theorem convertInj {fsm : FSM} {transitions others : List Transition} (listed : ∀ t ∈ transitions, t ∈ fsm.transitions)
    (told : ∀ t ∈ others, t ∈ fsm.transitions) (same : convertFsmTransition transitions = convertFsmTransition others) :
    transitions = others := by
  refine mapInjOn (fun t ht u hu same => ?_) same
  exact List.inj_on_of_nodup_map fsm.unique (listed t ht) (told u hu) (congrArg FSMCommandDescription.name same)

end Lists

namespace Controller
variable {κ : Type} [Re]

def inState (c : Controller κ) (state : String) : Controller κ :=
  { c with statefulNode := { c.statefulNode with operationalState := some state } }

def DescribesState (c : Controller κ) (current state : String) : Prop :=
  (describeFsm state (c.inState current)).result = (describeFsm "" (c.inState state)).result

def SpelledOut (fsm : FSM) (current state : String) : Prop :=
  if state = "" then
    (∃ t ∈ fsm.transitions, ¬ Valid t.source) ∨ ∀ t ∈ fsm.transitions, (t.Executable current ↔ t.Executable "")
  else (∀ t ∈ fsm.transitions, Valid t.source) ∧ ∀ t ∈ fsm.transitions,
    if state = "all-transitions" then t.Executable state
    else (t.Executable state ↔ state = t.source ∨ state = t.name) ∧ ¬ (state = t.source ∧ state = t.name)

section Describe
variable {fsm : FSM}

theorem executableAmongBroken {transitions : List Transition} (broken : ∃ t ∈ transitions, ¬ Valid t.source) :
    ∃ e, ∀ state, StatefulNode.executableAmong (some state) transitions = .error e := by
  induction transitions with
  | nil => simp at broken
  | cons t rest ih =>
    by_cases valid : Valid t.source
    · obtain ⟨e,raises⟩ := ih (by simpa [valid] using broken)
      refine ⟨e,fun state => ?_⟩
      rw [StatefulNode.executableAmong,raises]
      rcases canExecuteCases t state with ⟨can,run,_⟩ | ⟨_,_,invalid⟩
      · rw [run]
        rfl
      · exact absurd valid invalid
    · refine ⟨.reError t.source,fun state => ?_⟩
      rcases canExecuteCases t state with ⟨_,_,_,other⟩ | ⟨run,_⟩
      · exact absurd other valid
      · rw [StatefulNode.executableAmong,run]
        rfl

theorem transitionsSpelledOut (n : StatefulNode) {key : String} (all : key ≠ "all-transitions") (named : key ≠ "") :
    transitionsOf n key = .ok (n.fsm.transitions.flatMap fun t =>
      (if key = t.source then [t] else []) ++ (if key = t.name then [t] else [])) := by
  rw [transitionsOf,if_neg all,if_neg named]
  rfl

theorem filtersAgree {transitions : List Transition} {current state : String} :
    (transitions.filter fun t => t.executable current) = (transitions.filter fun t => t.executable state) ↔
      ∀ t ∈ transitions, (t.Executable current ↔ t.Executable state) := by
  simp only [← executableTrue,← Bool.eq_iff_iff]
  constructor
  · intro same t mem
    have kept : t ∈ transitions.filter (fun t => t.executable current) ↔ t ∈ transitions.filter (fun t => t.executable state) :=
      same ▸ Iff.rfl
    simpa [List.mem_filter,mem,← Bool.eq_iff_iff] using kept
  · exact fun same => List.filter_congr same

theorem unnamedTransitions (n : StatefulNode) (state : String) :
    transitionsOf { n with operationalState := some state } "" =
      StatefulNode.executableAmong (some state) n.fsm.transitions := rfl

theorem answersAgreeValid (n : StatefulNode) (current state : String) (valid : ∀ t ∈ n.fsm.transitions, Valid t.source) :
    transitionsOf { n with operationalState := some current } state =
      transitionsOf { n with operationalState := some state } "" ↔ SpelledOut n.fsm current state := by
  have offered : ∀ current, StatefulNode.executableAmong (some current) n.fsm.transitions =
      .ok (n.fsm.transitions.filter fun t => t.executable current) :=
    fun _ => (executableAmongIff _ _).mpr ⟨valid,rfl⟩
  have compiled : ¬ ∃ t ∈ n.fsm.transitions, ¬ Valid t.source := by simpa using valid
  rw [unnamedTransitions n state,SpelledOut,offered state]
  by_cases empty : state = ""
  · subst empty
    rw [unnamedTransitions n current,offered current,if_pos rfl,Except.ok.injEq,filtersAgree]
    simp [compiled]
  rw [if_neg empty,and_iff_right valid]
  by_cases all : state = "all-transitions"
  · subst all
    rw [transitionsOf,if_pos rfl,Except.ok.injEq,eq_comm]
    simp [StatefulNode.getAllFsmTransitions,executableTrue]
  · rw [transitionsSpelledOut _ all empty,Except.ok.injEq,flatMapFilterIff (n.fsm.unique.of_map _) fun t u mem => ?_]
    · refine forall₂_congr fun t _ => ?_
      rw [if_neg all,spelledOnce,executableTrue]
    · rcases List.mem_append.mp mem with mem | mem <;> exact (List.mem_ite_nil_right.mp mem).2 |> List.mem_singleton.mp

theorem answersAgreeBroken (n : StatefulNode) (current state : String) (broken : ∃ t ∈ n.fsm.transitions, ¬ Valid t.source) :
    transitionsOf { n with operationalState := some current } state =
      transitionsOf { n with operationalState := some state } "" ↔ SpelledOut n.fsm current state := by
  obtain ⟨e,raises⟩ := executableAmongBroken broken
  have invalid : ¬ ∀ t ∈ n.fsm.transitions, Valid t.source := by simpa using broken
  rw [unnamedTransitions n state,SpelledOut,raises state]
  by_cases empty : state = ""
  · subst empty
    rw [unnamedTransitions n current,raises current,if_pos rfl]
    simp [broken]
  · rw [if_neg empty]
    simp only [invalid,false_and,iff_false]
    rw [transitionsOf,if_neg empty]
    split <;> simp

theorem answersAgreeIff (n : StatefulNode) (current state : String) :
    transitionsOf { n with operationalState := some current } state =
      transitionsOf { n with operationalState := some state } "" ↔ SpelledOut n.fsm current state := by
  by_cases valid : ∀ t ∈ n.fsm.transitions, Valid t.source
  · exact answersAgreeValid n current state valid
  · exact answersAgreeBroken n current state (by simpa using valid)

theorem answersListed {n : StatefulNode} {current key : String} {transitions : List Transition}
    (told : transitionsOf { n with operationalState := some current } key = .ok transitions) :
    ∀ t ∈ transitions, t ∈ n.fsm.transitions := by
  intro t mem
  by_cases empty : key = ""
  · subst empty
    have offered : StatefulNode.executableAmong (some current) n.fsm.transitions = .ok transitions := told
    rw [((executableAmongIff _ _).mp offered).2] at mem
    exact (List.mem_filter.mp mem).1
  · by_cases all : key = "all-transitions"
    · rw [transitionsOf,if_pos all,Except.ok.injEq] at told
      rw [← told] at mem
      exact mem
    · rw [transitionsSpelledOut _ all empty,Except.ok.injEq] at told
      obtain ⟨u,listed,here⟩ := List.mem_flatMap.mp (told ▸ mem)
      rcases List.mem_append.mp here with here | here <;>
        exact List.mem_singleton.mp (List.mem_ite_nil_right.mp here).2 ▸ listed

theorem describeRuns (key : String) (c : Controller κ) :
    (describeFsm key c).result = (transitionsOf c.statefulNode key).map fun transitions => c.respond none
      (.fsmCommandsDescription ⟨"controller",c.name,c.session,convertFsmTransition transitions⟩) .executedSuccessfully [] := by
  unfold describeFsm
  rw [readBind]
  cases transitionsOf c.statefulNode key <;> rfl

end Describe

theorem describesIff (c : Controller κ) (current state : String) :
    DescribesState c current state ↔ SpelledOut c.statefulNode.fsm current state := by
  rw [← answersAgreeIff,DescribesState,describeRuns,describeRuns]
  constructor
  · intro same
    cases asked : transitionsOf (c.inState current).statefulNode state with
    | error e =>
      cases offered : transitionsOf (c.inState state).statefulNode "" with
      | error f =>
        rw [asked,offered] at same
        exact asked.trans ((congrArg Except.error (Except.error.inj same)).trans offered.symm)
      | ok transitions =>
        rw [asked,offered] at same
        contradiction
    | ok transitions =>
      cases offered : transitionsOf (c.inState state).statefulNode "" with
      | error f =>
        rw [asked,offered] at same
        contradiction
      | ok others =>
        rw [asked,offered] at same
        have told : convertFsmTransition transitions = convertFsmTransition others := by
          simpa [Except.map,respond,inState] using same
        rw [convertInj (answersListed asked) (answersListed offered) told] at asked
        exact asked.trans offered.symm
  · intro same
    exact congrArg _ same

end Controller

namespace Sample

def echoed : FSM := { prefixedConf with transitions := [⟨"ready","ready","running",[],""⟩], unique := by decide }

def describer (fsm : FSM) : Controller Empty :=
  { name := "root", session := "session", statefulNode := StatefulNode.init fsm, actor := Token.unset, childrenNodes := [] }

def toldNames : Except Exn Response → List String
  | .ok ⟨_,_,some (.fsmCommandsDescription description),_,_⟩ => description.commands.map FSMCommandDescription.name
  | _ => []

end Sample

open Sample in
theorem describedByAnotherRule :
    toldNames (@Controller.describeFsm _ literal "ready_x" (describer prefixed)).result = [] ∧
    toldNames (@Controller.describeFsm _ literal "ready" (describer echoed)).result = ["ready","ready"] ∧
    ¬ @Controller.DescribesState _ literal (describer prefixed) "initial" "ready_x" ∧
    ¬ @Controller.DescribesState _ literal (describer echoed) "initial" "ready" :=
  ⟨by decide,by decide,fun same => absurd (congrArg toldNames same) (by decide),
    fun same => absurd (congrArg toldNames same) (by decide)⟩

end Drunc
