import Drunc.Commander
import Drunc.Library.Worker

/-! The listener to which the applications post their replies, and the one thread that
dispatches them. A body is any JSON value. Nothing catches what the notification raises,
so a body that is no object, that names no application or one that is not registered ends
the thread; the warning about the last of these goes to a log that the class does not
have. -/
namespace Drunc
open Library (Dict Worker Turn boundOk)
open Library.Act

abbrev Json := { value : PyObj // value.serialisable = true }

abbrev Handlers := Dict String (AppCommander Json)

def PyObj.typeName : PyObj → String
  | .none => "NoneType"
  | .bool _ => "bool"
  | .int _ => "int"
  | .float _ => "float"
  | .str _ => "str"
  | .list _ => "list"
  | .dict _ => "dict"
  | .object repr => repr

def PyObj.contains (key : String) : PyObj → Except Exn Bool
  | .dict items => .ok (items.any fun item => item.1 == key)
  | .list items => .ok (items.any fun | .str s => s == key | _ => false)
  | .str s => .ok (decide (key.toList <:+: s.toList))
  | other => .error (.typeError ("argument of type '" ++ other.typeName ++ "' is not iterable"))

def PyObj.item (key : String) : PyObj → Except Exn PyObj
  | .dict items => match Dict.lookup key items with
    | .some value => .ok value
    | .none => .error (.keyError key)
  | .list _ => .error (.typeError "list indices must be integers or slices, not str")
  | .str _ => .error (.typeError "string indices must be integers, not 'str'")
  | other => .error (.typeError ("'" ++ other.typeName ++ "' object is not subscriptable"))

namespace ResponseListener

def handlerOf (handlers : Handlers) (app : PyObj) : Except Exn (Option (String × AppCommander Json)) :=
  match app with
  | .str name => .ok ((handlers.get? name).map fun commander => (name,commander))
  | .list _ | .dict _ | .object _ => .error (.typeError ("unhashable type: '" ++ app.typeName ++ "'"))
  | _ => .ok none

def recipient (handlers : Handlers) (reply : PyObj) : Except Exn (String × AppCommander Json) :=
  match reply.contains "appname" with
  | .error e => .error e
  -- without the reply at the end of the text
  | .ok false => .error (.drunc "DruncException" "No 'appname' field in reply")
  | .ok true => do
      let app ← reply.item "appname"
      match ← handlerOf handlers app with
      | none => .error (.attributeError "type object 'ResponseListener' has no attribute 'log'")
      | some handler => .ok handler

def notify (reply : Json) : Do Handlers Unit := do
  let handlers ← read
  let handler ← lift (recipient handlers reply.val)
  update fun handlers => handlers.set handler.1 (handler.2.notify reply)

end ResponseListener

namespace ResponseDispatcher

def stop : String := "RESPONSE_QUEUE_STOP"

def isStop : PyObj → Bool
  | .str s => s == stop
  | _ => false

def dispatch (handlers : Handlers) (r : Json) : Handlers × Bool :=
  if isStop r.val then (handlers,false)
  else match (ResponseListener.notify r handlers).result with
    | .ok () => ((ResponseListener.notify r handlers).state,true)
    | .error _ => ((ResponseListener.notify r handlers).state,false)

end ResponseDispatcher

namespace ResponseListener

def appname : PyObj → Option String
  | .dict items => match Dict.lookup "appname" items with
    | some (.str name) => some name
    | _ => none
  | _ => none

def addressee (handlers : Handlers) (body : Json) : Option String :=
  (appname body.val).filter fun name => (handlers.get? name).isSome

def addressed (app : String) (bodies : List Json) : List Json :=
  bodies.filter fun body => appname body.val == some app

def settle (handlers : Handlers) (turns : List (Turn Json)) (n : Nat) : Worker Handlers Json :=
  Worker.run ResponseDispatcher.dispatch handlers (turns ++ List.replicate n Turn.serve)

def Delivers (handlers : Handlers) (turns : List (Turn Json)) : Prop :=
  ∀ n, (Worker.posted turns).length ≤ n → ∀ app,
    ((settle handlers turns n).state.get? app).map AppCommander.responseQueue =
      (handlers.get? app).map fun commander => commander.responseQueue ++ addressed app (Worker.posted turns)

/-- No body for a registered application comes after one that is for none. -/
def Unspoiled (handlers : Handlers) (bodies : List Json) : Prop :=
  bodies.Pairwise fun earlier later =>
    (addressee handlers later).isSome = true → (addressee handlers earlier).isSome = true

section Delivery
variable {handlers now : Handlers} {body : Json} {name app : String}

def SameApps (handlers now : Handlers) : Prop := ∀ name, (now.get? name).isSome = (handlers.get? name).isSome

def passOn (handlers : Handlers) (body : Json) : Handlers :=
  match appname body.val with
  | none => handlers
  | some name => match handlers.get? name with
    | none => handlers
    | some commander => handlers.set name (commander.notify body)

theorem addresseeSome : (addressee handlers body).isSome = true ↔
    ∃ name commander, appname body.val = some name ∧ handlers.get? name = some commander := by
  unfold addressee
  rw [Option.isSome_filter]
  cases appname body.val with
  | none => simp
  | some name => simp [Option.isSome_iff_exists]

theorem notifyRuns (body : Json) (now : Handlers) : notify body now =
    match recipient now body.val with
    | .error e => ⟨.error e,now,[]⟩
    | .ok handler => ⟨.ok (),now.set handler.1 (handler.2.notify body),[]⟩ := by
  unfold notify
  rw [readBind]
  cases recipient now body.val with
  | error e => rfl
  | ok handler => rfl

theorem recipientNamed {value : PyObj} {commander : AppCommander Json} (named : appname value = some name)
    (registered : now.get? name = some commander) : recipient now value = .ok (name,commander) := by
  cases value with
  | dict items =>
    have held : Dict.lookup "appname" items = some (.str name) := by
      cases found : Dict.lookup "appname" items with
      | none => simp [appname,found] at named
      | some app => cases app <;> simp [appname,found] at named; rw [named]
    have contains : (items.any fun item => item.1 == "appname") = true := by
      have mem := (Dict.lookupIsSome "appname" items).mp (by rw [held]; rfl)
      obtain ⟨item,inside,key⟩ := List.mem_map.mp mem
      exact List.any_eq_true.mpr ⟨item,inside,by simp [key]⟩
    simp [recipient,PyObj.contains,PyObj.item,contains,held,handlerOf,registered,bind,Except.bind]
  | _ => contradiction

theorem handlerFound {app : PyObj} {handler : String × AppCommander Json}
    (found : handlerOf now app = .ok (some handler)) : app = .str handler.1 ∧ now.get? handler.1 = some handler.2 := by
  cases app with
  | str name =>
    obtain ⟨commander,registered,rfl⟩ := Option.map_eq_some_iff.mp (Except.ok.inj found)
    exact ⟨rfl,registered⟩
  | _ => simp [handlerOf] at found

theorem itemFound {value held : PyObj} {key : String} (found : value.item key = .ok held) :
    ∃ items, value = .dict items ∧ Dict.lookup key items = some held := by
  cases value with
  | dict items =>
    simp only [PyObj.item] at found
    split at found
    · rename_i there
      exact ⟨items,rfl,there.trans (congrArg some (Except.ok.inj found))⟩
    · contradiction
  | _ => contradiction

theorem recipientFound {value : PyObj} {handler : String × AppCommander Json}
    (found : recipient now value = .ok handler) :
    appname value = some handler.1 ∧ now.get? handler.1 = some handler.2 := by
  unfold recipient at found
  split at found
  · contradiction
  · contradiction
  · obtain ⟨app,held,found⟩ := boundOk.mp found
    obtain ⟨addressed,known,found⟩ := boundOk.mp found
    cases addressed with
    | none => contradiction
    | some other =>
      obtain rfl := Except.ok.inj found
      obtain ⟨rfl,registered⟩ := handlerFound known
      obtain ⟨items,rfl,there⟩ := itemFound held
      exact ⟨by simp [appname,there],registered⟩

theorem dispatchRegistered (same : SameApps handlers now) (registered : (addressee handlers body).isSome = true) :
    ResponseDispatcher.dispatch now body = (passOn now body,true) ∧ SameApps handlers (passOn now body) := by
  obtain ⟨name,commander,named,known⟩ := addresseeSome.mp registered
  obtain ⟨commander,here⟩ := Option.isSome_iff_exists.mp ((same name).trans (by rw [known]; rfl))
  have goes : ResponseDispatcher.isStop body.val = false := by
    cases value : body.val with
    | str text => rw [value] at named; contradiction
    | _ => rfl
  have passes : passOn now body = now.set name (commander.notify body) := by simp only [passOn,named,here]
  have runs := notifyRuns body now
  rw [recipientNamed named here] at runs
  constructor
  · rw [ResponseDispatcher.dispatch,goes,runs,passes]
    rfl
  · intro app
    rw [passes,← same app]
    by_cases own : app = name
    · simp [own,here]
    · simp [own]

theorem dispatchOther (same : SameApps handlers now) (other : (addressee handlers body).isSome = false) :
    ResponseDispatcher.dispatch now body = (now,false) := by
  unfold ResponseDispatcher.dispatch
  split
  · rfl
  · rw [notifyRuns]
    cases found : recipient now body.val with
    | error e => rfl
    | ok handler =>
      obtain ⟨named,here⟩ := recipientFound found
      obtain ⟨commander,known⟩ := Option.isSome_iff_exists.mp ((same handler.1).symm.trans (by rw [here]; rfl))
      exact absurd (addresseeSome.mpr ⟨handler.1,commander,named,known⟩) (by simp [other])

theorem passedOn (same : SameApps handlers now) {bodies : List Json}
    (registered : ∀ body ∈ bodies, (addressee handlers body).isSome = true) (app : String) :
    ((bodies.foldl passOn now).get? app).map AppCommander.responseQueue =
      (now.get? app).map fun commander => commander.responseQueue ++ addressed app bodies := by
  induction bodies generalizing now with
  | nil => simp [addressed]
  | cons body rest ih =>
    have here := registered body List.mem_cons_self
    rw [List.foldl_cons,ih (dispatchRegistered same here).2 fun other mem => registered other (List.mem_cons_of_mem _ mem)]
    obtain ⟨name,_,named,known⟩ := addresseeSome.mp here
    obtain ⟨commander,stored⟩ := Option.isSome_iff_exists.mp ((same name).trans (by rw [known]; rfl))
    simp only [passOn,named,stored,Dict.getSet]
    by_cases own : app = name
    · simp [own,stored,addressed,named,AppCommander.notify]
    · have apart : (some name == some app) = false := by simpa using Ne.symm own
      simp [own,addressed,named,apart]

theorem settledHandlers (turns : List (Turn Json)) {n : Nat} (enough : (Worker.posted turns).length ≤ n) :
    (settle handlers turns n).state =
      ((Worker.posted turns).takeWhile fun body => (addressee handlers body).isSome).foldl passOn handlers := by
  let accepts := fun body => (addressee handlers body).isSome
  have consumed : (Worker.posted turns).foldl (Worker.consume ResponseDispatcher.dispatch) (handlers,true) =
      (((Worker.posted turns).takeWhile accepts).foldl passOn handlers,(Worker.posted turns).all accepts) := by
    refine Worker.consumeAccepted (I := SameApps handlers) (fun now body same registered => ?_)
      (fun now body same other => ?_) (fun _ => rfl) _
    · exact dispatchRegistered same registered
    · exact dispatchOther same other
  exact congrArg Prod.fst ((Worker.settled turns enough).trans consumed)

theorem deliversIff (handlers : Handlers) (turns : List (Turn Json)) :
    Delivers handlers turns ↔ Unspoiled handlers (Worker.posted turns) := by
  let accepts := fun body => (addressee handlers body).isSome
  have first : ∀ body ∈ (Worker.posted turns).takeWhile accepts, accepts body = true :=
    fun body mem => List.mem_takeWhile_imp mem
  have given : ∀ n, (Worker.posted turns).length ≤ n → ∀ app,
      ((settle handlers turns n).state.get? app).map AppCommander.responseQueue = (handlers.get? app).map
        fun commander => commander.responseQueue ++ addressed app ((Worker.posted turns).takeWhile accepts) := by
    intro n enough app
    rw [settledHandlers turns enough]
    exact passedOn (fun _ => rfl) first app
  have both : ∀ app, addressed app (Worker.posted turns) = addressed app ((Worker.posted turns).takeWhile accepts) ++
      addressed app ((Worker.posted turns).dropWhile accepts) := fun app => by
    rw [addressed,addressed,addressed,← List.filter_append,List.takeWhile_append_dropWhile]
  rw [Unspoiled,Worker.acceptedFirst]
  constructor
  · intro delivers body mem
    by_contra accepted
    rw [Bool.not_eq_false] at accepted
    obtain ⟨name,commander,named,known⟩ := addresseeSome.mp accepted
    have missing := (given _ le_rfl name).symm.trans (delivers _ le_rfl name)
    rw [known,both] at missing
    have none' : addressed name ((Worker.posted turns).dropWhile accepts) = [] := by simpa using missing
    have inside : body ∈ addressed name ((Worker.posted turns).dropWhile accepts) :=
      List.mem_filter.mpr ⟨mem,by simp [named]⟩
    rw [none'] at inside
    contradiction
  · intro rest n enough app
    rw [given n enough app]
    cases known : handlers.get? app with
    | none => rfl
    | some commander =>
      have none' : addressed app ((Worker.posted turns).dropWhile accepts) = [] := by
        refine List.filter_eq_nil_iff.mpr fun body mem named => ?_
        have accepted : accepts body = true := addresseeSome.mpr ⟨app,commander,by simpa using named,known⟩
        exact absurd accepted (by simp [accepts,rest body mem])
      rw [both,none',List.append_nil]

end Delivery
end ResponseListener

namespace Sample

def replyOf (app : String) : Json := ⟨.dict [("appname",.str app)],rfl⟩

def oneApp : Handlers := Dict.empty.set "app" ⟨"app",[],none⟩

def strayTurns : List (Turn Json) := [.post (replyOf "stray"),.serve,.post (replyOf "app")]

end Sample

open Sample in
theorem strayEndsDispatch : ¬ ResponseListener.Delivers oneApp strayTurns := by
  intro delivers
  have given := delivers 2 le_rfl "app"
  have kept : ((ResponseListener.settle oneApp strayTurns 2).state.get? "app").map AppCommander.responseQueue =
      some [] := rfl
  have owed : ((oneApp.get? "app").map fun commander => commander.responseQueue ++
      ResponseListener.addressed "app" (Worker.posted strayTurns)) = some [replyOf "app"] := rfl
  rw [kept,owed] at given
  exact nomatch given

end Drunc
