import Drunc.Children
import Drunc.Configuration

/-! How a controller finds out how to talk to one child, and builds the node for it. A
`Network` is everything that this can meet: what the connectivity service answers until
the lookup times out, what the own host is called, what describing a controller returns
in each try, and who can be reached. Python's search for an address is a part of it. A
child whose address nobody knows, or that says port 0, becomes a node in error; whatever
else is wrong raises. -/
namespace Drunc
open Library (boundOk mappedOk)

inductive ControlType where
  | unknown | gRPC | restApi | direct
  deriving DecidableEq, Repr

structure Advert where
  uri : Option String

inductive BroadcastDescription where
  | none
  | kafka (address : String) (topic : String)
  | other

structure Network where
  networkIp : Except Exn String
  ipSearch : String → Option String
  resolve : Option (String → List (Except Exn (List Advert)))
  describe : String → Option Token → Nat → Except Exn BroadcastDescription
  kafkaConsumer : String → String → Option Exn
  pings : String → Int → Bool

section Text

/-- `s.replace(old, new)`, where `skip` characters are left of an occurrence. -/
def replaceFrom (old new : List Char) (skip : Nat) : List Char → List Char
  | [] => []
  | c :: rest =>
      if 0 < skip then replaceFrom old new (skip-1) rest
      else if old.isPrefixOf (c :: rest) then new ++ replaceFrom old new (old.length-1) rest
      else c :: replaceFrom old new 0 rest

def pyReplace (s old new : String) : String := String.ofList (replaceFrom old.toList new.toList 0 s.toList)

def pyStartsWith (s start : String) : Bool := start.toList.isPrefixOf s.toList

/-- The zeros of the blocks of decimal digits, and the white space, of Unicode. -/
def decimalZeros : List Nat :=
  [0x30,0x660,0x6F0,0x7C0,0x966,0x9E6,0xA66,0xAE6,0xB66,0xBE6,0xC66,0xCE6,0xD66,0xDE6,0xE50,0xED0,0xF20,0x1040,0x1090,
    0x17E0,0x1810,0x1946,0x19D0,0x1A80,0x1A90,0x1B50,0x1BB0,0x1C40,0x1C50,0xA620,0xA8D0,0xA900,0xA9D0,0xA9F0,0xAA50,
    0xABF0,0xFF10,0x104A0,0x10D30,0x11066,0x110F0,0x11136,0x111D0,0x112F0,0x11450,0x114D0,0x11650,0x116C0,0x11730,
    0x118E0,0x11950,0x11C50,0x11D50,0x11DA0,0x16A60,0x16AC0,0x16B50,0x1D7CE,0x1D7D8,0x1D7E2,0x1D7EC,0x1D7F6,0x1E140,
    0x1E2F0,0x1E950,0x1FBF0]

def whiteSpace : List Nat :=
  [0x9,0xA,0xB,0xC,0xD,0x1C,0x1D,0x1E,0x1F,0x20,0x85,0xA0,0x1680,0x2000,0x2001,0x2002,0x2003,0x2004,0x2005,0x2006,0x2007,
    0x2008,0x2009,0x200A,0x2028,0x2029,0x202F,0x205F,0x3000]

def digitValue (c : Char) : Option Nat :=
  (decimalZeros.find? fun first => first ≤ c.toNat && c.toNat < first + 10).map fun first => c.toNat - first

def pyDigits (afterDigit : Bool) (read : Nat) : List Char → Option Nat
  | [] => if afterDigit then some read else none
  | c :: rest =>
      if c = '_' then if afterDigit then pyDigits false read rest else none
      else match digitValue c with
        | some d => pyDigits true (10 * read + d) rest
        | none => none

def pyStrip (s : List Char) : List Char :=
  let space := fun c : Char => c.toNat ∈ whiteSpace
  ((s.dropWhile space).reverse.dropWhile space).reverse

def pyInt (s : String) : Except Exn Int :=
  let invalid := .error (.valueError ("invalid literal for int() with base 10: '" ++ s ++ "'"))
  let signed := fun (sign : Int) (digits : List Char) =>
    -- the limit on the length of what is converted
    if 4300 < (digits.filter (· ≠ '_')).length then .error (.valueError "Exceeds the limit (4300 digits) for integer string conversion")
    else match pyDigits false 0 digits with
      | some n => .ok (sign * n)
      | none => invalid
  match pyStrip s.toList with
  | '-' :: digits => signed (-1) digits
  | '+' :: digits => signed 1 digits
  | digits => signed 1 digits

def splitUri (uri : String) : Except Exn (String × String) :=
  match uri.toList.splitOn ':' with
  | [host,port] => .ok (String.ofList host,String.ofList port)
  | [] | [_] => .error (.valueError "not enough values to unpack (expected 2, got 1)")
  | _ => .error (.valueError "too many values to unpack (expected 2)")

end Text

def lookupUnsuccessful (text : String) : Exn := .drunc "ApplicationLookupUnsuccessful" text

def setupException (text : String) : Exn := .drunc "DruncSetupException" text

def Exn.isA (name : String) : Exn → Bool
  | .drunc cls _ => cls == name
  | _ => false

section Lookup
variable (net : Network)

def resolveLocalhostAnd127IpToNetworkIp (address : String) : Except Exn String := do
  let thisIp ← net.networkIp
  let address := pyReplace address "localhost" thisIp
  match net.ipSearch address with
  | none => .ok address
  | some ip =>
      let address := if pyStartsWith ip "127." then pyReplace address ip thisIp else address
      .ok (if pyStartsWith ip "0." then pyReplace address ip thisIp else address)

def getControlTypeAndUriFromCli : List String → Except Exn (ControlType × String)
  | [] => .error (setupException "Could not find if the child was controlled by gRPC or a REST API")
  | cla :: rest =>
      if pyStartsWith cla "rest://" then
        (resolveLocalhostAnd127IpToNetworkIp net (pyReplace cla "rest://" "")).map fun uri => (.restApi,uri)
      else if pyStartsWith cla "grpc://" then
        (resolveLocalhostAnd127IpToNetworkIp net (pyReplace cla "grpc://" "")).map fun uri => (.gRPC,uri)
      else getControlTypeAndUriFromCli rest

def resolvedUris : List (Except Exn (List Advert)) → Except Exn (List Advert)
  | [] => .ok []
  | .ok [] :: later => resolvedUris later
  | .ok (advert :: more) :: _ => .ok (advert :: more)
  | .error e :: later => if e.isA "ApplicationLookupUnsuccessful" then resolvedUris later else .error e

def getControlTypeAndUriFromConnectivityService (resolve : String → List (Except Exn (List Advert))) (name : String) :
    Except Exn (ControlType × String) := do
  match ← resolvedUris (resolve (name ++ "_control")) with
  | [⟨some uri⟩] => getControlTypeAndUriFromCli net [uri]
  | [⟨none⟩] => .error (.keyError "uri")
  -- without the response at the end of the text
  | _ => .error (lookupUnsuccessful ("Could not resolve the URI for '" ++ name ++ "_control' in the connectivity service"))

def advertised (name : String) : Except Exn (ControlType × Option String) :=
  match net.resolve with
  | none => .ok (.unknown,none)
  | some resolve => match getControlTypeAndUriFromConnectivityService net resolve name with
    | .ok (ctype,uri) => .ok (ctype,some uri)
    | .error e => if e.isA "ApplicationLookupUnsuccessful" then .ok (.unknown,none) else .error e

def controlTypeAndUri (name : String) (cli : List String) : Except Exn (ControlType × Option String) := do
  let found ← advertised net name
  if found.1 = .unknown then
    match getControlTypeAndUriFromCli net cli with
    | .ok (ctype,uri) => .ok (ctype,some uri)
    | .error e => if e.isA "DruncSetupException" then .ok found else .error e
  else .ok found

end Lookup

inductive BuiltChild where
  | grpc (name : String) (uri : String)
  | restApi (child : ClientSideChild) (host : String) (port : Int)
  | clientSide (child : ClientSideChild)

namespace BuiltChild

def name : BuiltChild → String
  | .grpc name _ => name
  | .restApi child _ _ => child.name
  | .clientSide child => child.name

def inError (net : Network) : BuiltChild → Bool
  | .grpc _ _ => false
  | .restApi child host port => child.state.errored || !net.pings host port
  | .clientSide child => child.state.errored

end BuiltChild

namespace ChildNode
section Build
variable (net : Network)

def clientSideChild (name : String) : Option FSMConf → Except Exn ClientSideChild
  | none => .ok (.init name none)
  | some conf => (FSM.init conf).map fun fsm => .init name (some fsm)

def ntries : Nat := 20

def connect (describe : Nat → Except Exn BroadcastDescription) : Nat → Nat → Except Exn BroadcastDescription
  | 0, _ => .ok .none
  | left+1, itry => match describe itry with
    | .ok desc => .ok desc
    | .error .serverUnreachable => if itry + 1 = ntries then .error .serverUnreachable else connect describe left (itry+1)
    | .error e => .error e

def startListening : BroadcastDescription → Except Exn Unit
  | .none => .ok ()
  | .kafka address topic => match net.kafkaConsumer address topic with
    | none => .ok ()
    | some e => .error e
  | .other => .error (setupException ("Input configuration to configure the broadcast was not understood, " ++
      "could not setup the broadcast handler: Cannot unpack to KafkaBroadcastHandlerConfiguration"))

def nonzeroPort (name port : String) : Except Exn Int := do
  let port ← pyInt port
  if port = 0 then .error (setupException ("Application " ++ name ++
    " does not expose a control service in the configuration, or has not advertised itself to the application " ++
    "registry service, or the application registry service is not reachable."))
  else .ok port

def grpcChildNode (name : String) (initToken : Option Token) (uri : String) : Except Exn BuiltChild := do
  let (host,port) ← splitUri uri
  let port ← nonzeroPort name port
  let uri := host ++ ":" ++ toString port
  let desc ← connect (net.describe uri initToken) ntries 0
  let _ ← startListening net desc
  .ok (.grpc name uri)

def proxyPort : Option (List (Option String)) → Except Exn (Option Int)
  | none => .ok none
  | some [_,none] => .ok none
  | some [_,some port] => (pyInt port).map some
  | some [] | some [_] => .error (.valueError "not enough values to unpack (expected 2)")
  | some _ => .error (.valueError "too many values to unpack (expected 2)")

def restApiChildNode (name : String) (fsmConfiguration : Option FSMConf) (proxy : Option (List (Option String)))
    (uri : String) : Except Exn BuiltChild := do
  let child ← clientSideChild name fsmConfiguration
  let (host,port) ← splitUri uri
  let port ← nonzeroPort name port
  let _ ← proxyPort proxy
  .ok (.restApi child host port)

def misunderstood (ctype : ControlType) (uri : Option String) : Bool :=
  ctype == .unknown || match uri with
    | none => true
    | some uri => match splitUri uri with
      | .error _ => true
      | .ok (_,port) => match pyInt port with
        | .ok port => port == 0
        -- the port stays a text, which is not 0
        | .error _ => false

/-- The keyword arguments of `get_child`, with `fsm_configuration` only where it is passed on. -/
structure Wanted where
  name : String
  cli : List String
  initToken : Option Token
  fsmConfiguration : Option (Option FSMConf)
  proxy : Option (List (Option String))

def inErrorNode (wanted : Wanted) : Except Exn BuiltChild :=
  (clientSideChild wanted.name (wanted.fsmConfiguration.getD none)).map fun child =>
    .clientSide { child with state := { child.state with errored := true } }

def getChild (wanted : Wanted) : Except Exn BuiltChild := do
  let (ctype,uri) ← controlTypeAndUri net wanted.name wanted.cli
  if misunderstood ctype uri then inErrorNode wanted
  else match ctype, wanted.fsmConfiguration with
    | .gRPC, none => grpcChildNode net wanted.name wanted.initToken (uri.getD "")
    | .gRPC, some _ =>
        .error (.typeError "gRPCChildNode.__init__() got an unexpected keyword argument 'fsm_configuration'")
    | .restApi, some fsmConfiguration => restApiChildNode wanted.name fsmConfiguration wanted.proxy (uri.getD "")
    | .restApi, none =>
        .error (.typeError "RESTAPIChildNode.__init__() missing 1 required positional argument: 'fsm_configuration'")
    | .direct, fsmConfiguration => (clientSideChild wanted.name (fsmConfiguration.getD none)).map .clientSide
    | .unknown, _ => .error (.drunc "ChildInterfaceTechnologyUnknown"
        ("The type ControlType.Unknown is not supported for the ChildNode " ++ wanted.name))

def Dialled (uri host : String) (port : Int) : Prop :=
  ∃ text, splitUri uri = .ok (host,text) ∧ pyInt text = .ok port

def Answering (wanted : Wanted) (host : String) (port : Int) : Prop :=
  ∃ itry desc, itry < ntries ∧ net.describe (host ++ ":" ++ toString port) wanted.initToken itry = .ok desc ∧
    (∀ earlier < itry, net.describe (host ++ ":" ++ toString port) wanted.initToken earlier = .error .serverUnreachable) ∧
    startListening net desc = .ok ()

def Suited (wanted : Wanted) (ctype : ControlType) (host : String) (port : Int) : Prop :=
  match ctype, wanted.fsmConfiguration with
  | .gRPC, none => Answering net wanted host port
  | .restApi, some _ => ∃ proxy, proxyPort wanted.proxy = .ok proxy
  | _, _ => False

def Accepted (wanted : Wanted) : Prop :=
  ∀ conf, wanted.fsmConfiguration = some (some conf) → ∃ fsm, FSM.init conf = .ok fsm

def Buildable (wanted : Wanted) : Prop :=
  Accepted wanted ∧ ∃ ctype uri, controlTypeAndUri net wanted.name wanted.cli = .ok (ctype,uri) ∧
    (misunderstood ctype uri = true ∨ ∃ u host port, uri = some u ∧ Dialled u host port ∧ Suited net wanted ctype host port)

def registers (wanted : Wanted) : Bool :=
  match controlTypeAndUri net wanted.name wanted.cli with
  | .ok (.restApi,uri) => !misunderstood .restApi uri
  | _ => false

def Usable (wanted : Wanted) : Prop :=
  ∃ ctype u host port, controlTypeAndUri net wanted.name wanted.cli = .ok (ctype,some u) ∧ Dialled u host port ∧ port ≠ 0 ∧
    match ctype, wanted.fsmConfiguration with
    | .gRPC, none => Answering net wanted host port
    | .restApi, some _ => net.pings host port = true
    | _, _ => False

end Build

section Built
variable {net : Network} {wanted : Wanted} {node : BuiltChild}

theorem clientSideChildNamed {name : String} {fsmConfiguration : Option FSMConf} {child : ClientSideChild}
    (built : clientSideChild name fsmConfiguration = .ok child) : child.name = name ∧ child.state = ClientSideState.init := by
  cases fsmConfiguration with
  | none =>
    cases built
    exact ⟨rfl,rfl⟩
  | some conf =>
    obtain ⟨fsm,_,rfl⟩ := mappedOk.mp built
    exact ⟨rfl,rfl⟩

theorem clientSideChildIff {name : String} {fsmConfiguration : Option FSMConf} :
    (∃ child, clientSideChild name fsmConfiguration = .ok child) ↔
      ∀ conf, fsmConfiguration = some conf → ∃ fsm, FSM.init conf = .ok fsm := by
  cases fsmConfiguration with
  | none => simp [clientSideChild]
  | some conf => simp [clientSideChild,mappedOk]

theorem nonzeroPortIff {name text : String} {port : Int} :
    nonzeroPort name text = .ok port ↔ pyInt text = .ok port ∧ port ≠ 0 := by
  unfold nonzeroPort
  rw [boundOk]
  constructor
  · rintro ⟨n,read,checked⟩
    split at checked
    · contradiction
    · rename_i nonzero
      cases checked
      exact ⟨read,nonzero⟩
  · rintro ⟨read,nonzero⟩
    exact ⟨port,read,by rw [if_neg nonzero]⟩

theorem connectOther {describe : Nat → Except Exn BroadcastDescription} {e : Exn} {left itry : Nat}
    (raised : describe itry = .error e) (other : e ≠ .serverUnreachable) :
    connect describe (left+1) itry = .error e := by
  unfold connect
  rw [raised]
  cases e <;> first | rfl | contradiction

abbrev AnswersFrom (describe : Nat → Except Exn BroadcastDescription) (itry : Nat) (desc : BroadcastDescription) : Prop :=
  ∃ last, itry ≤ last ∧ last < ntries ∧ describe last = .ok desc ∧
    ∀ earlier, itry ≤ earlier → earlier < last → describe earlier = .error .serverUnreachable

theorem answersStep {describe : Nat → Except Exn BroadcastDescription} {desc : BroadcastDescription} {itry : Nat}
    (more : itry < ntries) : AnswersFrom describe itry desc ↔
      describe itry = .ok desc ∨ describe itry = .error .serverUnreachable ∧ AnswersFrom describe (itry+1) desc := by
  constructor
  · rintro ⟨last,le,less,found,before⟩
    rcases eq_or_lt_of_le le with rfl | later
    · exact .inl found
    · exact .inr ⟨before itry le_rfl later,last,later,less,found,fun earlier after => before earlier (by omega)⟩
  · rintro (found | ⟨unreachable,last,le,less,found,before⟩)
    · exact ⟨itry,le_rfl,more,found,fun earlier after upTo => by omega⟩
    · refine ⟨last,by omega,less,found,fun earlier after upTo => ?_⟩
      rcases eq_or_lt_of_le after with rfl | later
      · exact unreachable
      · exact before earlier later upTo

theorem connectIff {describe : Nat → Except Exn BroadcastDescription} {desc : BroadcastDescription} {left itry : Nat}
    (tries : itry + left = ntries) (more : 0 < left) :
    connect describe left itry = .ok desc ↔ AnswersFrom describe itry desc := by
  induction left generalizing itry with
  | zero => contradiction
  | succ left ih =>
    rw [answersStep (by omega)]
    cases answered : describe itry with
    | ok d =>
      have run : connect describe (left+1) itry = .ok d := by simp only [connect,answered]
      simp [run]
    | error e =>
      by_cases unreachable : e = .serverUnreachable
      · subst unreachable
        have next : connect describe (left+1) itry =
            if itry + 1 = ntries then .error .serverUnreachable else connect describe left (itry+1) := by
          simp only [connect,answered]
        rw [next]
        split
        · have none : ¬ AnswersFrom describe (itry+1) desc := fun ⟨last,le,less,_⟩ => by omega
          simp [none]
        · rw [ih (by omega) (by omega)]
          simp
      · rw [connectOther answered unreachable]
        simp [unreachable]

theorem cliKnown {clas : List String} {ctype : ControlType} {uri : String}
    (found : getControlTypeAndUriFromCli net clas = .ok (ctype,uri)) : ctype = .restApi ∨ ctype = .gRPC := by
  induction clas with
  | nil => contradiction
  | cons cla rest ih =>
    unfold getControlTypeAndUriFromCli at found
    split at found
    · obtain ⟨_,_,same⟩ := mappedOk.mp found
      exact .inl (Prod.mk.inj same).1.symm
    · split at found
      · obtain ⟨_,_,same⟩ := mappedOk.mp found
        exact .inr (Prod.mk.inj same).1.symm
      · exact ih found

theorem serviceKnown {resolve : String → List (Except Exn (List Advert))} {name : String} {ctype : ControlType} {uri : String}
    (found : getControlTypeAndUriFromConnectivityService net resolve name = .ok (ctype,uri)) :
    ctype = .restApi ∨ ctype = .gRPC := by
  obtain ⟨adverts,_,picked⟩ := boundOk.mp found
  split at picked
  · exact cliKnown picked
  · contradiction
  · contradiction

theorem lookedUpKnown {name : String} {cli : List String} {ctype : ControlType} {uri : Option String}
    (found : controlTypeAndUri net name cli = .ok (ctype,uri)) : ctype ≠ .direct := by
  obtain ⟨first,service,last⟩ := boundOk.mp found
  have known : first.1 ≠ .direct := by
    unfold advertised at service
    split at service
    · cases service
      simp
    · split at service
      · rename_i ctype uri run
        cases service
        rcases serviceKnown run with rfl | rfl <;> simp
      · split at service
        · cases service
          simp
        · contradiction
  split at last
  · split at last
    · rename_i ctype uri run
      cases last
      rcases cliKnown run with rfl | rfl <;> simp
    · split at last
      · cases last
        exact known
      · contradiction
  · cases last
    exact known

theorem grpcIff {uri : String} :
    grpcChildNode net wanted.name wanted.initToken uri = .ok node ↔ ∃ host port, Dialled uri host port ∧ port ≠ 0 ∧
      Answering net wanted host port ∧ node = .grpc wanted.name (host ++ ":" ++ toString port) := by
  unfold grpcChildNode
  constructor
  · intro built
    obtain ⟨⟨host,text⟩,split,built⟩ := boundOk.mp built
    obtain ⟨port,read,built⟩ := boundOk.mp built
    obtain ⟨desc,connected,built⟩ := boundOk.mp built
    obtain ⟨_,listens,built⟩ := boundOk.mp built
    cases built
    obtain ⟨number,nonzero⟩ := nonzeroPortIff.mp read
    obtain ⟨last,_,less,found,before⟩ := (connectIff rfl (by decide)).mp connected
    exact ⟨host,port,⟨text,split,number⟩,nonzero,⟨last,desc,less,found,fun earlier => before earlier (Nat.zero_le _),listens⟩,rfl⟩
  · rintro ⟨host,port,⟨text,split,number⟩,nonzero,⟨last,desc,less,found,before,listens⟩,rfl⟩
    refine boundOk.mpr ⟨(host,text),split,boundOk.mpr ⟨port,nonzeroPortIff.mpr ⟨number,nonzero⟩,?_⟩⟩
    refine boundOk.mpr ⟨desc,(connectIff rfl (by decide)).mpr ⟨last,Nat.zero_le _,less,found,fun earlier _ => before earlier⟩,?_⟩
    exact boundOk.mpr ⟨(),listens,rfl⟩

theorem restApiIff {name uri : String} {fsmConfiguration : Option FSMConf} {proxy : Option (List (Option String))} :
    restApiChildNode name fsmConfiguration proxy uri = .ok node ↔ ∃ child host port,
      clientSideChild name fsmConfiguration = .ok child ∧ Dialled uri host port ∧ port ≠ 0 ∧
      (∃ proxied, proxyPort proxy = .ok proxied) ∧ node = .restApi child host port := by
  unfold restApiChildNode
  constructor
  · intro built
    obtain ⟨child,own,built⟩ := boundOk.mp built
    obtain ⟨⟨host,text⟩,split,built⟩ := boundOk.mp built
    obtain ⟨port,read,built⟩ := boundOk.mp built
    obtain ⟨proxied,through,built⟩ := boundOk.mp built
    cases built
    obtain ⟨number,nonzero⟩ := nonzeroPortIff.mp read
    exact ⟨child,host,port,own,⟨text,split,number⟩,nonzero,⟨proxied,through⟩,rfl⟩
  · rintro ⟨child,host,port,own,⟨text,split,number⟩,nonzero,⟨proxied,through⟩,rfl⟩
    refine boundOk.mpr ⟨child,own,boundOk.mpr ⟨(host,text),split,?_⟩⟩
    exact boundOk.mpr ⟨port,nonzeroPortIff.mpr ⟨number,nonzero⟩,boundOk.mpr ⟨proxied,through,rfl⟩⟩

theorem inErrorIff : inErrorNode wanted = .ok node ↔ ∃ child,
    clientSideChild wanted.name (wanted.fsmConfiguration.getD none) = .ok child ∧
    node = .clientSide { child with state := { child.state with errored := true } } := by
  unfold inErrorNode
  rw [mappedOk]
  exact exists_congr fun child => and_congr_right fun _ => eq_comm

theorem acceptedIff :
    Accepted wanted ↔ ∃ child, clientSideChild wanted.name (wanted.fsmConfiguration.getD none) = .ok child := by
  rw [clientSideChildIff]
  unfold Accepted
  cases wanted.fsmConfiguration with
  | none => simp
  | some conf => simp

inductive Built (net : Network) (wanted : Wanted) : BuiltChild → Prop
  | inError {ctype : ControlType} {uri : Option String} {child : ClientSideChild}
      (found : controlTypeAndUri net wanted.name wanted.cli = .ok (ctype,uri)) (unclear : misunderstood ctype uri = true)
      (own : clientSideChild wanted.name (wanted.fsmConfiguration.getD none) = .ok child) :
      Built net wanted (.clientSide { child with state := { child.state with errored := true } })
  | grpc {u host : String} {port : Int} (found : controlTypeAndUri net wanted.name wanted.cli = .ok (.gRPC,some u))
      (clear : misunderstood .gRPC (some u) = false) (bare : wanted.fsmConfiguration = none)
      (dialled : Dialled u host port) (nonzero : port ≠ 0) (answering : Answering net wanted host port) :
      Built net wanted (.grpc wanted.name (host ++ ":" ++ toString port))
  | restApi {u host : String} {port : Int} {fsmConfiguration : Option FSMConf} {child : ClientSideChild}
      (found : controlTypeAndUri net wanted.name wanted.cli = .ok (.restApi,some u))
      (clear : misunderstood .restApi (some u) = false) (passed : wanted.fsmConfiguration = some fsmConfiguration)
      (own : clientSideChild wanted.name fsmConfiguration = .ok child) (dialled : Dialled u host port) (nonzero : port ≠ 0)
      (proxied : ∃ proxy, proxyPort wanted.proxy = .ok proxy) : Built net wanted (.restApi child host port)

theorem clearUri {ctype : ControlType} {uri : Option String} (clear : misunderstood ctype uri = false) :
    ctype ≠ .unknown ∧ ∃ u, uri = some u := by
  unfold misunderstood at clear
  obtain ⟨known,rest⟩ := Bool.or_eq_false_iff.mp clear
  cases uri with
  | none => contradiction
  | some u => exact ⟨by simpa using known,u,rfl⟩

theorem getChildIff : getChild net wanted = .ok node ↔ Built net wanted node := by
  unfold getChild
  rw [boundOk]
  constructor
  · rintro ⟨⟨ctype,uri⟩,found,built⟩
    dsimp only at built
    split at built
    · rename_i unclear
      obtain ⟨child,own,rfl⟩ := inErrorIff.mp built
      exact .inError found unclear own
    · rename_i understood
      have clear := Bool.eq_false_iff.mpr understood
      obtain ⟨known,u,rfl⟩ := clearUri clear
      split at built
      · rename_i bare
        obtain ⟨host,port,dialled,nonzero,answering,rfl⟩ := grpcIff.mp built
        exact .grpc found clear bare dialled nonzero answering
      · contradiction
      · rename_i passed
        obtain ⟨child,host,port,own,dialled,nonzero,proxied,rfl⟩ := restApiIff.mp built
        exact .restApi found clear passed own dialled nonzero proxied
      · contradiction
      · exact absurd rfl (lookedUpKnown found)
      · contradiction
  · intro built
    cases built with
    | inError found unclear own => exact ⟨_,found,by simp only [unclear,if_true]; exact inErrorIff.mpr ⟨_,own,rfl⟩⟩
    | grpc found clear bare dialled nonzero answering =>
      refine ⟨_,found,?_⟩
      simp only [clear,bare]
      exact grpcIff.mpr ⟨_,_,dialled,nonzero,answering,rfl⟩
    | restApi found clear passed own dialled nonzero proxied =>
      refine ⟨_,found,?_⟩
      simp only [clear,passed]
      exact restApiIff.mpr ⟨_,_,_,own,dialled,nonzero,proxied,rfl⟩

theorem builtNamed (built : Built net wanted node) : node.name = wanted.name := by
  cases built with
  | inError found unclear own => exact (clientSideChildNamed own).1
  | grpc => rfl
  | restApi found clear passed own => exact (clientSideChildNamed own).1

theorem builtUnusable (built : Built net wanted node) (unusable : ¬ Usable net wanted) : node.inError net = true := by
  cases built with
  | inError => rfl
  | grpc found clear bare dialled nonzero answering =>
    exact absurd ⟨_,_,_,_,found,dialled,nonzero,by simpa only [bare] using answering⟩ unusable
  | @restApi u host port fsmConfiguration child found clear passed own dialled nonzero =>
    cases pings : net.pings host port with
    | true => exact absurd ⟨_,_,_,_,found,dialled,nonzero,by simpa only [passed] using pings⟩ unusable
    | false => simp [BuiltChild.inError,pings]

theorem clearDialled {ctype : ControlType} {u host : String} {port : Int} (clear : misunderstood ctype (some u) = false)
    (dialled : Dialled u host port) : port ≠ 0 := by
  obtain ⟨text,split,number⟩ := dialled
  rintro rfl
  simp [misunderstood,split,number] at clear

theorem buildableIff : (∃ node, getChild net wanted = .ok node) ↔ Buildable net wanted := by
  simp only [getChildIff]
  constructor
  · rintro ⟨node,built⟩
    cases built with
    | inError found unclear own => exact ⟨acceptedIff.mpr ⟨_,own⟩,_,_,found,.inl unclear⟩
    | grpc found clear bare dialled nonzero answering =>
      refine ⟨fun conf passed => ?_,_,_,found,.inr ⟨_,_,_,rfl,dialled,?_⟩⟩
      · rw [bare] at passed
        contradiction
      · simpa only [Suited,bare] using answering
    | restApi found clear passed own dialled nonzero proxied =>
      refine ⟨acceptedIff.mpr ⟨_,by rw [passed]; exact own⟩,_,_,found,.inr ⟨_,_,_,rfl,dialled,?_⟩⟩
      simpa only [Suited,passed] using proxied
  · rintro ⟨accepted,ctype,uri,found,suits⟩
    obtain ⟨child,own⟩ := acceptedIff.mp accepted
    cases unclear : misunderstood ctype uri with
    | true => exact ⟨_,.inError found unclear own⟩
    | false =>
      rcases suits with absent | ⟨u,host,port,rfl,dialled,suited⟩
      · rw [unclear] at absent
        contradiction
      · unfold Suited at suited
        split at suited
        · rename_i bare
          exact ⟨_,.grpc found unclear bare dialled (clearDialled unclear dialled) suited⟩
        · rename_i passed
          rw [passed] at own
          exact ⟨_,.restApi found unclear passed own dialled (clearDialled unclear dialled) suited⟩
        · contradiction

theorem builtRegisters (built : Built net wanted node) :
    registers net wanted = true ↔ ∃ child host port, node = .restApi child host port := by
  unfold registers
  cases built with
  | inError found unclear own =>
    rw [found]
    constructor
    · intro understood
      split at understood
      · rename_i same
        cases same
        simp [unclear] at understood
      · contradiction
    · rintro ⟨child,host,port,same⟩
      contradiction
  | grpc found =>
    rw [found]
    simp
  | restApi found clear =>
    rw [found]
    simp [clear]

end Built
end ChildNode
end Drunc
