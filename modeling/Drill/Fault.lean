/-!
# Faults

Everything that can go wrong while a drill runs. `Fault` says what went wrong and keeps what belongs
to it: the status of a refused request, the node of a refused stop, the first failure behind a
violation. `Fault.kind` forgets that again, `Kind.name` is the class that reports and logs name, and
`Kind.belongsTo` sorts kinds into families, as the classes inherit from each other (`HarnessError`
and below). `Raised` adds the kind of the fault that led to this one.
-/

namespace Drill

/-- Faults that carry nothing but a text (the built-in exceptions). -/
inductive Plain where
  | general
  | runtime
  | value
  | key
  | type
  | overflow
  | timeout
  | connection
  | system
  /-- Bytes that are no text. -/
  | undecodable
  /-- A text that is no JSON. -/
  | malformed
  /-- An address that is no URL. -/
  | address
  /-- A place beyond the end of a text. -/
  | index
  /-- Something that nobody has built yet. -/
  | unbuilt
  /-- More nested calls than there may be. -/
  | recursion
deriving DecidableEq

/-- What the word for a plain fault is. -/
def Plain.name : Plain → String
  | general => "Exception"
  | runtime => "RuntimeError"
  | value => "ValueError"
  | key => "KeyError"
  | type => "TypeError"
  | overflow => "OverflowError"
  | timeout => "TimeoutError"
  | connection => "ConnectionError"
  | system => "OSError"
  | undecodable => "UnicodeDecodeError"
  | malformed => "JSONDecodeError"
  | address => "InvalidURL"
  | index => "IndexError"
  | unbuilt => "NotImplementedError"
  | recursion => "RecursionError"

/-- All plain faults. -/
def Plain.all : List Plain :=
  [general, runtime, value, key, type, overflow, timeout, connection, system, undecodable,
    malformed, address, index, unbuilt, recursion]

/-- Faults of the exchange of one request and its answer. -/
inductive Transport where
  | timedOut
  | connectTimedOut
  | readTimedOut
  | writeTimedOut
  | poolTimedOut
  | exchange
  | request
  | transport
  | network
  | connect
  | read
  | write
  | close
  | protocol
  | localProtocol
  | remoteProtocol
  | proxy
  | unsupportedProtocol
  | decoding
  | tooManyRedirects
deriving DecidableEq

/-- What the word for a transport fault is. -/
def Transport.name : Transport → String
  | timedOut => "TimeoutException"
  | connectTimedOut => "ConnectTimeout"
  | readTimedOut => "ReadTimeout"
  | writeTimedOut => "WriteTimeout"
  | poolTimedOut => "PoolTimeout"
  | exchange => "HTTPError"
  | request => "RequestError"
  | transport => "TransportError"
  | network => "NetworkError"
  | connect => "ConnectError"
  | read => "ReadError"
  | write => "WriteError"
  | close => "CloseError"
  | protocol => "ProtocolError"
  | localProtocol => "LocalProtocolError"
  | remoteProtocol => "RemoteProtocolError"
  | proxy => "ProxyError"
  | unsupportedProtocol => "UnsupportedProtocol"
  | decoding => "DecodingError"
  | tooManyRedirects => "TooManyRedirects"

/-- All transport faults. -/
def Transport.all : List Transport :=
  [timedOut, connectTimedOut, readTimedOut, writeTimedOut, poolTimedOut, exchange, request,
    transport, network, connect, read, write, close, protocol, localProtocol, remoteProtocol, proxy,
    unsupportedProtocol, decoding, tooManyRedirects]

/-- Did the exchange run out of time? -/
def Transport.isTimeout : Transport → Bool
  | timedOut | connectTimedOut | readTimedOut | writeTimedOut | poolTimedOut => true
  | _ => false

/-- What kind of fault something is. -/
inductive Kind where
  | plain (fault : Plain)
  | transport (fault : Transport)
  | harness
  | invocation
  | violation
  | control
  | acquisition
  | script
deriving DecidableEq

namespace Kind

/-- What the word for a kind is. -/
def name : Kind → String
  | plain fault => fault.name
  | transport fault => fault.name
  | harness => "HarnessError"
  | invocation => "ServiceInvocationError"
  | violation => "CorrectnessViolation"
  | control => "TopologyControlError"
  | acquisition => "ServiceAcquisitionError"
  | script => "ScriptError"

/-- The kinds of fault that a test may inject. -/
def injectable : List Kind :=
  Plain.all.map plain ++ [harness, invocation, control, acquisition, script] ++
    Transport.all.map transport

/-- The injectable kind of a name. -/
def ofName? (name : String) : Option Kind := injectable.find? fun k => k.name == name

end Kind

/-- Families of faults, from the library's own to all. -/
inductive Family where
  | harness
  | invocation
  | violation
  | control
  | acquisition
  | script
  | assertion
  | all
deriving DecidableEq

namespace Family

/-- What the word for a family is. -/
def name : Family → String
  | harness => Kind.harness.name
  | invocation => Kind.invocation.name
  | violation => Kind.violation.name
  | control => Kind.control.name
  | acquisition => Kind.acquisition.name
  | script => Kind.script.name
  | assertion => "AssertionError"
  | all => Plain.general.name

/-- The families in the order in which they are listed. -/
def listed : List Family :=
  [harness, invocation, violation, control, acquisition, script, assertion, all]

end Family

/-- Is every fault of this kind in the family? -/
def Kind.belongsTo : Kind → Family → Bool
  | _, .all => true
  | .plain _, _ => false
  | .transport _, _ => false
  | _, .harness => true
  | .invocation, .invocation => true
  | .violation, .violation => true
  | .violation, .assertion => true
  | .control, .control => true
  | .acquisition, .acquisition => true
  | .script, .script => true
  | _, _ => false

/-- The two requests that a node takes. -/
inductive Operation where
  | stop
  | start
deriving DecidableEq

/-- The word for a request to a node. -/
def Operation.name : Operation → String
  | stop => "stop"
  | start => "start"

/-- A fault. -/
inductive Fault where
  | plain (kind : Plain) (text : String)
  | transport (kind : Transport) (text : String)
  | harness (text : String)
  /-- A call of the service failed; the status of the answer, if there was one. -/
  | invocation (text : String) (status : Option Int)
  /-- A checkpoint found a latched failure. -/
  | violation (label : String) (first : Fault) (invocations : Int)
  /-- A node did not do what it was told. -/
  | control (text node operation : String)
  | acquisition (text : String)
  | script (text : String)
deriving DecidableEq

namespace Fault

/-- The kind of a fault. -/
def kind : Fault → Kind
  | plain k _ => .plain k
  | transport k _ => .transport k
  | harness _ => .harness
  | invocation _ _ => .invocation
  | violation _ _ _ => .violation
  | control _ _ _ => .control
  | acquisition _ => .acquisition
  | script _ => .script

/-- The text of a fault. A violation names its first failure, since that is the cause to look
for. -/
def text : Fault → String
  | plain _ text => text
  | transport _ text => text
  | harness text => text
  | invocation text _ => text
  | violation label first invocations =>
    s!"Client threw an exception {label}: {first.kind.name}: {first.text} (after {invocations} invocations)"
  | control text _ _ => text
  | acquisition text => text
  | script text => text

/-- The fault of a kind with a text and nothing more to say; a violation has more and gives none. -/
def ofKind? (kind : Kind) (text : String) : Option Fault :=
  match kind with
  | .plain k => some (plain k text)
  | .transport k => some (transport k text)
  | .harness => some (harness text)
  | .invocation => some (invocation text none)
  | .violation => none
  | .control => some (control text "?" "?")
  | .acquisition => some (acquisition text)
  | .script => some (script text)

/-- The same fault met while a node was told to stop or start: a refusal then names both. -/
def during (node : String) (operation : Operation) : Fault → Fault
  | control text _ _ => control text node operation.name
  | other => other

/-- An infinite span cannot be counted. -/
def infiniteSpan : Fault := plain .overflow "cannot convert float infinity to integer"

/-- A list, or an object, is nested deeper than can be read. -/
def deepNesting (object : Bool) : Fault :=
  plain .recursion ("maximum recursion depth exceeded while decoding a JSON " ++
    (if object then "object" else "array") ++ " from a unicode string")

/-- A whole number too large for a double. -/
def largeInteger : Fault := plain .overflow "int too large to convert to float"

end Fault

/-- A fault that ends an operation, and its cause: the kind of the fault that it was made from. -/
structure Raised where
  fault : Fault
  cause : Option Kind
deriving DecidableEq

namespace Raised

/-- A fault in its own right. -/
def plain (fault : Fault) : Raised := ⟨fault, none⟩

/-- A fault that another one is the cause of. -/
def of (fault origin : Fault) : Raised := ⟨fault, some origin.kind⟩

end Raised

end Drill
