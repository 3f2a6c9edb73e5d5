import Drill.Http.Library
import Drill.Json.Whole
import Drill.Log.Event

/-!
# A counter behind a web server

A service handle that asks a web server for the next number of a counter (`HttpCounterService`): one
request a call, never a second try, since that would hide the very faults that a drill looks for.
The session is kept from call to call, so the conversation stays with one server.

`CounterService.number` reads the number out of a response, and `CounterService.call` is one call
(`fetch_and_increment`). Main statement: `call_outcome`, what comes of a call depends on the reply
to its post alone.
-/

namespace Drill.Http

open Number (Double)

/-- A handle on a counter (`HttpCounterService`). -/
structure CounterService (L : Library) where
  /-- The address that is asked, as it was put together. -/
  address : String
  timeout : Double
  session : L.Session

/-- A text without slashes at its end. -/
def dropSlashes (text : String) : String :=
  String.ofList ((text.toList.reverse.dropWhile (· = '/')).reverse)

namespace CounterService

variable {L : Library}

/-- A handle on the counter of an implementation. -/
def of (base implementation : String) (timeout : Double) (session : L.Session) : CounterService L :=
  ⟨dropSlashes base ++ "/" ++ implementation ++ "/serial", timeout, session⟩

/-- What a factory of handles logs (`http_service_factory`). -/
def announcement (c : CounterService L) : Log.Event := .counterServiceAt c.address

/-- What a call hands to the library. -/
def request (c : CounterService L) : Post := ⟨c.address, c.timeout, none⟩

/-- A failed call over a response, whose beginning is shown; if it cannot be shown, that is
raised. -/
def failure (L : Library) (r : Response) (why : String) (cause : Option Kind) : Raised :=
  match L.excerpt r with
  | .ok shown => ⟨.invocation (why ++ ": " ++ shown) (some r.status), cause⟩
  | .error fault => .plain fault

/-- The response says that something is wrong. -/
def unexpected (L : Library) (address : String) (r : Response) : Raised :=
  failure L r s!"Unexpected status {r.status} from {address}" none

/-- The response has no number where it should have one. -/
def malformed (L : Library) (address : String) (r : Response) (cause : Plain) : Raised :=
  failure L r s!"Malformed response from {address}" (some (.plain cause))

/-- The number in a response. What is wrong with it is a failed call, save for two faults that are
not among those that are caught: a body that is nested too deep, and a serial that is infinite. -/
def number (L : Library) (address : String) (r : Response) : Except Raised Int :=
  if !r.isSuccess then .error (unexpected L address r)
  else match r.json L.room with
    | .error .undecodable => .error (malformed L address r .undecodable)
    | .error .malformed => .error (malformed L address r .malformed)
    | .error .tooManyDigits => .error (malformed L address r .value)
    | .error (.tooDeep object) => .error (.plain (.deepNesting object))
    | .ok (.object members) =>
      match Assoc.get? members "serial" with
      | none => .error (malformed L address r .key)
      | some v =>
        match v.whole with
        | .ok n => .ok n
        | .error .noNumber => .error (malformed L address r .type)
        | .error .unreadable => .error (malformed L address r .value)
        | .error .infinite => .error (.plain .infiniteSpan)
    | .ok _ => .error (malformed L address r .type)

/-- What the library raised, as the caller sees it; faults that are none of the transport's are not
caught. -/
def failed (address : String) : Fault → Raised
  | .transport kind text =>
    .of (.invocation s!"Request to {address} failed: {kind.name}({Text.quoted text})" none)
      (.transport kind text)
  | fault => .plain fault

/-- What a call makes of a reply. -/
def outcome (L : Library) (address : String) : Reply → Except Raised Int
  | .ok r => number L address r
  | .error fault => .error (failed address fault)

/-- Asks for the next number (`fetch_and_increment`). What was sent comes back too. -/
def call (c : CounterService L) (wire : L.Wire) :
    Except Raised Int × List L.Sent × CounterService L :=
  let (reply, sent, session) := L.post c.session c.request wire
  (outcome L c.address reply, sent, { c with session })

/-- Forgets the conversation (`close`). -/
def close (c : CounterService L) : CounterService L := { c with session := L.closed c.session }

/-- What comes of a call depends on the reply to its post alone. -/
theorem call_outcome (c : CounterService L) (wire : L.Wire) :
    (c.call wire).1 = outcome L c.address (L.post c.session c.request wire).1 := rfl

end CounterService

end Drill.Http
