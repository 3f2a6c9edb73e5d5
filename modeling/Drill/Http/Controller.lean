import Drill.Http.Counter

/-!
# Nodes behind a management server

A controller that has nodes stopped and started by a management server
(`ManagementTopologyController`). The server says whether it did what it was told; everything but a
clear yes is a refusal. A stop gives the node a grace period, rounded up to whole seconds so that a
short one does not become none, and waits for the answer ten seconds longer than that.

`NodeController.stop` and `start` put a request together (`stopRequest`, `startRequest`) and have it
carried out (`execute`); `verdict` is what they make of the reply. Main statement: `verdict_ok_iff`,
a request was carried out exactly when the response says so.
-/

namespace Drill.Http

open Number (Double)

/-- A controller of nodes (`ManagementTopologyController`). -/
structure NodeController (L : Library) where
  address : String
  /-- The host and the name of the nodes that are not found under their own. -/
  servers : Assoc String (String × String)
  defaultHost : String
  timeout : Double
  session : L.Session

/-- The members of a body that is an object; a body that is none, or no JSON, has no members. Only a
body that is nested too deep is another matter. -/
def Response.members (room : Nat) (r : Response) : Except Fault (Assoc String Json.Value) :=
  match r.json room with
  | .ok (.object members) => .ok members
  | .ok _ => .ok []
  | .error (.tooDeep object) => .error (.deepNesting object)
  | .error _ => .ok []

namespace NodeController

variable {L : Library}

/-- A controller that has sent nothing yet. -/
def of (base : String) (servers : Assoc String (String × String)) (defaultHost : String)
    (timeout : Double) (session : L.Session) : NodeController L :=
  ⟨dropSlashes base ++ "/management", servers, defaultHost, timeout, session⟩

/-- The host and the name under which the server knows a node. -/
def place (c : NodeController L) (id : String) : String × String :=
  (c.servers.get? id).getD (c.defaultHost, id)

/-- The path to a node (`address`). -/
def nodeAddress (c : NodeController L) (id : String) : Json.Value :=
  let (host, server) := c.place id
  .array [.object [("host", .string host)], .object [("server-config", .string server)]]

/-- What a request says. -/
def instruction (c : NodeController L) (id : String) (operation : Operation) (grace : Option Int) :
    Json.Value :=
  .object ([("operation", .string operation.name), ("address", c.nodeAddress id),
    ("blocking", .bool grace.isSome)] ++ (grace.map fun s => ("timeout", .int s)).toList)

/-- Did the server do what it was told? -/
def isDone (r : Response) (members : Assoc String Json.Value) : Bool :=
  r.isSuccess && match members.get? "outcome" with
    | some (.string outcome) => outcome = "success"
    | _ => false

/-- Why the server did not do it: its own words, or the beginning of what it said. -/
def description (L : Library) (r : Response) (members : Assoc String Json.Value) :
    Except Fault String :=
  match members.get? "failure-description" with
  | some why => if why.isBlank then L.excerpt r else .ok why.describe
  | none => L.excerpt r

/-- What comes of a response to a request. -/
def judge (L : Library) (id : String) (operation : Operation) (r : Response) : Except Raised Unit :=
  match r.members L.room with
  | .error fault => .error (.plain fault)
  | .ok members =>
    if isDone r members then .ok ()
    else match description L r members with
      | .error fault => .error (.plain fault)
      | .ok why => .error (.plain (.control
          s!"{operation.name} of {id} rejected (status {r.status}): {why}" id operation.name))

/-- What comes of a request to a node, given the reply and how many seconds were allowed. Faults
that are none of the transport's are not caught. -/
def verdict (L : Library) (id : String) (operation : Operation) (allowed : Double) :
    Reply → Except Raised Unit
  | .ok r => judge L id operation r
  | .error (.transport kind text) =>
    let why :=
      if kind.isTimeout then s!"not honored within {allowed.fixed 0}s"
      else s!"failed: {kind.name}({Text.quoted text})"
    .error (.of (.control s!"{operation.name} of {id} {why}" id operation.name)
      (.transport kind text))
  | .error fault => .error (.plain fault)

/-- A verdict is favourable if it is over a response that says so, and only then. -/
theorem verdict_ok_iff (L : Library) (id : String) (operation : Operation) (allowed : Double)
    (reply : Reply) : verdict L id operation allowed reply = .ok () ↔
      ∃ r members, reply = .ok r ∧ r.members L.room = .ok members ∧ isDone r members = true := by
  cases reply with
  | error fault => cases fault <;> simp [verdict]
  | ok r =>
    unfold verdict judge
    cases read : r.members L.room with
    | error fault => simp [read]
    | ok members =>
      by_cases done : isDone r members = true
      · simp [read, done]
      · cases described : description L r members <;> simp [read, done, described]

/-- Has a request carried out (`_execute`). What was sent comes back too. -/
def execute (c : NodeController L) (id : String) (operation : Operation) (request : Post)
    (wire : L.Wire) : Except Raised Unit × List L.Sent × NodeController L :=
  let (reply, sent, session) := L.post c.session request wire
  (verdict L id operation request.timeout reply, sent, { c with session })

/-- A number of milliseconds whose quotient by a thousand is no double. -/
def largeQuotient : Fault := .plain .overflow "integer division result too large for a float"

/-- Milliseconds in whole seconds, rounded up. -/
def graceSeconds (millis : Int) : Except Fault Int :=
  if 0 < millis then
    match (Double.ofRatio false millis.natAbs 1000).ceil? with
    | some n => .ok n
    | none => .error largeQuotient
  else .ok 0

/-- How many seconds longer than the grace period a stop may take (`STOP_MARGIN_S`). -/
def margin : Double := .ofInt 10

/-- The request for a stop with a grace period in seconds. -/
def stopRequest (c : NodeController L) (id : String) (seconds : Int) : Post :=
  ⟨c.address, .ofInt seconds + margin, some (c.instruction id .stop (some seconds))⟩

/-- The request for a start. -/
def startRequest (c : NodeController L) (id : String) : Post :=
  ⟨c.address, c.timeout, some (c.instruction id .start none)⟩

/-- Stops a node (`stop`). -/
def stop (c : NodeController L) (id : String) (graceMillis : Int) (wire : L.Wire) :
    Except Raised Unit × List L.Sent × NodeController L :=
  match graceSeconds graceMillis with
  | .ok seconds => c.execute id .stop (c.stopRequest id seconds) wire
  | .error fault => (.error (.plain fault), [], c)

/-- Starts a node (`start`). -/
def start (c : NodeController L) (id : String) (wire : L.Wire) :
    Except Raised Unit × List L.Sent × NodeController L :=
  c.execute id .start (c.startRequest id) wire

/-- Forgets the conversation (`close`). -/
def close (c : NodeController L) : NodeController L := { c with session := L.closed c.session }

end NodeController

end Drill.Http
