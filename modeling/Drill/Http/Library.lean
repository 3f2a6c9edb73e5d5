import Drill.Fault
import Drill.Json.Reader

/-!
# The HTTP library beneath the clients

A client does not talk to a server itself. It hands a `Post` to its HTTP library
(`httpx.AsyncClient`) and goes on with what the library makes of it: a response, or something that
is raised. How the library gets there is no business of the clients: addresses, cookies,
credentials, redirections and charsets are all its own. So everything about a client is said of any
`Library`, and what is said depends on the reply to its post alone. Nothing is assumed of a library.

What the clients themselves read of a response is its status, its body and its text.
-/

namespace Drill.Http

open Number (Double)

/-- A name and a password, neither of them empty. -/
structure Credentials where
  username : String
  password : String
  username_ne : username ≠ ""
  password_ne : password ≠ ""

/-- Credentials, if both parts are given and not empty. -/
def Credentials.of? : Option String → Option String → Option Credentials
  | some u, some p =>
    if hu : u ≠ "" then if hp : p ≠ "" then some ⟨u, p, hu, hp⟩ else none else none
  | _, _ => none

/-- A response (`httpx.Response`). -/
structure Response where
  status : Int
  headers : List (String × String)
  /-- The bytes of the body. -/
  body : List Nat

namespace Response

/-- Does the status say success? (`Response.is_success`) -/
def isSuccess (r : Response) : Bool := 200 ≤ r.status && r.status ≤ 299

/-- The body as a JSON value (`Response.json`), where so many lists and objects may be nested. -/
def json (room : Nat) (r : Response) : Except Json.ReadError Json.Value :=
  Json.readBytes room r.body

end Response

/-- What a post comes to: a response, or what the library raises. Faults of the kind `transport` are
those of the family `httpx.HTTPError`; a library may raise others as well. -/
abbrev Reply := Except Fault Response

/-- The status of a reply, if it is a response. -/
def Reply.status? : Reply → Option Int
  | .ok r => some r.status
  | .error _ => none

/-- A request as a client hands it to its library (`AsyncClient.post`). -/
structure Post where
  address : String
  /-- How many seconds the server may take. -/
  timeout : Double
  /-- What is sent as JSON, if anything is. -/
  body : Option Json.Value

/-- An HTTP library, of which the clients assume no more than that it has these parts. -/
structure Library where
  /-- What a client keeps from one request to the next: cookies, connections, a challenge. -/
  Session : Type
  /-- What happens between library and server while a post is under way. -/
  Wire : Type
  /-- What the library puts on the wire. -/
  Sent : Type
  /-- A session that begins at a moment, in seconds since 1970, with credentials or without. -/
  opened : Int → Option Credentials → Session
  /-- What a post comes to, what was sent for it, and the session after it. -/
  post : Session → Post → Wire → Reply × List Sent × Session
  /-- The session after the client was closed (`AsyncClient.aclose`) and another one took its
  place. -/
  closed : Session → Session
  /-- The text of a response (`Response.text`). Its charset may be one that nobody can read. -/
  text : Response → Except Fault (List Char)
  /-- How many lists and objects may be nested in a body that is read at this place. -/
  room : Nat

/-- The beginning of a response, for messages. -/
def Library.excerpt (L : Library) (r : Response) : Except Fault String :=
  (L.text r).map fun text => String.ofList (text.take 200)

end Drill.Http
