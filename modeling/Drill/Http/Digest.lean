import Drill.Http.Cookie
import Drill.Http.Library

/-!
# Credentials on demand

A server that wants credentials says so in a challenge; the answer to it goes with the repeated
request and with all later ones. `Challenge.read` reads a challenge and `Challenge.answer` is the
beginning of the header that answers it (`httpx.DigestAuth`). Both can fail, and what they raise is
no fault of the transport.
-/

namespace Drill.Http

/-- What a server wants to see. -/
structure Challenge where
  /-- The method of the digest, in capitals. -/
  method : String
  /-- The protections to choose from, if the server names any. -/
  protection : Option String
deriving DecidableEq

namespace Challenge

/-- The text up to the first comma outside quotes, and then up to every further one, given whether
the text begins inside quotes. A backslash inside quotes is dropped and keeps the character after it
from ending them. -/
def pieces : Bool → List Char → List (List Char)
  | _, [] => [[]]
  | true, '\\' :: c :: rest => attach c (pieces true rest)
  | true, ['\\'] => [[]]
  | inside, c :: rest =>
    if !inside && c = ',' then [] :: pieces inside rest
    else attach c (pieces (inside != (c = '"')) rest)
where
  /-- The pieces with a character before the first one. -/
  attach (c : Char) : List (List Char) → List (List Char)
    | first :: more => (c :: first) :: more
    | [] => [[c]]

/-- The fields of a list, without the blanks around them; nothing stands after a comma at the
end. -/
def fields (text : List Char) : List (List Char) :=
  let found := pieces false text
  (if found.getLast? = some [] then found.dropLast else found).map (Text.trimBy Text.isSpacing)

/-- A challenge without a realm or a nonce. -/
def malformed : Fault :=
  .transport .protocol "Malformed Digest WWW-Authenticate header"

/-- A field without an equals sign. -/
def unpaired : Fault := .plain .value "not enough values to unpack (expected 2, got 1)"

/-- A field with nothing after its equals sign. -/
def valueless : Fault := .plain .index "string index out of range"

/-- The name and the value of a field, the value without the quotes around it. -/
def pair (field : List Char) : Except Fault (String × String) :=
  match field.dropWhile (· ≠ '=') with
  | [] => .error unpaired
  | [_] => .error valueless
  | _ :: value =>
    let inner := if value.head? = some '"' && value.getLast? = some '"' then (value.drop 1).dropLast
      else value
    .ok (String.ofList (field.takeWhile (· ≠ '=')), String.ofList inner)

/-- Does the header challenge for a digest? -/
def isDigest (header : String) : Bool := (Text.smalls header).startsWith "digest "

/-- The challenge in a header. -/
def read (header : String) : Except Fault Challenge := do
  let pairs ← (fields ((header.toList.dropWhile (· ≠ ' ')).drop 1)).mapM pair
  let known := Assoc.ofPairs pairs
  if (known.get? "realm").isSome && (known.get? "nonce").isSome then
    return ⟨Text.capitals ((known.get? "algorithm").getD "MD5"), known.get? "qop"⟩
  else throw malformed

/-- The methods that can be answered. -/
def methods : List String :=
  ["MD5", "MD5-SESS", "SHA", "SHA-SESS", "SHA-256", "SHA-256-SESS", "SHA-512", "SHA-512-SESS"]

/-- The protections in a list; one blank may stand after a comma. -/
def choices (text : String) : List String :=
  match Text.split ',' text.toList with
  | [] => []
  | first :: more =>
    (first :: more.map fun p => if p.head? = some ' ' then p.drop 1 else p).map String.ofList

/-- Is plain protection among those to choose from? Without a choice it is. -/
def allowsPlain (c : Challenge) : Bool := c.protection.all fun text =>
    (choices text).contains "auth"

/-- Only a protection to choose from that is not known yet, or none that is known at all. -/
def unprotected (text : String) : Fault :=
  if choices text = ["auth-int"] then .plain .unbuilt
    "Digest auth-int support is not yet implemented"
  else .transport .protocol ("Unexpected qop value \"b" ++ Text.quoted text ++ "\" in digest auth")

/-- The beginning of the header that answers a challenge. -/
def answer (c : Challenge) (who : Credentials) : Except Fault String :=
  if c.method ∉ methods then .error (.plain .key c.method)
  else if c.allowsPlain then .ok ("Digest username=\"" ++ who.username ++ "\"")
  else .error (unprotected (c.protection.getD ""))

end Challenge

end Drill.Http
