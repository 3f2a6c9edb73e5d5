import Drill.Http.Host

/-!
# Addresses of requests

How a text becomes the address that a request is sent to (`Url.of`): scheme and host in small
letters, no port where it is the scheme's own, no dot segments in the path, and percent signs for
every character that has no place in an address. This is how the library `web` takes addresses
(`httpx.URL`); clients hand theirs over as texts.
-/

namespace Drill.Http

/-- The parts of an address. -/
structure Url where
  scheme : String
  /-- User, host and port, as far as they are shown. -/
  authority : String
  path : String
  query : Option String
  fragment : Option String
deriving DecidableEq

namespace Url

/-- The address as a text. -/
def render (u : Url) : String :=
  (if u.scheme.isEmpty then "" else u.scheme ++ ":") ++
    (if u.authority.isEmpty then "" else "//" ++ u.authority) ++ u.path ++
    (match u.query with | some q => "?" ++ q | none => "") ++
    (match u.fragment with | some f => "#" ++ f | none => "")

/-- The characters that paths are written in. -/
def pathSafe : Char → Bool :=
  Percent.isVisibleBut ['"', '#', '<', '>', '?', Char.ofNat 0x60, '{', '}']

/-- The characters that users are written in. -/
def userSafe : Char → Bool :=
  Percent.isVisibleBut ['"', '#', '<', '>', '?', Char.ofNat 0x60, '{', '}', '/', ';', '=', '@', '[',
    '\\', ']', '^', '|']

/-- The characters that queries are written in. -/
def querySafe : Char → Bool := Percent.isVisibleBut ['"', '#', '<', '>']

/-- The characters that fragments are written in. -/
def fragmentSafe : Char → Bool := Percent.isVisibleBut ['"', '<', '>', Char.ofNat 0x60]

/-- The segments so far and one more: one dot stands for the same level, two for the one above. -/
def descend (kept : List (List Char)) (segment : List Char) : List (List Char) :=
  if segment = ['.'] then kept
  else if segment = ['.', '.'] then (if kept = [] || kept = [[]] then kept else kept.dropLast)
  else kept ++ [segment]

/-- The segments of a path without those that stand for the same or the upper level. -/
def dropDots (segments : List (List Char)) : List (List Char) := segments.foldl descend []

/-- A path without dot segments. -/
def straighten (path : List Char) : List Char :=
  ['/'].intercalate (dropDots (Text.split '/' path))

/-- The port that a scheme uses unless told otherwise. -/
def usualPort? : String → Option Nat
  | "http" | "ws" => some 80
  | "https" | "wss" => some 443
  | "ftp" => some 21
  | _ => none

/-- The scheme of an address and the text after it. -/
def splitScheme (text : List Char) : List Char × List Char :=
  let isSchemeChar (c : Char) : Bool := c.isAlphanum || c = '+' || c = '.' || c = '-'
  match text.takeWhile isSchemeChar, text.dropWhile isSchemeChar with
  | first :: more, ':' :: rest => if first.isAlpha then (first :: more, rest) else ([], text)
  | _, _ => ([], text)

/-- An authority in its parts. -/
structure Authority where
  user : List Char
  host : List Char
  port : List Char

/-- The parts of an authority. A host in square brackets may hold colons. -/
def splitAuthority (text : List Char) : Authority :=
  let isUserChar (c : Char) : Bool := c ≠ '@'
  let isNameChar (c : Char) : Bool := c ≠ ':' && c ≠ '@'
  let (user, place) := if text.contains '@' then
      (text.takeWhile isUserChar, (text.dropWhile isUserChar).drop 1)
    else ([], text)
  let (host, rest) := match place with
    | '[' :: _ =>
      if place.contains ']' then
        let host := (place.reverse.dropWhile (· ≠ ']')).reverse
        (host, place.drop host.length)
      else (place.takeWhile isNameChar, place.dropWhile isNameChar)
    | _ => (place.takeWhile isNameChar, place.dropWhile isNameChar)
  ⟨user, host, match rest with
    | ':' :: port => port
    | other => other⟩

/-- The port as it is shown, if it is not the one that the scheme uses anyway. -/
def normalPort (scheme : String) (port : List Char) : Except Fault (Option Int) :=
  if port.isEmpty then .ok none
  else match Text.integer? port with
    | some n => .ok (if (usualPort? scheme).map Int.ofNat = some n then none else some n)
    | none => .error (.plain .address ("Invalid port: " ++ Text.quoted (String.ofList port)))

/-- The authority as it is shown. -/
def normalAuthority (scheme : String) (text : List Char) : Except Fault String := do
  let parts := splitAuthority text
  let host ← Host.normal parts.host
  let port ← normalPort scheme parts.port
  return String.ofList
    ((if parts.user.isEmpty then [] else Percent.encode userSafe parts.user ++ ['@']) ++ host) ++
    (match port with
      | some n => s!":{n}"
      | none => "")

/-- The first character that no address may hold, and where it is. -/
def firstControl? (text : List Char) : Option (Char × Nat) :=
  text.zipIdx.find? fun (c, _) => c.toNat < 0x20 || c.toNat = 0x7F

/-- The longest text of an address. -/
def maxLength : Nat := 65536

/-- Why a path does not go with the rest of an address, if it does not. -/
def pathFault? (hasScheme hasAuthority : Bool) (path : List Char) : Option String :=
  if hasAuthority then
    if path.isEmpty || path.head? = some '/' then none
    else some "For absolute URLs, path must be empty or begin with '/'"
  else if hasScheme then none
  else match path with
    | '/' :: '/' :: _ => some "Relative URLs cannot have a path starting with '//'"
    | ':' :: _ => some "Relative URLs cannot have a path starting with ':'"
    | _ => none

/-- The address of a text, as far as the text goes. -/
def parse (text : String) : Except Fault Url :=
  if maxLength < text.length then .error (.plain .address "URL too long")
  else match firstControl? text.toList with
  | some (c, i) =>
    .error (.plain .address ("Invalid non-printable ASCII character in URL, " ++
      Text.quoted (String.singleton c) ++ s!" at position {i}."))
  | none => do
    let (scheme, rest) := splitScheme text.toList
    let scheme := Text.smalls (String.ofList scheme)
    let (authority, rest) := match rest with
      | '/' :: '/' :: r =>
        let isEnd (c : Char) : Bool := c = '/' || c = '?' || c = '#'
        (r.takeWhile (!isEnd ·), r.dropWhile (!isEnd ·))
      | _ => ([], rest)
    let authority ← normalAuthority scheme authority
    let path := rest.takeWhile fun c => c ≠ '?' && c ≠ '#'
    let rest := rest.drop path.length
    let query := match rest with
      | '?' :: r => some (r.takeWhile (· ≠ '#'))
      | _ => none
    let fragment := match rest.dropWhile (· ≠ '#') with
      | _ :: r => some r
      | [] => none
    let hasAuthority := !authority.isEmpty
    match pathFault? (!scheme.isEmpty) hasAuthority path with
    | some why => .error (.plain .address why)
    | none =>
      let path := if scheme.isEmpty && !hasAuthority then path else straighten path
      return {
        scheme
        authority
        path := String.ofList (Percent.encode pathSafe path)
        query := query.map fun q => String.ofList (Percent.encode querySafe q)
        fragment := fragment.map fun f => String.ofList (Percent.encode fragmentSafe f) }

/-- Does the address say where its requests go? -/
def isAbsolute (u : Url) : Bool := !u.scheme.isEmpty && !u.authority.isEmpty

/-- The address that requests are sent to. An address that does not say where they go is only a path
from the root. -/
def of (text : String) : Except Fault Url := do
  let u ← parse text
  if u.isAbsolute then return u
  else return { u with
    scheme := ""
    authority := ""
    path := String.ofList ('/' :: u.path.toList.dropWhile (· = '/'))
    fragment := none }

/-- The name and the password in the authority; empty where there are none. -/
def user (u : Url) : String × String :=
  let isUserChar (c : Char) : Bool := c ≠ '@'
  let isNameChar (c : Char) : Bool := c ≠ ':'
  let text := u.authority.toList
  let user := if text.contains '@' then text.takeWhile isUserChar else []
  (String.ofList (Percent.decode (user.takeWhile isNameChar)),
    String.ofList (Percent.decode ((user.dropWhile isNameChar).drop 1)))

/-- The host in small letters, without its port. -/
def host (u : Url) : String :=
  let text := (Text.smalls u.authority).toList
  let digits := (text.reverse.takeWhile Char.isDigit).length
  match text.reverse.drop digits with
  | ':' :: before => if digits = 0 then String.ofList text else String.ofList before.reverse
  | _ => String.ofList text

end Url

end Drill.Http
