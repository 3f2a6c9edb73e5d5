import Drill.Http.Cookie
import Drill.Http.Library
import Drill.Text.Base64

/-!
# Requests and responses

What the library `web` puts on the wire and what it makes of the answer. A request carries an
address, a time limit, and perhaps a body, cookies and credentials. `Response.text` shows the bytes
of a response in the charset that its headers name. `exchange` is one exchange: the cookies of the
response go into the jar, whatever its status, and `Response.lost?` is what a redirection to nowhere
raises.
-/

namespace Drill.Http

open Number (Double)

/-- A request. -/
structure Request where
  url : Url
  cookie : Option String
  /-- The time limit in seconds. -/
  timeout : Double
  authorization : Option String
  body : Option Json.Value

/-- The header with the name and the password in an address, if it has any. -/
def plainCredentials (url : Url) : Option String :=
  match url.user with
  | ("", "") => none
  | (name, password) =>
    some ("Basic " ++ String.ofList (Text.base64 (Text.utf8Bytes (name ++ ":" ++ password))))

/-- The time limit of a request in whole milliseconds. -/
def Request.timeoutMillis (r : Request) : Int := ((r.timeout * .ofInt 1000).round?).getD 0

namespace Response

/-- The values of all headers of a name, which is given in small letters. -/
def valuesOf (r : Response) (name : String) : List String :=
  (r.headers.filter fun h => Text.smalls h.1 = name).map (·.2)

/-- The charset that a content type names, in small letters and without quotes. -/
def charset? (contentType : String) : Option String :=
  ((Text.split ';' contentType.toList).map splitPair).findSome? fun (key, value) =>
    if Text.smalls key = "charset" then
      value.map fun v => Text.smalls (String.ofList (v.toList.filter (· ≠ '"')))
    else none

/-- The encoding of a charset, and the bytes without the mark that picks their order. -/
def decoderOf (charset : String) (bytes : List Nat) : Text.Encoding × List Nat :=
  match String.ofList (charset.toList.filter Char.isAlphanum) with
  | "iso88591" | "latin1" | "latin" | "l1" => (.latin1, bytes)
  | "cp1252" | "windows1252" | "1252" => (.western, bytes)
  | "ascii" | "usascii" => (.ascii, bytes)
  | "utf16le" => (.utf16 false, bytes)
  | "utf16be" => (.utf16 true, bytes)
  | "utf32le" => (.utf32 false, bytes)
  | "utf32be" => (.utf32 true, bytes)
  | "utf16" =>
    match bytes with
    | 0xFE :: 0xFF :: rest => (.utf16 true, rest)
    | 0xFF :: 0xFE :: rest => (.utf16 false, rest)
    | _ => (.utf16 false, bytes)
  | "utf32" =>
    match bytes with
    | 0 :: 0 :: 0xFE :: 0xFF :: rest => (.utf32 true, rest)
    | 0xFF :: 0xFE :: 0 :: 0 :: rest => (.utf32 false, rest)
    | _ => (.utf32 false, bytes)
  | "utf8sig" =>
    match bytes with
    | 0xEF :: 0xBB :: 0xBF :: rest => (.utf8, rest)
    | _ => (.utf8, bytes)
  | _ => (.utf8, bytes)

/-- The body as a text. -/
def text (r : Response) : List Char :=
  let charset := ((r.valuesOf "content-type").head?.bind charset?).getD "utf-8"
  let (encoding, bytes) := decoderOf charset r.body
  encoding.lossy bytes

end Response

/-- The statuses that send the client elsewhere. -/
def movedStatuses : List Int := [301, 302, 303, 307, 308]

/-- The place that a response names, if it names one. A header that stands there several times
counts as one with commas. -/
def Response.location? (r : Response) : Option String :=
  match r.valuesOf "location" with
  | [] => none
  | places => some (", ".intercalate places)

/-- What is wrong with the place that a response sends the client to, if it sends it anywhere. The
client stays, but it does look: the place must be an address, and one that has a scheme and no host
must still be one when it is given the host of the request. -/
def Response.lost? (r : Response) : Option Fault :=
  if r.status ∈ movedStatuses then
    match r.location?.map Url.parse with
    | some (.error fault) =>
      some (.transport .remoteProtocol s!"Invalid URL in location header: {fault.text}.")
    | some (.ok place) =>
      if !place.scheme.isEmpty && place.host.isEmpty then
        (Url.pathFault? true true place.path.toList).map (Fault.plain .address)
      else none
    | none => none
  else none

/-- An address whose answers no jar can place. -/
def placeless (url : Url) : Fault := .plain .value ("unknown url type: " ++ Text.quoted url.render)

/-- One exchange at a moment: what came back, and the jar after it. A response to an address that
does not say where it is has no place in the jar and is lost; so is one that sends the client
nowhere. -/
def exchange (now : Int) (jar : Jar) (url : Url) (reply : Reply) : Reply × Jar :=
  match reply with
  | .ok response =>
    if url.scheme.isEmpty then (.error (placeless url), jar)
    else
      (match response.lost? with
        | some fault => .error fault
        | none => .ok response,
       jar.store now url (response.valuesOf "set-cookie"))
  | .error fault => (.error fault, jar)

/-- Nobody answers. -/
def silence : Reply := .error (.plain .runtime "no reply")

end Drill.Http
