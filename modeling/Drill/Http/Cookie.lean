import Drill.Assoc
import Drill.Http.Date
import Drill.Http.Url
import Drill.Text.Case
import Drill.Text.Digit

/-!
# Cookies

What the library `web` remembers of the answers it got (`http.cookiejar`). A cookie belongs to a
domain and a path; it is sent with requests to hosts of the domain whose path lies under its own,
and if it is a secure one only with a secure scheme. `Cookie.read?` reads one header of an answer,
`Jar.store` takes it up or drops what it revokes, and `Jar.header?` is what goes with a request,
longest paths first.
-/

namespace Drill.Http

/-- A cookie. -/
structure Cookie where
  name : String
  value : Option String
  domain : String
  /-- Did the answer name the domain? -/
  domainGiven : Bool
  path : String
  secure : Bool
  /-- The ports that the cookie is for, if the answer named any. -/
  ports : Option (List String)
deriving DecidableEq

/-- What one header of an answer asks for. -/
inductive Order where
  | keep (cookie : Cookie)
  | revoke (domain path name : String)
deriving DecidableEq

/-- The attributes that are known by their names in small letters. -/
def knownAttributes : List String :=
  ["expires", "domain", "path", "secure", "version", "port", "max-age"]

/-- A name and, after an equals sign, a value. -/
def splitPair (text : List Char) : String × Option String :=
  let trimmed (t : List Char) : String := String.ofList (Text.trimBy Text.isSpacing t)
  (trimmed (text.takeWhile (· ≠ '=')),
    match text.dropWhile (· ≠ '=') with
    | [] => none
    | _ :: value => some (trimmed value))

/-- The pairs of a header: the cookie itself and its attributes, the first of each name counting. -/
def pairsOf (header : String) : Option ((String × Option String) × Assoc String (Option String)) :=
  match (Text.split ';' header.toList).map splitPair with
  | [] => none
  | (name, value) :: rest =>
    if name.isEmpty then none
    else
      let attributes := rest.filterMap fun (key, value) =>
        let small := Text.smalls key
        if key.isEmpty then none
        else some (if small ∈ knownAttributes then small else key, value)
      some ((name, value), attributes)

/-- The letters of an address that cookie paths keep as they are. -/
def cookiePathSafe (c : Char) : Bool :=
  c.isAlphanum || "_.-~%/;:@&=+$,!*'()".toList.contains c

/-- A path as cookies compare it: encoded, with the digits of percent signs in capitals. -/
def comparablePath (path : String) : String :=
  String.ofList (raise (Percent.encode cookiePathSafe path.toList))
where
  /-- Capitals for the two digits after a percent sign. -/
  raise : List Char → List Char
    | '%' :: a :: b :: rest =>
      if (Text.hexValue? a).isSome && (Text.hexValue? b).isSome then '%' :: a.toUpper ::
        b.toUpper :: raise rest
      else '%' :: raise (a :: b :: rest)
    | c :: rest => c :: raise rest
    | [] => []

/-- The path of a request as cookies see it. -/
def requestPath (u : Url) : String :=
  let path := comparablePath u.path
  if path.startsWith "/" then path else "/" ++ path

/-- The host of a request as cookies see it: a name without dots is a local one. -/
def requestHost (u : Url) : String :=
  if u.host.contains '.' then u.host else u.host ++ ".local"

/-- The path of a cookie whose answer named none: the request's, up to its last slash. -/
def defaultPath (u : Url) : String :=
  let path := (requestPath u).toList
  match path.reverse.dropWhile (· ≠ '/') with
  | _ :: before => if before.isEmpty then "/" else String.ofList before.reverse
  | [] => String.ofList path

/-- A whole number as attributes write it. -/
def wholeNumber? (text : String) : Option Int := Text.integer? text.toList

namespace Cookie

/-- Is a cookie over before it begins? An age counts more than a date; a date that is not understood
does not count. -/
def isOver (now : Int) (age : Option Int) (expires : Option (Option String)) : Bool :=
  match age with
  | some seconds => decide (seconds ≤ 0)
  | none => ((expires.bind id).bind Date.secondsOf?).any (· ≤ now)

/-- What a header of the answer to a request asks for at a moment, in seconds since 1970; none if it
is not understood. -/
def read? (now : Int) (u : Url) (header : String) : Option Order := do
  let ((name, value), attributes) ← pairsOf header
  let domain ← match attributes.get? "domain" with
    | none => some none
    | some none => none
    | some (some d) => some (some (Text.smalls d))
  let path ← match attributes.get? "path" with
    | none => some ""
    | some none => none
    | some (some p) => some p
  let age ← match attributes.get? "max-age" with
    | none => some none
    | some none => none
    | some (some text) => (wholeNumber? text).map some
  if ((attributes.get? "version").map (·.bind wholeNumber?)).any (· ∉ [some 0, some 1]) then none
  else
    let fullDomain := match domain with
      | none => requestHost u
      | some d => if d.startsWith "." then d else "." ++ d
    let fullPath := if path.isEmpty then defaultPath u else comparablePath path
    if isOver now age (attributes.get? "expires") then return .revoke fullDomain fullPath name
    else return .keep {
      name
      value
      domain := fullDomain
      domainGiven := domain.isSome
      path := fullPath
      secure := (attributes.get? "secure").isSome
      ports := (attributes.get? "port").bind fun p => p.map fun text =>
        (Text.split ',' (text.toList.filter (!Text.isSpacing ·))).map String.ofList }

/-- Does a host belong to a domain? -/
def isInDomain (host domain : String) : Bool :=
  let dotted (s : String) : String := if s.startsWith "." then s else "." ++ s
  (dotted host).endsWith (dotted domain)

/-- Does a path lie under another one? -/
def isUnder (path above : String) : Bool :=
  path = above ||
    (path.startsWith above &&
      (above.endsWith "/" || (path.toList.drop above.length).head? = some '/'))

/-- The port that a request goes to. -/
def portOf (u : Url) : String :=
  let digits := (u.authority.toList.reverse.takeWhile Char.isDigit).reverse
  if u.host.length < u.authority.length then String.ofList digits else "80"

/-- May an answer to the request set the cookie? -/
def isAllowed (c : Cookie) (u : Url) : Bool :=
  !c.name.startsWith "$" &&
    (!c.domainGiven ||
      ((c.domain = ".local" || (c.domain.toList.drop 1).contains '.') &&
        isInDomain (requestHost u) c.domain)) &&
    c.ports.all fun ports =>
      ports.contains (portOf u) && (ports.takeWhile (· ≠ portOf u)).all fun p =>
        (wholeNumber? p).isSome

/-- Does the cookie go with the request? -/
def isFor (c : Cookie) (u : Url) : Bool :=
  isInDomain (requestHost u) c.domain && isUnder (requestPath u) c.path &&
    (!c.secure || u.scheme = "https" || u.scheme = "wss") && c.ports.all (·.contains (portOf u))

/-- The cookie as it is sent. -/
def sent (c : Cookie) : String :=
  match c.value with
  | some v => c.name ++ "=" ++ v
  | none => c.name

end Cookie

/-- Cookies by domain, path and name, each in order of arrival. -/
abbrev Jar := Assoc String (Assoc String (Assoc String Cookie))

namespace Jar

/-- A jar without cookies. -/
def empty : Jar := []

/-- All cookies. -/
def cookies (jar : Jar) : List Cookie :=
  jar.flatMap fun (_, paths) => paths.flatMap fun (_, names) => names.map (·.2)

/-- The jar with the cookie in its place. -/
def put (jar : Jar) (c : Cookie) : Jar :=
  let paths := (Assoc.get? jar c.domain).getD []
  let names := (Assoc.get? paths c.path).getD []
  Assoc.put jar c.domain (Assoc.put paths c.path (Assoc.put names c.name c))

/-- The jar without a cookie. -/
def drop (jar : Jar) (domain path name : String) : Jar :=
  match Assoc.get? jar domain with
  | none => jar
  | some paths =>
    match Assoc.get? paths path with
    | none => jar
    | some names => Assoc.put jar domain (Assoc.put paths path (Assoc.erase names name))

/-- Takes up the headers of the answer to a request at a moment. What they revoke goes first. -/
def store (jar : Jar) (now : Int) (u : Url) (headers : List String) : Jar :=
  let orders := headers.filterMap (Cookie.read? now u)
  let left := orders.foldl (fun jar order => match order with
    | .revoke domain path name => jar.drop domain path name
    | .keep _ => jar) jar
  orders.foldl (fun jar order => match order with
    | .keep c => if c.isAllowed u then jar.put c else jar
    | .revoke _ _ _ => jar) left

/-- What goes with a request, longest paths first; none if no cookie does. -/
def header? (jar : Jar) (u : Url) : Option String :=
  let fitting := jar.cookies.filter (·.isFor u)
  let sorted := fitting.mergeSort fun a b => b.path.length ≤ a.path.length
  if sorted.isEmpty then none else some ("; ".intercalate (sorted.map (·.sent)))

end Jar

end Drill.Http
