import Drill.Http.Digest
import Drill.Http.Exchange

/-!
# A library to run the clients on

`web` is one HTTP library, on which the clients run and are tried out: it resolves addresses, keeps
cookies, answers challenges with digests and looks where a redirection leads, without following it.
The replies that it finds on the wire are given to it. It stands for a library that is not part of
this project and covers of it what the clients' servers make use of; nothing that is proved of all
clients rests on it.

Main statements: `post_of_response`, a response that asks for nothing more is what a post comes to,
and `post_sends`, what is sent for it.
-/

namespace Drill.Http

open Number (Double)

/-- What the library keeps for a client. -/
structure WebSession where
  jar : Jar
  credentials : Option Credentials
  /-- The challenge that the server made last. -/
  challenge : Option Challenge
  /-- The moment it is, in seconds since 1970. -/
  now : Int

namespace WebSession

/-- A session that has sent nothing yet. -/
def opened (now : Int) (credentials : Option Credentials) : WebSession :=
  ⟨.empty, credentials, none, now⟩

/-- The credentials that go with a request: the answer to the last challenge, if the session has
credentials and there was one; a session without any sends those in the address. -/
def authorization (s : WebSession) (url : Url) : Except Fault (Option String) :=
  match s.credentials, s.challenge with
  | some who, some challenge => (challenge.answer who).map some
  | some _, none => .ok none
  | none, _ => .ok (plainCredentials url)

/-- The challenge that a response makes, if the session can answer challenges. -/
def challengeIn (s : WebSession) (r : Response) : Option String :=
  if s.credentials.isSome && r.status = 401 then
    (r.valuesOf "www-authenticate").find? Challenge.isDigest
  else none

/-- Sends a request, and sends it again with credentials if the server asks for them. -/
def transmit (s : WebSession) (request : Request) (replies : List Reply) :
    Reply × List Request × WebSession :=
  match s.authorization request.url with
  | .error fault => (.error fault, [], s)
  | .ok authorization =>
    let request := { request with authorization }
    let (reply, jar) := exchange s.now s.jar request.url (replies.headD silence)
    let s := { s with jar }
    match reply with
    | .error fault => (.error fault, [request], s)
    | .ok r =>
      match s.challengeIn r with
      | none => (.ok r, [request], s)
      | some header =>
        match Challenge.read header with
        | .error fault => (.error fault, [request], s)
        | .ok challenge =>
          -- The challenge is remembered before it is answered, and for all later requests.
          let s := { s with challenge := some challenge }
          match s.authorization request.url with
          | .error fault => (.error fault, [request], s)
          | .ok authorization =>
            let fresh := Jar.empty.store s.now request.url (r.valuesOf "set-cookie")
            let again := { request with
              authorization
              cookie := request.cookie.or (fresh.header? request.url) }
            let (reply, jar) := exchange s.now s.jar request.url ((replies.drop 1).headD silence)
            (reply, [request, again], { s with jar })

/-- What a post comes to. -/
def post (s : WebSession) (p : Post) (replies : List Reply) : Reply × List Request × WebSession :=
  match Url.of p.address with
  | .error fault => (.error fault, [], s)
  | .ok url => s.transmit ⟨url, s.jar.header? url, p.timeout, none, p.body⟩ replies

variable {s : WebSession} {p : Post} {url : Url} {r : Response} {sent : Option String}

/-- A response that makes no challenge is what the post comes to, if it leads nowhere else. -/
theorem post_of_response (place : Url.of p.address = .ok url) (whole : url.scheme.isEmpty = false)
    (ready : s.authorization url = .ok sent) (here : r.lost? = none)
    (unchallenged : s.challengeIn r = none) (replies : List Reply) :
    (s.post p (.ok r :: replies)).1 = .ok r := by
  have same (jar : Jar) : { s with jar }.challengeIn r = s.challengeIn r := rfl
  simp only [post, place, transmit, ready, exchange, List.headD_cons, whole, here,
    same, unchallenged, Bool.false_eq_true, if_false]

/-- Something is sent to an address, and says what the post says, if the session has the credentials
ready that go with it. -/
theorem post_sends (place : Url.of p.address = .ok url) (ready : s.authorization url = .ok sent)
    (replies : List Reply) : ∃ request ∈ (s.post p replies).2.1, request.body = p.body := by
  simp only [post, place, transmit, ready]
  split
  next => exact ⟨_, List.mem_cons_self, rfl⟩
  next =>
    split
    next => exact ⟨_, List.mem_cons_self, rfl⟩
    next =>
      split
      next => exact ⟨_, List.mem_cons_self, rfl⟩
      next => split <;> exact ⟨_, List.mem_cons_self, rfl⟩

/-- A challenge that is read and cannot be answered is what the post fails by. -/
theorem post_of_unanswered {who : Credentials} {header : String} {challenge : Challenge}
    {fault : Fault} (place : Url.of p.address = .ok url) (whole : url.scheme.isEmpty = false)
    (ready : s.authorization url = .ok sent) (here : r.lost? = none)
    (credentials : s.credentials = some who) (challenged : s.challengeIn r = some header)
    (read : Challenge.read header = .ok challenge)
    (unanswered : challenge.answer who = .error fault) (replies : List Reply) :
    (s.post p (.ok r :: replies)).1 = .error fault := by
  have same (jar : Jar) : { s with jar }.challengeIn r = s.challengeIn r := rfl
  have unready (jar : Jar) :
      { s with jar, challenge := some challenge }.authorization url = .error fault := by
    simp only [authorization, credentials, unanswered, Except.map]
  simp only [post, place, transmit, ready, exchange, List.headD_cons, whole, here, same, challenged,
    read, unready, Bool.false_eq_true, if_false]

end WebSession

/-- A library that finds given replies on the wire. Closing a client drops its cookies, and not the
challenge that its credentials were asked for. -/
abbrev web : Library where
  Session := WebSession
  Wire := List Reply
  Sent := Request
  opened := WebSession.opened
  post := WebSession.post
  closed s := { s with jar := .empty }
  text r := .ok r.text
  room := 1000

end Drill.Http
