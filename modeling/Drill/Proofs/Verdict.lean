import Drill.Http.Management
import Drill.Proofs.Answers
import Drill.Proofs.Grace

/-!
# What a controller makes of a reply

A request to a node is one post to the HTTP library, and what comes of the request is decided by the
reply to that post. The node did what it was told if the reply is a response that says success
twice, in its status and in its body (`Response.Succeeds`); all else is a refusal that names the
node and the request. What is not caught escapes (`NodeController.Escapes`): whatever the library
raises that is none of the transport's faults, a body that is nested too deep, and a text that
cannot be shown.

The first of these is no rare thing. A library that answers challenges raises faults of its own when
a server asks for a method that it does not know, and so a server makes a request escape by a header
(`modern_escapes`).

Main statements: `isDone_iff`, `verdict_cases`, and `honors_conduct`, what comes of a stop and of a
start, for every HTTP library and every reply.
-/

namespace Drill

open Number (Double)

namespace Http

/-! ## The response that says so -/

/-- The response says success, and so does its body, which is an object. -/
def Response.Succeeds (room : Nat) (r : Response) : Prop :=
  r.isSuccess = true ∧ ∃ members, r.json room = .ok (.object members) ∧
    Assoc.get? members "outcome" = some (.string "success")

/-- The body of the response gives no reason for a refusal. -/
def Response.Silent (room : Nat) (r : Response) : Prop :=
  ∃ members, r.members room = .ok members ∧
    ∀ why, Assoc.get? members "failure-description" = some why → why.isBlank = true

/-- A body that has members is an object; the members of all others are none. -/
theorem Response.members_cases {room : Nat} {r : Response} {members : Assoc String Json.Value}
    (read : r.members room = .ok members) :
    r.json room = .ok (.object members) ∨
      members = [] ∧ ∀ members', r.json room ≠ .ok (.object members') := by
  unfold Response.members at read
  split at read
  next members' json =>
    cases read
    exact .inl json
  next v other json =>
    cases read
    refine .inr ⟨rfl, fun members' object => ?_⟩
    rw [json] at object
    cases object
    exact other _ rfl
  next => cases read
  next e _ json =>
    cases read
    refine .inr ⟨rfl, fun members' object => ?_⟩
    rw [json] at object
    cases object

namespace NodeController

variable {L : Library} {id : String} {operation : Operation} {allowed : Double} {r : Response}
  {reply : Reply} {fault : Fault}

/-- The server says that it did what it was told exactly if it says success twice. -/
theorem isDone_iff (room : Nat) (r : Response) :
    (∃ members, r.members room = .ok members ∧ isDone r members = true) ↔ r.Succeeds room := by
  constructor
  · rintro ⟨members, read, done⟩
    obtain ⟨success, told⟩ := Bool.and_eq_true_iff.mp done
    have outcome : Assoc.get? members "outcome" = some (.string "success") := by
      split at told
      next outcome said => rw [said, of_decide_eq_true told]
      next => cases told
    rcases Response.members_cases read with json | ⟨none, -⟩
    · exact ⟨success, members, json, outcome⟩
    · rw [none] at outcome
      cases outcome
  · rintro ⟨success, members, json, told⟩
    refine ⟨members, by simp only [Response.members, json], ?_⟩
    simp only [isDone, success, told, decide_true, Bool.and_self]

/-! ## What comes of a reply -/

/-- The faults of a request that are no refusals and go through as they are. -/
inductive Escapes (L : Library) : Reply → Fault → Prop where
  /-- The library raises a fault that is none of the transport's. -/
  | foreign {fault : Fault} (other : ∀ kind text, fault ≠ .transport kind text) :
      Escapes L (.error fault) fault
  /-- The body is nested too deep. -/
  | deep {r : Response} {object : Bool} (deep : r.json L.room = .error (.tooDeep object)) :
      Escapes L (.ok r) (.deepNesting object)
  /-- The node is refused without a reason, and the text that would stand for it cannot be shown. -/
  | unshown {r : Response} {fault : Fault} (fails : ¬ r.Succeeds L.room) (silent : r.Silent L.room)
      (unshown : L.text r = .error fault) : Escapes L (.ok r) fault

/-- What may come of a request to a node that has this reply. -/
structure Honors (L : Library) (id : String) (operation : Operation) (reply : Reply)
    (result : Except Raised Unit) : Prop where
  /-- The node does what it is told if a response says so, and only then. -/
  done : result = .ok () ↔ ∃ r, reply = .ok r ∧ r.Succeeds L.room
  /-- All else is a refusal that names the node and the request, or it escapes. -/
  refused : ∀ raised, result = .error raised →
    (∃ text, raised.fault = .control text id operation.name) ∨
    ∃ fault, raised = .plain fault ∧ Escapes L reply fault
  escapes : ∀ fault, Escapes L reply fault → result = .error (.plain fault)

theorem members_of_deep {object : Bool} (deep : r.json L.room = .error (.tooDeep object)) :
    r.members L.room = .error (.deepNesting object) := by
  simp only [Response.members, deep]

/-- Only a body that is nested too deep has no members to look at. -/
theorem deep_of_members (unread : r.members L.room = .error fault) :
    ∃ object, fault = .deepNesting object ∧ r.json L.room = .error (.tooDeep object) := by
  unfold Response.members at unread
  split at unread
  next => cases unread
  next => cases unread
  next object json =>
    cases unread
    exact ⟨object, rfl, json⟩
  next => cases unread

theorem not_done {members : Assoc String Json.Value} (fails : ¬ r.Succeeds L.room)
    (read : r.members L.room = .ok members) : isDone r members = false :=
  Bool.eq_false_iff.mpr fun done => fails ((isDone_iff L.room r).mp ⟨members, read, done⟩)

/-- A refusal without a reason shows the text of the response. -/
theorem description_of_silent {members : Assoc String Json.Value}
    (read : r.members L.room = .ok members) (silent : r.Silent L.room) :
    description L r members = L.excerpt r := by
  obtain ⟨members', read', blank⟩ := silent
  rw [read] at read'
  cases read'
  unfold description
  cases said : Assoc.get? members "failure-description" with
  | none => rfl
  | some why => simp only [blank why said, if_true]

/-- A reason of the server's own can always be shown, so a refusal that cannot be told has none. -/
theorem silent_of_description {members : Assoc String Json.Value}
    (read : r.members L.room = .ok members) (untold : description L r members = .error fault) :
    r.Silent L.room ∧ L.text r = .error fault := by
  have silent : r.Silent L.room := by
    refine ⟨members, read, fun why said => Bool.eq_true_of_not_eq_false fun loud => ?_⟩
    have told : description L r members = .ok why.describe := by
      unfold description
      rw [show members.get? "failure-description" = some why from said]
      simp only [loud, Bool.false_eq_true, if_false]
    rw [told] at untold
    cases untold
  refine ⟨silent, ?_⟩
  rw [description_of_silent read silent, Library.excerpt] at untold
  cases text : L.text r with
  | ok shown =>
    rw [text] at untold
    cases untold
  | error fault' =>
    rw [text] at untold
    cases untold
    rfl

/-- What escapes a request is what comes of it. -/
theorem verdict_of_escapes (id : String) (operation : Operation) (allowed : Double)
    (escapes : Escapes L reply fault) :
    verdict L id operation allowed reply = .error (.plain fault) := by
  cases escapes with
  | @foreign fault other =>
    cases fault with
    | transport kind text => exact absurd rfl (other kind text)
    | plain | harness | invocation | violation | control | acquisition | script => rfl
  | deep deep => simp only [verdict, judge, members_of_deep deep]
  | @unshown r fault fails silent unshown =>
    obtain ⟨members, read, blank⟩ := silent
    have described : description L r members = .error fault := by
      rw [description_of_silent read ⟨members, read, blank⟩, Library.excerpt, unshown]
      rfl
    simp only [verdict, judge, read, not_done fails read, described, Bool.false_eq_true, if_false]

/-- A reply says success twice, or it is a refusal that names the node and the request, or its fault
escapes. -/
theorem verdict_cases (L : Library) (id : String) (operation : Operation) (allowed : Double)
    (reply : Reply) :
    (∃ r, reply = .ok r ∧ r.Succeeds L.room ∧ verdict L id operation allowed reply = .ok ()) ∨
    (∃ text cause, verdict L id operation allowed reply
      = .error ⟨.control text id operation.name, cause⟩) ∨
    ∃ fault, Escapes L reply fault := by
  cases reply with
  | error fault =>
    cases fault with
    | transport kind text => exact .inr (.inl ⟨_, _, rfl⟩)
    | plain | harness | invocation | violation | control | acquisition | script =>
      exact .inr (.inr ⟨_, .foreign fun _ _ => Fault.noConfusion⟩)
  | ok r =>
    cases read : r.members L.room with
    | error fault =>
      obtain ⟨object, _, deep⟩ := deep_of_members read
      exact .inr (.inr ⟨_, .deep deep⟩)
    | ok members =>
      by_cases succeeds : r.Succeeds L.room
      · obtain ⟨members, read, done⟩ := (isDone_iff L.room r).mpr succeeds
        exact .inl ⟨r, rfl, succeeds,
          (verdict_ok_iff L id operation allowed (.ok r)).mpr ⟨r, members, rfl, read, done⟩⟩
      · have undone := not_done succeeds read
        cases described : description L r members with
        | ok why =>
          have refused : verdict L id operation allowed (.ok r) = .error (.plain (.control
              s!"{operation.name} of {id} rejected (status {r.status}): {why}" id
                operation.name)) := by
            simp only [verdict, judge, read, undone, described, Bool.false_eq_true, if_false]
          exact .inr (.inl ⟨_, _, refused⟩)
        | error fault =>
          obtain ⟨silent, unshown⟩ := silent_of_description read described
          exact .inr (.inr ⟨fault, .unshown succeeds silent unshown⟩)

theorem verdict_honors (L : Library) (id : String) (operation : Operation) (allowed : Double)
    (reply : Reply) : Honors L id operation reply (verdict L id operation allowed reply) := by
  refine ⟨⟨?done, ?settled⟩, ?refused, fun fault => verdict_of_escapes id operation allowed⟩
  case done =>
    intro ok
    obtain ⟨r, members, is, read, done⟩ := (verdict_ok_iff L id operation allowed reply).mp ok
    exact ⟨r, is, (isDone_iff L.room r).mp ⟨members, read, done⟩⟩
  case settled =>
    rintro ⟨r, rfl, succeeds⟩
    obtain ⟨members, read, done⟩ := (isDone_iff L.room r).mpr succeeds
    exact (verdict_ok_iff L id operation allowed (.ok r)).mpr ⟨r, members, rfl, read, done⟩
  case refused =>
    intro raised error
    rcases verdict_cases L id operation allowed reply with ⟨r, _, _, ok⟩ | ⟨text, cause, is⟩ |
      ⟨fault, escapes⟩
    · rw [ok] at error
      cases error
    · rw [is] at error
      cases error
      exact .inl ⟨text, rfl⟩
    · rw [verdict_of_escapes id operation allowed escapes] at error
      cases error
      exact .inr ⟨fault, rfl, escapes⟩

/-! ## What comes of a request -/

/-- Every grace period that a double can hold has its seconds. -/
theorem graceSeconds_of_finite {millis : Int} (fits : (Double.ofInt millis).isFinite = true) :
    ∃ seconds, graceSeconds millis = .ok seconds := by
  rcases Int.lt_or_le 0 millis with some | none
  · obtain ⟨n, rfl⟩ := Int.eq_ofNat_of_zero_le some.le
    obtain ⟨seconds, ok, _⟩ := graceSeconds_up (Int.natCast_pos.mp some) fits
    exact ⟨seconds, ok⟩
  · exact ⟨0, if_neg (Int.not_lt.mpr none)⟩

/-- Whatever the library makes of the post, a stop and a start are done exactly if a response says
so, and are refused otherwise, with the node and the request, unless what is wrong escapes. -/
theorem honors_conduct (c : NodeController L) (id : String) (wire : L.Wire) {millis : Int}
    (fits : (Double.ofInt millis).isFinite = true) :
    (∃ seconds, graceSeconds millis = .ok seconds ∧
      Honors L id .stop (L.post c.session (c.stopRequest id seconds) wire).1
        (c.stop id millis wire).1) ∧
    Honors L id .start (L.post c.session (c.startRequest id) wire).1 (c.start id wire).1 := by
  obtain ⟨seconds, ok⟩ := graceSeconds_of_finite fits
  refine ⟨⟨seconds, ok, ?stop⟩, verdict_honors L id .start _ _⟩
  case stop =>
    unfold stop
    rw [ok]
    exact verdict_honors L id .stop _ _

/-- A controller of the nodes of a server, with credentials or without. -/
def domain (credentials : Option Credentials) : ManagementClient :=
  ManagementClient.of "http://localhost" [] "primary" credentials (.ofInt 60) 0

theorem domain_place (credentials : Option Credentials) :
    Url.of (domain credentials).address
      = .ok ⟨"http", "localhost", "/management", none, none⟩ := by
  show Url.of (dropSlashes "http://localhost" ++ "/management") = _
  rfl

/-- A response that says success twice. -/
def consent : Response := ⟨200, [], Text.utf8Bytes "\x7b\"outcome\": \"success\"\x7d"⟩

/-- A node is stopped and started by a server that consents. -/
theorem consent_honors : (Double.ofInt 1500).isFinite = true ∧
    ((domain none).stop "node-1" 1500 [.ok consent]).1 = .ok () ∧
    ((domain none).start "node-1" [.ok consent]).1 = .ok () := by
  have fits : (Double.ofInt 1500).isFinite = true := by decide +kernel
  have json : consent.json web.room = .ok (.object [("outcome", .string "success")]) := by
    with_unfolding_all rfl
  have succeeds : consent.Succeeds web.room := ⟨rfl, _, json, rfl⟩
  have seen (request : Post) (same : request.address = (domain none).address) :
      (web.post (domain none).session request [.ok consent]).1 = .ok consent :=
    WebSession.post_of_response (same ▸ domain_place none) rfl rfl rfl rfl []
  obtain ⟨⟨seconds, _, stopped⟩, started⟩ :=
    honors_conduct (domain none) "node-1" [.ok consent] fits
  have seenStop := seen ((domain none).stopRequest "node-1" seconds) rfl
  have seenStart := seen ((domain none).startRequest "node-1") rfl
  exact ⟨fits, stopped.done.mpr ⟨consent, seenStop, succeeds⟩,
    started.done.mpr ⟨consent, seenStart, succeeds⟩⟩

/-- A challenge for a method of digests that is not known. -/
def modern : Response :=
  ⟨401, [("WWW-Authenticate",
    "Digest realm=\"ManagementRealm\", nonce=\"abc\", algorithm=SHA-512-256")], []⟩

def admin : Credentials := ⟨"admin", "secret", by decide, by decide⟩

/-- It is no refusal of the node. -/
theorem modern_escapes : ((domain (some admin)).start "node-1" [.ok modern]).1
    = .error (.plain (.plain .key "SHA-512-256")) := by
  have challenged : (domain (some admin)).session.challengeIn modern
      = some "Digest realm=\"ManagementRealm\", nonce=\"abc\", algorithm=SHA-512-256" := by
    decide +kernel
  have read : Challenge.read
    "Digest realm=\"ManagementRealm\", nonce=\"abc\", algorithm=SHA-512-256"
      = .ok ⟨"SHA-512-256", none⟩ := by
    with_unfolding_all rfl
  have unanswered : (⟨"SHA-512-256", none⟩ : Challenge).answer admin
      = .error (.plain .key "SHA-512-256") := by
    with_unfolding_all rfl
  have place : Url.of ((domain (some admin)).startRequest "node-1").address
      = .ok ⟨"http", "localhost", "/management", none, none⟩ := domain_place (some admin)
  have ready : (domain (some admin)).session.authorization
      ⟨"http", "localhost", "/management", none, none⟩ = .ok none := rfl
  have here : modern.lost? = none := rfl
  have seen : (web.post (domain (some admin)).session ((domain (some admin)).startRequest "node-1")
      [.ok modern]).1 = .error (.plain .key "SHA-512-256") :=
    WebSession.post_of_unanswered place rfl ready here rfl challenged read unanswered []
  have escapes : Escapes web (.error (.plain .key "SHA-512-256")) (.plain .key "SHA-512-256") :=
    .foreign fun _ _ => Fault.noConfusion
  rw [← seen] at escapes
  exact verdict_of_escapes "node-1" .start _ escapes

end NodeController

end Http

end Drill
