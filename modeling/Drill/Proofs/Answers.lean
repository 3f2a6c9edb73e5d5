import Drill.Http.Management

/-!
# What a counter makes of a reply

A call of the counter hands one post to its HTTP library, and all that it gives back is decided by
the reply to that post. `Response.reading` tells apart what a response can be read as: a number, a
body that is nested too deep, a serial that is infinite, or something that is plainly wrong
(`Response.Faulty`). The last is what a failed call is for. The other two are not among the faults
that are caught, and neither is what the library raises on its own account
(`CounterService.Escapes`).

Main statements: `Response.reading`, `number_of_faulty`, what is plainly wrong is a failed call, and
`call_conduct`, what comes of a call, for every HTTP library and every reply.
-/

namespace Drill

namespace Json.Value

/-- A value is too large to be cut down to a whole number only if it is infinite. -/
theorem whole_infinite_iff {v : Value} :
    v.whole = .error .infinite ↔ ∃ negative, v = .number (.infinite negative) := by
  constructor
  · intro infinite
    cases v with
    | number x =>
      cases x with
      | infinite negative => exact ⟨negative, rfl⟩
      | nan => cases infinite
      | finite negative m =>
        obtain ⟨n, cut⟩ : ∃ n, (Number.Double.finite negative m).truncate? = some n := by
          cases negative <;> exact ⟨_, rfl⟩
        simp only [whole, cut] at infinite
        cases infinite
    | string s =>
      change wholeText s = _ at infinite
      unfold wholeText at infinite
      split at infinite
      next => split at infinite <;> cases infinite
      next => cases infinite
    | null | bool | int | array | object => cases infinite
  · rintro ⟨negative, rfl⟩
    rfl

end Json.Value

namespace Http

/-! ## What a response can be read as -/

/-- The response says success, and its body is an object that has a serial. -/
def Response.HasSerial (room : Nat) (r : Response) (v : Json.Value) : Prop :=
  r.isSuccess = true ∧
    ∃ members, r.json room = .ok (.object members) ∧ Assoc.get? members "serial" = some v

/-- What may be plainly wrong with a response. -/
inductive Response.Faulty (room : Nat) (r : Response) : Prop where
  /-- Its status says so. -/
  | status (fails : r.isSuccess = false)
  /-- Its body is no JSON. -/
  | unread {e : Json.ReadError} (success : r.isSuccess = true) (unread : r.json room = .error e)
      (shallow : ∀ object, e ≠ .tooDeep object)
  /-- Its body is no object. -/
  | noObject {v : Json.Value} (success : r.isSuccess = true) (body : r.json room = .ok v)
      (other : ∀ members, v ≠ .object members)
  /-- Its body has no serial. -/
  | noSerial {members : List (String × Json.Value)} (success : r.isSuccess = true)
      (body : r.json room = .ok (.object members))
      (missing : Assoc.get? members "serial" = none)
  /-- Its serial stands for no whole number, and not for being infinite. -/
  | noNumber {v : Json.Value} {e : Json.WholeFault} (serial : r.HasSerial room v)
      (wrong : v.whole = .error e) (bounded : e ≠ .infinite)

/-- A response has a number, or it is nested too deep, or its serial is infinite, or it is plainly
wrong. -/
theorem Response.reading (room : Nat) (r : Response) :
    (∃ v n, r.HasSerial room v ∧ v.whole = .ok n) ∨
    (∃ object, r.isSuccess = true ∧ r.json room = .error (.tooDeep object)) ∨
    (∃ negative, r.HasSerial room (.number (.infinite negative))) ∨ r.Faulty room := by
  cases success : r.isSuccess with
  | false => exact .inr (.inr (.inr (.status success)))
  | true =>
    cases json : r.json room with
    | error e =>
      cases e with
      | tooDeep object => exact .inr (.inl ⟨object, rfl, rfl⟩)
      | undecodable | malformed | tooManyDigits =>
        exact .inr (.inr (.inr (.unread success json fun _ => Json.ReadError.noConfusion)))
    | ok body =>
      cases body with
      | object members =>
        cases serial : Assoc.get? members "serial" with
        | none => exact .inr (.inr (.inr (.noSerial success json serial)))
        | some v =>
          have has : r.HasSerial room v := ⟨success, members, json, serial⟩
          cases whole : v.whole with
          | ok n => exact .inl ⟨v, n, has, whole⟩
          | error e =>
            by_cases infinite : e = .infinite
            · obtain ⟨negative, rfl⟩ := Json.Value.whole_infinite_iff.mp (infinite ▸ whole)
              exact .inr (.inr (.inl ⟨negative, has⟩))
            · exact .inr (.inr (.inr (.noNumber has whole infinite)))
      | null | bool | int | number | string | array =>
        exact .inr (.inr (.inr (.noObject success json fun _ => Json.Value.noConfusion)))

namespace CounterService

variable {L : Library} {address : String} {r : Response} {reply : Reply} {fault : Fault}

/-! ## The number in a response -/

theorem number_of_whole {v : Json.Value} {n : Int} (has : r.HasSerial L.room v)
    (whole : v.whole = .ok n) : number L address r = .ok n := by
  obtain ⟨success, members, json, serial⟩ := has
  unfold number
  simp only [success, json, serial, whole, Bool.not_true, Bool.false_eq_true, if_false]

/-- An infinite serial is no failed call. -/
theorem number_of_infinite {negative : Bool}
    (has : r.HasSerial L.room (.number (.infinite negative))) :
    number L address r = .error (.plain .infiniteSpan) := by
  obtain ⟨success, members, json, serial⟩ := has
  have whole := Json.Value.whole_infinite_iff.mpr ⟨negative, rfl⟩
  unfold number
  simp only [success, json, serial, whole, Bool.not_true, Bool.false_eq_true, if_false]

/-- A body that is nested too deep is no failed call. -/
theorem number_of_deep {object : Bool} (success : r.isSuccess = true)
    (deep : r.json L.room = .error (.tooDeep object)) :
    number L address r = .error (.plain (.deepNesting object)) := by
  unfold number
  simp only [success, deep, Bool.not_true, Bool.false_eq_true, if_false]

/-- A response that is plainly wrong is a failed call. -/
theorem number_of_faulty (address : String) (faulty : r.Faulty L.room) :
    ∃ why cause, number L address r = .error (failure L r why cause) := by
  unfold number
  cases faulty with
  | status fails =>
    simp only [fails, Bool.not_false, if_true]
    exact ⟨_, _, rfl⟩
  | @unread e success unread shallow =>
    simp only [success, unread, Bool.not_true, Bool.false_eq_true, if_false]
    cases e with
    | tooDeep object => exact absurd rfl (shallow object)
    | undecodable | malformed | tooManyDigits => exact ⟨_, _, rfl⟩
  | @noObject v success body other =>
    simp only [success, body, Bool.not_true, Bool.false_eq_true, if_false]
    cases v with
    | object members => exact absurd rfl (other members)
    | null | bool | int | number | string | array => exact ⟨_, _, rfl⟩
  | noSerial success body missing =>
    simp only [success, body, missing, Bool.not_true, Bool.false_eq_true, if_false]
    exact ⟨_, _, rfl⟩
  | @noNumber v e serial wrong bounded =>
    obtain ⟨success, members, json, serial⟩ := serial
    simp only [success, json, serial, wrong, Bool.not_true, Bool.false_eq_true, if_false]
    cases e with
    | infinite => exact absurd rfl bounded
    | noNumber | unreadable => exact ⟨_, _, rfl⟩

/-! ## What comes of a call -/

/-- The faults of a call that are none of its own and go through as they are. -/
inductive Escapes (L : Library) : Reply → Fault → Prop where
  /-- The library raises a fault that is none of the transport's. -/
  | foreign {fault : Fault} (other : ∀ kind text, fault ≠ .transport kind text) :
      Escapes L (.error fault) fault
  /-- The body is nested too deep. -/
  | deep {r : Response} {object : Bool} (success : r.isSuccess = true)
      (deep : r.json L.room = .error (.tooDeep object)) : Escapes L (.ok r) (.deepNesting object)
  /-- The serial is infinite. -/
  | infinite {r : Response} {negative : Bool}
      (serial : r.HasSerial L.room (.number (.infinite negative))) :
      Escapes L (.ok r) .infiniteSpan
  /-- The response is plainly wrong, and its text cannot be shown. -/
  | unshown {r : Response} {fault : Fault} (faulty : r.Faulty L.room)
      (unshown : L.text r = .error fault) : Escapes L (.ok r) fault

/-- What may come of a call that has this reply. -/
structure Answered (L : Library) (reply : Reply) (result : Except Raised Int) : Prop where
  /-- A number comes out of a response that has it for its serial, and of nothing else. -/
  number : ∀ n, result = .ok n ↔ ∃ r v, reply = .ok r ∧ r.HasSerial L.room v ∧ v.whole = .ok n
  /-- All else is a failed call, with the status of the response if there is one, or it escapes. -/
  failed : ∀ raised, result = .error raised →
    (∃ text, raised.fault = .invocation text reply.status?) ∨
    ∃ fault, raised = .plain fault ∧ Escapes L reply fault
  escapes : ∀ fault, Escapes L reply fault → result = .error (.plain fault)

theorem failure_of_text {text : List Char} (shown : L.text r = .ok text) (why : String)
    (cause : Option Kind) :
    ∃ text, (failure L r why cause).fault = .invocation text (some r.status) := by
  unfold failure Library.excerpt
  rw [shown]
  exact ⟨_, rfl⟩

theorem failure_of_unshown (unshown : L.text r = .error fault) (why : String)
    (cause : Option Kind) : failure L r why cause = .plain fault := by
  unfold failure Library.excerpt
  rw [unshown]
  rfl

theorem outcome_of_escapes (address : String) (escapes : Escapes L reply fault) :
    outcome L address reply = .error (.plain fault) := by
  cases escapes with
  | @foreign fault other =>
    cases fault with
    | transport kind text => exact absurd rfl (other kind text)
    | plain | harness | invocation | violation | control | acquisition | script => rfl
  | deep success deep => exact number_of_deep success deep
  | infinite serial => exact number_of_infinite serial
  | unshown faulty unshown =>
    obtain ⟨why, cause, is⟩ := number_of_faulty address faulty
    rw [outcome, is, failure_of_unshown unshown]

/-- A call gives the number of a response, or it fails with the status of the reply, or its fault
escapes. -/
theorem outcome_cases (L : Library) (address : String) (reply : Reply) :
    (∃ r v n, reply = .ok r ∧ r.HasSerial L.room v ∧ v.whole = .ok n ∧
      outcome L address reply = .ok n) ∨
    (∃ raised text, outcome L address reply = .error raised ∧
      raised.fault = .invocation text reply.status?) ∨
    ∃ fault, Escapes L reply fault := by
  cases reply with
  | error fault =>
    cases fault with
    | transport kind text => exact .inr (.inl ⟨_, _, rfl, rfl⟩)
    | plain | harness | invocation | violation | control | acquisition | script =>
      exact .inr (.inr ⟨_, .foreign fun _ _ => Fault.noConfusion⟩)
  | ok r =>
    rcases r.reading L.room with ⟨v, n, has, whole⟩ | ⟨object, success, deep⟩ |
      ⟨negative, has⟩ | faulty
    · exact .inl ⟨r, v, n, rfl, has, whole, number_of_whole has whole⟩
    · exact .inr (.inr ⟨_, .deep success deep⟩)
    · exact .inr (.inr ⟨_, .infinite has⟩)
    · -- What is plainly wrong is told with the beginning of the response, if that can be shown.
      cases shown : L.text r with
      | error fault => exact .inr (.inr ⟨fault, .unshown faulty shown⟩)
      | ok text =>
        obtain ⟨why, cause, is⟩ := number_of_faulty address faulty
        obtain ⟨said, invocation⟩ := failure_of_text shown why cause
        exact .inr (.inl ⟨_, said, is, invocation⟩)

/-- Whatever the library makes of the post, a call gives the number in the response, or fails with
its status, or what is wrong escapes; and what escapes is what the library raises on its own
account, a body that is nested too deep, and a serial that is infinite. -/
theorem call_conduct (c : CounterService L) (wire : L.Wire) :
    Answered L (L.post c.session c.request wire).1 (c.call wire).1 := by
  rw [call_outcome]
  generalize (L.post c.session c.request wire).1 = reply
  refine ⟨?number, ?failed, fun fault escapes => outcome_of_escapes c.address escapes⟩
  case number =>
    intro n
    constructor
    · intro ok
      rcases outcome_cases L c.address reply with ⟨r, v, m, is, has, whole, given⟩ |
        ⟨raised, text, given, _⟩ | ⟨fault, escapes⟩
      · rw [given] at ok
        cases ok
        exact ⟨r, v, is, has, whole⟩
      · rw [given] at ok
        cases ok
      · rw [outcome_of_escapes c.address escapes] at ok
        cases ok
    · rintro ⟨r, v, rfl, has, whole⟩
      exact number_of_whole has whole
  case failed =>
    intro raised error
    -- Of the three ways that a reply can be read, the first gives a number and the last one
    -- escapes.
    rcases outcome_cases L c.address reply with ⟨_, _, _, _, _, _, given⟩ |
      ⟨raised', text, given, invocation⟩ | ⟨fault, escapes⟩
    · rw [given] at error
      cases error
    · rw [given] at error
      cases error
      exact .inl ⟨text, invocation⟩
    · rw [outcome_of_escapes c.address escapes] at error
      cases error
      exact .inr ⟨fault, rfl, escapes⟩

/-- A handle on a counter of the web sees the response that it is sent. -/
theorem seen_of_web (timeout : Number.Double) {r : Response} (here : r.lost? = none) :
    let c := CounterClient.of "http://localhost" "Impl" timeout 0
    (web.post c.session c.request [.ok r]).1 = .ok r := by
  intro c
  have place : Url.of (dropSlashes "http://localhost" ++ "/" ++ "Impl" ++ "/serial")
      = .ok ⟨"http", "localhost", "/Impl/serial", none, none⟩ := by rfl
  exact WebSession.post_of_response (p := c.request) place rfl rfl here rfl []

/-- A response of success whose serial is too large for a double. -/
def immense : Response := ⟨200, [], Text.utf8Bytes "\x7b\"serial\": 1e400\x7d"⟩

/-- What is wrong with it escapes, and is none of the failures of a call. -/
theorem immense_escapes :
    ((CounterClient.of "http://localhost" "Impl" (.ofInt 10) 0).call [.ok immense]).1
      = .error (.plain .infiniteSpan) := by
  have json : immense.json web.room
      = .ok (.object [("serial", .number (.ofDecimal false 1 400))]) := by
    with_unfolding_all rfl
  -- Reading the body leaves the number as it is written; what it comes to is computed apart.
  have infinite : Number.Double.ofDecimal false 1 400 = .infinite false := by decide +kernel
  rw [infinite] at json
  have serial : immense.HasSerial web.room (.number (.infinite false)) := ⟨rfl, _, json, rfl⟩
  rw [call_outcome, seen_of_web (.ofInt 10) rfl]
  exact outcome_of_escapes _ (.infinite serial)

end CounterService

end Http

end Drill
