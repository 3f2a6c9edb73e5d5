import Drill.Log.Loggers
import Drill.Proofs.Lines

/-!
# Which log lines are read back

Whoever collects log lines laid out as objects reads each line on its own and takes level, logger
and text of the message from the members (`Message.Legible`). The layout puts them between quotes as
they are, so a line is legible exactly if the logger's name and the text are plain: without quotes,
backslashes and control characters, line breaks among them. It does not matter what else the name or
the text holds, since no text passes for another one. A run id that may not stand between quotes is
another matter: it can bring in members of its own.

Main statement: `Loggers.write_legible_iff`.
-/

namespace Drill.Log

open Json (Slot Inside)

namespace Message

/-- The line is a single one, and from the object in it the message is read back. -/
structure Legible (m : Message) (line : String) : Prop where
  single : ∀ c ∈ line.toList, c ≠ '\n' ∧ c ≠ '\r'
  decodes : ∃ members, Json.read line.toList = .ok (.object members) ∧
    Assoc.get? members "level" = some (.string m.level.name) ∧
    Assoc.get? members "module" = some (.string m.logger) ∧
    Assoc.get? members "message" = some (.string m.text)

variable {m : Message} {time : String}

/-- The slot of a named text. -/
def slot (name value : String) : Slot := ⟨name.toList, value.toList⟩

/-- The slots of a message after the one of its time. -/
def slots (m : Message) : List Slot :=
  [slot "level" m.level.name, slot "module" m.logger, slot "run_id" m.mark, slot "message" m.text]

theorem line_members (m : Message) (time : String) :
    (m.line time .members).toList = '\x7b' :: Slot.row (slot "timestamp" time) m.slots := by
  unfold line
  simp only [slots, slot, Slot.row, Slot.opened, String.toList_append, List.append_assoc]
  simp

theorem named_slots (m : Message) (time : String) : ∀ f ∈ slot "timestamp" time :: m.slots,
    f.IsNamed := by
  have named {c : Char} {name value : List Char} (plain : Json.Plain (c :: name))
    (solid : ¬Json.IsSpace c)
      (closes : ¬Json.Closes c) : Slot.IsNamed ⟨c :: name, value⟩ :=
        ⟨plain, c, name, rfl, solid, closes⟩
  simp only [slots, List.forall_mem_cons]
  exact ⟨named (by decide) (by decide) (by decide), named (by decide) (by decide) (by decide),
    named (by decide) (by decide) (by decide), named (by decide) (by decide) (by decide),
    named (by decide) (by decide) (by decide), fun _ mem => nomatch mem⟩

theorem distinct_slots (m : Message) (time : String) :
    ((slot "timestamp" time :: m.slots).map (·.name)).Nodup := by
  have names : (slot "timestamp" time :: m.slots).map (·.name)
      = ["timestamp".toList, "level".toList, "module".toList, "run_id".toList, "message".toList] :=
        rfl
  rw [names]
  decide

theorem plain_level (level : Level) : Json.Plain level.name.toList := by cases level <;> decide

/-- A run id that may stand between quotes may do so in brackets. -/
theorem inside_mark (id : ∀ id ∈ m.runId, Inside id.toList) : Inside m.mark.toList := by
  have none : Inside "".toList := Json.Plain.inside (by decide)
  unfold mark
  split
  next given some =>
    split
    next => exact none
    next =>
      have opening : Inside "[".toList := Json.Plain.inside (by decide)
      have closing : Inside "] ".toList := Json.Plain.inside (by decide)
      have inside := (opening.append (id given some)).append closing
      rw [← String.toList_append, ← String.toList_append] at inside
      exact inside
  next => exact none

/-- The line of a message whose time and run id may stand between quotes is read back exactly if
logger and text are plain. -/
theorem line_legible_iff (stamped : Inside time.toList) (marked : Inside m.mark.toList) :
    m.Legible (m.line time .members) ↔ Json.Plain m.logger.toList ∧ Json.Plain m.text.toList := by
  have named := named_slots m time
  have level := plain_level m.level
  -- What is asked for; the time and the run are not.
  let asked := [slot "level" m.level.name, slot "module" m.logger, slot "message" m.text]
  have among : asked ⊆ slot "timestamp" time :: m.slots := by
    simp [asked, slots]
  have others : ∀ f ∈ slot "timestamp" time :: m.slots, f ∈ asked ∨ Inside f.value := by
    have run : Inside (slot "run_id" m.mark).value := marked
    have moment : Inside (slot "timestamp" time).value := stamped
    simp [asked, slots, run, moment]
  have told := Slot.row_told_iff named (distinct_slots m time) among others
  have plain : (∀ f ∈ asked, Json.Plain f.value) ↔
    Json.Plain m.logger.toList ∧ Json.Plain m.text.toList := by
    simp [asked, slot, level]
  have found (members : Assoc String Json.Value) :
      (∀ f ∈ asked, Assoc.get? members (String.ofList f.name) =
        some (.string (String.ofList f.value))) ↔
        Assoc.get? members "level" = some (.string m.level.name) ∧
        Assoc.get? members "module" = some (.string m.logger) ∧
        Assoc.get? members "message" = some (.string m.text) := by
    simp only [asked, slot, List.forall_mem_cons, String.ofList_toList]
    simp
  simp only [found, plain, ← line_members] at told
  refine ⟨fun legible => told.mp legible.decodes, fun both => ⟨?_, told.mpr both⟩⟩
  have inside : ∀ f ∈ slot "timestamp" time :: m.slots, Inside f.value := fun f mem =>
    (others f mem).elim (fun mem => (plain.mpr both f mem).inside) id
  intro c mem
  rw [line_members] at mem
  have high : 0x20 ≤ c.toNat := by
    rcases List.mem_cons.mp mem with rfl | mem
    · decide
    · exact Slot.row_no_control named inside c mem
  constructor
  · rintro rfl
    exact absurd high (by decide)
  · rintro rfl
    exact absurd high (by decide)

end Message

namespace Loggers

/-- Once the loggers are set up to write objects, a line is legible exactly if the logger's name and
the text are plain, where the time and the run id may stand between quotes. -/
theorem write_legible_iff {l : Loggers} {word time logger text line : String} {level : Level}
    (stamp : Inside time.toList) (run : ∀ id ∈ l.runId, Inside id.toList)
    (written : (l.setUp word .members).write time logger level text = some line) :
    (⟨level, fullName logger, l.runId, text⟩ : Message).Legible line ↔
      Json.Plain (fullName logger).toList ∧ Json.Plain text.toList := by
  have output :
    (l.setUp word .members).output = some ⟨(rankNamed? word).getD Level.info.rank, .members⟩ := rfl
  rw [write, output] at written
  obtain ⟨-, same⟩ := Option.ite_none_right_eq_some.mp written
  cases same
  exact Message.line_legible_iff stamp (Message.inside_mark run)

/-- A message of a run, read back. -/
theorem waiting_legible :
    let l := { initial with runId := some "run-1" }
    let m : Message := ⟨.info, "app", some "run-1", "Waiting for clusters to form."⟩
    let line := m.line "12:00:00,000" .members
    (l.setUp "INFO" .members).write "12:00:00,000" "app" .info
      "Waiting for clusters to form." = some line ∧
      m.Legible line := by
  intro l m line
  have written :
    (l.setUp "INFO" .members).write "12:00:00,000" "app" .info "Waiting for clusters to form."
      = some line := by decide
  have run : ∀ id ∈ l.runId, Inside id.toList := by
    rintro id ⟨⟩
    exact Json.Plain.inside (by decide)
  exact ⟨written,
    (write_legible_iff (Json.Plain.inside (by decide)) run written).mpr ⟨by decide, by decide⟩⟩

/-- A message with quotes, not read back. -/
theorem quotes_illegible :
    let m : Message := ⟨.info, "app", none, "say \"hi\""⟩
    let line := m.line "12:00:00,000" .members
    (initial.setUp "INFO" .members).write "12:00:00,000" "app" .info "say \"hi\"" = some line ∧
      ¬m.Legible line := by
  intro m line
  refine ⟨by decide, fun legible => ?_⟩
  have stamp : Inside "12:00:00,000".toList := Json.Plain.inside (by decide)
  have none : ∀ id ∈ m.runId, Inside id.toList := fun id mem => nomatch mem
  have plain := (Message.line_legible_iff stamp (Message.inside_mark none)).mp legible
  exact absurd plain.2 (by decide)

end Loggers

end Drill.Log
