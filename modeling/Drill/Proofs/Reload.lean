import Drill.Proofs.Priority
import Drill.Settings.Overview

/-!
# Settings shown are settings given

What `overview` shows of settings is a list of values by the names of the settings, and such values
count as they are where there are no variables (`Named.chosen?`). A shown value has the type of its
setting, whatever the setting was read from, and so the library takes it as it is: that is all that
is assumed of how it reads values (`Library.Faithful`). Loading what is shown gives the settings
back, up to the layout of log lines, which is not shown (`load_shown`).

Main statement: `load_reproduced`, settings loaded from what loaded settings show match these.
-/

namespace Drill.Settings

open Number (Double)

variable {L : Library}

/-! ## Values that are shown are read as they were -/

/-- A duration is read as it was written. -/
theorem millis_millisValue (faithful : L.Faithful) (m : Millis) :
    L.millis (L.value (millisValue m)) = .ok m := by
  rw [millisValue, Library.millis_of_pos faithful (Int.natCast_pos.mpr m.positive)]
  rfl

/-- So is a limit, or that there is none. -/
theorem optionalMillis_optionalValue (faithful : L.Faithful) (m : Option Millis) :
    L.optionalMillis (L.value (optionalValue m)) = .ok m := by
  cases m with
  | none =>
    rw [optionalValue, Library.optionalMillis, faithful.missing]
    rfl
  | some m =>
    have positive : 0 < (m.count : Int) := Int.natCast_pos.mpr m.positive
    rw [optionalValue, millisValue, Library.optionalMillis, faithful.optional]
    exact congrArg (Except.map some) (Library.positive_of_pos positive)

/-- So is a factor. -/
theorem factor_number (faithful : L.Faithful) (x : Factor) :
    L.factor (L.value (.number x.value)) = .ok x := by
  rw [Library.factor, faithful.double]
  exact dif_pos x.positive

/-- The name of a level is in capitals already, so the check of levels takes it as it is. -/
theorem level_name (faithful : L.Faithful) (l : Log.Level) :
    L.level (L.value (.string l.name)) = .ok l := by
  have found : Log.Level.ofName? (Text.capitals l.name) = some l := by cases l <;> decide
  simp only [Library.level, faithful.text, bind, Except.bind, found]

/-! ## Loading values by the names of the settings -/

section
variable {given : List (String × L.Value)} {f : Field} {α : Type}
  {reader : L.Value → Except Problem α} {value : L.Value} {a : α}

/-- A value that is given under its name is the one that is read. -/
theorem Named.setting_of_some (ordered : L.Ordered) (named : Named given) (known : f ∈ Field.all)
    (found : Assoc.get? given f.name = some value) (read : reader value = .ok a) (default : α) :
    L.setting (.of given [] none) f reader default = .ok a := by
  rw [Library.setting, pick_entries ordered _ known, named.chosen? ordered known, found]
  simp only [read, Except.mapError]

/-- A value that is not given is the default. -/
theorem Named.setting_of_none (ordered : L.Ordered) (named : Named given) (known : f ∈ Field.all)
    (missing : Assoc.get? given f.name = none) (default : α) :
    L.setting (.of given [] none) f reader default = .ok default := by
  rw [Library.setting, pick_entries ordered _ known, named.chosen? ordered known, missing]

end

/-- The caller's arguments that give settings as they are shown. -/
def Library.shown (L : Library) (s : Settings) : List (String × L.Value) :=
  s.overview.map fun e => (e.1, L.value e.2)

/-- An overview names each value once. -/
theorem named_shown (L : Library) (s : Settings) : Named (L.shown s) := by
  have names : (L.shown s).map (·.1) = default.overview.map (·.1) := by
    rw [Library.shown, List.map_map]
    exact overview_names s default
  rw [Named, names]
  decide

/-- From what is shown of settings the same settings are loaded, but for the layout of log lines,
which is not shown. -/
theorem load_shown (ordered : L.Ordered) (faithful : L.Faithful) (s : Settings) :
    L.load (.of (L.shown s) [] none) = .ok { s with jsonLogs := default.jsonLogs } := by
  have named := named_shown L s
  have millis := millis_millisValue faithful
  have optionalMillis := optionalMillis_optionalValue faithful
  rw [Library.load,
    named.setting_of_some ordered (by simp [Field.all]) rfl (millis s.stability),
    named.setting_of_some ordered (by simp [Field.all]) rfl (millis s.outage),
    named.setting_of_some ordered (by simp [Field.all]) rfl (millis s.period),
    named.setting_of_some ordered (by simp [Field.all]) rfl (millis s.formation),
    named.setting_of_some ordered (by simp [Field.all]) rfl (optionalMillis s.restart),
    named.setting_of_some ordered (by simp [Field.all]) rfl (millis s.grace),
    named.setting_of_some ordered (by simp [Field.all]) rfl (optionalMillis s.callLimit),
    named.setting_of_some ordered (by simp [Field.all]) rfl (factor_number faithful s.factor),
    named.setting_of_some ordered (by simp [Field.all]) rfl (faithful.boolean s.strict),
    named.setting_of_some ordered (by simp [Field.all]) rfl (level_name faithful s.logLevel),
    named.setting_of_none ordered (by simp [Field.all]) rfl]
  rfl

/-! ## What is shown -/

/-- What is shown of settings is in its one usual form. -/
structure Usual (shown : List (String × Json.Value)) : Prop where
  durations : ∀ f ∈ [Field.stability, .outage, .period, .formation, .grace],
    ∃ n : Int, 1 ≤ n ∧ Assoc.get? shown f.name = some (.int n)
  /-- Durations that may be missing are shown as null then. -/
  bounds : ∀ f ∈ [Field.restart, .callLimit], Assoc.get? shown f.name = some .null ∨
    ∃ n : Int, 1 ≤ n ∧ Assoc.get? shown f.name = some (.int n)
  factor : ∃ x : Double, x.isPositive = true ∧ Assoc.get? shown Field.factor.name = some (.number x)
  level : ∃ word ∈ ["DEBUG", "INFO", "WARNING", "ERROR", "CRITICAL"],
    Assoc.get? shown Field.logLevel.name = some (.string word)

/-- Settings that show the same, wait equally long and stretch all durations alike. -/
structure Matches (s t : Settings) : Prop where
  overview : t.overview = s.overview
  stability : t.seconds t.stability = s.seconds s.stability
  outage : t.seconds t.outage = s.seconds s.outage
  period : t.seconds t.period = s.seconds s.period
  formation : t.seconds t.formation = s.seconds s.formation
  restart : t.restartSeconds = s.restartSeconds
  grace : t.seconds t.grace = s.seconds s.grace
  limit : t.limitSeconds = s.limitSeconds
  stretch : ∀ millis, t.stretch millis = s.stretch millis
  stretchInt : ∀ millis, t.stretchInt millis = s.stretchInt millis

theorem usual_overview (s : Settings) : Usual s.overview := by
  have duration (m : Millis) : ∃ n : Int, 1 ≤ n ∧ some (millisValue m) = some (.int n) :=
    ⟨m.count, Int.natCast_pos.mpr m.positive, rfl⟩
  have bound (m : Option Millis) :
      some (optionalValue m) = some .null ∨
        ∃ n : Int, 1 ≤ n ∧ some (optionalValue m) = some (.int n) := by
    cases m with
    | none => exact .inl rfl
    | some m => exact .inr (duration m)
  constructor
  case durations =>
    simp only [List.forall_mem_cons]
    exact ⟨duration s.stability, duration s.outage, duration s.period, duration s.formation,
      duration s.grace, fun _ mem => absurd mem List.not_mem_nil⟩
  case bounds =>
    simp only [List.forall_mem_cons]
    exact ⟨bound s.restart, bound s.callLimit, fun _ mem => absurd mem List.not_mem_nil⟩
  case factor => exact ⟨s.factor.value, s.factor.positive, rfl⟩
  case level =>
    refine ⟨s.logLevel.name, ?_, rfl⟩
    cases s.logLevel <;> decide

/-- How log lines are laid out is no part of what settings show or how they stretch. -/
theorem matches_layout (s : Settings) (layout : Bool) :
    Matches s { s with jsonLogs := layout } := by
  constructor <;> intros <;> rfl

/-- Whatever settings are loaded from, what they show is in its usual form, and settings loaded from
that match them. -/
theorem load_reproduced (L : Library) (ordered : L.Ordered) (faithful : L.Faithful)
    (sources : Sources L.Value) : ∀ s, L.load sources = .ok s →
      Usual s.overview ∧ ∃ t, L.load (.of (L.shown s) [] none) = .ok t ∧ Matches s t :=
  fun s _ => ⟨usual_overview s, _, load_shown ordered faithful s, matches_layout s default.jsonLogs⟩

/-- Settings from texts that spell them in unusual ways. -/
theorem texts_reproduced :
    let given : List (String × Json.Value) := [("stability_window_ms", .string " 1_000.0 "),
      ("restart_convergence_ms", .null), ("strict_outage_checks", .string "Off"),
      ("log_level", .string "debug")]
    let s : Settings :=
      { default with stability := ⟨1000, by decide⟩, strict := false, logLevel := .debug }
    lax.Ordered ∧ lax.Faithful ∧ load (.of given [] none) = .ok s ∧
      Usual s.overview ∧ ∃ t, load (.of (lax.shown s) [] none) = .ok t ∧ Matches s t := by
  intro given s
  have named : Named given := by decide
  have stability : lax.millis (.string " 1_000.0 ") = .ok ⟨1000, by decide⟩ := by rfl
  have restart : lax.optionalMillis .null = .ok none := by rfl
  have strict : lax.boolean (.string "Off") = .ok false := by rfl
  have level : lax.level (.string "debug") = .ok .debug := by rfl
  have loaded : load (.of given [] none) = .ok s := by
    rw [load, Library.load,
      named.setting_of_some lax_ordered (by simp [Field.all]) rfl stability,
      named.setting_of_some lax_ordered (by simp [Field.all]) rfl restart,
      named.setting_of_some lax_ordered (by simp [Field.all]) rfl strict,
      named.setting_of_some lax_ordered (by simp [Field.all]) rfl level]
    iterate 7 rw [named.setting_of_none lax_ordered (by simp [Field.all]) rfl]
    rfl
  exact ⟨lax_ordered, lax_faithful, loaded,
    load_reproduced lax lax_ordered lax_faithful (.of given [] none) s loaded⟩

end Drill.Settings
