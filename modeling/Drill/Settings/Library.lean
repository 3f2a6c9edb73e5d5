import Drill.Assoc
import Drill.Complaint
import Drill.Json.Value
import Drill.Settings.Basic
import Drill.Text.Case

/-!
# The settings library beneath the settings

The settings are declared (`HarnessSettings`) and not looked up: each `Field` has a name, other
names that it may be given by, a type, a bound and a default. To look for values in the caller's
arguments, the environment and a file, to merge what is found and to make a value of the right type
of it is the business of a library (`pydantic_settings.BaseSettings`), and everything about the
settings is said of any `Library`.

What is documented of such a library is kept apart, in two lists of assumptions. `Library.Ordered`
is about sources: how each one files what it has, and that they are merged key by key before a field
is looked up under its names. That a source ranks before another one for a field with several names
is not among them. `Library.Faithful` is about types: a value that has the type of its field already
is taken as it is.

Main statement: `millis_of_pos`, a positive whole number of milliseconds is read as it is.
-/

namespace Drill.Settings

open Number (Double)

/-- The names of one setting. -/
structure Field where
  name : String
  /-- The names that a value is taken by, the first one counting before the others
  (`validation_alias`). -/
  keys : List String
  /-- The names of variables, in small letters and in the same order. -/
  names : List String

namespace Field

/-- A setting that is taken by its name, and from variables with the usual beginning
(`env_prefix`). -/
def usual (name : String) : Field := ⟨name, [name], ["harness_" ++ name]⟩

def stability : Field := usual "stability_window_ms"
def outage : Field := usual "outage_window_ms"
def period : Field := usual "invocation_period_ms"
def formation : Field := usual "topology_convergence_ms"
def restart : Field := usual "restart_convergence_ms"
def grace : Field := usual "graceful_shutdown_timeout_ms"
def callLimit : Field := usual "invocation_timeout_ms"
def strict : Field := usual "strict_outage_checks"
def logLevel : Field := usual "log_level"
def jsonLogs : Field := usual "json_logs"

/-- The factor may be shared with other programs and so has names without the usual beginning. -/
def factor : Field :=
  ⟨"timeout_factor", ["HARNESS_TIMEOUT_FACTOR", "TIMEOUT_FACTOR", "timeout_factor"],
    ["harness_timeout_factor", "timeout_factor"]⟩

/-- Every setting, in the order in which they are loaded. -/
def all : List Field :=
  [stability, outage, period, formation, restart, grace, callLimit, factor, strict, logLevel,
   jsonLogs]

/-- The first name that a value is taken by. -/
def key (f : Field) : String := f.keys.headD f.name

/-- Does a name fit the setting, in small letters? -/
def fits (f : Field) (name : String) : Bool := Text.smalls name ∈ f.keys.map Text.smalls

end Field

/-- The value of the last pair of a name, in small letters. -/
def last? {α : Type} (pairs : List (String × α)) (name : String) : Option α :=
  (pairs.reverse.find? fun e => Text.smalls e.1 = name).map (·.2)

/-- Pairs that are left out under other names do not matter to a name. -/
theorem last?_filter {α : Type} {p : String → Bool} {name : String}
    (kept : ∀ key, Text.smalls key = name → p key) (pairs : List (String × α)) :
    last? (pairs.filter fun e => p e.1) name = last? pairs name := by
  rw [last?, last?, ← List.filter_reverse, List.find?_filter]
  congr 2
  funext e
  by_cases same : Text.smalls e.1 = name
  · simp [same, kept e.1 same]
  · simp [same]

theorem findSome?_congr {α β : Type} {l : List α} {p q : α → Option β} (same : ∀ a ∈ l, p a = q a) :
    l.findSome? p = l.findSome? q := by
  induction l with
  | nil => rfl
  | cons a rest ih =>
    obtain ⟨first, others⟩ := List.forall_mem_cons.mp same
    rw [List.findSome?_cons, List.findSome?_cons, first, ih others]

/-- What a list of variables says of a setting: the first of its names that is used counts, and of
variables whose names differ in capitals only the last. -/
def Field.assigned? (f : Field) (pairs : List (String × String)) : Option String :=
  f.names.findSome? (last? pairs)

/-! ## The library -/

/-- What is filed under each key. -/
abbrev Entries (V : Type) := String → Option V

/-- The places that settings are looked for in. -/
structure Sources (V : Type) where
  /-- The caller's arguments. -/
  given : List (String × V)
  /-- The variables of the environment. -/
  environment : List (String × String)
  /-- The text of the file of variables, if there is one (`env_file`). -/
  file : Option String

/-- The sources of a caller's arguments, an environment and the text of a file. -/
def Sources.of {V : Type} (given : List (String × V)) (environment : List (String × String))
    (file : Option String) : Sources V := ⟨given, environment, file⟩

/-- A library that fills settings from sources. -/
structure Library where
  /-- The values that a caller may give. -/
  Value : Type
  /-- Plain values are among them; the text of a variable is one. -/
  value : Json.Value → Value
  /-- What the source of the caller's arguments files. -/
  arguments : List (String × Value) → Entries Value
  /-- What the source of the environment files. -/
  environment : List (String × String) → Entries Value
  /-- The variables in the text of a file, which is read in an environment: it may refer to
  variables there. -/
  parse : List (String × String) → String → List (String × String)
  /-- What the source of the file files, given the variables in it. -/
  file : List (String × String) → Entries Value
  /-- What two sources file together. -/
  merge : Entries Value → Entries Value → Entries Value
  /-- The value of a field with these names. -/
  pick : Entries Value → List String → Option Value
  /-- A value as a whole number (`int`). -/
  integer : Value → Except Problem Int
  /-- A value as a whole number or none (`int | None`). -/
  optional : Value → Except Problem (Option Int)
  /-- A value as a double (`float`). -/
  double : Value → Except Problem Double
  /-- A value as yes or no (`bool`). -/
  boolean : Value → Except Problem Bool
  /-- A value as a text (`str`). -/
  text : Value → Except Problem String

namespace Library

/-- The variables in the file of the sources; none if there is no file. -/
def lines (L : Library) (s : Sources L.Value) : List (String × String) :=
  s.file.elim [] (L.parse s.environment)

/-- What all sources file together, the caller's arguments first and the file last. -/
def entries (L : Library) (s : Sources L.Value) : Entries L.Value :=
  L.merge (L.arguments s.given) (L.merge (L.environment s.environment) (L.file (L.lines s)))

/-- A setting, or its default if no source has it. -/
def setting {α : Type} (L : Library) (s : Sources L.Value) (f : Field)
    (reader : L.Value → Except Problem α) (default : α) : Checked α :=
  match L.pick (L.entries s) f.keys with
  | none => .ok default
  | some value => (reader value).mapError fun problem => [⟨problem, [.name f.name]⟩]

/-- A whole number of milliseconds that must be positive (`gt=0`). -/
def positive (n : Int) : Except Problem Millis :=
  if h : 0 < n then .ok ⟨n.toNat, by omega⟩ else .error .notPositive

/-- A duration. -/
def millis (L : Library) (value : L.Value) : Except Problem Millis :=
  L.integer value >>= positive

/-- A duration that may be missing. -/
def optionalMillis (L : Library) (value : L.Value) : Except Problem (Option Millis) :=
  L.optional value >>= fun
    | none => .ok none
    | some n => (positive n).map some

/-- A positive factor. -/
def factor (L : Library) (value : L.Value) : Except Problem Factor :=
  L.double value >>= fun x =>
    if h : x.isPositive = true then .ok ⟨x, h⟩ else .error .notPositive

/-- A log level, in capitals or not (`validate_log_level`). -/
def level (L : Library) (value : L.Value) : Except Problem Log.Level :=
  L.text value >>= fun s =>
    match Log.Level.ofName? (Text.capitals s) with
    | some l => .ok l
    | none => .error (.refused s!"Invalid log level: {s}")

/-- The settings in the sources, or all complaints in the order of the settings. -/
def load (L : Library) (s : Sources L.Value) : Checked Settings :=
  (Checked.accept Settings.mk)
    |>.apply (L.setting s .stability L.millis default.stability)
    |>.apply (L.setting s .outage L.millis default.outage)
    |>.apply (L.setting s .period L.millis default.period)
    |>.apply (L.setting s .formation L.millis default.formation)
    |>.apply (L.setting s .restart L.optionalMillis default.restart)
    |>.apply (L.setting s .grace L.millis default.grace)
    |>.apply (L.setting s .callLimit L.optionalMillis default.callLimit)
    |>.apply (L.setting s .factor L.factor default.factor)
    |>.apply (L.setting s .strict L.boolean default.strict)
    |>.apply (L.setting s .logLevel L.level default.logLevel)
    |>.apply (L.setting s .jsonLogs L.boolean default.jsonLogs)

/-! ## What is documented -/

/-- What is documented of sources. -/
structure Ordered (L : Library) : Prop where
  /-- Sources are merged key by key; what the first one files under a key stands. -/
  merges : ∀ first second key, L.merge first second key = (first key).or (second key)
  /-- Once they are merged, a field is looked up under its names, one after the other. -/
  picks : ∀ entries keys, L.pick entries keys = keys.findSome? entries
  /-- By whatever name an argument is given, it is filed under the first name of its field. -/
  filesArguments : ∀ f ∈ Field.all, ∀ given, ∀ key ∈ f.keys, key ≠ f.key →
    L.arguments given key = none
  /-- So is a variable of the environment. -/
  filesEnvironment : ∀ f ∈ Field.all, ∀ pairs, ∀ key ∈ f.keys, key ≠ f.key →
    L.environment pairs key = none
  /-- So is a variable of the file. -/
  filesFile : ∀ f ∈ Field.all, ∀ pairs, ∀ key ∈ f.keys, key ≠ f.key →
    L.file pairs key = none
  /-- An argument is given by a name of the field; the first name that is used counts. -/
  named : ∀ f ∈ Field.all, ∀ given value, f.keys.findSome? (Assoc.get? given) = some value →
    L.arguments given f.key = some value
  /-- Arguments whose names do not fit the field are no business of the field. -/
  own : ∀ f ∈ Field.all, ∀ given,
    L.arguments given f.key = L.arguments (given.filter fun e => f.fits e.1) f.key
  /-- Without arguments there is no value. -/
  silent : ∀ f ∈ Field.all, L.arguments [] f.key = none
  /-- A variable of the environment is a text, and its name counts in small letters
  (`case_sensitive=False`). -/
  readsEnvironment : ∀ f ∈ Field.all, ∀ pairs,
    L.environment pairs f.key = (f.assigned? pairs).map (L.value ∘ .string)
  /-- So it is in the file. -/
  readsFile : ∀ f ∈ Field.all, ∀ pairs,
    L.file pairs f.key = (f.assigned? pairs).map (L.value ∘ .string)

/-- What is documented of types: a value that has the type of its field is taken as it is. -/
structure Faithful (L : Library) : Prop where
  integer : ∀ n, L.integer (L.value (.int n)) = .ok n
  optional : ∀ n, L.optional (L.value (.int n)) = .ok (some n)
  missing : L.optional (L.value .null) = .ok none
  double : ∀ x, L.double (L.value (.number x)) = .ok x
  boolean : ∀ b, L.boolean (L.value (.bool b)) = .ok b
  text : ∀ s, L.text (L.value (.string s)) = .ok s

theorem positive_of_pos {n : Int} (h : 0 < n) : positive n = .ok ⟨n.toNat, by omega⟩ := dif_pos h

/-- A positive number given as a number is read as it is. -/
theorem millis_of_pos {L : Library} (faithful : L.Faithful) {n : Int} (h : 0 < n) :
    L.millis (L.value (.int n)) = .ok ⟨n.toNat, by omega⟩ := by
  rw [millis, faithful.integer]
  exact positive_of_pos h

end Library

end Drill.Settings
