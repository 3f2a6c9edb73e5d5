import Drill.Settings.File
import Drill.Settings.Library
import Drill.Settings.Reading

/-!
# A library to load settings with

`lax` is the library that the program loads its settings with: sources file what they have under the
first name of its field, and values are read loosely. It stands for libraries that are not part of
this project (`pydantic_settings`, `pydantic`, `dotenv`). Main statements: `lax_ordered` and
`lax_faithful`, what is documented of such libraries holds of it, and `get_get`, settings are loaded
once.
-/

namespace Drill.Settings

/-! ## The library of the program -/

/-- What the caller's arguments say of a setting: names that fit as they are count first. -/
def Field.argued? {V : Type} (f : Field) (given : List (String × V)) : Option V :=
  (f.keys.findSome? (Assoc.get? given)).or ((f.keys.map Text.smalls).findSome? (last? given))

/-- What a source files that knows of each field what it says of it. -/
def filed {V : Type} (value? : Field → Option V) : Entries V := fun key =>
  (Field.all.find? fun f => f.key = key).bind value?

/-- What a source of variables files. -/
def filedTexts (pairs : List (String × String)) : Entries Json.Value :=
  filed fun f => (f.assigned? pairs).map .string

/-- The library that the program loads its settings with. -/
abbrev lax : Library where
  Value := Json.Value
  value := id
  arguments given := filed (·.argued? given)
  environment := filedTexts
  parse := File.parse
  file := filedTexts
  merge first second key := (first key).or (second key)
  pick entries keys := keys.findSome? entries
  integer := readInteger
  optional := readOptional
  double := readDouble
  boolean := readBoolean
  text := readText

/-- Under the key of a field stands the value of that field. -/
theorem filed_key {V : Type} (value? : Field → Option V) {f : Field} (known : f ∈ Field.all) :
    filed value? f.key = value? f := by
  have own : ∀ f ∈ Field.all, Field.all.find? (fun g => g.key = f.key) = some f := by
    simp only [Field.all, List.forall_mem_cons]
    refine ⟨?_, ?_, ?_, ?_, ?_, ?_, ?_, ?_, ?_, ?_, ?_, fun _ mem => nomatch mem⟩ <;> rfl
  rw [filed, own f known]
  rfl

/-- Under the other keys of a field stands nothing. -/
theorem filed_other {V : Type} (value? : Field → Option V) {f : Field} (known : f ∈ Field.all)
    {key : String} (mem : key ∈ f.keys) (ne : key ≠ f.key) : filed value? key = none := by
  have other : ∀ f ∈ Field.all, ∀ key ∈ f.keys, key ≠ f.key →
      ∀ g ∈ Field.all, ¬ g.key = key := by decide
  have none : Field.all.find? (fun g => g.key = key) = none :=
    List.find?_eq_none.mpr fun g mem' is => other f known key mem ne g mem' (of_decide_eq_true is)
  rw [filed, none]
  rfl

/-- What is given for a field depends only on what is given under its names. -/
theorem argued?_filter {V : Type} (f : Field) (given : List (String × V)) :
    f.argued? (given.filter fun e => f.fits e.1) = f.argued? given := by
  have fits {key name : String} (mem : key ∈ f.keys) (same : Text.smalls name = Text.smalls key) :
      f.fits name := decide_eq_true (same ▸ List.mem_map_of_mem mem)
  rw [Field.argued?, Field.argued?, List.findSome?_map, List.findSome?_map]
  congr 1
  · exact findSome?_congr fun key mem => Assoc.get?_filter (fits mem rfl) given
  · exact findSome?_congr fun key mem => last?_filter (fun _ same => fits mem same) given

/-- What is documented of sources holds of the library of the program. -/
theorem lax_ordered : lax.Ordered where
  merges _ _ _ := rfl
  picks _ _ := rfl
  filesArguments _ known _ _ mem ne := filed_other _ known mem ne
  filesEnvironment _ known _ _ mem ne := filed_other _ known mem ne
  filesFile _ known _ _ mem ne := filed_other _ known mem ne
  named f known given value found := by
    have argued : f.argued? given = some value := by
      rw [Field.argued?, found, Option.some_or]
    exact (filed_key _ known).trans argued
  own f known given := by
    have ofAll := filed_key (·.argued? given) known
    have ofFitting := filed_key (·.argued? (given.filter fun e => f.fits e.1)) known
    exact ofAll.trans ((ofFitting.trans (argued?_filter f given)).symm)
  silent f known := by
    have quiet : f.argued? ([] : List (String × Json.Value)) = none := by
      simp [Field.argued?, Assoc.get?, last?]
    exact (filed_key _ known).trans quiet
  readsEnvironment _ known _ := filed_key _ known
  readsFile _ known _ := filed_key _ known

/-- What is documented of types holds of it. -/
theorem lax_faithful : lax.Faithful where
  integer _ := rfl
  optional _ := rfl
  missing := rfl
  double _ := rfl
  boolean _ := rfl
  text _ := rfl

/-! ## Loading once -/

/-- The settings in the sources, as the program loads them. -/
def load (s : Sources Json.Value) : Checked Settings := lax.load s

/-- Settings that are loaded once: what was loaded, if anything was (`get_settings`). -/
structure Memo where
  loaded : Option Settings

namespace Memo

/-- Nothing is loaded yet. -/
def empty : Memo := ⟨none⟩

/-- The settings loaded earlier, else those in the sources now; and what is known from now on. -/
def get (m : Memo) (s : Sources Json.Value) : Checked (Settings × Memo) :=
  match m.loaded with
  | some settings => .ok (settings, m)
  | none => (load s).map fun settings => (settings, ⟨some settings⟩)

/-- Settings that are loaded once stay, whatever the sources say later. -/
theorem get_get {m m' : Memo} {s later : Sources Json.Value} {settings : Settings}
    (h : m.get s = .ok (settings, m')) : m'.get later = .ok (settings, m') := by
  unfold get at h
  cases loaded : m.loaded with
  | some old =>
    rw [loaded] at h
    cases h
    simp [get, loaded]
  | none =>
    rw [loaded] at h
    cases answer : load s with
    | error found => rw [answer] at h; cases h
    | ok new => rw [answer] at h; cases h; rfl

end Memo

end Drill.Settings
