import Drill.Settings.Source
import Mathlib.Data.List.Nodup

/-!
# Which value of a setting counts

A setting may be given by the caller, in the environment and in a file, in each under several names.
`Library.chosen?` says which value is the one that counts: the caller's before the environment's,
the environment's before the file's. What is assumed of the library is `Library.Ordered`, and there
is no rank among sources in it: they are merged by key first, and only then a setting is looked up
under its names, so that a later source with a better name could win. It does not, because each
source files what it has under the first name of the setting (`pick_entries`).

No name serves two settings (`Field.eq_of_names`, `Field.eq_of_keys`), so that what is said of one
setting cannot leak into another. A file is the one exception: a value there may refer to a variable
of the environment, by whatever name (`reference_leaks`). `Library.lines` is the file with its
references resolved, and what is said here of files is said of that.

Main statement: `load_ranked`, the values that count are the ones that are checked, and nothing else
that is said about a setting changes what is loaded or complained about.
-/

namespace Drill.Settings

/-! ## The settings -/

namespace Field

theorem distinct : (all.map (·.name)).Nodup := by decide

/-- A field is known by its name. -/
theorem eq_of_name {f g : Field} (known : f ∈ all) (known' : g ∈ all) (same : f.name = g.name) :
    f = g :=
  List.inj_on_of_nodup_map distinct known known' same

/-- No variable stands for two settings. -/
theorem eq_of_names {f g : Field} (known : f ∈ all) (known' : g ∈ all) {name : String}
    (mem : name ∈ f.names) (mem' : name ∈ g.names) : f = g := by
  have table : ∀ f ∈ all, ∀ g ∈ all, ∀ name ∈ f.names, name ∈ g.names → f.name = g.name := by decide
  exact eq_of_name known known' (table f known g known' name mem mem')

/-- With the caller no name stands for two settings, in small letters or not. -/
theorem eq_of_keys {f g : Field} (known : f ∈ all) (known' : g ∈ all) {key key' : String}
    (mem : key ∈ f.keys) (mem' : key' ∈ g.keys) (same : Text.smalls key = Text.smalls key') :
    f = g := by
  have table : ∀ f ∈ all, ∀ g ∈ all, ∀ key ∈ f.keys, ∀ key' ∈ g.keys,
      Text.smalls key = Text.smalls key' → f.name = g.name := by decide
  exact eq_of_name known known' (table f known g known' key mem key' mem' same)

/-- A name that fits two settings is a name of one setting only. -/
theorem eq_of_fits {f g : Field} (known : f ∈ all) (known' : g ∈ all) {name : String}
    (fits : f.fits name) (fits' : g.fits name) : f = g := by
  obtain ⟨key, mem, same⟩ := List.mem_map.mp (of_decide_eq_true fits)
  obtain ⟨key', mem', same'⟩ := List.mem_map.mp (of_decide_eq_true fits')
  exact eq_of_keys known known' mem mem' (same.trans same'.symm)

theorem fits_of_mem {f : Field} {key : String} (mem : key ∈ f.keys) : f.fits key :=
  decide_eq_true (List.mem_map_of_mem mem)

theorem name_mem_keys {f : Field} (known : f ∈ all) : f.name ∈ f.keys := by
  revert f
  decide

theorem key_mem_keys {f : Field} (known : f ∈ all) : f.key ∈ f.keys := by
  revert f
  decide

theorem nodup_keys {f : Field} (known : f ∈ all) : f.keys.Nodup := by
  revert f
  decide

theorem nodup_names {f : Field} (known : f ∈ all) : f.names.Nodup := by
  revert f
  decide

end Field

/-! ## The first that has something to say -/

section
variable {α β : Type}

/-- What is said after an element that has something to say does not matter. -/
theorem findSome?_congr_of_isSome {before after : List α} {a : α} {p q : α → Option β}
    (same : ∀ b ∈ before ++ [a], p b = q b) (heard : (p a).isSome) :
    (before ++ a :: after).findSome? p = (before ++ a :: after).findSome? q := by
  have here : p a = q a := same a List.mem_concat_self
  have first : before.findSome? p = before.findSome? q :=
    findSome?_congr fun b mem => same b (List.mem_append_left _ mem)
  rw [List.findSome?_append, List.findSome?_append, first, List.findSome?_cons_of_isSome heard,
    List.findSome?_cons_of_isSome (here ▸ heard), here]

/-- What stands before some place in a list of different things does not stand after it. -/
theorem not_mem_of_nodup {before after : List α} {a : α} (nodup : (before ++ a :: after).Nodup) :
    ∀ b ∈ before ++ [a], b ∉ after := by
  obtain ⟨-, rest, apart⟩ := List.nodup_append.mp nodup
  intro b mem later
  rcases List.mem_append.mp mem with mem | mem
  · exact apart b mem b (List.mem_cons_of_mem _ later) rfl
  · cases List.mem_singleton.mp mem
    exact (List.nodup_cons.mp rest).1 later

/-- Where only one element has something to say, what it says is found. -/
theorem findSome?_of_only {l : List α} {p : α → Option β} {a : α} (mem : a ∈ l)
    (only : ∀ b ∈ l, b ≠ a → p b = none) : l.findSome? p = p a := by
  cases said : l.findSome? p with
  | none => exact (List.findSome?_eq_none_iff.mp said a mem).symm
  | some v =>
    obtain ⟨b, mem', said⟩ := List.exists_of_findSome?_eq_some said
    by_cases same : b = a
    · rw [← same, said]
    · rw [only b mem' same] at said
      cases said

end

/-! ## The value that counts -/

/-- The value of a setting that counts, if there is any. -/
def Library.chosen? (L : Library) (s : Sources L.Value) (f : Field) : Option L.Value :=
  (L.arguments s.given f.key).or
    (((f.assigned? s.environment).or (f.assigned? (L.lines s))).map (L.value ∘ .string))

variable {L : Library} {s t : Sources L.Value} {f g : Field}

/-- What all sources file together has the value that counts, under whatever name it was given. -/
theorem pick_entries (ordered : L.Ordered) (s : Sources L.Value) (known : f ∈ Field.all) :
    L.pick (L.entries s) f.keys = L.chosen? s f := by
  -- No source has anything under a name other than the first, so a better name in a later source
  -- is no better name once the sources are merged.
  have only : ∀ key ∈ f.keys, key ≠ f.key → L.entries s key = none := by
    intro key mem ne
    rw [Library.entries, ordered.merges, ordered.merges,
      ordered.filesArguments f known s.given key mem ne,
      ordered.filesEnvironment f known s.environment key mem ne,
      ordered.filesFile f known (L.lines s) key mem ne]
    rfl
  have found : L.entries s f.key = L.chosen? s f := by
    rw [Library.entries, ordered.merges, ordered.merges,
      ordered.readsEnvironment f known, ordered.readsFile f known, Library.chosen?, Option.map_or]
  rw [ordered.picks, findSome?_of_only (Field.key_mem_keys known) only, found]

/-- What is loaded depends on the values that count only. -/
theorem load_of_chosen (ordered : L.Ordered)
    (same : ∀ g ∈ Field.all, L.chosen? t g = L.chosen? s g) : L.load t = L.load s := by
  have picked : ∀ g ∈ Field.all, L.pick (L.entries t) g.keys = L.pick (L.entries s) g.keys :=
    fun g known => by rw [pick_entries ordered t known, pick_entries ordered s known, same g known]
  simp only [Field.all, List.forall_mem_cons] at picked
  obtain ⟨stability, outage, period, formation, restart, grace, callLimit, factor, strict, logLevel,
    jsonLogs, -⟩ := picked
  simp only [Library.load, Library.setting, *]

/-- An argument under a name of the setting counts. -/
theorem chosen?_of_given (ordered : L.Ordered) (known : f ∈ Field.all) {value : L.Value}
    (given : f.keys.findSome? (Assoc.get? s.given) = some value) : L.chosen? s f = some value := by
  rw [Library.chosen?, ordered.named f known s.given value given, Option.some_or]

/-- If no argument fits the setting, the variables count. -/
theorem chosen?_of_silent (ordered : L.Ordered) (known : f ∈ Field.all)
    (silent : ∀ e ∈ s.given, ¬f.fits e.1) :
    L.chosen? s f =
      ((f.assigned? s.environment).or (f.assigned? (L.lines s))).map (L.value ∘ .string) := by
  have none : s.given.filter (fun e => f.fits e.1) = [] := List.filter_eq_nil_iff.mpr silent
  rw [Library.chosen?, ordered.own f known, none, ordered.silent f known, Option.none_or]

/-! ## The values that count, by name -/

theorem assigned?_nil (f : Field) : f.assigned? [] = none :=
  List.findSome?_eq_none_iff.mpr fun _ _ => rfl

/-- All values are given by the names of settings. -/
def Named {V : Type} (given : List (String × V)) : Prop :=
  ∀ name ∈ given.map (·.1), name ∈ Field.all.map (·.name)

instance {V : Type} (given : List (String × V)) : Decidable (Named given) := List.decidableBAll _ _

/-- A value whose name fits a setting is given by the name of this setting. -/
theorem Named.eq_name {V : Type} {given : List (String × V)} (named : Named given)
    (known : f ∈ Field.all) {e : String × V} (mem : e ∈ given) (fits : f.fits e.1) :
    e.1 = f.name := by
  obtain ⟨g, known', is⟩ := List.mem_map.mp (named e.1 (List.mem_map_of_mem mem))
  rw [← is] at fits ⊢
  have own : g.fits g.name := Field.fits_of_mem (Field.name_mem_keys known')
  exact congrArg _ (Field.eq_of_fits known' known own fits)

/-- Values that a caller gives by the names of the settings count as they are. -/
theorem Named.chosen? (ordered : L.Ordered) {given : List (String × L.Value)} (named : Named given)
    (known : f ∈ Field.all) : L.chosen? (.of given [] none) f = Assoc.get? given f.name := by
  have missed {key : String} (mem : key ∈ f.keys) (ne : key ≠ f.name) :
    Assoc.get? given key = none := by
    rw [Assoc.get?_eq_find?, Option.map_eq_none_iff, List.find?_eq_none]
    intro e among same
    have same := of_decide_eq_true same
    exact ne (same.symm.trans (named.eq_name known among (same ▸ Field.fits_of_mem mem)))
  have first : f.keys.findSome? (Assoc.get? given) = Assoc.get? given f.name :=
    findSome?_of_only (Field.name_mem_keys known) fun _ mem ne => missed mem ne
  cases found : Assoc.get? given f.name with
  | some value => exact chosen?_of_given ordered known (first.trans found)
  | none =>
    refine (chosen?_of_silent ordered known fun e among fits => ?_).trans
      (congrArg (Option.map _) ((congrArg₂ Option.or (assigned?_nil f) (assigned?_nil f))))
    rw [Assoc.get?_eq_find?, Option.map_eq_none_iff, List.find?_eq_none] at found
    exact found e among (decide_eq_true (named.eq_name known among fits))

/-- The values that count, by the names of their settings. -/
def Library.chosen (L : Library) (s : Sources L.Value) : List (String × L.Value) :=
  Field.all.filterMap fun f => (L.chosen? s f).map (f.name, ·)

/-- In a list of fields with their values, each field has its own value. -/
theorem get?_filterMap {V : Type} {fields : List Field} (distinct : (fields.map (·.name)).Nodup)
    (value? : Field → Option V) (mem : g ∈ fields) :
    Assoc.get? (fields.filterMap fun f => (value? f).map (f.name, ·)) g.name = value? g := by
  rw [Assoc.get?_eq_find?]
  cases found : (fields.filterMap fun f => (value? f).map (f.name, ·)).find? fun e =>
    e.1 = g.name with
  | none =>
    cases said : value? g with
    | none => rfl
    | some v =>
      have among : (g.name, v) ∈ fields.filterMap fun f => (value? f).map (f.name, ·) :=
        List.mem_filterMap.mpr ⟨g, mem, by rw [said, Option.map_some]⟩
      have missed := List.find?_eq_none.mp found _ among
      exact absurd (decide_eq_true rfl) missed
  | some e =>
    have name := List.find?_some found
    obtain ⟨f, mem', said⟩ := List.mem_filterMap.mp (List.mem_of_find?_eq_some found)
    obtain ⟨v, is, rfl⟩ := Option.map_eq_some_iff.mp said
    have one := List.inj_on_of_nodup_map distinct mem' mem (of_decide_eq_true name)
    rw [← one, is, Option.map_some]

/-- The sources say no more than the values that count. -/
theorem load_chosen (ordered : L.Ordered) (s : Sources L.Value) :
    L.load s = L.load (.of (L.chosen s) [] none) := by
  have named : Named (L.chosen s) := by
    intro name mem
    obtain ⟨e, among, rfl⟩ := List.mem_map.mp mem
    obtain ⟨f, known, said⟩ := List.mem_filterMap.mp among
    obtain ⟨v, -, rfl⟩ := Option.map_eq_some_iff.mp said
    exact List.mem_map_of_mem known
  refine load_of_chosen ordered fun g known => ?_
  rw [named.chosen? ordered known, Library.chosen, get?_filterMap Field.distinct _ known]

/-! ## Values that do not count -/

/-- Two lists of named values that differ only where a name fits. -/
def AgreeBut {α : Type} (fits : String → Bool) (pairs pairs' : List (String × α)) : Prop :=
  (pairs.filter fun e => !fits e.1) = pairs'.filter fun e => !fits e.1

/-- Is the name one of these, in small letters? -/
def among (names : List String) (name : String) : Bool := Text.smalls name ∈ names

namespace AgreeBut

variable {α : Type} {fits : String → Bool} {pairs pairs' : List (String × α)} {name : String}

theorem get? (agree : AgreeBut fits pairs pairs') (other : ¬fits name) :
    Assoc.get? pairs name = Assoc.get? pairs' name := by
  have kept : !fits name := by simpa using other
  rw [← Assoc.get?_filter (p := fun key => !fits key) kept, agree,
    Assoc.get?_filter (p := fun key => !fits key) kept]

theorem last? (agree : AgreeBut fits pairs pairs')
    (other : ∀ key, Text.smalls key = name → ¬fits key) :
    last? pairs name = last? pairs' name := by
  have kept (key : String) (same : Text.smalls key = name) : !fits key := by
    simpa using other key same
  rw [← last?_filter (p := fun key => !fits key) kept, agree, last?_filter kept]

/-- The lists agree on the names of a setting that none of the names in question fits. -/
theorem filter (agree : AgreeBut fits pairs pairs') (other : ∀ name, f.fits name → ¬fits name) :
    (pairs.filter fun e => f.fits e.1) = pairs'.filter fun e => f.fits e.1 := by
  have within (pairs : List (String × α)) : (pairs.filter fun e => f.fits e.1) =
      (pairs.filter fun e => !fits e.1).filter fun e => f.fits e.1 := by
    rw [List.filter_filter]
    refine List.filter_congr fun e _ => ?_
    cases own : f.fits e.1 with
    | false => rfl
    | true => simpa using other e.1 own
  rw [within pairs, agree, ← within pairs']

end AgreeBut

section
variable {pairs pairs' : List (String × String)}

/-- A field looks at its own names only. -/
theorem AgreeBut.assigned? {names : List String} (agree : AgreeBut (among names) pairs pairs')
    (others : ∀ name ∈ f.names, name ∉ names) : f.assigned? pairs = f.assigned? pairs' := by
  refine findSome?_congr fun name mem => agree.last? fun key same => ?_
  rw [among, same]
  exact fun fits => others name mem (of_decide_eq_true fits)

/-- Names of another setting are no names of this one. -/
theorem AgreeBut.assigned?_of_ne (agree : AgreeBut (among f.names) pairs pairs')
    (known : f ∈ Field.all) (known' : g ∈ Field.all) (ne : g ≠ f) :
    g.assigned? pairs = g.assigned? pairs' :=
  agree.assigned? fun _ mem mem' => ne (Field.eq_of_names known' known mem mem')

/-- Names after one that is used do not count, whatever variables have them. -/
theorem AgreeBut.assigned?_of_isSome {before after : List String} {name : String}
    (known : f ∈ Field.all) (names : f.names = before ++ name :: after)
    (used : (Settings.last? pairs name).isSome)
    (agree : AgreeBut (among after) pairs pairs') (known' : g ∈ Field.all) :
    g.assigned? pairs = g.assigned? pairs' := by
  by_cases one : g = f
  · subst one
    have other := not_mem_of_nodup (names ▸ Field.nodup_names known)
    rw [Field.assigned?, Field.assigned?, names]
    refine findSome?_congr_of_isSome (fun name' mem => agree.last? fun key same fits => ?_) used
    rw [among, same] at fits
    exact other name' mem (of_decide_eq_true fits)
  · refine agree.assigned? fun name' mem mem' => one ?_
    exact Field.eq_of_names known' known mem
      (names ▸ List.mem_append_right _ (List.mem_cons_of_mem _ mem'))

end

/-- Names after one that the caller uses do not count. -/
theorem AgreeBut.arguments_of_isSome (ordered : L.Ordered) {given given' : List (String × L.Value)}
    {before after : List String} {key : String} (known : f ∈ Field.all)
    (keys : f.keys = before ++ key :: after) (used : (Assoc.get? given key).isSome)
    (agree : AgreeBut (· ∈ after) given given') (known' : g ∈ Field.all) :
    L.arguments given g.key = L.arguments given' g.key := by
  by_cases one : g = f
  · subst one
    have other := not_mem_of_nodup (keys ▸ Field.nodup_keys known)
    have lookup : g.keys.findSome? (Assoc.get? given) = g.keys.findSome? (Assoc.get? given') := by
      rw [keys]
      exact findSome?_congr_of_isSome
        (fun key' mem => agree.get? fun fits => other key' mem (of_decide_eq_true fits)) used
    have found : (g.keys.findSome? (Assoc.get? given)).isSome := by
      rw [List.findSome?_isSome_iff]
      exact ⟨key, keys ▸ List.mem_append_right _ List.mem_cons_self, used⟩
    obtain ⟨value, is⟩ := Option.isSome_iff_exists.mp found
    rw [ordered.named g known' given value is, ordered.named g known' given' value (lookup ▸ is)]
  · rw [ordered.own g known' given, ordered.own g known' given']
    refine congrArg (L.arguments · g.key) (agree.filter fun name fits mem => one ?_)
    have later : name ∈ f.keys :=
      keys ▸ List.mem_append_right _ (List.mem_cons_of_mem _ (of_decide_eq_true mem))
    exact Field.eq_of_fits known' known fits (Field.fits_of_mem later)

/-! ## Ranks -/

/-- Which values count in some sources, and which do not matter to what is loaded or complained
about. Other sources `t` are compared with these; of their files it matters what the variables read
as. -/
structure Ranked (L : Library) (s : Sources L.Value) : Prop where
  /-- The value that counts is the one that is checked, in the name of the setting, and without one
  the default holds. -/
  checked : ∀ f ∈ Field.all, ∀ {α : Type} (reader : L.Value → Except Problem α) (default : α),
    L.setting s f reader default = (L.chosen? s f).elim (.ok default) fun value =>
      (reader value).mapError fun problem => [⟨problem, [.name f.name]⟩]
  /-- What the caller gives counts, the first name that is used before the others. -/
  given : ∀ f ∈ Field.all, ∀ value, f.keys.findSome? (Assoc.get? s.given) = some value →
    L.chosen? s f = some value
  /-- If nothing that the caller gives fits the setting, the environment counts, and if that has
  nothing either, the file. -/
  assigned : ∀ f ∈ Field.all, (∀ e ∈ s.given, ¬f.fits e.1) → L.chosen? s f =
    ((f.assigned? s.environment).or (f.assigned? (L.lines s))).map (L.value ∘ .string)
  /-- The values that count, given by a caller where there are no variables, are loaded alike. -/
  condensed : L.load s = L.load (.of (L.chosen s) [] none)
  /-- What variables say of a setting that the caller gives does not matter. -/
  belowCaller : ∀ f ∈ Field.all, (L.arguments s.given f.key).isSome → ∀ t : Sources L.Value,
    t.given = s.given → AgreeBut (among f.names) s.environment t.environment →
    AgreeBut (among f.names) (L.lines s) (L.lines t) → L.load t = L.load s
  /-- What the file says of a setting that is in the environment does not matter. -/
  belowEnvironment : ∀ f ∈ Field.all, (f.assigned? s.environment).isSome → ∀ t : Sources L.Value,
    t.given = s.given → t.environment = s.environment →
    AgreeBut (among f.names) (L.lines s) (L.lines t) → L.load t = L.load s
  /-- Names after one that the caller uses do not matter. -/
  laterKeys : ∀ f ∈ Field.all, ∀ before key after, f.keys = before ++ key :: after →
    (Assoc.get? s.given key).isSome → ∀ t : Sources L.Value, AgreeBut (· ∈ after) s.given t.given →
    t.environment = s.environment → L.lines t = L.lines s → L.load t = L.load s
  /-- Names after one that is used in the environment do not matter there. -/
  laterNames : ∀ f ∈ Field.all, ∀ before name after, f.names = before ++ name :: after →
    (last? s.environment name).isSome → ∀ t : Sources L.Value, t.given = s.given →
    AgreeBut (among after) s.environment t.environment → L.lines t = L.lines s → L.load t = L.load s
  /-- Names after one that is used in the file do not matter there. -/
  laterInFile : ∀ f ∈ Field.all, ∀ before name after, f.names = before ++ name :: after →
    (last? (L.lines s) name).isSome → ∀ t : Sources L.Value, t.given = s.given →
    t.environment = s.environment → AgreeBut (among after) (L.lines s) (L.lines t) →
    L.load t = L.load s

/-- In all sources the caller ranks before the environment, the environment before the file, and in
each of them an earlier name before a later one. -/
theorem load_ranked (L : Library) (ordered : L.Ordered) (s : Sources L.Value) : Ranked L s where
  checked f known {α} reader default := by
    rw [Library.setting, pick_entries ordered s known]
    cases L.chosen? s f <;> rfl
  given f known value found := chosen?_of_given ordered known found
  assigned f known silent := chosen?_of_silent ordered known silent
  condensed := load_chosen ordered s
  belowCaller f known heard t given agree agree' := by
    refine load_of_chosen ordered fun g known' => ?_
    rw [Library.chosen?, Library.chosen?, given]
    by_cases one : g = f
    · rw [one, Option.or_of_isSome heard, Option.or_of_isSome heard]
    · rw [agree.assigned?_of_ne known known' one, agree'.assigned?_of_ne known known' one]
  belowEnvironment f known heard t given environment agree := by
    refine load_of_chosen ordered fun g known' => ?_
    rw [Library.chosen?, Library.chosen?, given, environment]
    by_cases one : g = f
    · rw [one, Option.or_of_isSome heard, Option.or_of_isSome heard]
    · rw [agree.assigned?_of_ne known known' one]
  laterKeys f known before key after keys used t agree environment lines := by
    refine load_of_chosen ordered fun g known' => ?_
    rw [Library.chosen?, Library.chosen?, environment, lines,
      agree.arguments_of_isSome ordered known keys used known']
  laterNames f known before name after names used t given agree lines := by
    refine load_of_chosen ordered fun g known' => ?_
    rw [Library.chosen?, Library.chosen?, given, lines,
      agree.assigned?_of_isSome known names used known']
  laterInFile f known before name after names used t given environment agree := by
    refine load_of_chosen ordered fun g known' => ?_
    rw [Library.chosen?, Library.chosen?, given, environment,
      agree.assigned?_of_isSome known names used known']

/-- A factor that the caller gives stands, whatever the environment makes of its names. -/
theorem shadowed_factor :
    lax.Ordered ∧
    load (.of [("timeout_factor", .int 5)]
        [("Harness_Timeout_Factor", "fast"), ("TIMEOUT_FACTOR", "2")] none)
      = load (.of [("timeout_factor", .int 5)] [] none) := by
  have ranked := load_ranked lax lax_ordered (.of [("timeout_factor", .int 5)] [] none)
  have known : Field.factor ∈ Field.all := by simp [Field.all]
  have agree : AgreeBut (among Field.factor.names) []
      [("Harness_Timeout_Factor", "fast"), ("TIMEOUT_FACTOR", "2")] := by
    unfold AgreeBut
    decide
  exact ⟨lax_ordered, ranked.belowCaller .factor known (by decide) _ rfl agree rfl⟩

/-- A value in the file may refer to a variable of the environment, and then it does not help that
the caller gives the setting which this variable is a name of. -/
theorem reference_leaks :
    let given : List (String × Json.Value) := [("outage_window_ms", .int 1)]
    let environment := [("HARNESS_OUTAGE_WINDOW_MS", "7")]
    let file := some "HARNESS_STABILITY_WINDOW_MS=$\x7bHARNESS_OUTAGE_WINDOW_MS:-5000\x7d"
    (Field.outage.argued? given).isSome ∧ AgreeBut (among Field.outage.names) [] environment ∧
      load (.of given environment file) ≠ load (.of given [] file) := by
  intro given environment file
  have agree : AgreeBut (among Field.outage.names) [] environment := by
    unfold AgreeBut
    decide
  have apart : (load (.of given environment file)).toOption.map (·.stability.count) ≠
      (load (.of given [] file)).toOption.map (·.stability.count) := by decide
  exact ⟨rfl, agree, fun same => apart (congrArg (fun loaded =>
    loaded.toOption.map (·.stability.count)) same)⟩

end Drill.Settings
