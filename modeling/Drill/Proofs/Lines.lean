import Drill.Proofs.Tokens
import Mathlib.Data.List.Nodup
import Mathlib.Data.Set.Finite.Lemmas
import Mathlib.Tactic.ByContra
import Mathlib.Tactic.Push

/-!
# Lines that are objects

A line that is put together slot by slot, each name and each value between quotes as it is
(`Slot.row`). A reader need not see the members that were meant: a value with a quote in it may end
early, and bring in members of its own. But no string runs on from one slot into the next
(`Slot.holds_of_row`), so each string that is read stands in one slot; and in a slot whose value may
not stand between quotes all strings are shorter than the value.

Main statements: `Slot.read_row`, if every value may stand between quotes the row is read slot by
slot, and `Slot.row_told_iff`, values are read as they were written exactly if they are plain.
-/

namespace Drill

namespace Json

/-! ## Rows of members -/

/-- A place for a member, its name and its value set between quotes as they are. -/
structure Slot where
  name : List Char
  value : List Char

namespace Slot

/-- The name is plain and begins with a character that does not come after a string. -/
def IsNamed (e : Slot) : Prop :=
  Plain e.name ∧ ∃ c rest, e.name = c :: rest ∧ ¬IsSpace c ∧ ¬Closes c

/-- The member up to its last quote. -/
def opened (e : Slot) : List Char := '"' :: e.name ++ '"' :: ':' :: ' ' :: '"' :: e.value

/-- The members of an object, from the first one to the closing brace. -/
def row : Slot → List Slot → List Char
  | e, [] => e.opened ++ ['"', '\x7d']
  | e, f :: rest => e.opened ++ '"' :: ',' :: ' ' :: row f rest

/-- Two strings that may be read as a name and a value in a slot. -/
def Holds (e : Slot) (k s : List Char) : Prop :=
  Inside e.value ∧ k = e.name ∧ s = e.value ∨ ¬Inside e.value ∧ s.length < e.value.length

end Slot

variable {e f : Slot} {rest : List Slot} {ts us : List Token} {text lit k s : List Char}

/-- If a text begins with a literal, that literal is its first token. -/
theorem Cut.string_inv (inside : Inside lit) (cut : Cut ('"' :: lit ++ '"' :: text) ts) :
    ∃ us, ts = .string lit :: us ∧ Cut text us := by
  generalize whole : '"' :: lit ++ '"' :: text = line at cut
  cases cut with
  | nil => cases whole
  | space space =>
    cases whole
    exact absurd space (by decide)
  | sign _ quote =>
    cases whole
    exact absurd rfl quote
  | string inside' rest =>
    obtain ⟨t, spells⟩ := inside
    obtain ⟨t', spells'⟩ := inside'
    obtain ⟨rfl, -, rfl⟩ := spells.unique spells' (List.cons.inj whole).2
    exact ⟨_, rfl, rest⟩

/-- A string takes two characters more than stand in it. -/
theorem Cut.length_lt (cut : Cut text ts) (mem : .string lit ∈ ts) :
    lit.length + 1 < text.length := by
  induction cut with
  | nil => cases mem
  | space _ _ ih => exact Nat.lt_succ_of_lt (ih mem)
  | sign _ _ _ ih =>
    rcases List.mem_cons.mp mem with same | mem
    · cases same
    · exact Nat.lt_succ_of_lt (ih mem)
  | string inside rest ih =>
    simp only [List.cons_append, List.length_cons, List.length_append]
    rcases List.mem_cons.mp mem with same | mem
    · cases same
      omega
    · have := ih mem
      omega

/-- What stands between two quotes is one string, or all strings in it are shorter. -/
theorem Cut.quoted {value : List Char} (cut : Cut ('"' :: value ++ ['"']) ts) :
    Inside value ∧ ts = [.string value] ∨ ¬Inside value ∧ ∀ lit, .string lit ∈ ts →
    lit.length < value.length := by
  by_cases inside : Inside value
  · obtain ⟨us, rfl, rest⟩ := cut.string_inv inside
    cases rest
    exact .inl ⟨inside, rfl⟩
  · refine .inr ⟨inside, ?_⟩
    generalize whole : '"' :: value ++ ['"'] = line at cut
    cases cut with
    | nil => cases whole
    | space space =>
      cases whole
      exact absurd space (by decide)
    | sign _ quote =>
      cases whole
      exact absurd rfl quote
    | @string first text ts inside' rest =>
      have lengths := congrArg List.length whole
      simp only [List.cons_append, List.length_cons, List.length_append, List.length_nil] at lengths
      have more : text ≠ [] := by
        rintro rfl
        exact inside (List.append_cancel_right (List.cons.inj whole).2 ▸ inside')
      have long := List.length_pos_iff.mpr more
      intro lit mem
      rcases List.mem_cons.mp mem with same | mem
      · cases same
        omega
      · have := rest.length_lt mem
        omega

/-- The value of a pair is one of the tokens. -/
theorem mem_of_mem_pairs (mem : (k, s) ∈ pairs ts) : .string s ∈ ts := by
  fun_induction pairs ts with
  | case1 k' s' rest ih =>
    rcases List.mem_cons.mp mem with same | mem
    · cases same
      simp only [List.mem_cons, true_or, or_true]
    · simp only [List.mem_cons, ih mem, or_true]
  | case2 t rest _ ih => exact List.mem_cons_of_mem t (ih mem)
  | case3 => cases mem

/-- The value of a pair stands after the colon. -/
theorem mem_of_mem_pairs_colon {name : List Char}
    (mem : (k, s) ∈ pairs (.string name :: .sign ':' :: ts)) :
    .string s ∈ ts := by
  cases ts with
  | nil => cases mem
  | cons t rest =>
    cases t with
    | sign c =>
      have mem : (k, s) ∈ pairs (.sign c :: rest) := mem
      exact mem_of_mem_pairs mem
    | string first =>
      rcases List.mem_cons.mp mem with same | mem
      · cases same
        exact List.mem_cons_self
      · exact List.mem_cons_of_mem _ (mem_of_mem_pairs mem)

namespace Slot

/-- The pairs in a slot. -/
theorem holds_of_cut (named : e.IsNamed) (cut : Cut (e.opened ++ ['"']) ts)
    (mem : (k, s) ∈ pairs ts) :
    e.Holds k s := by
  have split :
    e.opened ++ ['"'] = '"' :: e.name ++ '"' :: ':' :: ' ' :: ('"' :: e.value ++ ['"']) := by
    simp only [opened, List.cons_append, List.append_assoc]
  rw [split] at cut
  obtain ⟨us, rfl, parting⟩ := cut.string_inv named.1.inside
  obtain ⟨vs, rfl, blank⟩ := parting.sign_inv (by decide) (by decide)
  rcases (blank.space_inv (by decide)).quoted with ⟨inside, rfl⟩ | ⟨inside, shorter⟩
  · cases List.mem_singleton.mp mem
    exact .inl ⟨inside, rfl, rfl⟩
  · exact .inr ⟨inside, shorter s (mem_of_mem_pairs_colon mem)⟩

theorem shuts_row (named : e.IsNamed) (rest : List Slot) : Shuts (',' :: ' ' :: row e rest) := by
  obtain ⟨plain, c, name, is, solid, closes⟩ := named
  have quote : c ≠ '"' := (plain c (is ▸ List.mem_cons_self)).2.1
  cases rest with
  | nil =>
    simp only [row, opened, is, List.cons_append]
    exact shuts_comma solid quote closes
  | cons f rest =>
    simp only [row, opened, is, List.cons_append]
    exact shuts_comma solid quote closes

/-- Each pair in a row is in one of its slots: whatever the values hold, each slot ends where it
should. -/
theorem holds_of_row (named : ∀ f ∈ e :: rest, f.IsNamed) (cut : Cut (row e rest) ts)
    (orderly : Orderly ts)
    (mem : (k, s) ∈ pairs ts) : ∃ f ∈ e :: rest, f.Holds k s := by
  induction rest generalizing e ts with
  | nil =>
    obtain ⟨us, vs, rfl, first, brace⟩ := cut.split shuts_brace orderly
    obtain ⟨ws, rfl, ended⟩ := brace.sign_inv (by decide) (by decide)
    cases ended
    rw [pairs_append_sign (by decide), pairs, List.append_nil] at mem
    exact ⟨e, List.mem_cons_self, holds_of_cut (named e List.mem_cons_self) first mem⟩
  | cons f rest ih =>
    obtain ⟨named, others⟩ := List.forall_mem_cons.mp named
    obtain ⟨us, vs, rfl, first, comma⟩ :=
      cut.split (shuts_row (others f List.mem_cons_self) rest) orderly
    obtain ⟨ws, rfl, blank⟩ := comma.sign_inv (by decide) (by decide)
    rw [pairs_append_sign (by decide)] at mem
    rcases List.mem_append.mp mem with mem | mem
    · exact ⟨e, List.mem_cons_self, holds_of_cut named first mem⟩
    · have orderly := (List.isChain_append.mp orderly).2.1
      obtain ⟨g, mem, holds⟩ :=
        ih others (blank.space_inv (by decide)) (List.isChain_cons.mp orderly).2 mem
      exact ⟨g, List.mem_cons_of_mem _ mem, holds⟩

/-! ## Reading a row -/

/-- A slot is read as a member, and then the others if a comma follows. -/
theorem members_opened (named : e.IsNamed) {said : String} (spells : Spells e.value said)
    (left : List Char) (fuel room : Nat) :
    (∀ {end'}, skip left = '\x7d' :: end' →
      members (fuel + 2) room (e.opened ++ '"' :: left)
        = .ok ([(String.ofList e.name, .string said)], end')) ∧
    (∀ {more ms end'}, skip left = ',' :: more →
      members (fuel + 1) room (skip more) = .ok (ms, end') →
      members (fuel + 2) room (e.opened ++ '"' :: left)
        = .ok ((String.ofList e.name, .string said) :: ms, end')) := by
  have split : e.opened ++ '"' :: left = '"' ::
    (e.name ++ '"' :: ':' :: ' ' :: '"' :: (e.value ++ '"' :: left)) := by
    simp only [opened, List.cons_append, List.append_assoc]
  have name (text : List Char) :
    string (e.name ++ '"' :: text) = .ok (String.ofList e.name, text) :=
    string_ok_iff.mpr ⟨e.name, named.1.spells, rfl⟩
  have read : Json.value (fuel + 1) room ('"' :: (e.value ++ '"' :: left)) =
    .ok (.string said, left) := by
    have string : string (e.value ++ '"' :: left) = .ok (said, left) :=
      string_ok_iff.mpr ⟨e.value, spells, rfl⟩
    simp only [Json.value, string, Except.map]
  have colon : skip (':' :: ' ' :: '"' :: (e.value ++ '"' :: left)) = ':' :: ' ' :: '"' ::
    (e.value ++ '"' :: left) :=
    rfl
  have blank : skip (' ' :: '"' :: (e.value ++ '"' :: left)) = '"' :: (e.value ++ '"' :: left) :=
    rfl
  rw [split]
  constructor
  · intro end' brace
    rw [members]
    simp only [name, colon, blank, read, brace]
  · intro more ms end' comma others
    rw [members]
    simp only [name, colon, blank, read, comma, others, Except.map]

/-- A row begins with a quote, so there is nothing to skip. -/
theorem skip_row (e : Slot) (rest : List Slot) : skip (row e rest) = row e rest := by
  cases rest <;> rfl

/-- A row whose values may stand between quotes is read slot by slot. -/
theorem members_row {said : Slot → String} (named : ∀ f ∈ e :: rest, f.IsNamed)
    (spells : ∀ f ∈ e :: rest, Spells f.value (said f)) (room : Nat) {fuel : Nat}
    (enough : rest.length + 2 ≤ fuel) : members fuel room (row e rest)
      = .ok ((e :: rest).map fun f => (String.ofList f.name, .string (said f)), []) := by
  induction rest generalizing e fuel with
  | nil =>
    obtain ⟨fuel, rfl⟩ := Nat.exists_eq_add_of_le' enough
    exact (members_opened (named e List.mem_cons_self) (spells e List.mem_cons_self) ['\x7d'] fuel
      room).1 rfl
  | cons f rest ih =>
    obtain ⟨named, others⟩ := List.forall_mem_cons.mp named
    obtain ⟨spells, spell⟩ := List.forall_mem_cons.mp spells
    rw [List.length_cons] at enough
    obtain ⟨fuel, rfl⟩ := Nat.exists_eq_add_of_le' (show 2 ≤ fuel by omega)
    have read := ih others spell (show rest.length + 2 ≤ fuel + 1 by omega)
    have blank : skip (' ' :: row f rest) = row f rest := skip_row f rest
    rw [← blank] at read
    exact (members_opened named spells (',' :: ' ' :: row f rest) fuel room).2 rfl read

/-- A row is longer than it has slots, so its length is fuel enough. -/
theorem length_row (e : Slot) (rest : List Slot) : rest.length < (row e rest).length := by
  induction rest generalizing e with
  | nil => simp only [row, opened, List.length_nil, List.length_append, List.length_cons]; omega
  | cons f rest ih =>
    have := ih f
    simp only [row, opened, List.length_append, List.length_cons]
    omega

/-- A row whose values may stand between quotes has no control characters. -/
theorem row_no_control (named : ∀ f ∈ e :: rest, f.IsNamed)
    (inside : ∀ f ∈ e :: rest, Inside f.value) :
    ∀ c ∈ row e rest, 0x20 ≤ c.toNat := by
  have opened (f : Slot) (named : f.IsNamed) (inside : Inside f.value) :
    ∀ c ∈ f.opened, 0x20 ≤ c.toNat := by
    simp only [Slot.opened, List.cons_append, List.forall_mem_cons, List.forall_mem_append]
    exact ⟨by decide, named.1.inside.no_control, by decide, by decide, by decide, by
      decide, inside.no_control⟩
  induction rest generalizing e with
  | nil =>
    have first := opened e (named e List.mem_cons_self) (inside e List.mem_cons_self)
    have closing : ∀ c ∈ ['"', '\x7d'], 0x20 ≤ c.toNat :=
      List.forall_mem_cons.mpr ⟨by decide, List.forall_mem_singleton.mpr (by decide)⟩
    exact List.forall_mem_append.mpr ⟨first, closing⟩
  | cons f rest ih =>
    obtain ⟨named, others⟩ := List.forall_mem_cons.mp named
    obtain ⟨inside, values⟩ := List.forall_mem_cons.mp inside
    simp only [row, List.forall_mem_append, List.forall_mem_cons]
    exact ⟨opened e named inside, by decide, by decide, by decide, ih others values⟩

/-- A row all of whose values are literals is read slot by slot. -/
theorem read_row {said : Slot → String} (named : ∀ f ∈ e :: rest, f.IsNamed)
    (spells : ∀ f ∈ e :: rest, Spells f.value (said f)) :
    read ('\x7b' :: row e rest)
      = .ok (.object
        (Assoc.ofPairs ((e :: rest).map fun f => (String.ofList f.name, .string (said f))))) := by
  have long := length_row e rest
  have members := members_row named spells (row e rest).length
    (show rest.length + 2 ≤ 2 * (row e rest).length + 3 by omega)
  have body := skip_row e rest
  obtain ⟨tail, quote⟩ : ∃ tail, row e rest = '"' :: tail := by cases rest <;> exact ⟨_, rfl⟩
  have fuel : 2 * ('\x7b' :: row e rest).length + 2 = 2 * (row e rest).length + 3 + 1 := by
    rw [List.length_cons]
    omega
  have start : skip ('\x7b' :: row e rest) = '\x7b' :: row e rest := rfl
  have value : Json.value (2 * (row e rest).length + 3 + 1) ((row e rest).length + 1)
      ('\x7b' :: row e rest) = .ok (.object
        (Assoc.ofPairs ((e :: rest).map fun f => (String.ofList f.name, .string (said f)))),
        []) := by
    rw [Json.value, body]
    -- A row begins with a quote, so the object is not taken for an empty one.
    rw [quote] at members ⊢
    show (Json.members _ _ ('"' :: tail)).map _ = _
    rw [members]
    rfl
  rw [Json.read, Json.readWithin, fuel, start, List.length_cons, value]
  rfl

/-! ## When a row is read as it was written -/

/-- If the names differ, each of them has the value of its slot. -/
theorem get?_row {said : Slot → String} {slots : List Slot} (distinct : (slots.map (·.name)).Nodup)
    (mem : e ∈ slots) :
    Assoc.get? (Assoc.ofPairs (slots.map fun f => (String.ofList f.name, Value.string (said f))))
      (String.ofList e.name) = some (.string (said e)) := by
  have keys : Assoc.keys (slots.map fun f => (String.ofList f.name, Value.string (said f))).reverse
      = ((slots.map (·.name)).map String.ofList).reverse := by
    simp only [Assoc.keys, List.map_reverse, List.map_map, Function.comp_def]
  have distinct : ((slots.map (·.name)).map String.ofList).reverse.Nodup :=
    List.nodup_reverse.mpr (distinct.map fun _ _ => String.ofList_injective)
  rw [Assoc.get?_ofPairs]
  exact Assoc.get?_of_mem (keys ▸ distinct) (List.mem_reverse.mpr (List.mem_map_of_mem mem))

/-- Of the slots with a property one has the longest value. -/
theorem exists_longest {p : Slot → Prop} {slots : List Slot} (some : ∃ f ∈ slots, p f) :
    ∃ f ∈ slots, p f ∧ ∀ g ∈ slots, p g → g.value.length ≤ f.value.length := by
  have finite : Set.Finite {f | f ∈ slots ∧ p f} :=
    (List.finite_toSet slots).subset fun f member => member.1
  obtain ⟨f, ⟨mem, holds⟩, longest⟩ := Set.exists_max_image _ (fun f => f.value.length) finite some
  exact ⟨f, mem, holds, fun g mem holds => longest g ⟨mem, holds⟩⟩

/-- A value that is found in what was read stands, as a string, in a slot. -/
theorem place_of_read {ms : List (String × Value)} {key s : String}
    (named : ∀ f ∈ e :: rest, f.IsNamed)
    (read : read ('\x7b' :: row e rest) = .ok (.object ms))
    (found : Assoc.get? ms key = some (.string s)) :
    ∃ f ∈ e :: rest, ∃ kit lit, Spells kit key ∧ Spells lit s ∧ f.Holds kit lit := by
  obtain ⟨ts, cut, orderly, tells⟩ := cut_of_read read
  obtain ⟨ts, rfl, members⟩ := cut.sign_inv (by decide) (by decide)
  obtain ⟨kit, lit, name, value, mem⟩ := tells key s (Assoc.mem_of_get? found)
  obtain ⟨f, mem, holds⟩ := holds_of_row named members (List.isChain_cons.mp orderly).2 mem
  exact ⟨f, mem, kit, lit, name, value, holds⟩

/-- A slot holds a string for the name of another one only if its own value may not stand between
quotes. -/
theorem eq_of_holds (named : ∀ f ∈ e :: rest, f.IsNamed)
    (distinct : ((e :: rest).map (·.name)).Nodup)
    {f g : Slot} (mem : f ∈ e :: rest) (mem' : g ∈ e :: rest)
    (name : Spells k (String.ofList f.name))
    (holds : g.Holds k s) : g = f ∧ s = f.value ∨ ¬Inside g.value ∧ s.length < g.value.length := by
  rcases holds with ⟨inside, rfl, rfl⟩ | broken
  · have same := (named g mem').1.spells.functional name
    have one := List.inj_on_of_nodup_map distinct mem' mem (String.ofList_injective same)
    exact .inl ⟨one, one ▸ rfl⟩
  · exact .inr broken

/-- Some values of a row are read as they were written exactly if these are plain, where the others
may stand between quotes. -/
theorem row_told_iff {told : List Slot} (named : ∀ f ∈ e :: rest, f.IsNamed)
    (distinct : ((e :: rest).map (·.name)).Nodup) (among : told ⊆ e :: rest)
    (others : ∀ f ∈ e :: rest, f ∈ told ∨ Inside f.value) :
    (∃ ms, read ('\x7b' :: row e rest) = .ok (.object ms) ∧ ∀ f ∈ told,
        Assoc.get? ms (String.ofList f.name) = some (.string (String.ofList f.value))) ↔
      ∀ f ∈ told, Plain f.value := by
  constructor
  · rintro ⟨ms, read, found⟩
    -- The longest value that may not stand between quotes would be read in a slot with a longer
    -- one.
    have inside : ∀ f ∈ e :: rest, Inside f.value := by
      by_contra broken
      push Not at broken
      obtain ⟨f, mem, broken, longest⟩ := exists_longest broken
      have asked := (others f mem).resolve_right broken
      obtain ⟨g, mem', kit, lit, name, value, holds⟩ := place_of_read named read (found f asked)
      rcases eq_of_holds named distinct mem mem' name holds with ⟨rfl, rfl⟩ | ⟨broken', shorter⟩
      · exact broken ⟨_, value⟩
      · have long := value.length_le
        rw [String.length_ofList] at long
        have := longest g mem' broken'
        omega
    intro f asked
    obtain ⟨g, mem', kit, lit, name, value, holds⟩ := place_of_read named read (found f asked)
    rcases eq_of_holds named distinct (among asked) mem' name holds with ⟨rfl, rfl⟩ | ⟨broken, -⟩
    · exact value.plain_of_length (String.length_ofList ▸ Nat.le_refl _)
    · exact absurd (inside g mem') broken
  · intro plain
    have inside : ∀ f : Slot, ∃ s, f ∈ e :: rest → Spells f.value s := by
      intro f
      by_cases mem : f ∈ e :: rest
      · obtain ⟨s, spells⟩ : Inside f.value :=
          (others f mem).elim (fun asked => (plain f asked).inside) id
        exact ⟨s, fun _ => spells⟩
      · exact ⟨"", fun mem' => absurd mem' mem⟩
    obtain ⟨said, spells⟩ := Classical.skolem.mp inside
    refine ⟨_, read_row named spells, fun f asked => ?_⟩
    rw [get?_row distinct (among asked), (plain f asked).spells.functional (spells f (among asked))]

end Slot

end Json

end Drill
