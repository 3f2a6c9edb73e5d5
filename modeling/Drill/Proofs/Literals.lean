import Drill.Json.Reader
import Mathlib.Data.List.Chain

/-!
# String literals

What may stand between the quotes of a JSON string. `Literal` is the grammar, with the code points
that a literal stands for; the reader takes exactly the literals up to the first quote that is not
escaped (`string_ok_iff`). A literal stands for no more characters than it has itself, and for as
many only if each of its characters stands for itself.

Main statements: `string_ok_iff`, what the reader makes of a string, `Plain.spells`, a text without
quotes, backslashes and control characters is a literal of itself, and `Spells.plain_of_length`, no
other literal is as long as the text that it stands for.
-/

namespace Drill

/-- What is made of an answer is one, if the answer is one. -/
theorem map_eq_ok_iff {ε α β : Type} {x : Except ε α} {f : α → β} {b : β} :
    x.map f = .ok b ↔ ∃ a, x = .ok a ∧ f a = b := by
  cases x with
  | error e => simp only [Except.map, reduceCtorEq, false_and, exists_false]
  | ok a => simp only [Except.map, Except.ok.injEq, exists_eq_left']

namespace Text

/-- A character is no half surrogate. -/
theorem not_half (c : Char) : ¬(0xD800 ≤ c.toNat ∧ c.toNat ≤ 0xDFFF) := by
  have valid := c.valid
  simp only [UInt32.isValidChar, Nat.isValidChar] at valid
  change ¬(0xD800 ≤ c.val.toNat ∧ c.val.toNat ≤ 0xDFFF)
  omega

/-- A character is the one of its own number. -/
theorem charOf_toNat (c : Char) : charOf c.toNat = c := by
  have valid : c.toNat.isValidChar := c.valid
  rw [charOf, if_pos valid, Char.ofNat_toNat]

/-- Joined halves are fewer than before, if anything. -/
theorem length_joinHalves_le (points : List (Option Nat)) :
    (joinHalves points).length ≤ points.length := by
  fun_induction joinHalves points with
  | case1 a rest high b rest' joined low ih =>
    rw [joined] at ih
    simp only [List.length_cons] at ih ⊢
    omega
  | case2 a rest high b rest' joined low ih =>
    rw [joined] at ih
    simpa only [List.length_cons, Nat.add_le_add_iff_right] using ih
  | case3 a rest high other ih => simpa only [List.length_cons, Nat.add_le_add_iff_right] using ih
  | case4 a rest high ih => simpa only [List.length_cons, Nat.add_le_add_iff_right] using ih
  | case5 rest ih => simpa only [List.length_cons, Nat.add_le_add_iff_right] using ih
  | case6 => exact Nat.le_refl _

/-- No character is half of another one. -/
theorem joinHalves_chars (text : List Char) :
    joinHalves (text.map fun c => some c.toNat) = text.map fun c => some c.toNat := by
  induction text with
  | nil => rfl
  | cons c rest ih =>
    have low : ¬(0xD800 ≤ c.toNat ∧ c.toNat ≤ 0xDBFF) := by
      have := not_half c
      omega
    rw [List.map_cons, joinHalves, if_neg low, ih]

end Text

namespace Json

/-! ## The grammar -/

/-- A character that stands for itself between quotes. -/
def IsPlain (c : Char) : Prop := 0x20 ≤ c.toNat ∧ c ≠ '"' ∧ c ≠ '\\'

instance (c : Char) : Decidable (IsPlain c) := inferInstanceAs (Decidable (_ ∧ _))

/-- A text of characters that stand for themselves. -/
def Plain (text : List Char) : Prop := ∀ c ∈ text, IsPlain c

instance (text : List Char) : Decidable (Plain text) := List.decidableBAll IsPlain text

/-- The code point of an escape of one letter. -/
def escaped? : Char → Option Nat
  | '"' => some 0x22
  | '\\' => some 0x5C
  | '/' => some 0x2F
  | 'b' => some 0x08
  | 'f' => some 0x0C
  | 'n' => some 0x0A
  | 'r' => some 0x0D
  | 't' => some 0x09
  | _ => none

/-- What may stand between quotes, with the code points that it stands for. -/
inductive Literal : List Char → List Nat → Prop where
  | nil : Literal [] []
  | plain {c : Char} {text : List Char} {points : List Nat} (plain : IsPlain c)
      (rest : Literal text points) :
      Literal (c :: text) (c.toNat :: points)
  | escape {e : Char} {point : Nat} {text : List Char} {points : List Nat}
      (known : escaped? e = some point)
      (rest : Literal text points) : Literal ('\\' :: e :: text) (point :: points)
  | unicode {a b c d : Char} {point : Nat} {text : List Char} {points : List Nat}
      (known : hex4? a b c d = some point) (rest : Literal text points) :
      Literal ('\\' :: 'u' :: a :: b :: c :: d :: text) (point :: points)

variable {lit lit' text left left' : List Char} {points : List Nat} {s s' : String}

/-- A plain character stands for itself. -/
theorem stringPoints_plain {c : Char} (plain : IsPlain c) (rest : List Char) :
    stringPoints (c :: rest) = (stringPoints rest).map fun (points, left) =>
    (c.toNat :: points, left) := by
  obtain ⟨high, quote, backslash⟩ := plain
  have low : ¬c.toNat < 0x20 := Nat.not_lt.mpr high
  rw [stringPoints]
  · simp only [low, backslash, decide_false, Bool.or_self, Bool.false_eq_true, if_false]
  · exact fun same => quote same
  · intro _ _ _ _ _ same
    exact absurd same backslash
  · intro _ _ same
    exact absurd same backslash

/-- A character after a backslash stands for the one that it escapes. -/
theorem stringPoints_escape {e : Char} {point : Nat} (known : escaped? e = some point)
    (rest : List Char) :
    stringPoints ('\\' :: e :: rest)
      = (stringPoints rest).map fun (points, left) => (point :: points, left) := by
  unfold escaped? at known
  split at known <;> cases known <;> simp only [stringPoints]

/-- A literal is read up to its closing quote. -/
theorem stringPoints_of_literal (literal : Literal lit points) :
    stringPoints (lit ++ '"' :: left) = .ok (points, left) := by
  induction literal with
  | nil => rfl
  | plain plain rest ih =>
    rw [List.cons_append, stringPoints_plain plain, ih]
    rfl
  | escape known rest ih =>
    rw [List.cons_append, List.cons_append, stringPoints_escape known, ih]
    rfl
  | unicode known rest ih =>
    simp only [List.cons_append, stringPoints, known, ih]
    rfl

/-- Nothing but a literal is read that way. -/
theorem literal_of_stringPoints (read : stringPoints text = .ok (points, left)) :
    ∃ lit, Literal lit points ∧ text = lit ++ '"' :: left := by
  fun_induction stringPoints text generalizing points with
  | case1 rest =>
    cases read
    exact ⟨[], .nil, rfl⟩
  | case2 a b c d rest point known ih =>
    obtain ⟨⟨more, left⟩, read, same⟩ := map_eq_ok_iff.mp read
    cases same
    obtain ⟨lit, literal, rfl⟩ := ih read
    exact ⟨_, .unicode known literal, rfl⟩
  | case4 e rest _ letter point known =>
    rename_i ih
    obtain ⟨⟨more, left⟩, read, same⟩ := map_eq_ok_iff.mp read
    cases same
    obtain ⟨lit, literal, rfl⟩ := ih read
    exact ⟨_, .escape known literal, rfl⟩
  | case7 c rest quote _ _ allowed ih =>
    obtain ⟨⟨more, left⟩, read, same⟩ := map_eq_ok_iff.mp read
    cases same
    obtain ⟨lit, literal, rfl⟩ := ih read
    simp only [Bool.or_eq_true, decide_eq_true_eq, not_or, Nat.not_lt] at allowed
    exact ⟨_, .plain ⟨allowed.1, quote, allowed.2⟩ literal, rfl⟩
  | case3 | case5 | case6 | case8 => cases read

/-! ## What a literal stands for -/

/-- The text of some code points. -/
def spelled (points : List Nat) : String :=
  String.ofList ((Text.joinHalves (points.map some)).map fun p =>
    (p.map Text.charOf).getD Text.replacement)

/-- Between quotes, the literal stands for the text. -/
def Spells (lit : List Char) (s : String) : Prop :=
  ∃ points, Literal lit points ∧ s = spelled points

/-- The text may stand between quotes. -/
def Inside (text : List Char) : Prop := ∃ s, Spells text s

/-- The reader takes a literal up to its closing quote, and nothing else. -/
theorem string_ok_iff : string text = .ok (s, left) ↔
    ∃ lit, Spells lit s ∧ text = lit ++ '"' :: left := by
  constructor
  · intro read
    obtain ⟨⟨points, left⟩, read, same⟩ := map_eq_ok_iff.mp read
    cases same
    obtain ⟨lit, literal, rfl⟩ := literal_of_stringPoints read
    exact ⟨lit, ⟨points, literal, rfl⟩, rfl⟩
  · rintro ⟨lit, ⟨points, literal, rfl⟩, rfl⟩
    exact map_eq_ok_iff.mpr ⟨_, stringPoints_of_literal literal, rfl⟩

/-- A quote ends one literal only. -/
theorem Spells.unique (spells : Spells lit s) (spells' : Spells lit' s')
    (same : lit ++ '"' :: left = lit' ++ '"' :: left') : lit = lit' ∧ s = s' ∧ left = left' := by
  have read : string (lit ++ '"' :: left) = .ok (s, left) := string_ok_iff.mpr ⟨lit, spells, rfl⟩
  have read' : string (lit' ++ '"' :: left') = .ok (s', left') :=
    string_ok_iff.mpr ⟨lit', spells', rfl⟩
  rw [same, read'] at read
  cases read
  exact ⟨List.append_cancel_right same, rfl, rfl⟩

/-- A literal stands for one text only. -/
theorem Spells.functional (spells : Spells lit s) (spells' : Spells lit s') : s = s' :=
  (spells.unique spells' (rfl : lit ++ ['"'] = lit ++ ['"'])).2.1

theorem spelled_chars (text : List Char) : spelled (text.map Char.toNat) = String.ofList text := by
  have points : (text.map Char.toNat).map some = text.map fun c => some c.toNat := List.map_map
  have chars : (fun p => (Option.map Text.charOf p).getD Text.replacement) ∘ (fun c : Char =>
    some c.toNat) = id :=
    funext Text.charOf_toNat
  rw [spelled, points, Text.joinHalves_chars, List.map_map, chars, List.map_id]

/-- A plain text is a literal that stands for itself. -/
theorem Plain.literal (plain : Plain text) : Literal text (text.map Char.toNat) := by
  induction text with
  | nil => exact .nil
  | cons c rest ih =>
    have rest := ih fun d mem => plain d (List.mem_cons_of_mem _ mem)
    exact .plain (plain c List.mem_cons_self) rest

/-- A plain text stands for itself. -/
theorem Plain.spells (plain : Plain text) : Spells text (String.ofList text) :=
  ⟨_, plain.literal, (spelled_chars text).symm⟩

theorem Plain.inside (plain : Plain text) : Inside text := ⟨_, plain.spells⟩

theorem Literal.append {points' : List Nat} (first : Literal lit points)
    (second : Literal lit' points') :
    Literal (lit ++ lit') (points ++ points') := by
  induction first with
  | nil => exact second
  | plain plain _ ih => exact .plain plain ih
  | escape known _ ih => exact .escape known ih
  | unicode known _ ih => exact .unicode known ih

theorem Inside.append (first : Inside text) (second : Inside lit) : Inside (text ++ lit) := by
  obtain ⟨_, points, first, rfl⟩ := first
  obtain ⟨_, points', second, rfl⟩ := second
  exact ⟨_, _, first.append second, rfl⟩

/-! ## Lengths -/

/-- A text has no more characters than the points that it was made of. -/
theorem length_spelled_le (points : List Nat) : (spelled points).length ≤ points.length := by
  have joined := Text.length_joinHalves_le (points.map some)
  simpa only [spelled, String.length_ofList, List.length_map] using joined

/-- A literal is at least as long as what it stands for, since an escape takes more than one
character. -/
theorem Literal.length_le (literal : Literal lit points) : points.length ≤ lit.length := by
  induction literal with
  | nil => exact Nat.le_refl _
  | plain | escape | unicode => simp only [List.length_cons]; omega

/-- Each escape takes more than one character for a code point. -/
theorem Literal.plain_of_length (literal : Literal lit points) (long : lit.length ≤ points.length) :
    Plain lit := by
  induction literal with
  | nil => exact fun c mem => nomatch mem
  | @plain c text points plain rest ih =>
    have rest := ih (by simpa only [List.length_cons, Nat.add_le_add_iff_right] using long)
    intro d mem
    rcases List.mem_cons.mp mem with rfl | mem
    · exact plain
    · exact rest d mem
  | escape known rest | unicode known rest =>
    have short := rest.length_le
    simp only [List.length_cons] at long
    omega

/-- So it is at least as long as the text that it spells. -/
theorem Spells.length_le (spells : Spells lit s) : s.length ≤ lit.length := by
  obtain ⟨points, literal, rfl⟩ := spells
  exact Nat.le_trans (length_spelled_le points) literal.length_le

/-- A literal that is no longer than what it stands for is plain. -/
theorem Spells.plain_of_length (spells : Spells lit s) (long : lit.length ≤ s.length) :
    Plain lit := by
  obtain ⟨points, literal, rfl⟩ := spells
  exact literal.plain_of_length (Nat.le_trans long (length_spelled_le points))

/-! ## Characters of a literal -/

/-- A hexadecimal digit needs no escape. -/
theorem isPlain_of_hexValue {c : Char} {n : Nat} (digit : Text.hexValue? c = some n) :
    IsPlain c := by
  have high : 0x30 ≤ c.toNat ∧ c.toNat ≠ 0x5C := by
    unfold Text.hexValue? at digit
    split at digit
    next decimal =>
      simp only [Char.isDigit, Bool.and_eq_true, decide_eq_true_eq] at decimal
      have low : 48 ≤ c.toNat := decimal.1
      have high : c.toNat ≤ 57 := decimal.2
      omega
    next =>
      split at digit
      next small =>
        have low : 97 ≤ c.toNat := small.1
        omega
      next =>
        split at digit
        next capital =>
          have low : 65 ≤ c.toNat := capital.1
          have high : c.toNat ≤ 70 := capital.2
          omega
        next => cases digit
  refine ⟨by omega, ?_, ?_⟩
  · rintro rfl
    exact absurd high.1 (by decide)
  · rintro rfl
    exact high.2 rfl

theorem isPlain_of_hex4 {a b c d : Char} {n : Nat} (known : hex4? a b c d = some n) :
    IsPlain a ∧ IsPlain b ∧ IsPlain c ∧ IsPlain d := by
  simp only [hex4?, bind, Option.bind_eq_some_iff] at known
  obtain ⟨_, first, _, second, _, third, _, fourth, _⟩ := known
  exact ⟨isPlain_of_hexValue first, isPlain_of_hexValue second, isPlain_of_hexValue third,
    isPlain_of_hexValue fourth⟩

/-- A literal has no control characters. -/
theorem Literal.no_control (literal : Literal lit points) : ∀ c ∈ lit, 0x20 ≤ c.toNat := by
  induction literal with
  | nil => exact fun c mem => nomatch mem
  | plain plain rest ih => exact List.forall_mem_cons.mpr ⟨plain.1, ih⟩
  | @escape e point text points known rest ih =>
    have letter : 0x20 ≤ e.toNat := by
      unfold escaped? at known
      split at known <;> first | decide | cases known
    exact List.forall_mem_cons.mpr ⟨by decide, List.forall_mem_cons.mpr ⟨letter, ih⟩⟩
  | unicode known rest ih =>
    obtain ⟨a, b, c, d⟩ := isPlain_of_hex4 known
    simp only [List.forall_mem_cons]
    exact ⟨by decide, by decide, a.1, b.1, c.1, d.1, ih⟩

/-- Control characters cannot stand between quotes. -/
theorem Inside.no_control (inside : Inside text) : ∀ c ∈ text, 0x20 ≤ c.toNat := by
  obtain ⟨_, points, literal, -⟩ := inside
  exact literal.no_control

/-- In a literal each quote comes right after a backslash, whatever stands before the literal. -/
theorem Literal.quotes (literal : Literal lit points) (before : Char) :
    (before :: lit).IsChain fun a b => b = '"' → a = '\\' := by
  induction literal generalizing before with
  | nil => exact .singleton _
  | plain plain rest ih => exact .cons_cons (fun quote => absurd quote plain.2.1) (ih _)
  | escape known rest ih =>
      exact .cons_cons (fun quote => by cases quote) (.cons_cons (fun _ => rfl) (ih _))
  | unicode known rest ih =>
    obtain ⟨a, b, c, d⟩ := isPlain_of_hex4 known
    refine .cons_cons (fun quote => by cases quote) (.cons_cons (fun quote => by cases quote) ?_)
    refine .cons_cons (fun quote => absurd quote a.2.1)
      (.cons_cons (fun quote => absurd quote b.2.1) ?_)
    exact .cons_cons (fun quote => absurd quote c.2.1)
      (.cons_cons (fun quote => absurd quote d.2.1) (ih _))

end Json

end Drill
