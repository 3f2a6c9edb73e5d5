import Drill.Proofs.Literals
import Mathlib.Data.List.TakeWhile

/-!
# Strings and signs of a JSON text

Which strings a reader can find in a text, whatever else the text holds. A text that is read is cut
into strings and single signs (`Cut`), of which a sign that closes something comes after each
string, and the string members of an object that is read are among the strings on both sides of a
colon (`pairs`).

Main statements: `cut_of_read`, which follows the reader and finds these tokens, and `Cut.split`, a
cut falls apart at a quote with which a string must end: where an open string would end later than
at this quote (`Shuts`), what follows it does not follow a string.
-/

namespace Drill.Json

/-! ## Cutting a text -/

/-- What a text is cut into. -/
inductive Token where
  /-- A string, as it stands between its quotes. -/
  | string (lit : List Char)
  | sign (c : Char)

/-- Blanks between tokens. -/
def IsSpace (c : Char) : Prop := c = ' ' ∨ c = '\t' ∨ c = '\n' ∨ c = '\r'

instance (c : Char) : Decidable (IsSpace c) := inferInstanceAs (Decidable (_ ∨ _))

/-- A text and its tokens, in order. -/
inductive Cut : List Char → List Token → Prop where
  | nil : Cut [] []
  | space {c : Char} {text : List Char} {ts : List Token} (space : IsSpace c) (rest : Cut text ts) :
      Cut (c :: text) ts
  | sign {c : Char} {text : List Char} {ts : List Token} (solid : ¬IsSpace c) (quote : c ≠ '"')
      (rest : Cut text ts) : Cut (c :: text) (.sign c :: ts)
  | string {lit text : List Char} {ts : List Token} (inside : Inside lit) (rest : Cut text ts) :
      Cut ('"' :: lit ++ '"' :: text) (.string lit :: ts)

/-- The tokens that are read before a text is left. -/
def Reads (text : List Char) (ts : List Token) (left : List Char) : Prop :=
  ∀ more, Cut left more → Cut text (ts ++ more)

variable {text left rest lit : List Char} {c : Char} {s : String} {ts us : List Token} {v : Value}
  {fuel room : Nat}

/-- A blank before a token is skipped. -/
theorem skip_cons_of_space (space : IsSpace c) : skip (c :: text) = skip text := by
  rcases space with rfl | rfl | rfl | rfl <;> rfl

/-- Nothing else is. -/
theorem skip_cons_of_solid (solid : ¬IsSpace c) : skip (c :: text) = c :: text := by
  simp only [IsSpace, not_or] at solid
  simp only [skip, List.dropWhile_cons, solid, decide_false, Bool.or_self,
    Bool.false_eq_true, if_false]

namespace Reads

theorem refl (text : List Char) : Reads text [] text := fun _ cut => cut

theorem trans (first : Reads text ts rest) (second : Reads rest us left) :
    Reads text (ts ++ us) left := by
  intro more cut
  rw [List.append_assoc]
  exact first _ (second more cut)

/-- Blanks before the first token make no difference. -/
theorem skip (reads : Reads (skip text) ts left) : Reads text ts left := by
  induction text with
  | nil => exact reads
  | cons c rest ih =>
    by_cases space : IsSpace c
    · rw [skip_cons_of_space space] at reads
      exact fun more cut => .space space (ih reads more cut)
    · rwa [skip_cons_of_solid space] at reads

/-- A single character that is neither blank nor a quote is a token. -/
theorem sign (solid : ¬IsSpace c) (quote : c ≠ '"') : Reads (c :: text) [.sign c] text :=
  fun _ cut => .sign solid quote cut

/-- A literal between quotes is one token. -/
theorem string (inside : Inside lit) : Reads ('"' :: lit ++ '"' :: text) [.string lit] text :=
  fun _ cut => .string inside cut

end Reads

/-! ## Numbers and words -/

/-- What stands between a text and what is left of it has no quotes. -/
def Passes (text left : List Char) : Prop := ∃ passed, text = passed ++ left ∧ '"' ∉ passed

namespace Passes

theorem refl (text : List Char) : Passes text text := ⟨[], rfl, List.not_mem_nil⟩

theorem trans (first : Passes text rest) (second : Passes rest left) : Passes text left := by
  obtain ⟨passed, rfl, bare⟩ := first
  obtain ⟨passed', rfl, bare'⟩ := second
  refine ⟨passed ++ passed', (List.append_assoc _ _ _).symm, ?_⟩
  simp only [List.mem_append, bare, bare', or_self, not_false_eq_true]

/-- A character is passed over unless it begins a literal. -/
theorem one (quote : c ≠ '"') : Passes (c :: text) text :=
  ⟨[c], rfl, fun mem => quote (List.mem_singleton.mp mem).symm⟩

theorem digits (text : List Char) : Passes text (text.dropWhile Char.isDigit) := by
  refine ⟨text.takeWhile Char.isDigit, List.takeWhile_append_dropWhile.symm, fun mem => ?_⟩
  exact absurd (List.mem_takeWhile_imp mem) (by decide)

/-- Nothing but signs is read from what has no quotes. -/
theorem reads (passes : Passes text left) :
    ∃ ts, Reads text ts left ∧ ∀ t ∈ ts, ∃ c, t = .sign c := by
  obtain ⟨passed, rfl, bare⟩ := passes
  induction passed with
  | nil => exact ⟨[], Reads.refl left, fun t mem => nomatch mem⟩
  | cons c passed ih =>
    obtain ⟨quote, bare⟩ := List.ne_and_not_mem_of_not_mem_cons bare
    obtain ⟨ts, reads, signs⟩ := ih bare
    by_cases space : IsSpace c
    · exact ⟨ts, fun more cut => .space space (reads more cut), signs⟩
    · exact ⟨.sign c :: ts, fun more cut => .sign space quote.symm (reads more cut),
        List.forall_mem_cons.mpr ⟨⟨c, rfl⟩, signs⟩⟩

end Passes

/-- The fraction of a number begins no literal. -/
theorem fraction_passes (text : List Char) : Passes text (fraction text).2 := by
  unfold fraction
  split
  next rest =>
    dsimp only
    split
    next => exact .refl _
    next => exact (Passes.one (by decide)).trans (.digits rest)
  next => exact .refl _

/-- Nor does its exponent. -/
theorem exponent_passes {power : Int} (read : exponent? text = some (power, left)) :
    Passes text left := by
  unfold exponent? at read
  split at read
  next e rest =>
    split at read
    next letter =>
      have first : Passes (e :: rest) rest := by
        simp only [Bool.or_eq_true, decide_eq_true_eq] at letter
        rcases letter with rfl | rfl <;> exact .one (by decide)
      split at read
      next negative body signed =>
        have second : Passes rest body := by
          split at signed <;> cases signed
          · exact .one (by decide)
          · exact .one (by decide)
          · exact .refl _
        dsimp only at read
        split at read
        next => cases read
        next =>
          cases read
          exact first.trans (second.trans (.digits _))
    next => cases read
  next => cases read

/-- A number has no quotes, and is a number. -/
theorem number_passes (read : number text = .ok (v, left)) :
    Passes text left ∧ ((∃ n, v = .int n) ∨ ∃ x, v = .number x) := by
  unfold number at read
  split at read
  next negative body signed =>
    have first : Passes text body := by
      split at signed <;> cases signed
      · exact .one (by decide)
      · exact .refl _
    split at read
    next whole rest split =>
      have second : Passes body rest := by
        split at split <;> cases split
        · exact .one (by decide)
        · exact .digits _
      split at read
      next => cases read
      next =>
        split at read
        next places rest' fractional =>
          have third : Passes rest rest' := by
            have passes := fraction_passes rest
            rwa [fractional] at passes
          have past := first.trans (second.trans third)
          split at read
          next power left' exponent =>
            cases read
            exact ⟨past.trans (exponent_passes exponent), .inr ⟨_, rfl⟩⟩
          next =>
            split at read
            next =>
              split at read
              next =>
                cases read
                exact ⟨past, .inl ⟨_, rfl⟩⟩
              next => cases read
            next =>
              cases read
              exact ⟨past, .inr ⟨_, rfl⟩⟩

/-! ## The tokens of a value -/

/-- The signs that may come after a string. -/
def Closes (c : Char) : Prop := c = ',' ∨ c = ':' ∨ c = ']' ∨ c = '\x7d'

instance (c : Char) : Decidable (Closes c) := inferInstanceAs (Decidable (_ ∨ _))

/-- Which token may come right after which. -/
def Token.Follows : Token → Token → Prop
  | .string _, .sign c => Closes c
  | .string _, .string _ => False
  | .sign _, _ => True

/-- The strings on both sides of a colon. -/
def pairs : List Token → List (List Char × List Char)
  | .string k :: .sign ':' :: .string s :: rest => (k, s) :: pairs rest
  | _ :: rest => pairs rest
  | [] => []

/-- Strings are not joined across a sign other than the colon. -/
theorem pairs_append_sign (colon : c ≠ ':') (ts us : List Token) :
    pairs (ts ++ .sign c :: us) = pairs ts ++ pairs us := by
  fun_induction pairs ts with
  | case1 k s rest ih => simp only [List.cons_append, pairs, ih]
  | case2 t rest single ih =>
    rw [List.cons_append, pairs, ih]
    -- What is appended begins with a sign that is no colon, so it completes no pair.
    intro k s rest' string same
    cases rest with
    | nil => exact colon (Token.sign.inj (List.cons.inj same).1)
    | cons u rest =>
      cases rest with
      | nil => cases same
      | cons w rest =>
        cases same
        exact single k s rest string rfl
  | case3 => rfl

/-- Strings and signs follow each other as in a value. -/
abbrev Orderly (ts : List Token) : Prop := ts.IsChain Token.Follows

/-- Only two literals in a row are out of order, and a sign is none. -/
theorem orderly_sign (orderly : Orderly ts) : Orderly (.sign c :: ts) :=
  List.isChain_cons.mpr ⟨fun _ _ => trivial, orderly⟩

theorem orderly_signs (signs : ∀ t ∈ ts, ∃ c, t = .sign c) : Orderly ts := by
  induction ts with
  | nil => exact .nil
  | cons t rest ih =>
    obtain ⟨⟨c, rfl⟩, rest⟩ := List.forall_mem_cons.mp signs
    exact orderly_sign (ih rest)

/-- After a sign that closes something, a literal is in order again. -/
theorem orderly_append_sign (first : Orderly ts) (second : Orderly us)
    (closes : Closes c) : Orderly (ts ++ .sign c :: us) := by
  refine List.isChain_append.mpr ⟨first, orderly_sign second, fun t _ u mem => ?_⟩
  cases mem
  cases t with
  | string => exact closes
  | sign => trivial

/-- The strings in a value are among its tokens: the value itself, or the members of an object. -/
def Told : Value → List Token → Prop
  | .string s, ts => ∃ lit, Spells lit s ∧ ts = [.string lit]
  | .object members, ts => ∀ k s, (k, Value.string s) ∈ members →
      ∃ kit lit, Spells kit k ∧ Spells lit s ∧ (kit, lit) ∈ pairs ts
  | _, _ => True

/-- A value is taken from a text, with these tokens. -/
structure Takes (text : List Char) (v : Value) (ts : List Token) (left : List Char) : Prop where
  reads : Reads text ts left
  orderly : Orderly ts
  told : Told v ts

namespace Takes

/-- A value that stands after a blank. -/
theorem skip (takes : Takes (Json.skip text) v ts left) : Takes text v ts left :=
  ⟨takes.reads.skip, takes.orderly, takes.told⟩

/-- A value without quotes. -/
theorem of_passes (passes : Passes text left) (told : ∀ ts, Told v ts) :
    ∃ ts, Takes text v ts left := by
  obtain ⟨ts, reads, signs⟩ := passes.reads
  exact ⟨ts, reads, orderly_signs signs, told ts⟩

end Takes

/-- With so much fuel, whatever the reader takes it takes token by token. -/
structure TakesAll (fuel : Nat) : Prop where
  value : ∀ {room text v left}, value fuel room text = .ok (v, left) → ∃ ts, Takes text v ts left
  items : ∀ {room text vs left}, items fuel room text = .ok (vs, left) →
    ∃ ts, Takes text (.array vs) ts left
  members : ∀ {room text ms left}, members fuel room text = .ok (ms, left) →
    ∃ ts, Takes text (.object ms) ts left

namespace TakesAll

/-- Without fuel nothing is read. -/
theorem zero : TakesAll 0 where
  value read := by simp only [Json.value, reduceCtorEq] at read
  items read := by simp only [Json.items, reduceCtorEq] at read
  members read := by simp only [Json.members, reduceCtorEq] at read

/-- A value is read from tokens if everything inside it is. -/
theorem value_succ (all : TakesAll fuel)
    (read : Json.value (fuel + 1) room text = .ok (v, left)) : ∃ ts, Takes text v ts left := by
  -- One case for each first character that a value can have, in the order of the reader.
  unfold Json.value at read
  split at read
  next rest =>
    obtain ⟨⟨s, left⟩, read, same⟩ := map_eq_ok_iff.mp read
    cases same
    obtain ⟨lit, spells, rfl⟩ := string_ok_iff.mp read
    exact ⟨[.string lit], .string ⟨s, spells⟩, .singleton _, lit, spells, rfl⟩
  next rest =>
    have opening : Reads ('[' :: rest) [.sign '['] rest := .sign (by decide) (by decide)
    split at read
    next => cases read
    next =>
      split at read
      -- Nothing inside: the list closes at once.
      next left' close =>
        cases read
        have closing : Reads rest [.sign ']'] left := .skip (close ▸ .sign (by decide) (by decide))
        exact ⟨_, opening.trans closing, orderly_sign (.singleton _), trivial⟩
      -- Something inside: `all` speaks of it, with less fuel.
      next body _ =>
        obtain ⟨⟨vs, left⟩, read, same⟩ := map_eq_ok_iff.mp read
        cases same
        obtain ⟨ts, takes⟩ := all.items read
        exact ⟨_, opening.trans takes.reads.skip, orderly_sign takes.orderly, trivial⟩
  next rest =>
    have opening : Reads ('\x7b' :: rest) [.sign '\x7b'] rest := .sign (by decide) (by decide)
    split at read
    next => cases read
    next =>
      split at read
      next left' close =>
        cases read
        have closing : Reads rest [.sign '\x7d'] left :=
          .skip (close ▸ .sign (by decide) (by decide))
        exact ⟨_, opening.trans closing, orderly_sign (.singleton _), fun _ _ mem => nomatch mem⟩
      next body _ =>
        obtain ⟨⟨ms, left⟩, read, same⟩ := map_eq_ok_iff.mp read
        cases same
        obtain ⟨ts, takes⟩ := all.members read
        refine ⟨_, opening.trans takes.reads.skip, orderly_sign takes.orderly, fun k s mem => ?_⟩
        exact takes.told k s (Assoc.mem_of_mem_ofPairs mem)
  next rest =>
    cases read
    exact Takes.of_passes ⟨['n', 'u', 'l', 'l'], rfl, by decide⟩ fun _ => trivial
  next rest =>
    cases read
    exact Takes.of_passes ⟨['t', 'r', 'u', 'e'], rfl, by decide⟩ fun _ => trivial
  next rest =>
    cases read
    exact Takes.of_passes ⟨['f', 'a', 'l', 's', 'e'], rfl, by decide⟩ fun _ => trivial
  next rest =>
    cases read
    exact Takes.of_passes ⟨['N', 'a', 'N'], rfl, by decide⟩ fun _ => trivial
  next rest =>
    cases read
    exact Takes.of_passes ⟨['I', 'n', 'f', 'i', 'n', 'i', 't', 'y'], rfl, by decide⟩ fun _ =>
      trivial
  next rest =>
    cases read
    exact Takes.of_passes ⟨['-', 'I', 'n', 'f', 'i', 'n', 'i', 't', 'y'], rfl, by decide⟩ fun _ =>
      trivial
  -- What begins in no other way is a number.
  next =>
    obtain ⟨passes, ⟨n, rfl⟩ | ⟨x, rfl⟩⟩ := number_passes read
    · exact Takes.of_passes passes fun _ => trivial
    · exact Takes.of_passes passes fun _ => trivial

/-- So is a row of items. -/
theorem items_succ {vs : List Value} (all : TakesAll fuel)
    (read : Json.items (fuel + 1) room text = .ok (vs, left)) :
    ∃ ts, Takes text (.array vs) ts left := by
  unfold Json.items at read
  split at read
  next => cases read
  next v rest first =>
    obtain ⟨ts, takes⟩ := all.value first
    split at read
    next more comma =>
      obtain ⟨⟨vs, left⟩, read, same⟩ := map_eq_ok_iff.mp read
      cases same
      obtain ⟨us, others⟩ := all.items read
      have between : Reads rest [.sign ','] more := .skip (comma ▸ .sign (by decide) (by decide))
      exact ⟨_, takes.reads.trans (between.trans others.reads.skip),
        orderly_append_sign takes.orderly others.orderly (by decide), trivial⟩
    next left' close =>
      cases read
      have closing : Reads rest [.sign ']'] left := .skip (close ▸ .sign (by decide) (by decide))
      exact ⟨_, takes.reads.trans closing,
        orderly_append_sign takes.orderly .nil (by decide), trivial⟩
    next => cases read

/-- What is told of a member stays told when others come after it. -/
theorem told_members {name : String} {ms : List (String × Value)} (spells : Spells lit name)
    (told : Told v ts)
    (colon : c ≠ ':') (others : Told (.object ms) us) :
    Told (.object ((name, v) :: ms)) (.string lit :: .sign ':' :: ts ++ .sign c :: us) := by
  intro k s mem
  rw [pairs_append_sign colon]
  rcases List.mem_cons.mp mem with same | mem
  · cases same
    obtain ⟨lit', spells', rfl⟩ := told
    exact ⟨lit, lit', spells, spells', List.mem_append_left _ List.mem_cons_self⟩
  · obtain ⟨kit, lit', spells, spells', mem⟩ := others k s mem
    exact ⟨kit, lit', spells, spells', List.mem_append_right _ mem⟩

/-- So is a row of members, each of which begins with a literal. -/
theorem members_succ {ms : List (String × Value)} (all : TakesAll fuel)
    (read : Json.members (fuel + 1) room text = .ok (ms, left)) :
    ∃ ts, Takes text (.object ms) ts left := by
  unfold Json.members at read
  split at read
  next rest =>
    split at read
    next => cases read
    next name rest' key =>
      obtain ⟨lit, spells, rfl⟩ := string_ok_iff.mp key
      have naming : Reads ('"' :: lit ++ '"' :: rest') [.string lit] rest' := .string ⟨name, spells⟩
      split at read
      next body colon =>
        have parting : Reads rest' [.sign ':'] body := .skip (colon ▸ .sign (by decide) (by decide))
        split at read
        next => cases read
        next v rest first =>
          obtain ⟨ts, takes⟩ := all.value first
          have reads := naming.trans (parting.trans takes.reads.skip)
          have orderly : Orderly (.string lit :: .sign ':' :: ts) :=
            .cons_cons (show Closes ':' by decide) (orderly_sign takes.orderly)
          split at read
          next more comma =>
            obtain ⟨⟨ms, left⟩, read, same⟩ := map_eq_ok_iff.mp read
            cases same
            obtain ⟨us, others⟩ := all.members read
            have between : Reads rest [.sign ','] more :=
              .skip (comma ▸ .sign (by decide) (by decide))
            exact ⟨_, reads.trans (between.trans others.reads.skip),
              orderly_append_sign orderly others.orderly (by decide),
              told_members spells takes.told (by decide) others.told⟩
          next left' close =>
            cases read
            have closing : Reads rest [.sign '\x7d'] left :=
              .skip (close ▸ .sign (by decide) (by decide))
            exact ⟨_, reads.trans closing, orderly_append_sign orderly .nil (by decide),
              told_members spells takes.told (by decide) fun _ _ mem => nomatch mem⟩
          next => cases read
      next => cases read
  next => cases read

end TakesAll

/-- Whatever the reader takes for a value, the items of an array or the members of an object, it
takes token by token. -/
theorem takesAll (fuel : Nat) : TakesAll fuel := by
  induction fuel with
  | zero => exact .zero
  | succ fuel ih => exact ⟨ih.value_succ, ih.items_succ, ih.members_succ⟩

/-- A text that is read is cut into the tokens of its value. -/
theorem cut_of_read (read : read text = .ok v) : ∃ ts, Cut text ts ∧ Orderly ts ∧ Told v ts := by
  unfold Json.read Json.readWithin at read
  split at read
  next => cases read
  next v rest value =>
    split at read
    next blank =>
      cases read
      obtain ⟨ts, takes⟩ := (takesAll _).value value
      have ended : Reads rest [] [] := .skip (List.isEmpty_iff.mp blank ▸ .refl _)
      have cut := takes.skip.reads.trans ended [] .nil
      rw [List.append_nil, List.append_nil] at cut
      exact ⟨ts, cut, takes.orderly, takes.told⟩
    next => cases read

/-! ## Where strings end -/

/-- No string is open before this text: it would end at a quote after which the text goes on in a
way in which it does not go on after a string. -/
def Shuts (text : List Char) : Prop :=
  ∀ more left ts, text = more ++ '"' :: left →
    (('"' :: more).IsChain fun a b => b = '"' → a = '\\') →
    Cut left ts → ∃ c us, ts = .sign c :: us ∧ ¬Closes c

/-- A text is cut in one way only: a sign at its start is the first token. -/
theorem Cut.sign_inv (cut : Cut (c :: text) ts) (solid : ¬IsSpace c) (quote : c ≠ '"') :
    ∃ us, ts = .sign c :: us ∧ Cut text us := by
  cases cut with
  | space space => exact absurd space solid
  | sign _ _ rest => exact ⟨_, rfl, rest⟩
  | string => exact absurd rfl quote

/-- A blank at its start belongs to no token. -/
theorem Cut.space_inv (cut : Cut (c :: text) ts) (space : IsSpace c) : Cut text ts := by
  cases cut with
  | space _ rest => exact rest
  | sign solid => exact absurd space solid
  | string => exact absurd space (by decide)

/-- A comma, a blank and a quote before a character that does not come after a string. -/
theorem shuts_comma (solid : ¬IsSpace c) (quote : c ≠ '"') (closes : ¬Closes c) :
    Shuts (',' :: ' ' :: '"' :: c :: text) := by
  intro more left ts split quotes cut
  match more, split, quotes with
  | [], split, _ => cases split
  | [_], split, _ => cases split
  | [_, _], split, _ =>
    cases split
    obtain ⟨us, rfl, -⟩ := cut.sign_inv solid quote
    exact ⟨c, us, rfl, closes⟩
  | a :: b :: d :: more, split, quotes =>
    simp only [List.cons_append, List.cons.injEq] at split
    obtain ⟨rfl, rfl, rfl, -⟩ := split
    have quotes := (List.isChain_cons_cons.mp quotes).2
    have quotes := (List.isChain_cons_cons.mp quotes).2
    cases (List.isChain_cons_cons.mp quotes).1 rfl

theorem shuts_brace : Shuts ['\x7d'] := by
  intro more left ts split quotes cut
  match more, split with
  | [], split => cases split
  | [_], split => cases split
  | _ :: _ :: _, split => cases split

/-- A string that is open before such a text would go on in it. -/
theorem Shuts.not_open {before after more : List Char} (shuts : Shuts after) (inside : Inside lit)
    (split : '"' :: lit = before ++ '"' :: more) (goes : after = more ++ '"' :: left)
    (cut : Cut left ts)
    (orderly : Orderly (.string lit :: ts)) : False := by
  obtain ⟨s, points, literal, -⟩ := inside
  have quotes := literal.quotes '"'
  rw [split] at quotes
  obtain ⟨c, us, rfl, closes⟩ := shuts more left ts goes (List.isChain_append.mp quotes).2.1 cut
  exact closes (List.isChain_cons_cons.mp orderly).1

/-- A text is cut at a quote with which a string must end. -/
theorem Cut.split {before after : List Char} (shuts : Shuts after)
    (cut : Cut (before ++ '"' :: after) ts)
    (orderly : Orderly ts) : ∃ us vs, ts = us ++ vs ∧ Cut (before ++ ['"']) us ∧ Cut after vs := by
  generalize whole : before ++ '"' :: after = text at cut
  induction cut generalizing before with
  | nil => simp at whole
  | space space rest ih =>
    rcases List.append_eq_cons_iff.mp whole with ⟨_, same⟩ | ⟨before', rfl, goes⟩
    · cases same
      exact absurd space (by decide)
    · obtain ⟨us, vs, rfl, first, second⟩ := ih orderly goes.symm
      exact ⟨us, vs, rfl, .space space first, second⟩
  | sign solid quote rest ih =>
    rcases List.append_eq_cons_iff.mp whole with ⟨_, same⟩ | ⟨before', rfl, goes⟩
    · cases same
      exact absurd rfl quote
    · obtain ⟨us, vs, rfl, first, second⟩ := ih (List.isChain_cons.mp orderly).2 goes.symm
      exact ⟨.sign _ :: us, vs, rfl, .sign solid quote first, second⟩
  | @string lit text ts inside rest ih =>
    -- The quote lies in the string, which it cannot, or ends it, or lies behind it.
    rcases List.append_eq_append_iff.mp whole with ⟨more, split, goes⟩ | ⟨more, split, goes⟩
    · rcases List.cons_eq_append_iff.mp goes with ⟨rfl, same⟩ | ⟨more, rfl, behind⟩
      · cases same
        rw [List.append_nil] at split
        exact ⟨[.string lit], ts, rfl, split ▸ .string inside .nil, rest⟩
      · exact (shuts.not_open inside split behind rest orderly).elim
    · rcases List.cons_eq_append_iff.mp goes with ⟨rfl, same⟩ | ⟨more, rfl, behind⟩
      · cases same
        rw [List.append_nil] at split
        exact ⟨[.string lit], ts, rfl, split ▸ .string inside .nil, rest⟩
      · obtain ⟨us, vs, rfl, first, second⟩ := ih (List.isChain_cons.mp orderly).2 behind.symm
        refine ⟨.string lit :: us, vs, rfl, ?_, second⟩
        rw [split, List.append_assoc]
        exact .string inside first

end Drill.Json
