/-!
# Text from bytes

Decoders give a list of code points in which `none` stands for a stretch of bytes that is no
character: `Encoding.points`. Reading strictly (`strict?`) refuses such a stretch, reading for
display (`lossy`) shows it as `U+FFFD`. Half surrogates are let through by the strict readers and
then shown as `U+FFFD` as well, since a text has no place for them.
-/

namespace Drill.Text

/-- The character shown where there is none. -/
def replacement : Char := Char.ofNat 0xFFFD

/-- The character of a code point; half surrogates have none. -/
def charOf (point : Nat) : Char :=
  if point.isValidChar then Char.ofNat point else replacement

/-- A UTF-8 sequence that has begun: how many bytes are missing, the bits so far, and the range that
the next byte has to lie in. -/
structure Utf8State where
  missing : Nat
  bits : Nat
  low : Nat
  high : Nat

/-- The state after a leading byte, or the code point that the byte is, or none for a byte that
leads nothing. The second byte's range excludes overlong forms and, unless `halves`, half
surrogates. -/
def utf8Lead (halves : Bool) (b : Nat) : Option Nat ⊕ Utf8State :=
  if b < 0x80 then .inl (some b)
  else if 0xC2 ≤ b ∧ b ≤ 0xDF then .inr ⟨1, b % 32, 0x80, 0xBF⟩
  else if b = 0xE0 then .inr ⟨2, 0, 0xA0, 0xBF⟩
  else if b = 0xED then .inr ⟨2, 13, 0x80, if halves then 0xBF else 0x9F⟩
  else if 0xE1 ≤ b ∧ b ≤ 0xEF then .inr ⟨2, b % 16, 0x80, 0xBF⟩
  else if b = 0xF0 then .inr ⟨3, 0, 0x90, 0xBF⟩
  else if b = 0xF4 then .inr ⟨3, 4, 0x80, 0x8F⟩
  else if 0xF1 ≤ b ∧ b ≤ 0xF3 then .inr ⟨3, b % 8, 0x80, 0xBF⟩
  else .inl none

/-- UTF-8, each longest stretch that starts no character counting as one fault. -/
def utf8Points (halves : Bool) : Option Utf8State → List Nat → List (Option Nat)
  | none, [] => []
  | some _, [] => [none]
  | none, b :: rest =>
    match utf8Lead halves b with
    | .inl point => point :: utf8Points halves none rest
    | .inr state => utf8Points halves (some state) rest
  | some state, b :: rest =>
    if state.low ≤ b ∧ b ≤ state.high then
      let bits := state.bits * 64 + b % 64
      if state.missing ≤ 1 then some bits :: utf8Points halves none rest
      else utf8Points halves (some ⟨state.missing - 1, bits, 0x80, 0xBF⟩) rest
    else
      none :: match utf8Lead halves b with
        | .inl point => point :: utf8Points halves none rest
        | .inr next => utf8Points halves (some next) rest

/-- Pairs of bytes as 16-bit units; an odd byte at the end is a fault. -/
def units16 (bigEndian : Bool) : List Nat → List (Option Nat)
  | a :: b :: rest =>
    some (if bigEndian then a * 256 + b else b * 256 + a) :: units16 bigEndian rest
  | [_] => [none]
  | [] => []

/-- Joins a high and a low half surrogate that stand side by side. -/
def joinHalves : List (Option Nat) → List (Option Nat)
  | some a :: rest =>
    if 0xD800 ≤ a ∧ a ≤ 0xDBFF then
      match joinHalves rest with
      | some b :: rest' =>
        if 0xDC00 ≤ b ∧ b ≤ 0xDFFF then some (0x10000 + (a - 0xD800) * 1024 + (b - 0xDC00)) :: rest'
        else some a :: some b :: rest'
      | other => some a :: other
    else some a :: joinHalves rest
  | none :: rest => none :: joinHalves rest
  | [] => []

/-- Groups of four bytes as code points; a group above `U+10FFFF` or cut short is a fault. -/
def points32 (bigEndian : Bool) : List Nat → List (Option Nat)
  | a :: b :: c :: d :: rest =>
    let point := if bigEndian then ((a * 256 + b) * 256 + c) * 256 + d
      else ((d * 256 + c) * 256 + b) * 256 + a
    (if point < 0x110000 then some point else none) :: points32 bigEndian rest
  | [] => []
  | _ => [none]

/-- The code points of the bytes from 128 to 159 in the Western code page, zero for those that have
none. -/
def westernPoints : List Nat :=
  [0x20AC, 0, 0x201A, 0x0192, 0x201E, 0x2026, 0x2020, 0x2021, 0x02C6, 0x2030, 0x0160, 0x2039,
   0x0152, 0, 0x017D, 0, 0, 0x2018, 0x2019, 0x201C, 0x201D, 0x2022, 0x2013, 0x2014, 0x02DC, 0x2122,
   0x0161, 0x203A, 0x0153, 0, 0x017E, 0x0178]

/-- The code point of a byte in the Western code page. -/
def westernPoint? (b : Nat) : Option Nat :=
  if 0x80 ≤ b ∧ b < 0xA0 then westernPoints[b - 0x80]?.filter (0 < ·) else some b

/-- The encodings that bodies come in. -/
inductive Encoding where
  | utf8
  | utf16 (bigEndian : Bool)
  | utf32 (bigEndian : Bool)
  | latin1
  /-- The Western code page, which has letters where `latin1` has controls. -/
  | western
  | ascii
deriving DecidableEq

namespace Encoding

/-- The code points of a byte string, faults as `none`. -/
def points (halves : Bool) : Encoding → List Nat → List (Option Nat)
  | utf8, bytes => utf8Points halves none bytes
  | utf16 big, bytes => joinHalves (units16 big bytes)
  | utf32 big, bytes => points32 big bytes
  | latin1, bytes => bytes.map some
  | western, bytes => bytes.map westernPoint?
  | ascii, bytes => bytes.map fun b => if b < 0x80 then some b else none

/-- The characters of a byte string, if all of it is characters or half surrogates. -/
def strict? (encoding : Encoding) (bytes : List Nat) : Option (List Char) :=
  (encoding.points true bytes).mapM fun point => point.map charOf

/-- The characters of a byte string, with `U+FFFD` for each fault. -/
def lossy (encoding : Encoding) (bytes : List Nat) : List Char :=
  (encoding.points false bytes).map fun point => (point.map charOf).getD replacement

end Encoding

/-- The bytes of a text in UTF-8. -/
def utf8Bytes (s : String) : List Nat := s.toUTF8.toList.map UInt8.toNat

end Drill.Text
