import Drill.Text.Encoding
import Drill.Text.Hex

/-!
# Percent signs

A character that has no place in an address is written as the percent signs of its bytes (`encode`);
percent signs that are there already are kept, if the percent sign counts as safe.
-/

namespace Drill.Http.Percent

/-- The bytes of a character as percent signs. -/
def signs (c : Char) : List Char :=
  (Text.utf8Bytes (String.singleton c)).flatMap fun b => '%' :: (Text.hex 2 b).map Char.toUpper

/-- A text with percent signs for the characters that are not safe. -/
def encode (safe : Char → Bool) (text : List Char) : List Char :=
  text.flatMap fun c => if safe c then [c] else signs c

/-- The bytes of an ASCII text, percent signs read as the bytes they stand for. -/
def bytes : List Char → List Nat
  | [] => []
  | '%' :: a :: b :: rest =>
    match Text.hexValue? a, Text.hexValue? b with
    | some high, some low => (16 * high + low) :: bytes rest
    | _, _ => 37 :: bytes (a :: b :: rest)
  | c :: rest => c.toNat :: bytes rest

/-- A text without its percent signs; what is no text after that is shown as `U+FFFD`. -/
def decode (text : List Char) : List Char := Text.Encoding.utf8.lossy (bytes text)

/-- Is the character a visible ASCII character other than the given ones? -/
def isVisibleBut (others : List Char) (c : Char) : Bool :=
  0x20 < c.toNat && c.toNat < 0x7F && !others.contains c

end Drill.Http.Percent
