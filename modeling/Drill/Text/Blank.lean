/-!
# Blank characters

Two classes of characters that readers drop at the ends of a text: `isBlank`, the Unicode property
`White_Space`, and `isSpacing`, which adds the four information separators. Whole numbers are read
without the first, and those separators are no part of it.
-/

namespace Drill.Text

/-- Has the character the Unicode property `White_Space`? -/
def isBlank (c : Char) : Bool :=
  let n := c.toNat
  (0x09 ≤ n && n ≤ 0x0D) || n == 0x20 || n == 0x85 || n == 0xA0 || n == 0x1680 ||
    (0x2000 ≤ n && n ≤ 0x200A) || n == 0x2028 || n == 0x2029 || n == 0x202F || n == 0x205F ||
    n == 0x3000

/-- Is the character a blank or one of the information separators `U+001C` to `U+001F`? -/
def isSpacing (c : Char) : Bool := isBlank c || (0x1C ≤ c.toNat && c.toNat ≤ 0x1F)

/-- A text without the characters of a class at both ends. -/
def trimBy (drop : Char → Bool) (text : List Char) : List Char :=
  ((text.dropWhile drop).reverse.dropWhile drop).reverse

end Drill.Text
