/-!
# Texts between separators

`split` cuts a text at every separator (`str.split`).
-/

namespace Drill.Text

/-- Splits a text at every separator; a text without one is a single piece. -/
def split (separator : Char) : List Char → List (List Char)
  | [] => [[]]
  | c :: rest =>
    if c = separator then [] :: split separator rest
    else match split separator rest with
      | first :: more => (c :: first) :: more
      | [] => [[c]]

end Drill.Text
