/-
# Blank space

The characters that Unicode counts as white space, and texts without such characters at their ends.
-/

import ChartQuery.Text.CharTable

namespace ChartQuery.Text

/-- The runs of white space. -/
def blankRuns : Array (Nat × Nat) := #[
  (9, 13), (32, 32), (0x85, 0x85), (0xA0, 0xA0), (0x1680, 0x1680), (0x2000, 0x200A),
  (0x2028, 0x2029), (0x202F, 0x202F), (0x205F, 0x205F), (0x3000, 0x3000)]

/-- The character is white space. -/
def isBlank (c : Char) : Bool :=
  inRuns blankRuns c

/-- What separates words on a page: white space, or one of the four separators among the control
characters. -/
def isGap (c : Char) : Bool :=
  isBlank c || decide (28 ≤ c.toNat ∧ c.toNat ≤ 31)

/-- The text without white space at its end. -/
def trimmedEnd (text : List Char) : List Char :=
  (text.reverse.dropWhile isBlank).reverse

/-- The text without white space at both ends. -/
def trimmed (text : List Char) : List Char :=
  trimmedEnd (text.dropWhile isBlank)

/-- Capital ASCII letters become small, all else stays. -/
def asciiLower (text : List Char) : List Char :=
  text.map Char.toLower

end ChartQuery.Text
