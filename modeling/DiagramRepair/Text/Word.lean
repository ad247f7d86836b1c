import DiagramRepair.Text.Digit
import DiagramRepair.Text.WordRanges

/-! The characters of words and of names.
-/

namespace DiagramRepair.Text

/-- Whether a code point lies in one of the closed ranges. -/
def liesIn (ranges : List (Nat × Nat)) (code : Nat) : Bool :=
  ranges.any fun range => range.1 ≤ code && code ≤ range.2

/-- Letters, characters with a numeric value, and the underscore. -/
def isWordChar (c : Char) : Bool :=
  if c.toNat < 128 then isAsciiLetter c || isAsciiDigit c || c == '_'
  else liesIn wordRanges c.toNat

/-- Names of entities may also hold hyphens. -/
def isNameChar (c : Char) : Bool :=
  isWordChar c || c == '-'

end DiagramRepair.Text
