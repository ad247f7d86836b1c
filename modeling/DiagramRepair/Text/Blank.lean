import DiagramRepair.Text.Basic

/-! Blank characters, and trimming them from the ends of a text.
-/

namespace DiagramRepair.Text

/-- The white space of Unicode. -/
def isWhiteSpace (c : Char) : Bool :=
  let code := c.toNat
  (0x09 ≤ code && code ≤ 0x0D)
  || code == 0x20
  || code == 0x85
  || code == 0xA0
  || code == 0x1680
  || (0x2000 ≤ code && code ≤ 0x200A)
  || code == 0x2028
  || code == 0x2029
  || code == 0x202F
  || code == 0x205F
  || code == 0x3000

/-- White space, and the four information separators U+001C to U+001F. -/
def isBlank (c : Char) : Bool :=
  isWhiteSpace c || (0x1C ≤ c.toNat && c.toNat ≤ 0x1F)

def isNotBlank (c : Char) : Bool :=
  !isBlank c

/-- The blanks a text starts with. -/
def indent (text : Text) : Text :=
  text.takeWhile isBlank

def trimLeft (text : Text) : Text :=
  text.dropWhile isBlank

def trimRight (text : Text) : Text :=
  (text.reverse.dropWhile isBlank).reverse

/-- The text without the blanks at its two ends. -/
def trim (text : Text) : Text :=
  trimRight (trimLeft text)

/-- Every character is blank; the empty text is blank. -/
def isAllBlank (text : Text) : Bool :=
  text.all isBlank

theorem indent_append_trimLeft (text : Text)
    : indent text ++ trimLeft text = text :=
  List.takeWhile_append_dropWhile

end DiagramRepair.Text
