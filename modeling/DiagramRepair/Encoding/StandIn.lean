import DiagramRepair.Encoding.Utf8
import DiagramRepair.Text.Literal

/-! Texts as they come from outside. They may hold halves of surrogate pairs that lack the other
half, which are no characters. Inside, a private character that the text does not hold stands in
for each half: no rule mentions either, and both are hidden characters that belong to no word. The
halves come back where a text leaves the program.
-/

namespace DiagramRepair.Encoding

/-- Half a surrogate pair. -/
structure Half where
  code : Nat
  least : 0xD800 ≤ code
  most : code < 0xE000
  deriving DecidableEq

namespace Half

/-- How many halves there are. -/
def count : Nat := 0x800

def ofCode? (code : Nat) : Option Half :=
  if h : 0xD800 ≤ code ∧ code < 0xE000 then some ⟨code, h.1, h.2⟩ else none

/-- The place of a half among all of them. -/
def index (half : Half) : Nat :=
  half.code - 0xD800

def ofIndex? (index : Nat) : Option Half :=
  ofCode? (0xD800 + index)

end Half

inductive CodePoint where
  | character (c : Char)
  | half (half : Half)
  deriving DecidableEq

namespace CodePoint

def isHalf : CodePoint → Bool
  | .character _ => false
  | .half _ => true

def character? : CodePoint → Option Char
  | .character c => some c
  | .half _ => none

/-- A code point of a text that is shown to a reader, where halves are escaped. -/
def shown : CodePoint → Text
  | .character c => [c]
  | .half part => ['\\', 'u'] ++ Text.hexDigits 4 part.code

end CodePoint

/-- A text from outside. -/
abbrev RawText := List CodePoint

/-- A text of characters alone. -/
def RawText.ofText (text : Text) : RawText :=
  text.map .character

/-- The bytes in UTF-8, which has none for halves. -/
def RawText.encodeUtf8? (raw : RawText) : Option Bytes :=
  (raw.mapM CodePoint.character?).map Encoding.encodeUtf8

/-- The least code of the private characters that may stand in for halves. -/
def firstPrivate : Nat := 0xF0000

/-- How many of them there are. -/
def privateCount : Nat := 0x20000

def isPrivate (c : Char) : Bool :=
  firstPrivate ≤ c.toNat

/-- Stands in for a half where no private character is left. -/
def replacement : Char :=
  '\ufffd'

/-- The characters that stand in for halves, in the order of the halves, if there are any. -/
structure StandIns where
  chars : List Char

namespace StandIns

def none : StandIns :=
  ⟨[]⟩

/-- The same character for every half. -/
def uniform : StandIns :=
  ⟨List.replicate Half.count replacement⟩

/-- Private characters that a text does not hold. A text that holds more than 129,000 different
ones may leave too few. -/
def avoiding (used : Text) : StandIns :=
  let taken := used.filter isPrivate
  -- So many that enough are left when the taken ones are left out.
  let candidates := List.range' firstPrivate (min (Half.count + taken.length) privateCount)
  ⟨((candidates.map Char.ofNat).filter fun c => !taken.contains c).take Half.count⟩

/-- Stand-ins for the halves of a text, if it holds any. -/
def ofRaw (raw : RawText) : StandIns :=
  if raw.any CodePoint.isHalf then avoiding (raw.filterMap CodePoint.character?) else none

def char? (standIns : StandIns) (half : Half) : Option Char :=
  standIns.chars[half.index]?

/-- The half that a character stands in for. -/
def half? (standIns : StandIns) (c : Char) : Option Half :=
  if isPrivate c then (standIns.chars.idxOf? c).bind Half.ofIndex? else .none

def codePoint (standIns : StandIns) (c : Char) : CodePoint :=
  match standIns.half? c with
  | some half => .half half
  | .none => .character c

/-- The text with its halves in place of their stand-ins. -/
def raw (standIns : StandIns) (text : Text) : RawText :=
  text.map standIns.codePoint

/-- The text with stand-ins in place of its halves. -/
def text (standIns : StandIns) (raw : RawText) : Text :=
  raw.map fun
    | .character c => c
    | .half half => (standIns.char? half).getD replacement

/-- The code of the code point that a character is or stands in for. -/
def codeOf (standIns : StandIns) (c : Char) : Nat :=
  match standIns.half? c with
  | some half => half.code
  | .none => c.toNat

/-- The text as it is shown to a reader. -/
def shown (standIns : StandIns) (text : Text) : Text :=
  (standIns.raw text).flatMap CodePoint.shown

end StandIns

end DiagramRepair.Encoding
