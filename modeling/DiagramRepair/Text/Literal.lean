import DiagramRepair.Text.Word
import DiagramRepair.Text.HiddenRanges

/-! Quoted literals, the form in which messages show a text that was refused: between single
quotes, or double ones when only single ones occur inside, with all hidden characters escaped.
-/

namespace DiagramRepair.Text

/-- The lowest `width` hexadecimal digits of a number, in lower case. -/
def hexDigits : (width : Nat) → Nat → Text
  | 0, _ => []
  | width + 1, n => hexDigits width (n / 16) ++ [Nat.digitChar (n % 16)]

def isHidden (c : Char) : Bool :=
  liesIn hiddenRanges c.toNat

/-- The quote that surrounds the literal of a text. -/
def literalQuote (text : Text) : Char :=
  if text.contains '\x27' && !text.contains '"' then '"' else '\x27'

/-- A hidden character by its code. -/
def escapeHidden (code : Nat) : Text :=
  if code < 0x100 then ['\\', 'x'] ++ hexDigits 2 code
  else if code < 0x10000 then ['\\', 'u'] ++ hexDigits 4 code
  else ['\\', 'U'] ++ hexDigits 8 code

def literalChar (codeOf : Char → Nat) (quote c : Char) : Text :=
  if c = quote || c = '\\' then ['\\', c]
  else if c = '\n' then ['\\', 'n']
  else if c = '\r' then ['\\', 'r']
  else if c = '\t' then ['\\', 't']
  else if isHidden c then escapeHidden (codeOf c)
  else [c]

/-- The literal of a text, in which hidden characters may have other codes than their own. -/
def literalBy (codeOf : Char → Nat) (text : Text) : Text :=
  let quote := literalQuote text
  quote :: text.flatMap (literalChar codeOf quote) ++ [quote]

/-- The literal of a text. -/
def literal (text : Text) : Text :=
  literalBy Char.toNat text

end DiagramRepair.Text
