import DiagramRepair.Text.Word
import DiagramRepair.Text.UpperTable

/-! Lower and upper case.
-/

namespace DiagramRepair.Text

/-- Lower case of one character, wherever it holds an ASCII letter: the capitals, the Kelvin
sign, and the dotted capital I, which becomes i with a dot above. All else stays. -/
def lowerChar (c : Char) : Text :=
  if 'A' ≤ c && c ≤ 'Z' then [Char.ofNat (c.toNat + 32)]
  else if c = '\u212a' then ['k']
  else if c = '\u0130' then ['i', '\u0307']
  else [c]

/-- Lower case for comparison with words in ASCII. -/
def lower (text : Text) : Text :=
  text.flatMap lowerChar

/-- Upper case of one character, which may be several characters. -/
def upperChar (c : Char) : Text :=
  let code := c.toNat
  if code < 128 then
    if 'a' ≤ c && c ≤ 'z' then [Char.ofNat (code - 32)] else [c]
  else
    match upperExpansions.lookup code with
    | some codes => codes.map Char.ofNat
    | none =>
        match upperRuns.find? fun run =>
            run.first ≤ code && code ≤ run.last && (code - run.first) % run.step == 0 with
        | some run => [Char.ofNat (code + run.offset).toNat]
        | none => [c]

def upper (text : Text) : Text :=
  text.flatMap upperChar

end DiagramRepair.Text
