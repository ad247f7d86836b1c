import DiagramRepair.Text.AsciiTable
import DiagramRepair.Text.Word

/-! The ASCII parts of texts, for names that hold ASCII only. A letter loses its accents and other
marks, and a ligature or another form of ASCII characters becomes those characters.
-/

namespace DiagramRepair.Text

/-- The character that stands in a run for a code point, if the code point lies in the run. -/
def AsciiRun.part? (run : AsciiRun) (code : Nat) : Option Char :=
  if run.first ≤ code && code ≤ run.last then
    some (Char.ofNat (run.start.toNat + (code - run.first)))
  else none

/-- The part that a list holds for a code point, if the code point lies in the list. -/
def AsciiList.part? (list : AsciiList) (code : Nat) : Option Text :=
  if list.first ≤ code then (list.parts.toList.splitOn ' ')[code - list.first]? else none

/-- What is left of a character in ASCII. A single space stands for any number of them. -/
def asciiPart (c : Char) : Text :=
  let code := c.toNat
  if code < 0x80 then [c]
  else if liesIn spacedRanges code then [' ']
  else
    match asciiRuns.findSome? fun run => run.part? code with
    | some plain => [plain]
    | none => (asciiLists.findSome? fun list => list.part? code).getD []

end DiagramRepair.Text
