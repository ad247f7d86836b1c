import DiagramRepair.Diagram.Count
import DiagramRepair.Verdict.Basic

/-! Editing sessions: numbered lines that are edited, repaired by single passes, and judged, in
any order.
-/

namespace DiagramRepair.Session

inductive Step where
  | append (text : Text)
  | delete (position : Int)
  | replace (position : Int) (text : Text)
  | attributes
  | edges
  | labels (er : Bool)
  | validate (expected : Option Text)
  | counts
  | kinds

/-- What a step answers. -/
inductive Answer where
  | lines (lines : List SourceLine)
  | pass (result : PassResult)
  | verdict (verdict : Verdict) (resolved : Text)
  | counts (counts : Counts)
  | kinds (kinds : List LineKind)

/-- Changes the line at a position from zero; a position without a line changes nothing. -/
def modifyAt (change : SourceLine → List SourceLine) (position : Int) (lines : List SourceLine)
    : List SourceLine :=
  (lines.mapIdx fun index line => if (index : Int) = position then change line else [line]).flatten

def joinedText (lines : List SourceLine) : Text :=
  Text.joinLines (SourceLine.texts lines)

/-- Goes on with the lines of a pass. -/
def afterPass (result : PassResult) : List SourceLine × Answer :=
  (result.lines, .pass result)

/-- Goes on with edited lines. -/
def afterEdit (lines : List SourceLine) : List SourceLine × Answer :=
  (lines, .lines lines)

/-- The lines after a step, and its answer. A line that is appended takes the number of lines
plus one, and the lines of a judged text are numbered anew. -/
def run (lines : List SourceLine) : Step → List SourceLine × Answer
  | .append text => afterEdit (lines ++ [⟨lines.length + 1, text⟩])
  | .delete position => afterEdit (modifyAt (fun _ => []) position lines)
  | .replace position text =>
      afterEdit (modifyAt (fun line => [⟨line.number, text⟩]) position lines)
  | .attributes => afterPass (attributePass lines)
  | .edges => afterPass (edgePass lines)
  | .labels er => afterPass (labelPass er lines)
  | .validate expected =>
      let verdict := DiagramRepair.validate expected (joinedText lines)
      let resolved := verdict.resolve (joinedText lines)
      (SourceLine.ofTexts (Text.lines resolved), .verdict verdict resolved)
  | .counts => (lines, .counts (countElements (joinedText lines)))
  | .kinds => (lines, .kinds ((classify (SourceLine.texts lines)).map Line.kind))

/-- The answers of steps taken one after another. -/
def runAll (lines : List SourceLine) : List Step → List Answer
  | [] => []
  | step :: steps =>
      let next := run lines step
      next.2 :: runAll next.1 steps

end DiagramRepair.Session
