import DiagramRepair.CommandLine.Options
import DiagramRepair.Verdict.Report

/-! The texts of reports, in words and in JSON.
-/

namespace DiagramRepair.CommandLine

/-- What became of a block of a document. -/
def blockStatus (report : Markdown.BlockReport) : Text :=
  match report.verdict.rejection? with
  | some reason => "INVALID: ".toList ++ reason.message
  | none => if report.isChanged then "FIXED".toList else "OK".toList

def blockNotice (report : Markdown.BlockReport) : Text :=
  "  block ".toList ++ Text.ofNat report.index ++ ": ".toList ++ blockStatus report

def invalidBlocks (repaired : Markdown.RepairedDocument) : List Markdown.BlockReport :=
  repaired.reports.filter fun report => !report.verdict.isValid

def documentNotice (repaired : Markdown.RepairedDocument) : Text :=
  Text.ofNat repaired.reports.length ++ " block(s), ".toList
    ++ Text.ofNat (invalidBlocks repaired).length ++ " invalid".toList

/-- The report in JSON on a document. -/
def documentJson (text : Text) (repaired : Markdown.RepairedDocument) : Json :=
  .object [
    ("blocks".toList, .array (repaired.reports.map Markdown.BlockReport.toJson)),
    ("changed".toList, .bool (repaired.text != text))
  ]

def countNotice : Counts → Text
  | .flowchart nodes edges _ =>
      Text.ofNat nodes ++ " nodes, ".toList ++ Text.ofNat edges ++ " edges".toList
  | .er entities relationships _ =>
      Text.ofNat entities ++ " entities, ".toList ++ Text.ofNat relationships
        ++ " relationships".toList

def rejectionNotice (reason : Rejection) : Text :=
  "INVALID: ".toList ++ reason.message

def hintNotice (hint : Text) : Text :=
  "  - ".toList ++ hint

def warningNotice (warning : Text) : Text :=
  "WARNING: ".toList ++ warning

/-- What is told about a diagram that is valid. -/
def acceptanceNotice (text : Text) (verdict : Verdict) : Text :=
  "VALID".toList
    ++ (if verdict.corrected?.isSome then " after repair".toList else [])
    ++ " (".toList ++ countNotice (countElements (verdict.resolve text)) ++ [')']

/-- What a report in JSON says of a diagram beyond the verdict itself. -/
def diagramDetails (text : Text) (verdict : Verdict) : List (Text × Json) :=
  match verdict.rejection? with
  | some reason => [reason.suggestions]
  | none => (countElements (verdict.resolve text)).fields

/-- The report in JSON on a diagram. -/
def diagramJson (text : Text) (verdict : Verdict) : Json :=
  .object (verdict.fields ++ diagramDetails text verdict)

def logNotice (notice : Text) : Text :=
  "[sanitize] ".toList ++ notice

def nothingNotice : Text :=
  "Error: no diagram found in input".toList

/-- What is told about a command line that is refused. -/
def refusalNotice (codeOf : Char → Nat) (reason : UsageError) : Text :=
  usage ++ programName ++ ": error: ".toList ++ reason.message codeOf ++ ['\n']

/-- The text with a line feed at its end. -/
def endLine (text : Text) : Text :=
  if text.getLast? = some '\n' then text else text ++ ['\n']

end DiagramRepair.CommandLine
