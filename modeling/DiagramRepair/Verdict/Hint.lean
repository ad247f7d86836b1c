import DiagramRepair.Verdict.Basic

/-! Hints shown beside an error: those for its kind, and those for words in its message.
-/

namespace DiagramRepair

def ErrorKind.hints : ErrorKind → List Text
  | .emptyInput => ["Paste or generate a diagram definition before saving".toList]
  | .unknownType =>
      [
        "Start the diagram with one of: ".toList ++ DiagramType.supportedNames,
        "Remove any prose or code fences before the diagram declaration".toList
      ]
  | .unsupportedType => ["Redraw the diagram as a flowchart or an erDiagram".toList]
  | .typeMismatch => ["Change the first line to the requested diagram type".toList]
  | .structural =>
      [
        "Verify all brackets and parentheses are properly matched".toList,
        "Wrap labels containing special characters in double quotes".toList
      ]

/-- Hints for a message and the kind of error, if it is known. A hint about brackets is not
given twice, and an error without any hint gets two general ones. -/
def hints (message : Text) (kind : Option ErrorKind) : List Text :=
  let lowered := Text.lower message
  let mentions (word : String) := Text.occursIn word.toList lowered
  let known := (kind.map ErrorKind.hints).getD []
  let arrows :=
    if mentions "expecting" && mentions "got" then
      [
        "Check for missing node IDs or incomplete syntax".toList,
        "Ensure all connections use proper arrow syntax (-->, -.->, etc.)".toList
      ]
    else []
  let brackets :=
    if mentions "bracket" || mentions "parenthes" || mentions "brace" then
      ErrorKind.structural.hints.filter fun hint => !known.contains hint
    else []
  let position :=
    if mentions "line" then
      [
        "Check the syntax on the specified line number".toList,
        "Look for incomplete node definitions or missing arrows".toList
      ]
    else []
  let parsing :=
    if mentions "parse" then
      [
        "Validate the diagram structure matches Mermaid syntax".toList,
        "Remove any unsupported characters or syntax".toList
      ]
    else []
  match known ++ arrows ++ brackets ++ position ++ parsing with
  | [] =>
      [
        "Review the Mermaid documentation for correct syntax".toList,
        "Try simplifying the diagram to isolate the issue".toList
      ]
  | found => found

/-- The hints for a rejected diagram. -/
def Rejection.hints (reason : Rejection) : List Text :=
  DiagramRepair.hints reason.message (some reason.kind)

end DiagramRepair
