import DiagramRepair.Diagram.Count
import DiagramRepair.Json.Printer
import DiagramRepair.Markdown.Document
import DiagramRepair.Verdict.Hint

/-! Verdicts, repairs and counts as JSON, with their fields in the order of reports.
-/

namespace DiagramRepair

def Repair.toJson (repair : Repair) : Json :=
  .object [
    ("line".toList, .int repair.line),
    ("kind".toList, .string repair.kind.name),
    ("message".toList, .string repair.message)
  ]

def Rejection.fields (reason : Rejection) : List (Text × Json) :=
  [
    ("error".toList, .string reason.message),
    ("error_kind".toList, .string reason.kind.name)
  ]

/-- The fields of a verdict; those for errors and for a corrected text are left out when there
is none. -/
def Verdict.fields (verdict : Verdict) : List (Text × Json) :=
  [
    ("valid".toList, .bool verdict.isValid),
    ("warnings".toList, Json.ofTexts verdict.warnings),
    ("diagram_type".toList, Json.ofOption (fun type => .string type.name) verdict.type?),
    ("repairs".toList, .array (verdict.repairs.map Repair.toJson))
  ]
    ++ (verdict.rejection?.map Rejection.fields).getD []
    ++ (verdict.corrected?.map fun text => ("corrected_text".toList, Json.string text)).toList

def Counts.fields : Counts → List (Text × Json)
  | .flowchart nodes edges subgraphs =>
      [
        ("node_count".toList, Json.ofNat nodes),
        ("edge_count".toList, Json.ofNat edges),
        ("subgraph_count".toList, Json.ofNat subgraphs)
      ]
  | .er entities relationships attributes =>
      [
        ("entity_count".toList, Json.ofNat entities),
        ("relationship_count".toList, Json.ofNat relationships),
        ("attribute_count".toList, Json.ofNat attributes)
      ]

/-- The hints for a rejected diagram as a field. -/
def Rejection.suggestions (reason : Rejection) : Text × Json :=
  ("suggestions".toList, Json.ofTexts reason.hints)

def Markdown.BlockReport.toJson (report : Markdown.BlockReport) : Json :=
  .object (report.verdict.fields ++ [("index".toList, Json.ofNat report.index)])

end DiagramRepair
