import DiagramRepair.Markdown.Fence
import DiagramRepair.Verdict.Basic

/-! Diagrams inside markdown: repairing every diagram block of a document in its place, and
finding the diagram in a reply.
-/

namespace DiagramRepair.Markdown

/-- The verdict on a block and its position among the blocks. -/
structure BlockReport where
  index : Nat
  verdict : Verdict

namespace BlockReport

def isChanged (report : BlockReport) : Bool :=
  report.verdict.corrected?.isSome

/-- What a log records of the repairs in a block. -/
def log (report : BlockReport) : List Text :=
  report.verdict.log.map fun notice =>
    "block ".toList ++ Text.ofNat report.index ++ ": ".toList ++ notice

end BlockReport

/-- A segment after repair: the body of a valid block is replaced by its repaired text. -/
def Segment.repaired : Segment → Segment
  | .prose text => .prose text
  | .block opening body => .block opening ((validate none body).resolve body)

structure RepairedDocument where
  text : Text
  reports : List BlockReport

/-- What a log records of the repairs in a document. -/
def RepairedDocument.log (document : RepairedDocument) : List Text :=
  document.reports.flatMap BlockReport.log

/-- Repairs every diagram block of a document and nothing else. -/
def repairDocument (text : Text) : RepairedDocument :=
  let parts := segments isMermaidInfo text
  { text := parts.flatMap fun part => part.repaired.text
    reports :=
      (parts.filterMap Segment.body?).mapIdx fun index body => ⟨index, validate none body⟩ }

/-- The header declares a type, known or not supported. -/
def looksLikeDiagram (text : Text) : Bool :=
  (declaredType? (Text.lines text)).isSome

/-- The diagram in a reply: the first diagram block unless it is blank, else the first block
of any kind whose body looks like a diagram, else the whole reply if it looks like one. -/
def extractDiagram? (reply : Text) : Option Text :=
  let bodies (isWanted : Text → Bool) :=
    ((segments isWanted reply).filterMap Segment.body?).map Text.trim
  match (bodies isMermaidInfo).head?.filter fun body => !body.isEmpty with
  | some body => some body
  | none => (bodies isPlainInfo ++ [Text.trim reply]).find? looksLikeDiagram

end DiagramRepair.Markdown
