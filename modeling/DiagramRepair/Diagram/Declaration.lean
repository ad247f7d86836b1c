import DiagramRepair.Text.Blank
import DiagramRepair.Text.Case
import DiagramRepair.Text.Lines

/-! The type of a diagram and the line that declares it. The header of a diagram is its first
line that is neither blank nor a comment; the diagram has a type when the header declares one.
-/

namespace DiagramRepair

/-- The diagram types with a declaration keyword. Those other than the three supported ones
are recognised by name only. -/
inductive DiagramType where
  | flowchart
  | graph
  | erDiagram
  | disabled (name : Text)
  deriving DecidableEq

namespace DiagramType

def supported : List DiagramType :=
  [.flowchart, .graph, .erDiagram]

def disabledNames : List Text :=
  [
    "sequenceDiagram".toList, "classDiagram".toList, "classDiagram-v2".toList,
    "stateDiagram-v2".toList, "stateDiagram".toList, "gantt".toList, "pie".toList,
    "journey".toList, "gitGraph".toList, "mindmap".toList, "timeline".toList,
    "quadrantChart".toList, "requirementDiagram".toList, "sankey-beta".toList,
    "sankey".toList, "xychart-beta".toList, "xychart".toList, "block-beta".toList,
    "block".toList, "C4Context".toList, "C4Container".toList, "C4Component".toList,
    "C4Dynamic".toList, "C4Deployment".toList, "packet-beta".toList,
    "architecture-beta".toList, "kanban".toList, "zenuml".toList
  ]

/-- The declaration keyword in its own spelling. -/
def name : DiagramType → Text
  | .flowchart => "flowchart".toList
  | .graph => "graph".toList
  | .erDiagram => "erDiagram".toList
  | .disabled name => name

def isSupported : DiagramType → Bool
  | .disabled _ => false
  | _ => true

def all : List DiagramType :=
  supported ++ disabledNames.map .disabled

/-- The type whose keyword a word spells, in upper or lower case. -/
def ofWord? (word : Text) : Option DiagramType :=
  let lowered := Text.lower word
  all.find? fun type => Text.lower type.name == lowered

/-- The supported keywords in a sentence. -/
def supportedNames : Text :=
  Text.joinWith ", ".toList (supported.map name)

end DiagramType

/-- A declaration line: the declared type, and the statements that follow a semicolon. -/
structure Declaration where
  type : DiagramType
  body : Text

namespace Declaration

/-- Brackets, pipes and connector shafts belong to statements, not to a header. -/
def looksLikeStatement (words : Text) : Bool :=
  words.any (fun c => "[]()\x7b\x7d|>".toList.contains c)
  || Text.occursIn ['-', '-'] words
  || Text.occursIn ['=', '='] words
  || Text.occursIn ['-', '.'] words

/-- A line declares a type when its first word is a keyword and the other words before a
semicolon look like no statement. -/
def ofLine? (line : Text) : Option Declaration :=
  let line := Text.trim line
  let head := Text.trim (Text.before ';' line)
  match DiagramType.ofWord? (Text.before ' ' head) with
  | none => none
  | some type =>
      if looksLikeStatement (Text.behind ' ' head) then none
      else some ⟨type, Text.trim (Text.behind ';' line)⟩

end Declaration

def commentMarker : Text :=
  ['%', '%']

def isComment (line : Text) : Bool :=
  Text.startsWith commentMarker (Text.trim line)

/-- Neither blank nor a comment. -/
def isMeaningful (line : Text) : Bool :=
  !Text.isAllBlank line && !isComment line

/-- The first meaningful line. -/
def header? (lines : List Text) : Option Text :=
  lines.find? isMeaningful

def headerIndex? (lines : List Text) : Option Nat :=
  lines.findIdx? isMeaningful

/-- The type that the header declares. -/
def declaredType? (lines : List Text) : Option DiagramType :=
  ((header? lines).bind Declaration.ofLine?).map Declaration.type

def isErDiagram (lines : List Text) : Bool :=
  declaredType? lines == some .erDiagram

end DiagramRepair
