import DiagramRepair.Diagram.Declaration
import DiagramRepair.Diagram.Relationship

/-! The kind of every line of a diagram. Lines are read in order with one bit of state, whether
an entity block is open, and only ER diagrams open one.
-/

namespace DiagramRepair

inductive LineKind where
  | declaration
  | comment
  | blank
  | entityStart
  | entityEnd
  | attribute
  | relationship
  | content
  deriving DecidableEq

/-- The name of a kind in reports. -/
def LineKind.name : LineKind → Text
  | .declaration => "type_declaration".toList
  | .comment => "comment".toList
  | .blank => "blank".toList
  | .entityStart => "entity_block_start".toList
  | .entityEnd => "entity_block_end".toList
  | .attribute => "attribute".toList
  | .relationship => "relationship".toList
  | .content => "content".toList

/-- A name, an alias in square brackets if there is one, and an opening brace. -/
def isEntityStart (line : Text) : Bool :=
  let (name, rest) := line.span Text.isNameChar
  !name.isEmpty
  && match rest.dropWhile Text.isBlank with
    | '[' :: title =>
        match Text.cutAt? ']' title with
        | some (_, rest) => rest.dropWhile Text.isBlank == ['{']
        | none => false
    | rest => rest == ['{']

/-- The name that an entity block starts with. -/
def entityName (line : Text) : Text :=
  (Text.trim line).takeWhile Text.isNameChar

/-- The kind of one line, in an ER diagram or not, inside an entity block or not. -/
def LineKind.ofLine (er inBlock : Bool) (text : Text) : LineKind :=
  let line := Text.trim text
  if !inBlock && (Declaration.ofLine? line).isSome then .declaration
  else if isComment line then .comment
  else if line.isEmpty then .blank
  else if er && !inBlock && isEntityStart line then .entityStart
  else if er && inBlock && line == ['}'] then .entityEnd
  else if er && !inBlock && (relationship? line).isSome then .relationship
  else if inBlock then .attribute
  else .content

/-- Whether a block is open after a line of this kind. -/
def LineKind.inBlockAfter (inBlock : Bool) : LineKind → Bool
  | .entityStart => true
  | .entityEnd => false
  | _ => inBlock

/-- A line with its position from zero, its text as written, and its kind. -/
structure Line where
  index : Nat
  text : Text
  kind : LineKind

namespace Line

/-- The line number shown to users. -/
def number (line : Line) : Nat :=
  line.index + 1

def indent (line : Line) : Text :=
  Text.indent line.text

def trimmed (line : Line) : Text :=
  Text.trim line.text

end Line

/-- Classifies lines from a position on. -/
def classifyFrom (er inBlock : Bool) (index : Nat) : List Text → List Line
  | [] => []
  | text :: rest =>
      let kind := LineKind.ofLine er inBlock text
      { index, text, kind } :: classifyFrom er (kind.inBlockAfter inBlock) (index + 1) rest

def classify (lines : List Text) : List Line :=
  classifyFrom (isErDiagram lines) false 0 lines

end DiagramRepair
