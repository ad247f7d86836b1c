import DiagramRepair.Diagram.Line
import DiagramRepair.Text.Integer

/-! Repairs, and passes that edit a diagram line by line. A pass classifies the lines it is
given and edits some of them; every line that it writes keeps the number of the line it was
made from.
-/

namespace DiagramRepair

/-- What a repair did to a line. -/
inductive Fix where
  | attributesSplit (count : Nat) (defaulted : List Text)
  | attributeTyped (name : Text)
  | edgeRemoved (line : Text)
  | labelQuoted (label : Text)

inductive FixKind where
  | attributeSplit
  | attributeTyped
  | incompleteEdge
  | labelQuoted
  deriving DecidableEq

/-- The name of a kind in reports. -/
def FixKind.name : FixKind → Text
  | .attributeSplit => "attribute_split".toList
  | .attributeTyped => "attribute_typed".toList
  | .incompleteEdge => "incomplete_edge".toList
  | .labelQuoted => "label_quoted".toList

/-- Quoting a label loses nothing, so users are not warned of it. -/
def FixKind.isUserFacing : FixKind → Bool
  | .labelQuoted => false
  | _ => true

namespace Fix

def kind : Fix → FixKind
  | .attributesSplit .. => .attributeSplit
  | .attributeTyped _ => .attributeTyped
  | .edgeRemoved _ => .incompleteEdge
  | .labelQuoted _ => .labelQuoted

def message : Fix → Text
  | .attributesSplit count [] =>
      "split attribute line into ".toList ++ Text.ofNat count ++ " attributes".toList
  | .attributesSplit count defaulted =>
      "split attribute line into ".toList ++ Text.ofNat count
        ++ " attributes (default type 'string' added for ".toList
        ++ Text.joinWith ", ".toList defaulted ++ [')']
  | .attributeTyped name =>
      "added default type 'string' to attribute '".toList ++ name ++ ['\x27']
  | .edgeRemoved line =>
      "incomplete edge removed (no target): '".toList ++ line ++ ['\x27']
  | .labelQuoted label => "quoted label '".toList ++ label ++ ['\x27']

end Fix

/-- A fix and the number of the line it was applied to. -/
structure Repair where
  line : Int
  fix : Fix

namespace Repair

def kind (repair : Repair) : FixKind :=
  repair.fix.kind

def message (repair : Repair) : Text :=
  repair.fix.message

/-- The repair in one sentence, as users and logs see it. -/
def notice (repair : Repair) : Text :=
  "Line ".toList ++ Text.ofInt repair.line ++ ": ".toList ++ repair.message

end Repair

/-- A line of text with the number of the input line it came from. -/
structure SourceLine where
  number : Int
  text : Text

namespace SourceLine

/-- Numbers lines from one. -/
def ofTexts (texts : List Text) : List SourceLine :=
  texts.mapIdx fun index text => ⟨index + 1, text⟩

def texts (lines : List SourceLine) : List Text :=
  lines.map SourceLine.text

end SourceLine

/-- The lines to write in place of one line, and the fixes made to it. -/
structure Edit where
  texts : List Text
  fixes : List Fix

structure PassResult where
  lines : List SourceLine
  repairs : List Repair

/-- The lines that come from one source line. -/
def SourceLine.apply (source : SourceLine) : Option Edit → List SourceLine
  | none => [source]
  | some edit => edit.texts.map fun text => ⟨source.number, text⟩

/-- The repairs made to one source line. -/
def SourceLine.repairs (source : SourceLine) : Option Edit → List Repair
  | none => []
  | some edit => edit.fixes.map fun fix => ⟨source.number, fix⟩

/-- Runs an edit over classified lines. -/
def runPass (edit? : Line → Option Edit) (lines : List SourceLine) : PassResult :=
  let edits := (classify (SourceLine.texts lines)).map edit?
  { lines := (lines.zipWith SourceLine.apply edits).flatten
    repairs := (lines.zipWith SourceLine.repairs edits).flatten }

end DiagramRepair
