import DiagramRepair.Attribute.Field
import DiagramRepair.Edge.Dangling
import DiagramRepair.Label.Relationship
import DiagramRepair.Repair.Basic

/-! The three repair passes: one attribute per line, no edge without a target, and quotes
around labels that need them.
-/

namespace DiagramRepair

/-- What happened to an attribute line that is written as these attributes. A line that stays
one attribute can only have gained a type. -/
def Fix.ofFields : List Attribute.Field → Fix
  | [field] => .attributeTyped field.name
  | fields =>
      .attributesSplit fields.length
        ((fields.filter Attribute.Field.isDefaulted).map Attribute.Field.name)

/-- Writes the attributes of an attribute line one per line, with its indentation. -/
def attributeEdit? (line : Line) : Option Edit :=
  if line.kind = .attribute then
    (Attribute.replacement? line.text).map fun fields =>
      ⟨fields.map fun field => line.indent ++ field.render, [.ofFields fields]⟩
  else none

/-- Turns a content line that ends in a connector into a comment. -/
def edgeEdit? (line : Line) : Option Edit :=
  if line.kind = .content ∧ Edge.isDangling line.text then
    some ⟨[Edge.commentOut line.text], [.edgeRemoved line.trimmed]⟩
  else none

/-- The edit that writes a line with its labels quoted. -/
def Edit.ofQuoted (lead : Text) (quoted : Label.QuotedLine) : Edit :=
  ⟨[lead ++ quoted.text], quoted.changed.map fun label => .labelQuoted (Text.trim label)⟩

/-- Quotes labels: in ER diagrams those of relationships, in flowcharts those of content lines
and of the statements that follow the semicolon of a declaration. -/
def labelEdit? (er : Bool) (line : Line) : Option Edit :=
  match er, line.kind with
  | true, .relationship => some (.ofQuoted [] (Label.quoteRelationship line.text))
  | false, .content => some (.ofQuoted [] (Label.quoteLine Label.flowchartReserved line.text))
  | false, .declaration =>
      (Text.cutAt? ';' line.text).map fun sides =>
        .ofQuoted (sides.1 ++ [';']) (Label.quoteLine Label.flowchartReserved sides.2)
  | _, _ => none

def attributePass (lines : List SourceLine) : PassResult :=
  runPass attributeEdit? lines

def edgePass (lines : List SourceLine) : PassResult :=
  runPass edgeEdit? lines

def labelPass (er : Bool) (lines : List SourceLine) : PassResult :=
  runPass (labelEdit? er) lines

end DiagramRepair
