import DiagramRepair.Text.Blank
import DiagramRepair.Text.Word

/-! Relationship lines of ER diagrams: two entity names with a cardinality symbol between
them, a colon and a label. A line is cut without loss, so that its label can be replaced and
the rest of it kept.
-/

namespace DiagramRepair

/-- The end marks of cardinality symbols. -/
def isCardinalityMark (c : Char) : Bool :=
  c == '|' || c == '}' || c == '{' || c == 'o'

/-- One or two marks, two dashes or two dots, and one or two marks. -/
def isCardinality (symbol : Text) : Bool :=
  let front := symbol.takeWhile isCardinalityMark
  let isEnd (marks : Text) := marks.length == 1 || marks.length == 2
  match symbol.dropWhile isCardinalityMark with
  | '-' :: '-' :: back => isEnd front && isEnd back && back.all isCardinalityMark
  | '.' :: '.' :: back => isEnd front && isEnd back && back.all isCardinalityMark
  | _ => false

/-- A relationship line in its pieces, each gap being a run of blanks. -/
structure Relationship where
  indent : Text
  left : Text
  leftGap : Text
  symbol : Text
  rightGap : Text
  right : Text
  colonGap : Text
  labelGap : Text
  label : Text
  trailing : Text

namespace Relationship

/-- All that stands before the label. -/
def lead (relationship : Relationship) : Text :=
  relationship.indent ++ relationship.left ++ relationship.leftGap ++ relationship.symbol
    ++ relationship.rightGap ++ relationship.right ++ relationship.colonGap
    ++ ':' :: relationship.labelGap

def toText (relationship : Relationship) : Text :=
  relationship.lead ++ relationship.label ++ relationship.trailing

/-- Cuts a line into the pieces of a relationship. The label is all that follows the colon,
without the blanks around it, and holds no line feed. -/
def ofLine? (line : Text) : Option Relationship :=
  let (indent, rest) := line.span Text.isBlank
  let (left, rest) := rest.span Text.isNameChar
  let (leftGap, rest) := rest.span Text.isBlank
  let (symbol, rest) := rest.span Text.isNotBlank
  let (rightGap, rest) := rest.span Text.isBlank
  let (right, rest) := rest.span Text.isNameChar
  let (colonGap, rest) := rest.span Text.isBlank
  match rest with
  | ':' :: rest =>
      let (labelGap, rest) := rest.span Text.isBlank
      let label := Text.trimRight rest
      if left.isEmpty || leftGap.isEmpty || !isCardinality symbol || rightGap.isEmpty
          || right.isEmpty || label.contains '\n' then none
      else
        some {
          indent, left, leftGap, symbol, rightGap, right, colonGap, labelGap, label,
          trailing := rest.drop label.length
        }
  | _ => none

end Relationship

/-- The relationship that a line states, whatever blanks surround it. -/
def relationship? (line : Text) : Option Relationship :=
  Relationship.ofLine? (Text.trim line)

end DiagramRepair
