import DiagramRepair.Diagram.Relationship
import DiagramRepair.Label.Scan

/-! Quoting the label of a relationship line.
-/

namespace DiagramRepair.Label

/-- Quotes the label of a relationship line and leaves every other line alone. -/
def quoteRelationship (line : Text) : QuotedLine :=
  match Relationship.ofLine? line with
  | none => ⟨line, []⟩
  | some relationship =>
      match quote? relationshipReserved relationship.label with
      | none => ⟨line, []⟩
      | some quoted =>
          ⟨relationship.lead ++ quoted ++ relationship.trailing, [relationship.label]⟩

end DiagramRepair.Label
