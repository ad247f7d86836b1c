import DiagramRepair.Proofs.Diagram.Pattern
import DiagramRepair.Proofs.Label.Relationship

/-! What quoting makes of a line that states a relationship. The line is recognised with the blanks
around it, and quoted without a look at them, so both have to find the same label. Then the quoted
line states the same relationship, with the quoted label.
-/

namespace DiagramRepair.Label

open Text

/-- A relationship with its label as it is written after quoting. -/
def relabelled (r : Relationship) : Relationship :=
  { r with label := written relationshipReserved r.label }

theorem isFormed_relabelled {r : Relationship} (h : r.IsFormed) : (relabelled r).IsFormed := by
  rw [relabelled, written]
  cases hquote : quote? relationshipReserved r.label with
  | none => exact h
  | some quoted => exact isFormed_quoted h hquote

/-- Quoting writes the relationship that it finds with its label quoted. -/
theorem quoteRelationship_of_ofLine? {line : Text} {r : Relationship}
    (h : Relationship.ofLine? line = some r)
    : quoteRelationship line
      = ⟨(relabelled r).toText,
          [r.label].filter fun label => written relationshipReserved label ≠ label⟩ := by
  obtain ⟨htext, -⟩ := Relationship.ofLine?_spec h
  simp only [quoteRelationship, h, relabelled, ne_eq, written_eq_self_iff]
  cases hquote : quote? relationshipReserved r.label with
  | none => simp [hquote, written, htext]
  | some quoted => simp [hquote, written, Relationship.toText, Relationship.lead]

theorem quoteRelationship_of_ofLine?_eq_none {line : Text} (h : Relationship.ofLine? line = none)
    : quoteRelationship line = ⟨line, []⟩ := by
  simp only [quoteRelationship, h]

/-- The relationship of the quoted line is that of the line, with its label quoted. -/
theorem ofLine?_quoteRelationship (line : Text)
    : Relationship.ofLine? (quoteRelationship line).text
      = (Relationship.ofLine? line).map relabelled := by
  cases hr : Relationship.ofLine? line with
  | none => rw [quoteRelationship_of_ofLine?_eq_none hr, hr, Option.map_none]
  | some r =>
      obtain ⟨-, hformed⟩ := Relationship.ofLine?_spec hr
      rw [quoteRelationship_of_ofLine? hr, (isFormed_relabelled hformed).ofLine?_toText,
        Option.map_some]

/-- Blanks around a line change nothing about its label. -/
theorem label_relationship? (line : Text)
    : (relationship? line).map Relationship.label
      = (Relationship.ofLine? line).map Relationship.label := by
  have hparts := congrArg (Option.map fun parts => parts.2.2.2) (parts_relationship? line)
  rwa [Option.map_map, Option.map_map] at hparts

theorem stated_quoteRelationship (line : Text)
    : (relationship? (quoteRelationship line).text).map Relationship.parts
      = (relationship? line).map fun r =>
          (r.left, r.symbol, r.right, written relationshipReserved r.label) := by
  have hquoted : ∀ found : Option Relationship,
      (found.map fun r => (r.left, r.symbol, r.right, written relationshipReserved r.label))
        = (found.map Relationship.parts).map fun parts =>
            (parts.1, parts.2.1, parts.2.2.1, written relationshipReserved parts.2.2.2) := by
    intro found
    rw [Option.map_map]
    rfl
  rw [hquoted, parts_relationship?, parts_relationship?, ← hquoted, ofLine?_quoteRelationship,
    Option.map_map]
  rfl

theorem changed_quoteRelationship (line : Text)
    : (quoteRelationship line).changed
      = ((relationship? line).map Relationship.label).toList.filter fun label =>
          written relationshipReserved label ≠ label := by
  rw [label_relationship?]
  cases hr : Relationship.ofLine? line with
  | none => rw [quoteRelationship_of_ofLine?_eq_none hr, Option.map_none, Option.toList_none,
      List.filter_nil]
  | some r => rw [quoteRelationship_of_ofLine? hr, Option.map_some, Option.toList_some]

/-- The label of a relationship line is quoted, and nothing else of what the line states changes. -/
structure QuotesLabel (line : Text) : Prop where
  found (parts : Text × Text × Text × Text)
    : (relationship? line).map Relationship.parts = some parts
      ↔ ∃ r : Relationship, r.IsFound line ∧ r.parts = parts
  stated
    : (relationship? (quoteRelationship line).text).map Relationship.parts
      = (relationship? line).map fun r =>
          (r.left, r.symbol, r.right, written relationshipReserved r.label)
  changed
    : (quoteRelationship line).changed
      = ((relationship? line).map Relationship.label).toList.filter fun label =>
          written relationshipReserved label ≠ label
  fixed
    : quoteRelationship (quoteRelationship line).text = ⟨(quoteRelationship line).text, []⟩

/-- The recogniser of relationship lines finds what the pattern finds that their labels are quoted
by, the quoted line states the same relationship with the quoted label, the label is reported
exactly when it changed, and nothing is left to change. -/
theorem quotesLabel (line : Text) : QuotesLabel line where
  found := fun _ => relationship?_parts_eq_some_iff
  stated := stated_quoteRelationship line
  changed := changed_quoteRelationship line
  fixed := quoteRelationship_quoted line

end DiagramRepair.Label
