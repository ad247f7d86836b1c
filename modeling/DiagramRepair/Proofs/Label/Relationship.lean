import DiagramRepair.Label.Relationship
import DiagramRepair.Proofs.Diagram.Relationship
import DiagramRepair.Proofs.Label.Pieces

/-! Quoting the label of a relationship line. The quoted line is a relationship with the quoted
label, so it is left alone when it is read again.
-/

namespace DiagramRepair.Label

open Text

-----------------------------------------------------------------------------------------
-- The label of a line
-----------------------------------------------------------------------------------------

theorem quote?_nil (reserved : List Char) : quote? reserved [] = none :=
  rfl

/-- A line is left alone, or its label is put in quotes. -/
theorem quoteRelationship_cases (line : Text)
    : quoteRelationship line = ⟨line, []⟩
      ∨ ∃ r quoted,
          Relationship.ofLine? line = some r
          ∧ quote? relationshipReserved r.label = some quoted
          ∧ quoteRelationship line
            = ⟨{ r with label := quoted : Relationship }.toText, [r.label]⟩ := by
  unfold quoteRelationship
  cases hr : Relationship.ofLine? line with
  | none => exact Or.inl rfl
  | some r =>
      cases hq : quote? relationshipReserved r.label with
      | none => exact Or.inl (by simp [hq])
      | some quoted => exact Or.inr ⟨r, quoted, rfl, hq, by simp only [hq]; rfl⟩

-----------------------------------------------------------------------------------------
-- The quoted line
-----------------------------------------------------------------------------------------

theorem not_mem_quoted {reserved : List Char} {content quoted : Text}
    (h : quote? reserved content = some quoted) {c : Char} (hc : c ∉ quoteMarks)
    (hn : c ∉ content)
    : c ∉ quoted := by
  have hrequoted := Requoted.written reserved content
  rw [written, h, Option.getD_some] at hrequoted
  exact fun hm => hn ((hrequoted.mem_iff hc).1 hm)

/-- A relationship with its label quoted is formed. -/
theorem isFormed_quoted {r : Relationship} (h : r.IsFormed) {quoted : Text}
    (hq : quote? relationshipReserved r.label = some quoted)
    : { r with label := quoted : Relationship }.IsFormed := by
  have hline : '\n' ∉ quoted := not_mem_quoted hq (by decide) h.isLine
  obtain ⟨rfl, -⟩ := quote?_eq_some hq
  refine { h with label_head := ?_, label_last := ?_, isLine := hline, trailing_eq_nil := ?_ }
  · intro c hc
    obtain rfl := Option.some.inj hc
    decide
  · intro c hc
    rw [List.getLast?_concat] at hc
    obtain rfl := Option.some.inj hc
    decide
  · intro hnil
    simp at hnil

theorem requoted_quoteRelationship (line : Text)
    : Requoted line (quoteRelationship line).text := by
  rcases quoteRelationship_cases line with hself | ⟨r, quoted, hr, hq, hquoted⟩
  · rw [hself]
    exact .refl line
  · obtain ⟨rfl, -⟩ := Relationship.ofLine?_spec hr
    have hlabel := Requoted.written relationshipReserved r.label
    rw [written, hq, Option.getD_some] at hlabel
    rw [hquoted]
    exact ((Requoted.refl r.lead).append hlabel).append (.refl r.trailing)

/-- A blank at the end of a text stands behind all that ends in another character. -/
theorem getLast?_append_solid {label : Text} (hl : label ≠ [])
    (hsolid : ∀ d, label.getLast? = some d → isBlank d = false) {c : Char} (hc : isBlank c = true)
    (front back : Text)
    : (front ++ label ++ back).getLast? = some c ↔ back.getLast? = some c := by
  have hlast := List.getLast?_eq_some_getLast hl
  have hne : label.getLast hl ≠ c := by
    intro he
    have hfalse := hsolid _ hlast
    rw [he, hc] at hfalse
    cases hfalse
  rw [List.getLast?_append, List.getLast?_append, hlast]
  cases back.getLast? with
  | none => simpa using hne
  | some d => simp

/-- A blank at the end of a line is at the end of the quoted line, too. -/
theorem getLast?_quoteRelationship {line : Text} {c : Char} (hc : isBlank c = true)
    : (quoteRelationship line).text.getLast? = some c ↔ line.getLast? = some c := by
  rcases quoteRelationship_cases line with hself | ⟨r, quoted, hr, hq, hquoted⟩
  · rw [hself]
  · obtain ⟨htext, hformed⟩ := Relationship.ofLine?_spec hr
    have hnew := isFormed_quoted hformed hq
    have hold : r.label ≠ [] := by
      intro hnil
      rw [hnil, quote?_nil] at hq
      cases hq
    have hne : quoted ≠ [] := by
      rw [(quote?_eq_some hq).1]
      simp
    rw [hquoted, ← htext, Relationship.toText, Relationship.toText,
      getLast?_append_solid hne hnew.label_last hc,
      getLast?_append_solid hold hformed.label_last hc]

/-- The quoted line is left alone when it is read again. -/
theorem quoteRelationship_quoted (line : Text)
    : quoteRelationship (quoteRelationship line).text = ⟨(quoteRelationship line).text, []⟩ := by
  rcases quoteRelationship_cases line with hself | ⟨r, quoted, hr, hq, hquoted⟩
  · rw [hself, hself]
  · obtain ⟨-, hformed⟩ := Relationship.ofLine?_spec hr
    have hnone : quote? relationshipReserved quoted = none := by
      rw [(quote?_eq_some hq).1]
      exact quote?_enclosed _ _
    rw [hquoted, quoteRelationship, (isFormed_quoted hformed hq).ofLine?_toText]
    simp only [hnone]

/-- A relationship stays one when its label is quoted. -/
theorem isSome_relationship?_quoted {line : Text} (h : (relationship? line).isSome = true)
    : (relationship? (quoteRelationship line).text).isSome = true := by
  rcases quoteRelationship_cases line with hself | ⟨r, quoted, hr, hq, hquoted⟩
  · rw [hself]
    exact h
  · obtain ⟨-, hformed⟩ := Relationship.ofLine?_spec hr
    have hl : quoted ≠ [] := by
      rw [(quote?_eq_some hq).1]
      simp
    rw [hquoted, (isFormed_quoted hformed hq).relationship?_toText hl]
    rfl

/-- A line is what it was after quoting exactly when no label changed. -/
theorem text_quoteRelationship_eq_self_iff (line : Text)
    : (quoteRelationship line).text = line ↔ (quoteRelationship line).changed = [] := by
  rcases quoteRelationship_cases line with hself | ⟨r, quoted, hr, hq, hquoted⟩
  · simp [hself]
  · obtain ⟨htext, hformed⟩ := Relationship.ofLine?_spec hr
    constructor
    · intro h
      rw [hquoted, ← htext, Relationship.toText, Relationship.toText, List.append_assoc,
        List.append_assoc] at h
      have hhead : r.trailing.head? ≠ some '\x27' := by
        intro he
        have hblank := hformed.trailing _ (List.mem_of_mem_head? he)
        exact absurd hblank (by decide)
      exact absurd (List.append_cancel_left h) (quoted_append_ne hq hhead r.trailing)
    · intro h
      rw [hquoted] at h
      contradiction

end DiagramRepair.Label
