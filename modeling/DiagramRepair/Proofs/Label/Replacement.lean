import DiagramRepair.Proofs.Label.Pieces

/-! A quoted line beside the line. Both have the same text around the labels that change, with each
of these labels as it was on the one line and quoted on the other, so nothing is lost or moved.
-/

namespace DiagramRepair.Label

open Text

-----------------------------------------------------------------------------------------
-- Labels in the text around them
-----------------------------------------------------------------------------------------

/-- A label that changes, its quoted form, and the text up to the next label that changes. -/
structure Change where
  label : Text
  quoted : Text
  behind : Text

def Change.before (change : Change) : Text :=
  change.label ++ change.behind

def Change.after (change : Change) : Text :=
  change.quoted ++ change.behind

/-- One text becomes the other by putting quoted labels in place of these labels, from left to
right, and all that stands in front of them, between them and behind them stays. -/
structure Replaces (reserved : List Char) (front : Text) (changes : List Change)
    (old new : Text) (labels : List Text)
    : Prop where
  before : old = front ++ changes.flatMap Change.before
  after : new = front ++ changes.flatMap Change.after
  labels : labels = changes.map Change.label
  quotes : ∀ change ∈ changes, quote? reserved change.label = some change.quoted

theorem Replaces.nil (reserved : List Char) : Replaces reserved [] [] [] [] [] where
  before := rfl
  after := rfl
  labels := rfl
  quotes := List.forall_mem_nil _

section Steps

variable {reserved : List Char} {front old new : Text} {changes : List Change} {labels : List Text}

/-- Text that stays goes to the text in front of the first label that changes. -/
theorem Replaces.keep (h : Replaces reserved front changes old new labels) (text : Text)
    : Replaces reserved (text ++ front) changes (text ++ old) (text ++ new) labels where
  before := by rw [h.before, List.append_assoc]
  after := by rw [h.after, List.append_assoc]
  labels := h.labels
  quotes := h.quotes

/-- A label that changes takes the text behind it up to the next one. -/
theorem Replaces.change (h : Replaces reserved front changes old new labels) {label quoted : Text}
    (hq : quote? reserved label = some quoted)
    : Replaces reserved [] (⟨label, quoted, front⟩ :: changes) (label ++ old) (quoted ++ new)
        (label :: labels) where
  before := by simp [h.before, Change.before]
  after := by simp [h.after, Change.after]
  labels := by rw [h.labels, List.map_cons]
  quotes := List.forall_mem_cons.2 ⟨hq, h.quotes⟩

end Steps

/-- Pieces written with their labels quoted, by induction on them: plain text and labels that need
no quotes stay, and every other label changes. -/
theorem exists_replaces (reserved : List Char) (pieces : List Piece)
    : ∃ front changes,
        Replaces reserved front changes (textOf pieces)
          (pieces.flatMap (Piece.written reserved))
          (pieces.filterMap (Piece.changed? reserved)) := by
  induction pieces with
  | nil => exact ⟨[], [], .nil reserved⟩
  | cons piece rest ih =>
      obtain ⟨front, changes, hrest⟩ := ih
      cases piece with
      | plain text => exact ⟨text ++ front, changes, hrest.keep text⟩
      | label content =>
          have hold : textOf (.label content :: rest) = content ++ textOf rest := rfl
          have hnew : (Piece.label content :: rest).flatMap (Piece.written reserved)
              = written reserved content ++ rest.flatMap (Piece.written reserved) :=
            rfl
          rw [hold, hnew, List.filterMap_cons, Piece.changed?]
          cases hq : quote? reserved content with
          | none =>
              rw [written_of_quote?_eq_none hq]
              exact ⟨content ++ front, changes, hrest.keep content⟩
          | some quoted =>
              rw [written, hq, Option.getD_some]
              exact ⟨[], ⟨content, quoted, front⟩ :: changes, hrest.change hq⟩

-----------------------------------------------------------------------------------------
-- Quoted lines
-----------------------------------------------------------------------------------------

/-- Quoting a line replaces the labels that it reports by their quoted forms and keeps all the
other text in its place. So a line is as it was exactly when no label is reported, and a line and
its quoted form differ in quotes and backslashes only. -/
theorem quoteLine_replaces (reserved : List Char) (line : Text)
    : (∃ front changes,
        Replaces reserved front changes line (quoteLine reserved line).text
          (quoteLine reserved line).changed)
      ∧ ((quoteLine reserved line).text = line ↔ (quoteLine reserved line).changed = [])
      ∧ (quoteLine reserved line).text.filter (· ∉ quoteMarks) = line.filter (· ∉ quoteMarks) := by
  refine ⟨?_, text_quoteLine_eq_self_iff reserved line, (requoted_quoteLine reserved line).filter⟩
  obtain ⟨front, changes, hreplaces⟩ := exists_replaces reserved (pieces line)
  rw [pieces, textOf_piecesFrom] at hreplaces
  exact ⟨front, changes, hreplaces⟩

end DiagramRepair.Label
