import DiagramRepair.Json.Printer
import DiagramRepair.Proofs.Text.Ascii

/-! JSON over several lines is in ASCII, whatever its strings hold: all other characters are written
by codes, whichever codes those are.
-/

namespace DiagramRepair.Json

open Text (IsAscii isAscii_append_iff isAscii_cons_iff isAscii_nil isAscii_of_all)

variable (codeOf : Char → Nat)

theorem isAscii_escapeUnit (unit : Nat) : IsAscii (escapeUnit unit) :=
  isAscii_append_iff.2 ⟨isAscii_of_all (by decide), Text.isAscii_hexDigits 4 unit⟩

theorem isAscii_escapeCode (code : Nat) : IsAscii (escapeCode code) := by
  unfold escapeCode
  split
  · exact isAscii_escapeUnit code
  · exact isAscii_append_iff.2 ⟨isAscii_escapeUnit _, isAscii_escapeUnit _⟩

/-- A character that is written as it is, is in ASCII. -/
theorem isAscii_stringChar (c : Char) : IsAscii (stringChar .ascii codeOf c) := by
  unfold stringChar
  split_ifs with _ _ _ _ _ _ _ _ hbeyond
  iterate 7 exact isAscii_of_all (by decide)
  · exact isAscii_escapeCode _
  · exact isAscii_escapeCode _
  · have hlow : ¬0x7F ≤ c.toNat := fun hhigh => hbeyond ⟨rfl, hhigh⟩
    exact isAscii_cons_iff.2 ⟨by omega, isAscii_nil⟩

theorem isAscii_quoted (text : Text) : IsAscii (quoted .ascii codeOf text) := by
  rw [quoted, isAscii_append_iff, isAscii_cons_iff]
  exact ⟨⟨by decide, Text.isAscii_flatMap (isAscii_stringChar codeOf)⟩, isAscii_of_all (by decide)⟩

theorem isAscii_realText (value : RealNumber) : IsAscii (realText value) := by
  have hsign : ∀ negative : Bool, IsAscii (if negative then ['-'] else []) := by
    intro negative
    cases negative with
    | false => exact isAscii_nil
    | true => exact isAscii_of_all (by decide)
  cases value with
  | decimal negative digits exponent =>
      rw [realText, isAscii_append_iff, isAscii_append_iff, isAscii_cons_iff]
      exact ⟨⟨hsign negative, Text.isAscii_ofNat digits⟩, by decide, Text.isAscii_ofInt exponent⟩
  | infinite negative =>
      rw [realText, isAscii_append_iff]
      exact ⟨hsign negative, isAscii_of_all (by decide)⟩
  | notANumber => exact isAscii_of_all (by decide)

theorem isAscii_newLine (depth : Nat) : IsAscii (newLine depth) := by
  refine isAscii_cons_iff.2 ⟨by decide, fun c hc => ?_⟩
  rw [List.eq_of_mem_replicate hc]
  decide

theorem isAscii_block {opener closer : Char} {depth : Nat} {parts : List Text}
    (ho : opener.toNat < 0x80) (hc : closer.toNat < 0x80) (hp : ∀ part ∈ parts, IsAscii part)
    : IsAscii (block opener closer depth parts) := by
  unfold block
  split
  · simp only [isAscii_cons_iff]
    exact ⟨ho, hc, isAscii_nil⟩
  · have hbreak : IsAscii (',' :: newLine (depth + 1)) :=
      isAscii_cons_iff.2 ⟨by decide, isAscii_newLine _⟩
    simp only [List.cons_append, List.append_assoc, isAscii_cons_iff, isAscii_append_iff]
    exact ⟨ho, isAscii_newLine _, Text.isAscii_joinWith hbreak hp, isAscii_newLine _, hc,
      isAscii_nil⟩

mutual
theorem isAscii_indented (depth : Nat) (value : Json)
    : IsAscii (indented codeOf depth value) := by
  cases value with
  | null =>
      rw [indented]
      exact isAscii_of_all (by decide)
  | bool value =>
      rw [indented]
      cases value with
      | false => exact isAscii_of_all (by decide)
      | true => exact isAscii_of_all (by decide)
  | int value => exact Text.isAscii_ofInt value
  | real value => exact isAscii_realText value
  | string text => exact isAscii_quoted codeOf text
  | array items =>
      exact isAscii_block (by decide) (by decide) (isAscii_indentedItems (depth + 1) items)
  | object fields =>
      exact isAscii_block (by decide) (by decide) (isAscii_indentedFields (depth + 1) fields)

theorem isAscii_indentedItems (depth : Nat) (items : List Json)
    : ∀ part ∈ indentedItems codeOf depth items, IsAscii part := by
  cases items with
  | nil => simp [indentedItems]
  | cons item rest =>
      rw [indentedItems, List.forall_mem_cons]
      exact ⟨isAscii_indented depth item, isAscii_indentedItems depth rest⟩

theorem isAscii_indentedFields (depth : Nat) (fields : List (Text × Json))
    : ∀ part ∈ indentedFields codeOf depth fields, IsAscii part := by
  match fields with
  | [] => simp [indentedFields]
  | (name, value) :: rest =>
      rw [indentedFields, List.forall_mem_cons, isAscii_append_iff, isAscii_append_iff]
      exact ⟨⟨⟨isAscii_quoted codeOf name, isAscii_of_all (by decide)⟩,
        isAscii_indented depth value⟩, isAscii_indentedFields depth rest⟩
end

theorem isAscii_pretty (value : Json) : IsAscii (pretty codeOf value) :=
  isAscii_indented codeOf 0 value

end DiagramRepair.Json
