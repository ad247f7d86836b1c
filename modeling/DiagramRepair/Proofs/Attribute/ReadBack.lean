import DiagramRepair.Proofs.Attribute.Rendering

/-! What is written in place of an attribute line, read back. Each attribute is cut into the tokens
that it was written with and stays as it is, and but for blanks and default types the attributes
are the line that they were read from.
-/

namespace DiagramRepair.Attribute

open Text

-----------------------------------------------------------------------------------------
-- Attributes without what was put in
-----------------------------------------------------------------------------------------

/-- The attribute as it is written, with the default type left out where it was put in. -/
def Field.renderOwn (field : Field) : Text :=
  if field.isDefaulted then field.render.drop defaultType.length else field.render

/-- Where no blank is kept, what is written holds what is kept of the tokens that the attribute was
read from, by cases on its type. -/
theorem Field.filter_renderOwn {keep : Char → Bool} (h : ∀ c, isBlank c = true → keep c = false)
    (field : Field)
    : field.renderOwn.filter keep = field.sourceTokens.flatten.filter keep := by
  have hspace : keep ' ' = false := h ' ' (by decide)
  have hjoin (parts : List Text)
      : (joinWith [' '] parts).filter keep = parts.flatten.filter keep :=
    filter_joinWith (by simpa using hspace) parts
  cases hown : field.ownType with
  | none =>
      have hdefaulted : field.isDefaulted = true := by simp [Field.isDefaulted, hown]
      have hrender : field.render
          = defaultType
            ++ ' ' :: joinWith [' '] (field.name :: field.constraints ++ field.comment.toList) := by
        simp [Field.render, Field.writtenTokens, Field.type, hown, joinWith_cons_cons]
      have hsource
          : field.sourceTokens = field.name :: field.constraints ++ field.comment.toList := by
        simp [Field.sourceTokens, hown]
      rw [Field.renderOwn, if_pos hdefaulted, hrender, List.drop_left,
        List.filter_cons_of_neg (by simp [hspace]), hjoin, hsource]
  | some token =>
      have hdefaulted : field.isDefaulted = false := by simp [Field.isDefaulted, hown]
      have hsource : field.writtenTokens = field.sourceTokens := by
        simp [Field.writtenTokens, Field.sourceTokens, Field.type, hown]
      rw [Field.renderOwn, if_neg (by simp [hdefaulted]), Field.render, hjoin, hsource]

/-- Where no blank is kept, the attributes hold what is kept of all their tokens, by induction on
the attributes. -/
theorem filter_flatMap_renderOwn {keep : Char → Bool}
    (h : ∀ c, isBlank c = true → keep c = false) (fields : List Field)
    : (fields.flatMap Field.renderOwn).filter keep
      = (fields.flatMap Field.sourceTokens).flatten.filter keep := by
  induction fields with
  | nil => rfl
  | cons field rest ih =>
      simp only [List.flatMap_cons, List.filter_append, List.flatten_append, ih,
        Field.filter_renderOwn h]

-----------------------------------------------------------------------------------------
-- Reading back
-----------------------------------------------------------------------------------------

/-- The attributes that are written in place of a line are read back token by token, each of them
is well formed and stays as it is behind any indentation, and all of them with the default types
left out are the line, blanks apart. -/
theorem replacement?_readBack {line : Text} {fields : List Field}
    (h : replacement? line = some fields)
    : (∀ field ∈ fields,
        tokens field.render
          = field.type :: field.name :: field.constraints ++ field.comment.toList
        ∧ isWellFormed (tokens field.render) = true
        ∧ ∀ gap, AllBlank gap → replacement? (gap ++ field.render) = none)
      ∧ (fields.flatMap Field.renderOwn).filter isNotBlank = line.filter isNotBlank := by
  constructor
  · intro field hf
    have hprintable := isPrintable_of_replacement? h hf
    have htokens := hprintable.tokens_render
    refine ⟨htokens, ?_, fun gap hg => hprintable.replacement?_eq_none hg⟩
    rw [htokens]
    exact hprintable.isWellFormed
  · have hblank : ∀ c, isBlank c = true → isNotBlank c = false := fun c hc => by
      simp [isNotBlank, hc]
    obtain ⟨-, -, hflat, -⟩ := replacement?_eq_some h
    rw [filter_flatMap_renderOwn hblank, hflat, filter_flatten_tokens hblank, filter_trim hblank]

deriving instance DecidableEq for Field

/-- Two names without a type on one line, one with a closed comment and one with a comment that is
never closed. -/
theorem replacement?_readBack_comments
    : let line := "  a\"b PK,fk \"x y\"c \" z".toList
      let fields : List Field := [
        ⟨none, "a\"b".toList, ["PK,fk".toList], some "\"x y\"".toList⟩,
        ⟨none, "c".toList, [], some "\" z".toList⟩
      ]
      replacement? line = some fields
      ∧ (∀ field ∈ fields,
          tokens field.render
            = field.type :: field.name :: field.constraints ++ field.comment.toList
          ∧ isWellFormed (tokens field.render) = true
          ∧ ∀ gap, AllBlank gap → replacement? (gap ++ field.render) = none)
      ∧ (fields.flatMap Field.renderOwn).filter isNotBlank = line.filter isNotBlank :=
  have h
      : replacement? "  a\"b PK,fk \"x y\"c \" z".toList
        = some [
            ⟨none, "a\"b".toList, ["PK,fk".toList], some "\"x y\"".toList⟩,
            ⟨none, "c".toList, [], some "\" z".toList⟩
          ] := by
    decide +kernel
  ⟨h, replacement?_readBack h⟩

end DiagramRepair.Attribute
