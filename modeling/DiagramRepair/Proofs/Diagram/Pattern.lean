import DiagramRepair.Proofs.Diagram.Relationship

/-! The pattern of relationship lines. A line may fit the pattern in several ways, which differ only
in where the label starts and ends among the blanks around it. The recogniser takes all these blanks
for gaps, so it finds a relationship wherever the pattern fits, with the shortest label that there
is; and blanks around the line change nothing about that.
-/

namespace DiagramRepair

open Text

-----------------------------------------------------------------------------------------
-- Symbols
-----------------------------------------------------------------------------------------

/-- One or two marks, the end of a cardinality symbol. -/
def IsMarks (marks : Text) : Prop :=
  (marks.length = 1 ∨ marks.length = 2) ∧ ∀ c ∈ marks, isCardinalityMark c = true

/-- Two ends with two dashes or two dots between them. -/
def IsSymbol (symbol : Text) : Prop :=
  ∃ front shaft back,
    symbol = front ++ shaft ++ back
    ∧ IsMarks front
    ∧ (shaft = ['-', '-'] ∨ shaft = ['.', '.'])
    ∧ IsMarks back

theorem isCardinality_iff {symbol : Text} : isCardinality symbol = true ↔ IsSymbol symbol := by
  constructor
  · intro h
    have htext := List.takeWhile_append_dropWhile (p := isCardinalityMark) (l := symbol)
    have hfront : ∀ c ∈ symbol.takeWhile isCardinalityMark, isCardinalityMark c = true :=
      fun c hc => List.mem_takeWhile_imp hc
    unfold isCardinality at h
    dsimp only at h
    split at h
    · rename_i back hback
      simp only [Bool.and_eq_true, Bool.or_eq_true, beq_iff_eq, List.all_eq_true] at h
      exact ⟨_, ['-', '-'], back, by simpa [hback] using htext.symm, ⟨h.1.1, hfront⟩, Or.inl rfl,
        h.1.2, h.2⟩
    · rename_i back hback
      simp only [Bool.and_eq_true, Bool.or_eq_true, beq_iff_eq, List.all_eq_true] at h
      exact ⟨_, ['.', '.'], back, by simpa [hback] using htext.symm, ⟨h.1.1, hfront⟩, Or.inr rfl,
        h.1.2, h.2⟩
    · contradiction
  · rintro ⟨front, shaft, back, rfl, ⟨hf, hfront⟩, hshaft, hb, hback⟩
    have hends : ((front.length == 1 || front.length == 2) && (back.length == 1 || back.length == 2)
        && back.all isCardinalityMark) = true := by
      simp only [Bool.and_eq_true, Bool.or_eq_true, beq_iff_eq, List.all_eq_true]
      exact ⟨⟨hf, hb⟩, hback⟩
    rcases hshaft with rfl | rfl
    · rw [isCardinality, List.append_assoc, List.cons_append,
        takeWhile_append_cons _ hfront (by decide), dropWhile_append_cons _ hfront (by decide)]
      exact hends
    · rw [isCardinality, List.append_assoc, List.cons_append,
        takeWhile_append_cons _ hfront (by decide), dropWhile_append_cons _ hfront (by decide)]
      exact hends

theorem IsSymbol.solid {symbol : Text} (h : IsSymbol symbol) : ∀ c ∈ symbol, isBlank c = false := by
  obtain ⟨front, shaft, back, rfl, hfront, hshaft, hback⟩ := h
  have hmid : ∀ c ∈ shaft, isBlank c = false := by
    rcases hshaft with rfl | rfl <;> exact List.all_iff_forall_prop.1 (by decide)
  intro c hc
  rcases List.mem_append.1 hc with hc | hc
  · rcases List.mem_append.1 hc with hc | hc
    · exact isBlank_of_isCardinalityMark (hfront.2 c hc)
    · exact hmid c hc
  · exact isBlank_of_isCardinalityMark (hback.2 c hc)

-----------------------------------------------------------------------------------------
-- Ways to cut a line
-----------------------------------------------------------------------------------------

/-- The pieces fit the pattern of relationship lines: blanks, a name, blanks, a symbol, blanks, a
name, a colon between blanks, a label on one line, and blanks. -/
structure Relationship.Fits (r : Relationship) : Prop where
  indent : AllBlank r.indent
  left : r.left ≠ [] ∧ ∀ c ∈ r.left, isNameChar c = true
  leftGap : r.leftGap ≠ [] ∧ AllBlank r.leftGap
  symbol : IsSymbol r.symbol
  rightGap : r.rightGap ≠ [] ∧ AllBlank r.rightGap
  right : r.right ≠ [] ∧ ∀ c ∈ r.right, isNameChar c = true
  colonGap : AllBlank r.colonGap
  labelGap : AllBlank r.labelGap
  label : '\n' ∉ r.label
  trailing : AllBlank r.trailing

theorem Relationship.IsFormed.fits {r : Relationship} (h : r.IsFormed) : r.Fits where
  indent := h.indent
  left := ⟨h.left_ne_nil, h.left⟩
  leftGap := ⟨h.leftGap_ne_nil, h.leftGap⟩
  symbol := isCardinality_iff.1 h.symbol
  rightGap := ⟨h.rightGap_ne_nil, h.rightGap⟩
  right := ⟨h.right_ne_nil, h.right⟩
  colonGap := h.colonGap
  labelGap := h.labelGap
  label := h.isLine
  trailing := h.trailing

/-- The same pieces, with other blanks around the text of the label. -/
def Relationship.recut (r : Relationship) (gap trailing : Text) : Relationship :=
  { r with labelGap := r.labelGap ++ gap, label := trim r.label, trailing }

theorem Relationship.Fits.isFormed_recut {r : Relationship} (h : r.Fits) {gap trailing : Text}
    (hg : AllBlank gap) (ht : AllBlank trailing) (hnil : trim r.label = [] → trailing = [])
    : (r.recut gap trailing).IsFormed where
  indent := h.indent
  left_ne_nil := h.left.1
  left := h.left.2
  leftGap_ne_nil := h.leftGap.1
  leftGap := h.leftGap.2
  symbol := isCardinality_iff.2 h.symbol
  solid := h.symbol.solid
  rightGap_ne_nil := h.rightGap.1
  rightGap := h.rightGap.2
  right_ne_nil := h.right.1
  right := h.right.2
  colonGap := h.colonGap
  labelGap := h.labelGap.append hg
  label_head := fun _ => isBlank_head?_trim
  label_last := fun _ => isBlank_getLast?_trim
  isLine := fun hm => h.label ((trim_isInfix r.label).subset hm)
  trailing := ht
  trailing_eq_nil := hnil

/-- All blanks around the text of a label may count as gaps, by cases on whether there is such a
text. -/
theorem Relationship.Fits.exists_recut {r : Relationship} (h : r.Fits)
    : ∃ gap trailing,
        (r.recut gap trailing).IsFormed ∧ (r.recut gap trailing).toText = r.toText := by
  obtain ⟨back, hback, hlabel⟩ := exists_eq_trim_append r.label
  by_cases hnil : trim r.label = []
  · have hblank : AllBlank (r.label ++ r.trailing) :=
      (trim_eq_nil_iff.1 hnil).append h.trailing
    refine ⟨r.label ++ r.trailing, [],
      h.isFormed_recut hblank (by simp [AllBlank]) (fun _ => rfl), ?_⟩
    simp [recut, toText_eq, hnil]
  · refine ⟨Text.indent r.label, back ++ r.trailing, h.isFormed_recut (allBlank_indent _)
      (hback.append h.trailing) (fun he => absurd he hnil), ?_⟩
    conv => rhs; rw [toText_eq, hlabel]
    simp [recut, toText_eq]

/-- A relationship is found exactly where the pattern fits. -/
theorem Relationship.isSome_ofLine?_iff {line : Text}
    : (Relationship.ofLine? line).isSome = true ↔ ∃ r : Relationship, r.Fits ∧ r.toText = line := by
  rw [Option.isSome_iff_exists]
  constructor
  · rintro ⟨r, hr⟩
    obtain ⟨htext, hformed⟩ := Relationship.ofLine?_spec hr
    exact ⟨r, hformed.fits, htext⟩
  · rintro ⟨r, hfits, rfl⟩
    obtain ⟨gap, trailing, hformed, htext⟩ := hfits.exists_recut
    exact ⟨_, htext ▸ hformed.ofLine?_toText⟩

/-- Of all ways in which the pattern fits a line, this is the one that it prefers: the gap in front
of the label is as long and the label as short as they can be. -/
structure Relationship.IsFound (r : Relationship) (line : Text) : Prop where
  fits : r.Fits
  text : r.toText = line
  best (other : Relationship) (fits : other.Fits) (text : other.toText = line)
    : other.labelGap.length ≤ r.labelGap.length ∧ r.label.length ≤ other.label.length

theorem Relationship.ofLine?_eq_some_iff {line : Text} {r : Relationship}
    : Relationship.ofLine? line = some r ↔ r.IsFound line := by
  constructor
  · intro h
    obtain ⟨htext, hformed⟩ := Relationship.ofLine?_spec h
    refine ⟨hformed.fits, htext, fun other hfits hother => ?_⟩
    obtain ⟨gap, trailing, hrecut, hsame⟩ := hfits.exists_recut
    have hfound := hrecut.ofLine?_toText
    rw [hsame, hother, h] at hfound
    obtain rfl := Option.some.inj hfound
    have hlabel : (trim other.label).length ≤ other.label.length := (trim_isInfix _).length_le
    simpa [recut] using hlabel
  · rintro ⟨hfits, rfl, hbest⟩
    obtain ⟨gap, trailing, hrecut, hsame⟩ := hfits.exists_recut
    obtain ⟨hgap, hlabel⟩ := hbest _ hrecut.fits hsame
    have hnogap : gap = [] := by
      simp only [recut, List.length_append] at hgap
      exact List.length_eq_zero_iff.1 (by omega)
    have htrim : trim r.label = r.label := (trim_isInfix r.label).eq_of_length_le hlabel
    have htrailing : trailing = r.trailing := by
      simpa [recut, toText_eq, hnogap, htrim] using hsame
    have hself : r.recut gap trailing = r := by
      simp [recut, hnogap, htrim, htrailing]
    rw [← hself, hrecut.ofLine?_toText]

-----------------------------------------------------------------------------------------
-- Blanks around a line
-----------------------------------------------------------------------------------------

/-- What a relationship states: the entities, the symbol between them and the label. -/
def Relationship.parts (r : Relationship) : Text × Text × Text × Text :=
  (r.left, r.symbol, r.right, r.label)

/-- Blanks around a relationship without a label do not belong to it, nor do those behind the
colon. -/
theorem Relationship.IsFormed.relationship?_toText_of_label_eq_nil {r : Relationship}
    (h : r.IsFormed) (hl : r.label = [])
    : relationship? r.toText = some { r with indent := [], labelGap := [], trailing := [] } := by
  obtain ⟨first, left, hleft⟩ := List.exists_cons_of_ne_nil h.left_ne_nil
  have hcore : { r with indent := [], labelGap := [], trailing := [] : Relationship }.IsFormed :=
    { h with
      indent := by simp [AllBlank]
      labelGap := by simp [AllBlank]
      trailing := by simp [AllBlank]
      trailing_eq_nil := fun _ => rfl }
  have htext : { r with indent := [], labelGap := [], trailing := [] : Relationship }.toText
      = first :: (left ++ r.leftGap ++ r.symbol ++ r.rightGap ++ r.right ++ r.colonGap)
        ++ [':'] := by
    simp [toText_eq, hl, hleft]
  have hassoc : r.toText
      = r.indent ++ ({ r with indent := [], labelGap := [], trailing := [] : Relationship }.toText
          ++ r.labelGap) := by
    simp [toText_eq, hl, h.trailing_eq_nil hl]
  have hfirst : isBlank first = false := isBlank_of_isNameChar (h.left first (by simp [hleft]))
  rw [relationship?, hassoc, trim_blank_append _ h.indent, trim_append_blank _ h.labelGap, htext,
    trim_enclosed hfirst (by decide), ← htext, hcore.ofLine?_toText]

theorem Relationship.IsFormed.parts_relationship? {r : Relationship} (h : r.IsFormed)
    : (relationship? r.toText).map Relationship.parts = some r.parts := by
  by_cases hl : r.label = []
  · rw [h.relationship?_toText_of_label_eq_nil hl]
    rfl
  · rw [h.relationship?_toText hl]
    rfl

/-- A pattern that fits a line without the blanks around it fits the line. -/
theorem Relationship.Fits.exists_untrimmed {r : Relationship} (h : r.Fits) {line : Text}
    (ht : r.toText = trim line)
    : ∃ other : Relationship, other.Fits ∧ other.toText = line := by
  obtain ⟨back, hback, hline⟩ := exists_eq_trim_append line
  refine ⟨{ r with indent := Text.indent line ++ r.indent, trailing := r.trailing ++ back },
    { h with
      indent := (allBlank_indent line).append h.indent
      trailing := h.trailing.append hback }, ?_⟩
  conv => rhs; rw [hline, ← ht]
  simp [toText_eq]

/-- A line and the line without the blanks around it state the same. -/
theorem parts_relationship? (line : Text)
    : (relationship? line).map Relationship.parts
      = (Relationship.ofLine? line).map Relationship.parts := by
  cases hr : Relationship.ofLine? line with
  | some r =>
      obtain ⟨rfl, hformed⟩ := Relationship.ofLine?_spec hr
      exact hformed.parts_relationship?
  | none =>
      cases htrimmed : relationship? line with
      | none => rfl
      | some r =>
          obtain ⟨htext, hformed⟩ := Relationship.ofLine?_spec htrimmed
          have hsome := Relationship.isSome_ofLine?_iff.2 (hformed.fits.exists_untrimmed htext)
          rw [hr] at hsome
          cases hsome

/-- What a line states, whatever blanks surround it, is what the pattern finds in it. -/
theorem relationship?_parts_eq_some_iff {line : Text} {parts : Text × Text × Text × Text}
    : (relationship? line).map Relationship.parts = some parts
      ↔ ∃ r : Relationship, r.IsFound line ∧ r.parts = parts := by
  rw [parts_relationship?, Option.map_eq_some_iff]
  simp only [Relationship.ofLine?_eq_some_iff]

end DiagramRepair
