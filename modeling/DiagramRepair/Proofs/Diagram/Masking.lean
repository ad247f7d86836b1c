import DiagramRepair.Proofs.Diagram.Pattern
import DiagramRepair.Proofs.Repair.Conservation
import Mathlib.Data.List.Forall2

/-! What the bracket count sees of an ER diagram. Of a line that states a relationship one word is
blanked out, the first one between two blanks that is spelled like a symbol. That is the symbol of
the relationship, but for a line with blanks in front of it: there the name on the left may be such
a word, and then the symbol is counted.
-/

namespace DiagramRepair

open Text

-----------------------------------------------------------------------------------------
-- Words and blanks
-----------------------------------------------------------------------------------------

/-- Blanks are kept, and what is behind them stands behind a blank. -/
theorem maskSymbolFrom_blank_append {gap : Text} (hg : AllBlank gap) (afterBlank : Bool)
    (rest : Text)
    : maskSymbolFrom afterBlank (gap ++ rest)
      = gap ++ maskSymbolFrom (afterBlank || !gap.isEmpty) rest := by
  induction gap generalizing afterBlank with
  | nil => simp
  | cons c gap ih =>
      have hc : isBlank c = true := hg c List.mem_cons_self
      have hempty : isCardinality ((c :: (gap ++ rest)).takeWhile isNotBlank) = false := by
        rw [List.takeWhile_cons_of_neg (by simp [isNotBlank, hc])]
        rfl
      rw [List.cons_append, maskSymbolFrom_cons, hempty, Bool.and_false, if_neg Bool.false_ne_true,
        ih (fun d hd => hg d (List.mem_cons_of_mem c hd)), hc]
      simp

/-- A word with no blank in front of it is kept, by induction on the word. -/
theorem maskSymbolFrom_false_append {word : Text} (hw : ∀ c ∈ word, isBlank c = false)
    (rest : Text)
    : maskSymbolFrom false (word ++ rest) = word ++ maskSymbolFrom false rest := by
  induction word with
  | nil => rfl
  | cons c word ih =>
      rw [List.forall_mem_cons] at hw
      rw [List.cons_append, maskSymbolFrom_cons, Bool.false_and, Bool.false_and,
        if_neg Bool.false_ne_true, hw.1, ih hw.2, List.cons_append]

/-- A word between two blanks is masked when it is spelled like a symbol. -/
theorem maskSymbolFrom_word {word : Text} (hne : word ≠ []) (hw : ∀ c ∈ word, isBlank c = false)
    {gap : Char} (hg : isBlank gap = true) (afterBlank : Bool) (rest : Text)
    : maskSymbolFrom afterBlank (word ++ gap :: rest)
      = if afterBlank && isCardinality word then ' ' :: gap :: rest
        else word ++ maskSymbolFrom false (gap :: rest) := by
  obtain ⟨c, word, rfl⟩ := List.exists_cons_of_ne_nil hne
  have hsolid : ∀ d ∈ c :: word, isNotBlank d = true := fun d hd => by simp [isNotBlank, hw d hd]
  rw [List.cons_append, maskSymbolFrom_cons_append hg, List.takeWhile_eq_self_iff.2 hsolid,
    List.dropWhile_eq_nil_iff.2 hsolid, List.nil_append]
  rw [List.forall_mem_cons] at hw
  split
  · rfl
  · rw [hw.1, maskSymbolFrom_false_append hw.2, List.cons_append]

-----------------------------------------------------------------------------------------
-- Relationship lines
-----------------------------------------------------------------------------------------

/-- The name on the left is taken for the symbol: it is spelled like one and stands behind a
blank. -/
def Relationship.IsMistaken (r : Relationship) : Prop :=
  r.indent ≠ [] ∧ IsSymbol r.left

/-- One word of the line of a relationship is masked, by cases on which one comes first. -/
theorem Relationship.IsFormed.maskSymbolFrom_toText {r : Relationship} (h : r.IsFormed)
    : maskSymbolFrom false r.toText
      = if !r.indent.isEmpty && isCardinality r.left then
          { r with left := [' '] : Relationship }.toText
        else { r with symbol := [' '] : Relationship }.toText := by
  have hleft : ∀ c ∈ r.left, isBlank c = false := fun c hc => isBlank_of_isNameChar (h.left c hc)
  have hsymbolNe : r.symbol ≠ [] := by
    intro hnil
    have hsymbol := h.symbol
    rw [hnil] at hsymbol
    contradiction
  obtain ⟨first, leftGap, hleftGap⟩ := List.exists_cons_of_ne_nil h.leftGap_ne_nil
  obtain ⟨next, rightGap, hrightGap⟩ := List.exists_cons_of_ne_nil h.rightGap_ne_nil
  have hfirst : isBlank first = true := h.leftGap first (by simp [hleftGap])
  have hnext : isBlank next = true := h.rightGap next (by simp [hrightGap])
  simp only [toText_eq]
  rw [maskSymbolFrom_blank_append h.indent, Bool.false_or]
  generalize hrest : r.right ++ (r.colonGap ++ ':' :: (r.labelGap ++ (r.label ++ r.trailing)))
    = rest
  rw [hleftGap, List.cons_append, maskSymbolFrom_word h.left_ne_nil hleft hfirst]
  split
  · simp
  · rw [← List.cons_append, ← hleftGap, maskSymbolFrom_blank_append h.leftGap, hrightGap,
      List.cons_append, maskSymbolFrom_word hsymbolNe h.solid hnext, h.symbol, hleftGap]
    simp

/-- Names hold no brackets. -/
theorem count_name {name : Text} (h : ∀ c ∈ name, isNameChar c = true) {c : Char}
    (hc : c ∈ bracketChars)
    : name.count c = 0 := by
  have hall : ∀ c ∈ bracketChars, isNameChar c = false := List.all_iff_forall_prop.1 (by decide)
  rw [List.count_eq_zero]
  intro hm
  exact absurd (h c hm) (by simp [hall c hc])

/-- Brackets stand in the label of a relationship, and in what is written for its first two
words. -/
theorem Relationship.IsFormed.count_toText {r : Relationship} (h : r.IsFormed) {c : Char}
    (hc : c ∈ bracketChars) (left symbol : Text)
    : { r with left, symbol : Relationship }.toText.count c
      = left.count c + symbol.count c + r.label.count c := by
  have hblank : isBlank c = false := isBlank_of_mem_bracketChars hc
  have hcolon : ':' ≠ c := by
    rintro rfl
    exact absurd hc (by decide)
  simp only [toText_eq, List.count_append, List.count_cons_of_ne hcolon,
    count_name h.right hc, count_blank hblank h.indent, count_blank hblank h.leftGap,
    count_blank hblank h.rightGap, count_blank hblank h.colonGap, count_blank hblank h.labelGap,
    count_blank hblank h.trailing]
  omega

/-- The brackets that a symbol may hold are braces. -/
theorem count_symbol_eq_zero_iff {symbol : Text} (h : IsSymbol symbol)
    : (∀ c ∈ bracketChars, symbol.count c = 0) ↔ ¬('{' ∈ symbol ∨ '}' ∈ symbol) := by
  have hchars := mem_cardinalityChars (isCardinality_iff.2 h)
  have hothers : ∀ c ∈ bracketChars, c ∈ cardinalityChars → c = '{' ∨ c = '}' :=
    List.all_iff_forall_prop.1 (by decide)
  simp only [List.count_eq_zero]
  constructor
  · rintro hnone (hm | hm)
    · exact hnone _ (by decide) hm
    · exact hnone _ (by decide) hm
  · intro hnone c hc hm
    rcases hothers c hc (hchars c hm) with rfl | rfl
    · exact hnone (Or.inl hm)
    · exact hnone (Or.inr hm)

-----------------------------------------------------------------------------------------
-- The counted text
-----------------------------------------------------------------------------------------

/-- What is counted of the line of a relationship, and when that comes to the brackets of its
label. -/
structure Relationship.Hides (r : Relationship) (counted : Text) : Prop where
  symbol : ¬r.IsMistaken → counted = { r with symbol := [' '] : Relationship }.toText
  name : r.IsMistaken → counted = { r with left := [' '] : Relationship }.toText
  counts
    : (∀ c ∈ bracketChars, counted.count c = r.label.count c)
      ↔ ¬(r.IsMistaken ∧ ('{' ∈ r.symbol ∨ '}' ∈ r.symbol))

/-- What is counted of a line of an ER diagram. -/
structure IsMasked (line counted : Text) : Prop where
  unrelated : relationship? line = none → counted = line
  related (parts : Text × Text × Text × Text)
    : (relationship? line).map Relationship.parts = some parts
      → ∃ r : Relationship, r.IsFound line ∧ r.parts = parts ∧ r.Hides counted

theorem Relationship.IsFormed.hides {r : Relationship} (h : r.IsFormed)
    : r.Hides (maskSymbolFrom false r.toText) := by
  have hsymbol : IsSymbol r.symbol := isCardinality_iff.1 h.symbol
  have hname : (!r.indent.isEmpty && isCardinality r.left) = true ↔ r.IsMistaken := by
    rw [Bool.and_eq_true, isCardinality_iff, IsMistaken]
    simp
  have hspace : ∀ c ∈ bracketChars, [' '].count c = 0 := List.all_iff_forall_prop.1 (by decide)
  rw [h.maskSymbolFrom_toText]
  by_cases hmistaken : r.IsMistaken
  · rw [if_pos (hname.2 hmistaken)]
    refine ⟨fun hnot => absurd hmistaken hnot, fun _ => rfl, ?_⟩
    have hcount : ∀ c ∈ bracketChars, { r with left := [' '] : Relationship }.toText.count c
        = r.symbol.count c + r.label.count c := fun c hc => by
      rw [h.count_toText hc [' '] r.symbol, hspace c hc, Nat.zero_add]
    rw [and_iff_right hmistaken, ← count_symbol_eq_zero_iff hsymbol]
    refine forall₂_congr fun c hc => ?_
    rw [hcount c hc]
    omega
  · rw [if_neg (hname.not.2 hmistaken)]
    refine ⟨fun _ => rfl, fun hm => absurd hm hmistaken, ?_⟩
    refine iff_of_true (fun c hc => ?_) fun hboth => hmistaken hboth.1
    rw [h.count_toText hc r.left [' '], count_name h.left hc, hspace c hc, Nat.zero_add]

theorem isMasked_maskedLine (line : Text) : IsMasked line (maskedLine line) := by
  refine ⟨maskedLine_of_none, fun parts hparts => ?_⟩
  obtain ⟨found, hfound, -⟩ := Option.map_eq_some_iff.1 hparts
  obtain ⟨r, hr, hrparts⟩ := relationship?_parts_eq_some_iff.1 hparts
  obtain ⟨htext, hformed⟩ := Relationship.ofLine?_spec (Relationship.ofLine?_eq_some_iff.2 hr)
  refine ⟨r, hr, hrparts, ?_⟩
  rw [maskedLine, hfound, Option.isSome_some, if_pos rfl, ← htext]
  exact hformed.hides

/-- The counted text of an ER diagram has one line for each line of the diagram, in which nothing
but one word of a relationship is masked. The brackets that count on a relationship line are those
of its label, unless the name on the left is masked in place of a symbol with braces. -/
theorem isMasked_countedText {text : Text} (h : isErDiagram (lines text) = true)
    : List.Forall₂ IsMasked (lines text) ((countedText text).splitOn '\n') := by
  have hline : ∀ masked ∈ (lines text).map maskedLine, '\n' ∉ masked := by
    intro masked hm
    obtain ⟨line, hl, rfl⟩ := List.mem_map.1 hm
    have hle := count_maskedLine_le (c := '\n') (by decide) line
    rw [List.count_eq_zero.2 (isLine_of_mem_lines hl)] at hle
    exact List.count_eq_zero.1 (Nat.le_zero.1 hle)
  have hsplit : (countedText text).splitOn '\n' = (lines text).map maskedLine := by
    rw [countedText, if_pos h, joinLines, joinWith,
      List.splitOn_intercalate '\n' hline (by simp [lines_ne_nil])]
  rw [hsplit, List.forall₂_map_right_iff, List.forall₂_same]
  exact fun line _ => isMasked_maskedLine line

/-- A symbol with the braces of a label behind it, and the same line with a name for it in front. -/
theorem isMasked_countedText_of_two_lines
    : isErDiagram (lines "erDiagram\nA \x7d|--|\x7b B : (a\n o--o |o--o\x7b B : c)".toList) = true
      ∧ List.Forall₂ IsMasked
          ["erDiagram".toList, "A \x7d|--|\x7b B : (a".toList, " o--o |o--o\x7b B : c)".toList]
          ["erDiagram".toList, "A   B : (a".toList, "   |o--o\x7b B : c)".toList] := by
  have her : isErDiagram (lines "erDiagram\nA \x7d|--|\x7b B : (a\n o--o |o--o\x7b B : c)".toList)
      = true := by
    decide +kernel
  have hlines : lines "erDiagram\nA \x7d|--|\x7b B : (a\n o--o |o--o\x7b B : c)".toList
      = ["erDiagram".toList, "A \x7d|--|\x7b B : (a".toList, " o--o |o--o\x7b B : c)".toList] := by
    decide +kernel
  have hcounted
      : (countedText "erDiagram\nA \x7d|--|\x7b B : (a\n o--o |o--o\x7b B : c)".toList).splitOn '\n'
        = ["erDiagram".toList, "A   B : (a".toList, "   |o--o\x7b B : c)".toList] := by
    decide +kernel
  refine ⟨her, ?_⟩
  have hmasked := isMasked_countedText her
  rwa [hlines, hcounted] at hmasked

/-- The name in front of an indented symbol is masked in its place, so the brace of the symbol
counts and the diagram is rejected. -/
theorem count_countedText_of_mistaken_name
    : let text := "erDiagram\n  o--o ||--o\x7b B : x".toList
      isErDiagram (lines text) = true
      ∧ (relationship? "  o--o ||--o\x7b B : x".toList).map Relationship.parts
        = some ("o--o".toList, "||--o\x7b".toList, "B".toList, "x".toList)
      ∧ (countedText text).splitOn '\n' = ["erDiagram".toList, "    ||--o\x7b B : x".toList]
      ∧ "    ||--o\x7b B : x".toList.count '\x7b' ≠ "x".toList.count '\x7b'
      ∧ (imbalances text).map Imbalance.bracket = [.curly] := by
  decide +kernel

end DiagramRepair
