import DiagramRepair.Diagram.Balance
import DiagramRepair.Proofs.Diagram.Relationship
import DiagramRepair.Proofs.Text.Lines

/-! What the bracket count leaves out of a line. A symbol is looked for up to the one that the line
has as a relationship, so the label behind it is counted as it is written.
-/

namespace DiagramRepair

open Text

-----------------------------------------------------------------------------------------
-- Masking
-----------------------------------------------------------------------------------------

theorem takeWhile_append_stop {kind : Char → Bool} {c : Char} (h : kind c = false)
    (front back : Text)
    : (front ++ c :: back).takeWhile kind = front.takeWhile kind := by
  induction front with
  | nil => simp [h]
  | cons d front ih =>
      rw [List.cons_append, List.takeWhile_cons, List.takeWhile_cons, ih]

theorem dropWhile_append_stop {kind : Char → Bool} {c : Char} (h : kind c = false)
    (front back : Text)
    : (front ++ c :: back).dropWhile kind = front.dropWhile kind ++ c :: back := by
  induction front with
  | nil => simp [h]
  | cons d front ih =>
      rw [List.cons_append, List.dropWhile_cons, List.dropWhile_cons, ih]
      split
      · rfl
      · rfl

theorem maskSymbolFrom_cons (afterBlank : Bool) (c : Char) (rest : Text)
    : maskSymbolFrom afterBlank (c :: rest)
      = if afterBlank && !((c :: rest).dropWhile isNotBlank).isEmpty
            && isCardinality ((c :: rest).takeWhile isNotBlank) then
          ' ' :: (c :: rest).dropWhile isNotBlank
        else c :: maskSymbolFrom (isBlank c) rest :=
  rfl

/-- A blank ends the token in front of it. -/
theorem maskSymbolFrom_cons_append {gap : Char} (hg : isBlank gap = true) (afterBlank : Bool)
    (c : Char) (front tail : Text)
    : maskSymbolFrom afterBlank (c :: (front ++ gap :: tail))
      = if afterBlank && isCardinality ((c :: front).takeWhile isNotBlank) then
          ' ' :: ((c :: front).dropWhile isNotBlank ++ gap :: tail)
        else c :: maskSymbolFrom (isBlank c) (front ++ gap :: tail) := by
  have hstop : isNotBlank gap = false := by simp [isNotBlank, hg]
  have hfull : ((c :: front).dropWhile isNotBlank ++ gap :: tail).isEmpty = false := by simp
  rw [maskSymbolFrom_cons, ← List.cons_append, takeWhile_append_stop hstop,
    dropWhile_append_stop hstop, hfull, Bool.not_false, Bool.and_true]

/-- What is behind a symbol between two blanks does not matter for what is masked, by induction on
what is in front of it. -/
theorem maskSymbolFrom_append {symbol : Text} (hs : isCardinality symbol = true)
    (hb : ∀ c ∈ symbol, isBlank c = false) {gap : Char} (hg : isBlank gap = true)
    {afterBlank : Bool} {front : Text} (hn : front = [] → afterBlank = true)
    (hl : ∀ c, front.getLast? = some c → isBlank c = true) (tail : Text)
    : maskSymbolFrom afterBlank (front ++ symbol ++ gap :: tail)
      = maskSymbolFrom afterBlank (front ++ symbol ++ [gap]) ++ tail := by
  induction front generalizing afterBlank with
  | nil =>
      obtain rfl := hn rfl
      cases symbol with
      | nil => cases hs
      | cons mark rest =>
          have hsolid : ∀ c ∈ mark :: rest, isNotBlank c = true := fun c hc => by
            simp [isNotBlank, hb c hc]
          have htoken := List.takeWhile_eq_self_iff.2 hsolid
          have hdrop := List.dropWhile_eq_nil_iff.2 hsolid
          rw [List.nil_append, List.cons_append, List.cons_append, maskSymbolFrom_cons_append hg,
            maskSymbolFrom_cons_append hg, htoken, hdrop, hs]
          rfl
  | cons c front ih =>
      have hlast : front = [] → isBlank c = true := by
        rintro rfl
        exact hl c rfl
      have hrest := ih hlast fun d hd => by
        apply hl d
        rw [List.getLast?_cons, hd]
        rfl
      rw [List.cons_append, List.cons_append, List.cons_append, maskSymbolFrom_cons_append hg,
        maskSymbolFrom_cons_append hg, hrest]
      split
      · simp
      · rfl

/-- Masking takes characters away and puts a space in their place. -/
theorem count_maskSymbolFrom_le {c : Char} (hc : c ≠ ' ') (afterBlank : Bool) (text : Text)
    : (maskSymbolFrom afterBlank text).count c ≤ text.count c := by
  induction text generalizing afterBlank with
  | nil => exact Nat.le_refl 0
  | cons d rest ih =>
      rw [maskSymbolFrom_cons]
      split
      · rw [List.count_cons_of_ne (Ne.symm hc)]
        exact (List.dropWhile_suffix _).sublist.count_le c
      · rw [List.count_cons, List.count_cons]
        exact Nat.add_le_add_right (ih _) _

/-- The characters of cardinality symbols. -/
def cardinalityChars : List Char :=
  ['|', '}', '{', 'o', '-', '.']

theorem mem_cardinalityChars {symbol : Text} (h : isCardinality symbol = true)
    : ∀ c ∈ symbol, c ∈ cardinalityChars := by
  have hmarks : ∀ c, isCardinalityMark c = true → c ∈ cardinalityChars := by
    intro c hc
    simp only [isCardinalityMark, Bool.or_eq_true, beq_iff_eq] at hc
    simp only [cardinalityChars, List.mem_cons]
    tauto
  have hfront : ∀ c ∈ symbol.takeWhile isCardinalityMark, c ∈ cardinalityChars := fun c hc =>
    hmarks c (List.mem_takeWhile_imp hc)
  intro c hc
  rw [← List.takeWhile_append_dropWhile (p := isCardinalityMark) (l := symbol),
    List.mem_append] at hc
  rcases hc with hc | hc
  · exact hfront c hc
  · unfold isCardinality at h
    dsimp only at h
    split at h
    · rename_i back hdrop
      rw [hdrop] at hc
      simp only [Bool.and_eq_true, List.all_eq_true] at h
      rcases List.mem_cons.1 hc with rfl | hc
      · decide
      · rcases List.mem_cons.1 hc with rfl | hc
        · decide
        · exact hmarks c (h.2 c hc)
    · rename_i back hdrop
      rw [hdrop] at hc
      simp only [Bool.and_eq_true, List.all_eq_true] at h
      rcases List.mem_cons.1 hc with rfl | hc
      · decide
      · rcases List.mem_cons.1 hc with rfl | hc
        · decide
        · exact hmarks c (h.2 c hc)
    · cases h

/-- Characters that no cardinality symbol holds are counted in full. -/
theorem count_maskSymbolFrom {c : Char} (hc : c ≠ ' ') (hm : c ∉ cardinalityChars)
    (afterBlank : Bool) (text : Text)
    : (maskSymbolFrom afterBlank text).count c = text.count c := by
  induction text generalizing afterBlank with
  | nil => rfl
  | cons d rest ih =>
      rw [maskSymbolFrom_cons]
      split
      · rename_i hcond
        simp only [Bool.and_eq_true] at hcond
        have hzero : ((d :: rest).takeWhile isNotBlank).count c = 0 := by
          rw [List.count_eq_zero]
          exact fun hmem => hm (mem_cardinalityChars hcond.2 c hmem)
        have hcount := congrArg (List.count c)
          (List.takeWhile_append_dropWhile (p := isNotBlank) (l := d :: rest))
        rw [List.count_append, hzero, Nat.zero_add] at hcount
        rw [List.count_cons_of_ne (Ne.symm hc), hcount]
      · rw [List.count_cons, List.count_cons, ih]

-----------------------------------------------------------------------------------------
-- Masked lines
-----------------------------------------------------------------------------------------

theorem maskedLine_of_none {line : Text} (h : relationship? line = none)
    : maskedLine line = line := by
  rw [maskedLine, h]
  rfl

theorem count_maskedLine_le {c : Char} (hc : c ≠ ' ') (line : Text)
    : (maskedLine line).count c ≤ line.count c := by
  rw [maskedLine]
  split
  · exact count_maskSymbolFrom_le hc false line
  · exact Nat.le_refl _

theorem count_maskedLine {c : Char} (hc : c ≠ ' ') (hm : c ∉ cardinalityChars) (line : Text)
    : (maskedLine line).count c = line.count c := by
  rw [maskedLine]
  split
  · exact count_maskSymbolFrom hc hm false line
  · rfl

/-- The label of a relationship and what is behind it are counted as they are written, whatever
they are. -/
theorem Relationship.IsFormed.exists_mask {r : Relationship} (h : r.IsFormed) (front : Text)
    : ∃ masked, ∀ label trailing,
        maskSymbolFrom false (front ++ { r with label, trailing : Relationship }.toText)
          = masked ++ (label ++ trailing) := by
  obtain ⟨first, rest, hrest⟩ := List.exists_cons_of_ne_nil h.rightGap_ne_nil
  have hlast : ∀ c, (front ++ r.indent ++ r.left ++ r.leftGap).getLast? = some c
      → isBlank c = true := by
    intro c hc
    rw [List.getLast?_append, List.getLast?_eq_some_getLast h.leftGap_ne_nil, Option.some_or] at hc
    exact Option.some.inj hc ▸ h.leftGap _ (List.getLast_mem h.leftGap_ne_nil)
  have hfront : front ++ r.indent ++ r.left ++ r.leftGap = [] → false = true := by
    intro hnil
    simp [h.left_ne_nil] at hnil
  refine ⟨maskSymbolFrom false (front ++ r.indent ++ r.left ++ r.leftGap ++ r.symbol ++ [first])
    ++ (rest ++ r.right ++ r.colonGap ++ ':' :: r.labelGap), fun label trailing => ?_⟩
  have htext : front ++ { r with label, trailing : Relationship }.toText
      = front ++ r.indent ++ r.left ++ r.leftGap ++ r.symbol
        ++ first
          :: (rest ++ r.right ++ r.colonGap ++ ':' :: r.labelGap ++ (label ++ trailing)) := by
    rw [Relationship.toText_eq]
    simp [hrest]
  rw [htext, maskSymbolFrom_append h.symbol h.solid (h.rightGap first (by simp [hrest])) hfront
    hlast, ← List.append_assoc]

theorem count_blank {c : Char} (hc : isBlank c = false) {gap : Text} (h : AllBlank gap)
    : gap.count c = 0 := by
  rw [List.count_eq_zero]
  intro hm
  rw [h c hm] at hc
  contradiction

theorem count_trim {c : Char} (hc : isBlank c = false) (line : Text)
    : (trim line).count c = line.count c := by
  simp only [List.count, List.countP_eq_length_filter, filter_trim (beq_of_isBlank hc)]

theorem count_chop {c : Char} (hc : isBlank c = false) (line : Text)
    : (chop line).count c = line.count c := by
  rw [← count_trim hc, trim_chop, count_trim hc]

/-- A carriage return at the end of a line does not change what is counted. -/
theorem count_maskedLine_chop {c : Char} (hc : isBlank c = false) (line : Text)
    : (maskedLine (chop line)).count c = (maskedLine line).count c := by
  have hsame : relationship? (chop line) = relationship? line := by
    rw [relationship?, relationship?, trim_chop]
  rcases eq_chop_append line with he | he
  · rw [← he]
  · cases hr : relationship? line with
    | none =>
        rw [maskedLine_of_none hr, maskedLine_of_none (hsame.trans hr), count_chop hc]
    | some r =>
        obtain ⟨htext, hformed⟩ := Relationship.ofLine?_spec hr
        obtain ⟨front, back, hchop⟩
            : ∃ front back, chop line = front ++ (r.toText ++ back) := by
          obtain ⟨back, -, hchop⟩ := exists_eq_trim_append (chop line)
          refine ⟨indent (chop line), back, hchop.trans ?_⟩
          rw [trim_chop, htext, List.append_assoc]
        obtain ⟨masked, hmask⟩ := hformed.exists_mask front
        have hgap : ∀ gap, r.toText ++ gap
            = { r with trailing := r.trailing ++ gap : Relationship }.toText := by
          simp [Relationship.toText_eq]
        have hfirst : maskSymbolFrom false (chop line)
            = masked ++ (r.label ++ (r.trailing ++ back)) := by
          rw [hchop, hgap]
          exact hmask _ _
        have hsecond : maskSymbolFrom false line
            = masked ++ (r.label ++ (r.trailing ++ (back ++ ['\r']))) := by
          rw [he, hchop, List.append_assoc, List.append_assoc, hgap]
          exact hmask _ _
        have hreturn : ['\r'].count c = 0 := by
          apply count_blank hc
          intro d hd
          rw [List.mem_singleton] at hd
          subst hd
          decide
        simp only [maskedLine, hsame, hr, Option.isSome_some, if_true, hfirst, hsecond,
          List.count_append, hreturn, Nat.add_zero]

end DiagramRepair
