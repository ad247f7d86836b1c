import DiagramRepair.Diagram.Declaration
import DiagramRepair.Diagram.Relationship
import DiagramRepair.Proofs.Text.Trim

/-! The classes of characters that lines are cut by are disjoint: names and cardinality
symbols hold no blank, and keywords of diagram types hold only characters of names.
-/

namespace DiagramRepair.Text

/-- The code points of all blanks. -/
def blankCodes : List Nat :=
  [
    0x09, 0x0A, 0x0B, 0x0C, 0x0D, 0x1C, 0x1D, 0x1E, 0x1F, 0x20, 0x85, 0xA0, 0x1680, 0x2000,
    0x2001, 0x2002, 0x2003, 0x2004, 0x2005, 0x2006, 0x2007, 0x2008, 0x2009, 0x200A, 0x2028,
    0x2029, 0x202F, 0x205F, 0x3000
  ]

theorem toNat_mem_blankCodes {c : Char} (h : isBlank c = true) : c.toNat ∈ blankCodes := by
  simp only [isBlank, isWhiteSpace, Bool.or_eq_true, Bool.and_eq_true, decide_eq_true_eq,
    beq_iff_eq] at h
  simp only [blankCodes, List.mem_cons, List.not_mem_nil, or_false]
  omega

theorem isNameChar_of_mem_blankCodes
    : ∀ code ∈ blankCodes, isNameChar (Char.ofNat code) = false := by
  decide +kernel

/-- A blank ends every name. -/
theorem isNameChar_of_isBlank {c : Char} (h : isBlank c = true) : isNameChar c = false := by
  simpa using isNameChar_of_mem_blankCodes _ (toNat_mem_blankCodes h)

theorem isBlank_of_isNameChar {c : Char} (h : isNameChar c = true) : isBlank c = false := by
  cases hb : isBlank c with
  | false => rfl
  | true => exact absurd h (by simp [isNameChar_of_isBlank hb])

theorem isNameChar_of_isWordChar {c : Char} (h : isWordChar c = true) : isNameChar c = true := by
  simp [isNameChar, h]

theorem isBlank_of_isWordChar {c : Char} (h : isWordChar c = true) : isBlank c = false :=
  isBlank_of_isNameChar (isNameChar_of_isWordChar h)

theorem isNameChar_lower_name
    : ∀ type ∈ DiagramType.all, (lower type.name).all isNameChar = true := by
  decide +kernel

theorem isNameChar_capital {c : Char} (h : ('A' ≤ c && c ≤ 'Z') = true)
    : isNameChar c = true := by
  have hascii : c.toNat < 128 := by
    simp only [Bool.and_eq_true, decide_eq_true_eq, Char.le_def, UInt32.le_iff_toNat_le] at h
    have hz : ('Z' : Char).val.toNat = 90 := rfl
    simp only [Char.toNat]
    omega
  simp only [isNameChar, isWordChar, hascii, if_true, isAsciiLetter, h, Bool.or_true,
    Bool.true_or]

/-- Lower case changes only characters of names. -/
theorem isNameChar_of_lowerChar {c : Char} (h : ∀ d ∈ lowerChar c, isNameChar d = true)
    : isNameChar c = true := by
  unfold lowerChar at h
  split at h
  · rename_i hc
    exact isNameChar_capital hc
  · split at h
    · rename_i hc
      rw [hc]
      decide +kernel
    · split at h
      · rename_i hc
        rw [hc]
        decide +kernel
      · exact h c List.mem_cons_self

end DiagramRepair.Text

namespace DiagramRepair

/-- The keyword of a diagram type holds only characters of names. -/
theorem DiagramType.isNameChar_of_ofWord? {word : Text} {type : DiagramType}
    (h : DiagramType.ofWord? word = some type) {c : Char} (hc : c ∈ word)
    : Text.isNameChar c = true := by
  unfold DiagramType.ofWord? at h
  have hlower : Text.lower type.name = Text.lower word := by
    simpa using List.find?_some h
  refine Text.isNameChar_of_lowerChar (fun d hd => ?_)
  have hname := Text.isNameChar_lower_name type (List.mem_of_find?_eq_some h)
  rw [hlower, List.all_eq_true] at hname
  exact hname d (List.mem_flatMap.2 ⟨c, hc, hd⟩)

theorem DiagramType.ne_nil_of_ofWord? {word : Text} {type : DiagramType}
    (h : DiagramType.ofWord? word = some type)
    : word ≠ [] := by
  rintro rfl
  have hnone : DiagramType.ofWord? [] = none := by decide +kernel
  rw [hnone] at h
  contradiction

end DiagramRepair
