import DiagramRepair.Proofs.Text.Parts
import DiagramRepair.Text.Integer
import Mathlib.Data.Nat.Digits.Defs

/-! Texts in ASCII. They are what every output can take, and digits are among them.
-/

namespace DiagramRepair.Text

/-- All characters of the text are in ASCII. -/
def IsAscii (text : Text) : Prop :=
  ∀ c ∈ text, c.toNat < 0x80

theorem isAscii_of_all {text : Text} (h : text.all (fun c => c.toNat < 0x80) = true)
    : IsAscii text := by
  simpa [IsAscii] using h

theorem isAscii_append_iff {first second : Text}
    : IsAscii (first ++ second) ↔ IsAscii first ∧ IsAscii second := by
  simp only [IsAscii, List.mem_append, or_imp, forall_and]

theorem isAscii_cons_iff {c : Char} {rest : Text}
    : IsAscii (c :: rest) ↔ c.toNat < 0x80 ∧ IsAscii rest := by
  simp only [IsAscii, List.mem_cons, forall_eq_or_imp]

theorem isAscii_nil : IsAscii [] := by
  simp [IsAscii]

theorem isAscii_flatMap {text : Text} {write : Char → Text} (h : ∀ c, IsAscii (write c))
    : IsAscii (text.flatMap write) := by
  intro c hc
  obtain ⟨source, -, hwrite⟩ := List.mem_flatMap.1 hc
  exact h source c hwrite

theorem isAscii_joinWith {separator : Text} {parts : List Text} (hs : IsAscii separator)
    (hp : ∀ part ∈ parts, IsAscii part)
    : IsAscii (joinWith separator parts) := by
  intro c hc
  rcases mem_joinWith hc with hsep | ⟨part, hpart, hmem⟩
  · exact hs c hsep
  · exact hp part hpart c hmem

theorem toNat_digitChar_lt {digit : Nat} (h : digit < 16) : (Nat.digitChar digit).toNat < 0x80 := by
  have hall : ∀ digit < 16, (Nat.digitChar digit).toNat < 0x80 := by decide
  exact hall digit h

theorem isAscii_hexDigits (width n : Nat) : IsAscii (hexDigits width n) := by
  induction width generalizing n with
  | zero => exact isAscii_nil
  | succ width ih =>
      rw [hexDigits, isAscii_append_iff, isAscii_cons_iff]
      exact ⟨ih _, toNat_digitChar_lt (Nat.mod_lt _ (by decide)), isAscii_nil⟩

theorem isAscii_ofNat (n : Nat) : IsAscii (ofNat n) := by
  intro c hc
  have hdigit : c.isDigit = true :=
    Nat.isDigit_of_mem_toDigits (by decide) (by decide) hc
  simp only [Char.isDigit, Bool.and_eq_true, decide_eq_true_eq, UInt32.le_iff_toNat_le] at hdigit
  have hnine : ('9' : Char).val.toNat = 57 := rfl
  simp only [Char.toNat]
  omega

theorem isAscii_ofInt (value : Int) : IsAscii (ofInt value) := by
  cases value with
  | ofNat n => exact isAscii_ofNat n
  | negSucc n => exact isAscii_cons_iff.2 ⟨by decide, isAscii_ofNat (n + 1)⟩

end DiagramRepair.Text
