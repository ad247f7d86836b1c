import DiagramRepair.Text.Basic

/-! Values in quotes. A backslash belongs to the character behind it: it keeps a quote from closing
the value, and stands with some characters for another one.
-/

namespace DiagramRepair.Settings

inductive Quotation where
  | single
  | double
  deriving DecidableEq

namespace Quotation

/-- The quote at both ends of the value. -/
def mark : Quotation → Char
  | .single => '\x27'
  | .double => '"'

/-- What a character stands for behind a backslash. -/
def escaped? : Quotation → Char → Option Char
  | _, '\\' => some '\\'
  | _, '\x27' => some '\x27'
  | .single, _ => none
  | .double, '"' => some '"'
  | .double, 'a' => some '\x07'
  | .double, 'b' => some '\x08'
  | .double, 't' => some '\t'
  | .double, 'n' => some '\n'
  | .double, 'v' => some '\x0B'
  | .double, 'f' => some '\x0C'
  | .double, 'r' => some '\r'
  | .double, _ => none

/-- A text with its escapes replaced. A backslash that escapes nothing stays. -/
def unescape (quotation : Quotation) : Text → Text
  | [] => []
  | '\\' :: c :: rest =>
      match quotation.escaped? c with
      | some meant => meant :: unescape quotation rest
      | none => '\\' :: unescape quotation (c :: rest)
  | c :: rest => c :: unescape quotation rest

/-- The two sides of the closing quote. A backslash and the character behind it belong together,
so that a quote behind a backslash closes only where no other quote does; of several such it is
the last one. -/
def cutAtClose? (quotation : Quotation) : Text → Option (Text × Text)
  | [] => none
  | '\\' :: c :: rest =>
      match cutAtClose? quotation rest with
      | some (value, behind) => some ('\\' :: c :: value, behind)
      | none => if c = quotation.mark then some (['\\'], rest) else none
  | c :: rest =>
      if c = quotation.mark then some ([], rest)
      else (cutAtClose? quotation rest).map fun sides => (c :: sides.1, sides.2)

theorem length_lt_of_cutAtClose? {quotation : Quotation} {text value behind : Text}
    (h : quotation.cutAtClose? text = some (value, behind))
    : behind.length < text.length := by
  fun_induction cutAtClose? quotation text generalizing value behind with
  | case1 => simp at h
  | case2 c rest value' behind' hcut ih =>
      obtain ⟨rfl, rfl⟩ := Prod.mk.inj (Option.some.inj h)
      have := ih hcut
      simp only [List.length_cons]
      omega
  | case3 rest hcut ih =>
      obtain ⟨rfl, rfl⟩ := Prod.mk.inj (Option.some.inj h)
      simp only [List.length_cons]
      omega
  | case4 => simp at h
  | case5 rest =>
      obtain ⟨rfl, rfl⟩ := Prod.mk.inj (Option.some.inj h)
      simp
  | case6 c rest _ hmark ih =>
      obtain ⟨sides, hsides, heq⟩ := Option.map_eq_some_iff.1 h
      obtain ⟨rfl, rfl⟩ := Prod.mk.inj heq
      have := ih hsides
      simp only [List.length_cons]
      omega

end Quotation

end DiagramRepair.Settings
