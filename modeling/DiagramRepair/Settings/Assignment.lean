import DiagramRepair.Settings.Quotation
import DiagramRepair.Text.Blank

/-! Assignments, as a file of variables lists them. One starts a line with a name; an equals sign
and a value may follow. A value in quotes may go on over several lines, and any other ends with
its line. A remark starts with a number sign. What cannot be read is skipped to the end of its
line.
-/

namespace DiagramRepair.Settings

/-- A name, and the value that it is given, if it is given one. -/
abbrev Assignment := Text × Option Text

namespace Assignment

/-- A blank that does not end a line. -/
def isSpace (c : Char) : Bool :=
  Text.isBlank c && c != '\n'

def skipSpaces (text : Text) : Text :=
  text.dropWhile isSpace

/-- Whether nothing but a remark follows on the line. -/
def endsLine (text : Text) : Bool :=
  match skipSpaces text with
  | [] => true
  | c :: _ => c = '\n' || c = '#'

/-- The word that may stand before a name. -/
def skipExport (text : Text) : Text :=
  match Text.afterLead? "export".toList text with
  | some (c :: rest) => if isSpace c then skipSpaces rest else text
  | _ => text

def isNameCharacter (c : Char) : Bool :=
  !Text.isBlank c && c != '=' && c != '#'

/-- The name that a text starts with, in single quotes or bare, and what follows it. -/
def name? : Text → Option (Text × Text)
  | '\x27' :: rest => (Text.cutAt? '\x27' rest).filter fun sides => !sides.1.isEmpty
  | text =>
      match text.takeWhile isNameCharacter with
      | [] => none
      | name => some (name, text.dropWhile isNameCharacter)

/-- A value without quotes ends at a number sign that a blank stands before. -/
def bareValue : Text → Text
  | [] => []
  | c :: rest =>
      if Text.isBlank c && endsLine rest then []
      else c :: bareValue rest

/-- The value in quotes that stands in front of a text, if the quotes are closed. -/
def quotedValue (quotation : Quotation) (text : Text) : Option Text × Text :=
  match quotation.cutAtClose? text with
  | some (value, behind) => (some (quotation.unescape value), behind)
  | none => (none, text)

/-- The value behind an equals sign, and what follows it. -/
def value (text : Text) : Option Text × Text :=
  match skipSpaces text with
  | '\x27' :: rest => quotedValue .single rest
  | '"' :: rest => quotedValue .double rest
  | _ => (some (Text.trim (bareValue (Text.before '\n' text))), text.dropWhile (· ≠ '\n'))

/-- The assignment that a text starts with, if it can be read, and the text from where the
reading stops. -/
def read (text : Text) : Option Assignment × Text :=
  match name? (skipExport text) with
  | none => (none, text)
  | some (name, rest) =>
      match skipSpaces rest with
      | '=' :: back =>
          let (value, behind) := value back
          ((value.filter fun _ => endsLine behind).map fun value => (name, some value), behind)
      | _ => (if endsLine rest then some (name, none) else none, rest)

theorem length_skipSpaces_le (text : Text) : (skipSpaces text).length ≤ text.length :=
  Text.length_dropWhile_le _ _

theorem length_skipExport_le (text : Text) : (skipExport text).length ≤ text.length := by
  unfold skipExport
  split
  · rename_i c rest h
    have htext := Text.afterLead?_eq_some_iff.1 h
    have hrest := length_skipSpaces_le rest
    split
    · rw [htext]
      simp only [List.length_append, List.length_cons]
      omega
    · exact Nat.le_refl _
  · exact Nat.le_refl _

theorem length_le_of_name? {text name rest : Text} (h : name? text = some (name, rest))
    : rest.length ≤ text.length := by
  unfold name? at h
  split at h
  · have := Text.length_lt_of_cutAt? (Option.eq_some_of_filter_eq_some h)
    simp only [List.length_cons]
    omega
  · split at h
    · simp at h
    · obtain ⟨_, rfl⟩ := Prod.mk.inj (Option.some.inj h)
      exact Text.length_dropWhile_le _ _

theorem length_quotedValue_le (quotation : Quotation) (text : Text)
    : (quotedValue quotation text).2.length ≤ text.length := by
  unfold quotedValue
  split
  · rename_i h
    exact Nat.le_of_lt (Quotation.length_lt_of_cutAtClose? h)
  · exact Nat.le_refl _

theorem length_value_le (text : Text) : (value text).2.length ≤ text.length := by
  have hskip := length_skipSpaces_le text
  unfold value
  split
  · rename_i rest h
    have := length_quotedValue_le .single rest
    rw [h, List.length_cons] at hskip
    omega
  · rename_i rest h
    have := length_quotedValue_le .double rest
    rw [h, List.length_cons] at hskip
    omega
  · exact Text.length_dropWhile_le _ _

theorem length_read_le (text : Text) : (read text).2.length ≤ text.length := by
  have hexport := length_skipExport_le text
  unfold read
  split
  · exact Nat.le_refl _
  · rename_i name rest h
    have hrest := length_le_of_name? h
    have hskip := length_skipSpaces_le rest
    split
    · rename_i back hback
      have := length_value_le back
      rw [hback, List.length_cons] at hskip
      dsimp only
      omega
    · dsimp only
      omega

/-- The assignments of a text, in their order. -/
def readAll (text : Text) : List Assignment :=
  match _h : Text.trimLeft text with
  | [] => []
  | c :: rest =>
      let first := read (c :: rest)
      first.1.toList ++ readAll (Text.behind '\n' first.2)
termination_by text.length
decreasing_by
  have htrim := Text.length_dropWhile_le Text.isBlank text
  have hread := length_read_le (c :: rest)
  have hbehind := Text.length_behind_le '\n' (read (c :: rest)).2
  rw [show text.dropWhile Text.isBlank = c :: rest from _h] at htrim
  simp only [List.length_cons] at htrim hread
  omega

end Assignment

end DiagramRepair.Settings
