/-! Text is the list of its characters. The operations here take a text apart at a leading
text or at a marking character, and look for one text inside another.
-/

namespace DiagramRepair

/-- A text is the list of its characters; lengths and cuts count characters. -/
abbrev Text := List Char

namespace Text

/-- What follows `lead` in a text that starts with it. -/
def afterLead? : (lead : Text) → Text → Option Text
  | [], rest => some rest
  | _ :: _, [] => none
  | expected :: lead, c :: rest => if c = expected then afterLead? lead rest else none

/-- Whether the text starts with `lead`. -/
def startsWith (lead text : Text) : Bool :=
  (afterLead? lead text).isSome

/-- The two sides of the first occurrence of a character. -/
def cutAt? (mark : Char) : Text → Option (Text × Text)
  | [] => none
  | c :: rest =>
      if c = mark then some ([], rest)
      else (cutAt? mark rest).map fun sides => (c :: sides.1, sides.2)

/-- The text before the first `mark`, or all of it. -/
def before (mark : Char) (text : Text) : Text :=
  text.takeWhile (· ≠ mark)

/-- The text behind the first `mark`, or nothing. -/
def behind (mark : Char) (text : Text) : Text :=
  (text.dropWhile (· ≠ mark)).drop 1

/-- Whether `needle` occurs somewhere in the text. -/
def occursIn (needle : Text) : Text → Bool
  | [] => needle.isEmpty
  | c :: rest => startsWith needle (c :: rest) || occursIn needle rest

/-- Texts one after another with `separator` between neighbours. -/
def joinWith (separator : Text) (parts : List Text) : Text :=
  List.intercalate separator parts

theorem length_dropWhile_le (keep : Char → Bool) (text : Text)
    : (text.dropWhile keep).length ≤ text.length :=
  (List.dropWhile_suffix keep).length_le

/-- What is behind a mark lacks at least the mark. -/
theorem length_behind_le (mark : Char) (text : Text)
    : (behind mark text).length ≤ text.length - 1 := by
  have := length_dropWhile_le (· ≠ mark) text
  rw [behind, List.length_drop]
  omega

theorem afterLead?_eq_some_iff {lead text rest : Text}
    : afterLead? lead text = some rest ↔ text = lead ++ rest := by
  induction lead generalizing text with
  | nil => simp [afterLead?]
  | cons expected lead ih =>
      cases text with
      | nil => simp [afterLead?]
      | cons c text =>
          by_cases h : c = expected
          · simp [afterLead?, h, ih]
          · simp [afterLead?, h]

theorem cutAt?_eq_some {mark : Char} {text front back : Text}
    (h : cutAt? mark text = some (front, back))
    : text = front ++ mark :: back ∧ mark ∉ front := by
  induction text generalizing front with
  | nil => simp [cutAt?] at h
  | cons c text ih =>
      by_cases hc : c = mark
      · simp only [cutAt?, hc, if_true, Option.some.injEq, Prod.mk.injEq] at h
        obtain ⟨rfl, rfl⟩ := h
        simp [hc]
      · simp only [cutAt?, hc, if_false, Option.map_eq_some_iff, Prod.mk.injEq] at h
        obtain ⟨⟨front', back'⟩, hcut, rfl, rfl⟩ := h
        obtain ⟨rfl, hmem⟩ := ih hcut
        simp [hmem, Ne.symm hc]

theorem length_lt_of_cutAt? {mark : Char} {text front back : Text}
    (h : cutAt? mark text = some (front, back))
    : back.length < text.length := by
  rw [(cutAt?_eq_some h).1, List.length_append, List.length_cons]
  omega

end Text

end DiagramRepair
