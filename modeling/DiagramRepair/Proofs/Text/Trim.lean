import DiagramRepair.Text.Blank
import Mathlib.Data.Bool.AllAny
import Mathlib.Data.List.TakeWhile

/-! A text is its indentation, its trimmed part and the blanks behind it. The trimmed part has
no blank at its ends, and blanks added around a text do not change it.
-/

namespace DiagramRepair.Text

/-- Every character of the text is blank. -/
def AllBlank (text : Text) : Prop :=
  ∀ c ∈ text, isBlank c = true

theorem isAllBlank_iff {text : Text} : isAllBlank text = true ↔ AllBlank text := by
  simp [isAllBlank, AllBlank]

theorem allBlank_indent (text : Text) : AllBlank (indent text) := by
  intro c hc
  exact (List.mem_takeWhile_imp hc)

theorem AllBlank.not_mem {text : Text} (h : AllBlank text) {c : Char} (hc : isBlank c = false)
    : c ∉ text := by
  intro hm
  rw [h c hm] at hc
  cases hc

theorem AllBlank.append {front back : Text} (hf : AllBlank front) (hb : AllBlank back)
    : AllBlank (front ++ back) := by
  intro c hc
  rcases List.mem_append.1 hc with hc | hc
  · exact hf c hc
  · exact hb c hc

theorem AllBlank.eq_nil {text : Text} (h : AllBlank text)
    (hl : ∀ c, text.getLast? = some c → isBlank c = false)
    : text = [] := by
  cases hlast : text.getLast? with
  | none => exact List.getLast?_eq_none_iff.1 hlast
  | some c =>
      have hc := h c (List.mem_of_getLast? hlast)
      rw [hl c hlast] at hc
      cases hc

theorem getLast?_of_suffix {text last : Text} (h : last <:+ text) (hne : last ≠ [])
    : text.getLast? = last.getLast? := by
  obtain ⟨front, rfl⟩ := h
  rw [List.getLast?_append, List.getLast?_eq_some_getLast hne, Option.some_or]

theorem solid_of_suffix {text back : Text} (h : back <:+ text)
    (hl : ∀ c, text.getLast? = some c → isBlank c = false)
    : ∀ c, back.getLast? = some c → isBlank c = false := by
  obtain ⟨front, rfl⟩ := h
  intro c hc
  exact hl c (by rw [List.getLast?_append, hc, Option.some_or])

theorem trimLeft_blank_append {front : Text} (text : Text) (hf : AllBlank front)
    : trimLeft (front ++ text) = trimLeft text :=
  List.dropWhile_append_of_pos hf

theorem trimRight_append_blank (text : Text) {back : Text} (hb : AllBlank back)
    : trimRight (text ++ back) = trimRight text := by
  unfold trimRight
  rw [List.reverse_append, List.dropWhile_append_of_pos]
  intro c hc
  exact hb c (List.mem_reverse.1 hc)

theorem trimLeft_append_of_not_blank {c : Char} (rest : Text) (hc : isBlank c = false)
    : trimLeft (c :: rest) = c :: rest := by
  simp [trimLeft, hc]

theorem trimRight_append_of_not_blank (front : Text) {c : Char} (hc : isBlank c = false)
    : trimRight (front ++ [c]) = front ++ [c] := by
  simp [trimRight, hc]

/-- What is cut off the right end is blank, by cases on where the reversed text stops being
blank. -/
theorem exists_eq_trimRight_append (text : Text)
    : ∃ back, AllBlank back ∧ text = trimRight text ++ back := by
  refine ⟨(text.reverse.takeWhile isBlank).reverse, ?_, ?_⟩
  · intro c hc
    exact List.mem_takeWhile_imp (List.mem_reverse.1 hc)
  · rw [trimRight, ← List.reverse_append, List.takeWhile_append_dropWhile, List.reverse_reverse]

/-- A text in its three parts. -/
theorem exists_eq_trim_append (text : Text)
    : ∃ back, AllBlank back ∧ text = indent text ++ trim text ++ back := by
  obtain ⟨back, hb, he⟩ := exists_eq_trimRight_append (trimLeft text)
  refine ⟨back, hb, ?_⟩
  rw [trim, List.append_assoc, ← he, indent_append_trimLeft]

theorem trim_isInfix (text : Text) : trim text <:+: text := by
  obtain ⟨back, -, htext⟩ := exists_eq_trim_append text
  exact ⟨indent text, back, htext.symm⟩

@[simp]
theorem trimRight_trimRight (text : Text) : trimRight (trimRight text) = trimRight text := by
  obtain ⟨back, hb, he⟩ := exists_eq_trimRight_append text
  rw [← trimRight_append_blank _ hb, ← he]

theorem isBlank_getLast?_trimRight {text : Text} {c : Char}
    (h : (trimRight text).getLast? = some c)
    : isBlank c = false := by
  rw [trimRight, List.getLast?_reverse] at h
  have hh := List.head?_dropWhile_not isBlank text.reverse
  rw [h] at hh
  simpa using hh

theorem not_mem_trimLeft {text : Text} {c : Char} (h : c ∉ text) : c ∉ trimLeft text :=
  fun hm => h ((List.dropWhile_suffix _).subset hm)

theorem isBlank_head?_trimLeft {text : Text} {c : Char} (h : (trimLeft text).head? = some c)
    : isBlank c = false := by
  have hh := List.head?_dropWhile_not isBlank text
  rw [trimLeft] at h
  rw [h] at hh
  simpa using hh

@[simp]
theorem trimLeft_trimLeft (text : Text) : trimLeft (trimLeft text) = trimLeft text := by
  cases h : trimLeft text with
  | nil => rfl
  | cons c rest =>
      exact trimLeft_append_of_not_blank rest (isBlank_head?_trimLeft (by rw [h, List.head?_cons]))

theorem isBlank_getLast?_trim {text : Text} {c : Char} (h : (trim text).getLast? = some c)
    : isBlank c = false :=
  isBlank_getLast?_trimRight h

/-- The right end of a text does not matter for the first character that is left. -/
theorem isBlank_head?_trim {text : Text} {c : Char} (h : (trim text).head? = some c)
    : isBlank c = false := by
  obtain ⟨back, -, he⟩ := exists_eq_trimRight_append (trimLeft text)
  have hhead : (trimLeft text).head? = some c := by
    rw [he, List.head?_append]
    simp only [trim] at h
    simp [h]
  exact isBlank_head?_trimLeft hhead

/-- Nothing is trimmed off a text without a blank at its ends. -/
theorem trim_eq_self {text : Text}
    (hh : ∀ c, text.head? = some c → isBlank c = false)
    (hl : ∀ c, text.getLast? = some c → isBlank c = false)
    : trim text = text := by
  have hleft : trimLeft text = text := by
    cases text with
    | nil => rfl
    | cons c rest => exact trimLeft_append_of_not_blank rest (hh c rfl)
  rw [trim, hleft]
  rcases List.eq_nil_or_concat text with rfl | ⟨front, c, rfl⟩
  · rfl
  · simpa using trimRight_append_of_not_blank front (hl c (by simp))

/-- What is no blank at both ends keeps a text as it is. -/
theorem trim_enclosed {first last : Char} (hf : isBlank first = false) (hl : isBlank last = false)
    (inside : Text)
    : trim (first :: inside ++ [last]) = first :: inside ++ [last] := by
  apply trim_eq_self
  · intro c hc
    obtain rfl := Option.some.inj hc
    exact hf
  · intro c hc
    rw [List.getLast?_concat] at hc
    obtain rfl := Option.some.inj hc
    exact hl

@[simp]
theorem trim_trim (text : Text) : trim (trim text) = trim text :=
  trim_eq_self (fun _ => isBlank_head?_trim) (fun _ => isBlank_getLast?_trim)

/-- A character that is not blank keeps its place before what is trimmed at the right end. -/
theorem trimRight_cons {c : Char} (rest : Text) (hc : isBlank c = false)
    : trimRight (c :: rest) = c :: trimRight rest := by
  obtain ⟨back, hb, he⟩ := exists_eq_trimRight_append rest
  have hsame : trimRight (c :: rest) = trimRight (c :: trimRight rest) := by
    rw [← trimRight_append_blank (c :: trimRight rest) hb, List.cons_append, ← he]
  rw [hsame]
  rcases List.eq_nil_or_concat (trimRight rest) with hn | ⟨front, d, hd⟩
  · simpa [hn] using trimRight_append_of_not_blank [] hc
  · have hlast : (trimRight rest).getLast? = some d := by simp [hd]
    have hsolid := isBlank_getLast?_trimRight hlast
    simpa [hd] using trimRight_append_of_not_blank (c :: front) hsolid

theorem trim_cons {c : Char} (rest : Text) (hc : isBlank c = false)
    : trim (c :: rest) = c :: trimRight rest := by
  rw [trim, trimLeft_append_of_not_blank rest hc, trimRight_cons rest hc]

theorem trim_blank_append {front : Text} (text : Text) (hf : AllBlank front)
    : trim (front ++ text) = trim text := by
  rw [trim, trimLeft_blank_append text hf, trim]

theorem trim_eq_nil_iff {text : Text} : trim text = [] ↔ AllBlank text := by
  constructor
  · intro h
    obtain ⟨back, hb, he⟩ := exists_eq_trim_append text
    rw [h, List.append_nil] at he
    exact he ▸ (allBlank_indent text).append hb
  · intro h
    simpa [trim, trimLeft, trimRight] using trim_blank_append [] h

/-- Blanks behind a text are trimmed even where nothing else is left of it. -/
theorem trim_append_blank (text : Text) {back : Text} (hb : AllBlank back)
    : trim (text ++ back) = trim text := by
  obtain ⟨tail, ht, he⟩ := exists_eq_trim_append text
  rcases hcore : trim text with _ | ⟨c, core⟩
  · have hall : AllBlank (text ++ back) := by
      rw [he, hcore, List.append_nil]
      exact ((allBlank_indent text).append ht).append hb
    exact trim_eq_nil_iff.2 hall
  · have hhead : (trim text).head? = some c := by simp [hcore]
    have hc := isBlank_head?_trim hhead
    rw [he, hcore, List.append_assoc, List.append_assoc, trim_blank_append _ (allBlank_indent text),
      trim, List.cons_append, trimLeft_append_of_not_blank _ hc, ← List.cons_append,
      trimRight_append_blank _ (ht.append hb), ← hcore]
    exact trimRight_trimRight (trimLeft text)

/-- Where no blank is kept, trimming does not change what is kept. -/
theorem filter_trim {keep : Char → Bool} (h : ∀ c, isBlank c = true → keep c = false)
    (text : Text)
    : (trim text).filter keep = text.filter keep := by
  have hnone : ∀ gap : Text, AllBlank gap → gap.filter keep = [] := by
    intro gap hgap
    rw [List.filter_eq_nil_iff]
    intro c hc
    simp [h c (hgap c hc)]
  obtain ⟨back, hback, htext⟩ := exists_eq_trim_append text
  conv => rhs; rw [htext]
  rw [List.filter_append, List.filter_append, hnone _ (allBlank_indent text), hnone _ hback,
    List.nil_append, List.append_nil]

/-- A blank is another character than one that is not blank. -/
theorem beq_of_isBlank {c : Char} (hc : isBlank c = false) (d : Char) (hd : isBlank d = true)
    : (d == c) = false := by
  refine beq_false_of_ne ?_
  rintro rfl
  exact absurd hd (by simp [hc])

theorem trimRight_eq_self {text : Text} (h : ∀ c, text.getLast? = some c → isBlank c = false)
    : trimRight text = text := by
  rcases List.eq_nil_or_concat text with rfl | ⟨front, c, rfl⟩
  · rfl
  · rw [List.concat_eq_append]
    exact trimRight_append_of_not_blank front (h c (by simp))

/-- A character that is not blank parts what is trimmed on its two sides. -/
theorem trimRight_append_cons (front : Text) {c : Char} (rest : Text) (hc : isBlank c = false)
    : trimRight (front ++ c :: rest) = front ++ c :: trimRight rest := by
  obtain ⟨back, hb, he⟩ := exists_eq_trimRight_append rest
  have hassoc : front ++ c :: rest = (front ++ c :: trimRight rest) ++ back := by
    rw [List.append_assoc, List.cons_append, ← he]
  rw [hassoc, trimRight_append_blank _ hb]
  refine trimRight_eq_self (fun d hd => ?_)
  rw [List.getLast?_append, List.getLast?_cons] at hd
  cases hlast : (trimRight rest).getLast? with
  | none =>
      obtain rfl : c = d := by simpa [hlast] using hd
      exact hc
  | some last =>
      obtain rfl : last = d := by simpa [hlast] using hd
      exact isBlank_getLast?_trimRight hlast

theorem trim_append_cons (front : Text) {c : Char} (rest : Text) (hc : isBlank c = false)
    : trim (front ++ c :: rest) = trimLeft front ++ c :: trimRight rest := by
  have hleft : trimLeft (front ++ c :: rest) = trimLeft front ++ c :: rest := by
    rw [trimLeft, List.dropWhile_append, trimLeft]
    split
    · rename_i hnil
      rw [List.isEmpty_iff] at hnil
      rw [hnil, List.dropWhile_cons_of_neg (by simp [hc]), List.nil_append]
    · rfl
  rw [trim, hleft, trimRight_append_cons _ _ hc]

end DiagramRepair.Text
