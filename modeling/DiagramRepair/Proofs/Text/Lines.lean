import DiagramRepair.Proofs.Text.Trim
import DiagramRepair.Text.Lines
import Mathlib.Algebra.GroupWithZero.Nat
import Mathlib.Data.List.Forall2

/-! Lines joined to a text and read back. A carriage return at the end of a line is lost when
the text is read, unless the line is the last one; nothing else changes.
-/

namespace DiagramRepair.Text

/-- The line without a carriage return at its end. -/
def chop (line : Text) : Text :=
  if line.getLast? = some '\r' then line.dropLast else line

/-- All lines but the last one without the carriage return at their ends. -/
def chopInit : List Text → List Text
  | [] => []
  | [line] => [line]
  | line :: next :: rest => chop line :: chopInit (next :: rest)

/-- A line that holds no line feed. -/
def IsLine (line : Text) : Prop :=
  '\n' ∉ line

theorem chop_of_getLast?_ne {line : Text} (h : line.getLast? ≠ some '\r') : chop line = line :=
  if_neg h

@[simp]
theorem chop_append_return (line : Text) : chop (line ++ ['\r']) = line := by
  simp [chop]

/-- What is cut off a line is nothing or one carriage return. -/
theorem eq_chop_append (line : Text) : line = chop line ∨ line = chop line ++ ['\r'] := by
  rcases List.eq_nil_or_concat line with rfl | ⟨front, c, rfl⟩
  · exact Or.inl rfl
  · by_cases hc : c = '\r'
    · subst hc
      exact Or.inr (by simp)
    · exact Or.inl (chop_of_getLast?_ne (by simpa using hc)).symm

theorem IsLine.chop {line : Text} (h : IsLine line) : IsLine (chop line) := by
  intro hm
  rcases eq_chop_append line with he | he
  · exact h (he ▸ hm)
  · exact h (he ▸ List.mem_append_left _ hm)

theorem dropReturns_of_isLine {line : Text} (h : IsLine line) : dropReturns line = line := by
  fun_induction dropReturns line with
  | case1 rest ih => simp [IsLine] at h
  | case2 c rest _ ih => rw [ih (fun hm => h (List.mem_cons_of_mem _ hm))]
  | case3 => rfl

theorem chop_cons_cons (c d : Char) (rest : Text)
    : chop (c :: d :: rest) = c :: chop (d :: rest) := by
  simp only [chop, List.getLast?_cons_cons, List.dropLast_cons_cons]
  split <;> rfl

/-- Reading goes line by line, by induction on the first line. -/
theorem dropReturns_append {line : Text} (h : IsLine line) (rest : Text)
    : dropReturns (line ++ '\n' :: rest) = chop line ++ '\n' :: dropReturns rest := by
  induction line with
  | nil => simp [dropReturns, chop]
  | cons c line ih =>
      have hline : IsLine line := fun hm => h (List.mem_cons_of_mem _ hm)
      have hc : c ≠ '\n' := fun he => h (he ▸ List.mem_cons_self)
      cases line with
      | nil =>
          by_cases hr : c = '\r'
          · subst hr
            simp [dropReturns, chop]
          · have hchop : chop [c] = [c] := chop_of_getLast?_ne (by simpa using hr)
            rw [hchop, List.singleton_append, dropReturns]
            · simp [dropReturns]
            · intro _ hcr
              exact absurd hcr hr
      | cons d line =>
          have hd : d ≠ '\n' := fun he => hline (he ▸ List.mem_cons_self)
          rw [chop_cons_cons, List.cons_append, dropReturns, ih hline, List.cons_append]
          rintro _ - he
          exact hd (List.cons.inj he).1

/-- No piece of a text cut at a mark holds the mark, by induction on the text. -/
theorem not_mem_of_mem_splitOn {mark : Char} {text piece : Text} (h : piece ∈ text.splitOn mark)
    : mark ∉ piece := by
  induction text generalizing piece with
  | nil =>
      rw [List.splitOn_nil, List.mem_singleton] at h
      simp [h]
  | cons c text ih =>
      rw [List.splitOn_cons_eq_if_modifyHead] at h
      split at h
      · rcases List.mem_cons.1 h with rfl | h
        · simp
        · exact ih h
      · rename_i hc
        have hne : mark ≠ c := fun he => hc (by simp [he])
        cases hs : text.splitOn mark with
        | nil => exact absurd hs (List.splitOn_ne_nil _ _)
        | cons first rest =>
            rw [hs, List.modifyHead_cons] at h
            rcases List.mem_cons.1 h with rfl | h
            · have hfirst : first ∈ text.splitOn mark := by simp [hs]
              simpa [hne] using ih hfirst
            · exact ih (by simp [hs, h])

theorem isLine_of_mem_lines {text line : Text} (h : line ∈ lines text) : IsLine line :=
  not_mem_of_mem_splitOn h

theorem lines_ne_nil (text : Text) : lines text ≠ [] :=
  List.splitOn_ne_nil _ _

theorem joinLines_cons_cons (line next : Text) (rest : List Text)
    : joinLines (line :: next :: rest) = line ++ '\n' :: joinLines (next :: rest) := by
  simp [joinLines, joinWith]

/-- Lines without a line feed can be told from the text they make up. -/
theorem joinLines_inj {first second : List Text}
    (hf : ∀ line ∈ first, IsLine line) (hs : ∀ line ∈ second, IsLine line)
    (hfn : first ≠ []) (hsn : second ≠ []) (h : joinLines first = joinLines second)
    : first = second := by
  have hsplit := congrArg (List.splitOn '\n') h
  simpa only [joinLines, joinWith, List.splitOn_intercalate '\n' hf hfn,
    List.splitOn_intercalate '\n' hs hsn] using hsplit

/-- Reading a text and joining its lines again only drops carriage returns. -/
theorem joinLines_lines (text : Text) : joinLines (lines text) = dropReturns text :=
  List.intercalate_splitOn _

theorem count_dropReturns {c : Char} (hc : c ≠ '\r') (text : Text)
    : (dropReturns text).count c = text.count c := by
  fun_induction dropReturns text with
  | case1 rest ih => simp [List.count_cons, ih, Ne.symm hc]
  | case2 d rest _ ih => rw [List.count_cons, List.count_cons, ih]
  | case3 => rfl

theorem count_joinLines {c : Char} (hc : c ≠ '\n') (ls : List Text)
    : (joinLines ls).count c = (ls.map (List.count c)).sum := by
  induction ls with
  | nil => rfl
  | cons line rest ih =>
      cases rest with
      | nil => simp [joinLines, joinWith]
      | cons next rest =>
          rw [joinLines_cons_cons, List.count_append, List.count_cons, ih]
          simp [Ne.symm hc]

/-- Joined lines read back, by induction on the lines. -/
theorem lines_joinLines {ls : List Text} (h : ∀ line ∈ ls, IsLine line) (hn : ls ≠ [])
    : lines (joinLines ls) = chopInit ls := by
  induction ls with
  | nil => exact absurd rfl hn
  | cons line rest ih =>
      have hline : IsLine line := h line List.mem_cons_self
      cases rest with
      | nil =>
          simp only [joinLines, joinWith, List.intercalate_singleton, lines,
            dropReturns_of_isLine hline, chopInit]
          exact List.splitOn_eq_singleton hline
      | cons next rest =>
          have hrest := ih (fun other ho => h other (List.mem_cons_of_mem _ ho)) (by simp)
          rw [joinLines_cons_cons, lines, dropReturns_append hline, chopInit, ← hrest, lines,
            List.splitOn_append_cons_self_of_not_mem hline.chop]

/-- A carriage return is a blank, so a line is trimmed alike with and without it. -/
@[simp]
theorem trim_chop (line : Text) : trim (chop line) = trim line := by
  rcases eq_chop_append line with he | he
  · rw [← he]
  · conv => rhs; rw [he]
    refine (trim_append_blank _ ?_).symm
    intro c hc
    rw [List.mem_singleton] at hc
    subst hc
    decide

theorem chop_eq_self_iff {line : Text} : chop line = line ↔ line.getLast? ≠ some '\r' := by
  constructor
  · intro h he
    obtain ⟨front, rfl⟩ := List.getLast?_eq_some_iff.1 he
    simp at h
  · exact chop_of_getLast?_ne

/-- Lines are kept exactly when none but the last one ends in a carriage return. -/
theorem chopInit_eq_self_iff {ls : List Text}
    : chopInit ls = ls ↔ ∀ line ∈ ls.dropLast, line.getLast? ≠ some '\r' := by
  induction ls with
  | nil => simp [chopInit]
  | cons line rest ih =>
      cases rest with
      | nil => simp [chopInit]
      | cons next rest =>
          rw [chopInit, List.cons.injEq, ih, chop_eq_self_iff, List.dropLast_cons_cons,
            List.forall_mem_cons]

/-- Lines without line ends are read back as they are. -/
theorem lines_joinLines_of_returnless {ls : List Text} (hf : ∀ line ∈ ls, IsLine line)
    (hr : ∀ line ∈ ls, '\r' ∉ line) (hn : ls ≠ [])
    : lines (joinLines ls) = ls := by
  rw [lines_joinLines hf hn, chopInit_eq_self_iff]
  intro line hm hlast
  exact hr line (List.dropLast_subset _ hm) (List.mem_of_getLast? hlast)

theorem chop_eq_self_of_count {line : Text} (h : line.count '\r' = (chop line).count '\r')
    : chop line = line := by
  rcases eq_chop_append line with he | he
  · exact he.symm
  · rw [congrArg (List.count '\r') he, List.count_append] at h
    simp at h

/-- Lines that come back with all their carriage returns are kept, by induction on them. -/
theorem chopInit_eq_self_of_count {ls : List Text}
    (h : List.Forall₂ (fun read line => line.count '\r' = read.count '\r') (chopInit ls) ls)
    : chopInit ls = ls := by
  induction ls with
  | nil => rfl
  | cons line rest ih =>
      cases rest with
      | nil => rfl
      | cons next rest =>
          rw [chopInit] at h ⊢
          cases h with
          | cons hline hrest => rw [chop_eq_self_of_count hline, ih hrest]

/-- The second lines are the first ones, but for blanks around them. -/
def SameTrimmed (first second : List Text) : Prop :=
  List.Forall₂ (fun line read => trim line = trim read) first second

theorem SameTrimmed.refl (ls : List Text) : SameTrimmed ls ls :=
  List.forall₂_same.2 fun _ _ => rfl

theorem SameTrimmed.exists_of_mem {first second : List Text} (h : SameTrimmed first second)
    {read : Text} (hr : read ∈ second)
    : ∃ line ∈ first, trim line = trim read := by
  induction h with
  | nil => contradiction
  | @cons line other first second hline _ ih =>
      rcases List.mem_cons.1 hr with rfl | hr
      · exact ⟨line, List.mem_cons_self, hline⟩
      · obtain ⟨found, hf, hfound⟩ := ih hr
        exact ⟨found, List.mem_cons_of_mem _ hf, hfound⟩

theorem SameTrimmed.exists_append {front back second : List Text}
    (h : SameTrimmed (front ++ back) second)
    : ∃ first rest, second = first ++ rest ∧ SameTrimmed front first ∧ SameTrimmed back rest := by
  induction front generalizing second with
  | nil => exact ⟨[], second, rfl, .nil, h⟩
  | cons line front ih =>
      cases h with
      | @cons _ read _ second hline hrest =>
          obtain ⟨first, rest, rfl, hfirst, hback⟩ := ih hrest
          exact ⟨read :: first, rest, rfl, .cons hline hfirst, hback⟩

theorem sameTrimmed_chopInit (ls : List Text) : SameTrimmed ls (chopInit ls) := by
  induction ls with
  | nil => exact .nil
  | cons line rest ih =>
      cases rest with
      | nil => exact .cons rfl .nil
      | cons next rest => exact .cons (trim_chop line).symm ih

end DiagramRepair.Text
