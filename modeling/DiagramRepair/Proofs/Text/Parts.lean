import DiagramRepair.Proofs.Text.Cut
import DiagramRepair.Proofs.Text.Lines

/-! Parts of a text, and its end. A character that a part does not hold cannot stand inside it, so
the part lies on one side of that character, and on one line where texts are joined to lines.
-/

namespace DiagramRepair.Text

-----------------------------------------------------------------------------------------
-- Joined texts
-----------------------------------------------------------------------------------------

theorem joinWith_cons_cons (separator first second : Text) (rest : List Text)
    : joinWith separator (first :: second :: rest)
      = first ++ separator ++ joinWith separator (second :: rest) := by
  simp [joinWith]

theorem mem_joinWith {separator : Text} {parts : List Text} {c : Char}
    (h : c ∈ joinWith separator parts)
    : c ∈ separator ∨ ∃ part ∈ parts, c ∈ part := by
  induction parts with
  | nil => simp [joinWith] at h
  | cons first rest ih =>
      cases rest with
      | nil => exact Or.inr ⟨first, by simp, by simpa [joinWith] using h⟩
      | cons second rest =>
          rw [joinWith_cons_cons, List.mem_append, List.mem_append] at h
          rcases h with (h | h) | h
          · exact Or.inr ⟨first, List.mem_cons_self, h⟩
          · exact Or.inl h
          · rcases ih h with hs | ⟨part, hm, hc⟩
            · exact Or.inl hs
            · exact Or.inr ⟨part, List.mem_cons_of_mem _ hm, hc⟩

/-- Where nothing of the separator is kept, what is kept of the joined parts is kept of the
parts. -/
theorem filter_joinWith {separator : Text} {keep : Char → Bool}
    (h : ∀ c ∈ separator, keep c = false) (parts : List Text)
    : (joinWith separator parts).filter keep = parts.flatten.filter keep := by
  have hnone : separator.filter keep = [] := by simpa [List.filter_eq_nil_iff] using h
  induction parts with
  | nil => rfl
  | cons first rest ih =>
      cases rest with
      | nil => simp [joinWith]
      | cons second rest =>
          rw [joinWith_cons_cons, List.filter_append, List.filter_append, ih, hnone,
            List.append_nil, List.flatten_cons (l := first), List.filter_append]

theorem count_joinWith {separator : Text} {c : Char} (hc : c ∉ separator) (parts : List Text)
    : (joinWith separator parts).count c = parts.flatten.count c := by
  have hseparator : ∀ d ∈ separator, (d == c) = false := fun d hd =>
    beq_false_of_ne (ne_of_mem_of_not_mem hd hc)
  simp only [List.count, List.countP_eq_length_filter, filter_joinWith hseparator]

theorem suffix_joinWith (separator : Text) (parts : List Text) (last : Text)
    : last <:+ joinWith separator (parts ++ [last]) := by
  induction parts with
  | nil => simp [joinWith]
  | cons first rest ih =>
      cases hs : rest ++ [last] with
      | nil => simp at hs
      | cons next more =>
          rw [hs] at ih
          rw [List.cons_append, hs, joinWith_cons_cons]
          exact ih.trans (List.suffix_append _ _)

theorem infix_joinWith (separator : Text) {parts : List Text} {part : Text} (h : part ∈ parts)
    : part <:+: joinWith separator parts := by
  induction parts with
  | nil => contradiction
  | cons first rest ih =>
      cases rest with
      | nil =>
          obtain rfl := List.mem_singleton.1 h
          simp [joinWith]
      | cons next rest =>
          rw [joinWith_cons_cons]
          rcases List.mem_cons.1 h with rfl | h
          · exact ((List.prefix_append part separator).trans (List.prefix_append _ _)).isInfix
          · exact (ih h).trans (List.suffix_append _ _).isInfix

-----------------------------------------------------------------------------------------
-- Parts and characters that they do not hold
-----------------------------------------------------------------------------------------

theorem infix_cons_iff_of_not_mem {part : Text} (hne : part ≠ []) {c : Char} (h : c ∉ part)
    (text : Text)
    : part <:+: c :: text ↔ part <:+: text := by
  refine List.infix_cons_iff.trans (or_iff_right fun hprefix => ?_)
  obtain ⟨d, rest, rfl⟩ := List.exists_cons_of_ne_nil hne
  have heq : d = c := (List.cons_prefix_cons.1 hprefix).1
  exact h (heq ▸ List.mem_cons_self)

/-- By induction on the text in front of the character. -/
theorem infix_append_cons_iff {part : Text} (hne : part ≠ []) {c : Char} (h : c ∉ part)
    (front back : Text)
    : part <:+: front ++ c :: back ↔ part <:+: front ∨ part <:+: back := by
  induction front with
  | nil =>
      have hnil : ¬part <:+: [] := fun hi => hne (List.infix_nil.1 hi)
      rw [List.nil_append, infix_cons_iff_of_not_mem hne h, or_iff_right hnil]
  | cons d front ih =>
      rw [List.cons_append, List.infix_cons_iff, List.infix_cons_iff, ih, ← List.cons_append,
        prefix_append_cons_iff h, or_assoc]

theorem infix_gap_append_iff {part gap : Text} (hne : part ≠ []) (h : ∀ c ∈ gap, c ∉ part)
    (text : Text)
    : part <:+: gap ++ text ↔ part <:+: text := by
  induction gap with
  | nil => rfl
  | cons c gap ih =>
      rw [List.forall_mem_cons] at h
      rw [List.cons_append, infix_cons_iff_of_not_mem hne h.1, ih h.2]

theorem infix_append_gap_iff {part gap : Text} (hne : part ≠ []) (h : ∀ c ∈ gap, c ∉ part)
    (text : Text)
    : part <:+: text ++ gap ↔ part <:+: text := by
  cases gap with
  | nil => rw [List.append_nil]
  | cons c gap =>
      rw [List.forall_mem_cons] at h
      have hgap : ¬part <:+: gap := by
        rw [← List.append_nil gap, infix_gap_append_iff hne h.2]
        exact fun hi => hne (List.infix_nil.1 hi)
      rw [infix_append_cons_iff hne h.1, or_iff_left hgap]

theorem exists_infix_of_joinWith {part : Text} (hne : part ≠ []) {c : Char} (h : c ∉ part)
    {parts : List Text} (hi : part <:+: joinWith [c] parts)
    : ∃ other ∈ parts, part <:+: other := by
  induction parts with
  | nil => exact absurd (List.infix_nil.1 hi) hne
  | cons first rest ih =>
      cases rest with
      | nil => exact ⟨first, List.mem_cons_self, by simpa [joinWith] using hi⟩
      | cons second rest =>
          rw [joinWith_cons_cons, List.append_assoc, List.singleton_append,
            infix_append_cons_iff hne h] at hi
          rcases hi with hi | hi
          · exact ⟨first, List.mem_cons_self, hi⟩
          · obtain ⟨other, ho, hother⟩ := ih hi
            exact ⟨other, List.mem_cons_of_mem _ ho, hother⟩

-----------------------------------------------------------------------------------------
-- Lines
-----------------------------------------------------------------------------------------

theorem infix_joinLines {ls : List Text} {line : Text} (h : line ∈ ls)
    : line <:+: joinLines ls :=
  infix_joinWith ['\n'] h

theorem chop_isPrefix (line : Text) : chop line <+: line := by
  rcases eq_chop_append line with he | he
  · exact ⟨[], by rw [List.append_nil, ← he]⟩
  · exact ⟨['\r'], he.symm⟩

theorem exists_prefix_of_mem_chopInit {ls : List Text} {line : Text} (h : line ∈ chopInit ls)
    : ∃ other ∈ ls, line <+: other := by
  fun_induction chopInit ls with
  | case1 => contradiction
  | case2 first => exact ⟨line, h, List.prefix_refl _⟩
  | case3 first next rest ih =>
      rcases List.mem_cons.1 h with rfl | h
      · exact ⟨first, List.mem_cons_self, chop_isPrefix first⟩
      · obtain ⟨other, ho, hother⟩ := ih h
        exact ⟨other, List.mem_cons_of_mem _ ho, hother⟩

theorem getLast?_chopInit (ls : List Text) : (chopInit ls).getLast? = ls.getLast? := by
  fun_induction chopInit ls with
  | case1 => rfl
  | case2 line => rfl
  | case3 line next rest ih =>
      have hne : chopInit (next :: rest) ≠ [] := by
        cases rest with
        | nil => exact List.cons_ne_nil _ _
        | cons => exact List.cons_ne_nil _ _
      rw [List.getLast?_cons_cons, ← ih, List.getLast?_cons_of_ne_nil hne]

/-- The lines of a text, as they stand in it. -/
theorem exists_lines_eq_chopInit (text : Text)
    : ∃ ls, ls ≠ [] ∧ text = joinLines ls ∧ lines text = chopInit ls := by
  have hjoin : text = joinLines (text.splitOn '\n') := (List.intercalate_splitOn _).symm
  refine ⟨text.splitOn '\n', List.splitOn_ne_nil _ _, hjoin, ?_⟩
  conv => lhs; rw [hjoin]
  exact lines_joinLines (fun _ => not_mem_of_mem_splitOn) (List.splitOn_ne_nil _ _)

theorem infix_of_mem_lines {text line : Text} (h : line ∈ lines text) : line <:+: text := by
  obtain ⟨ls, -, htext, hlines⟩ := exists_lines_eq_chopInit text
  rw [hlines] at h
  obtain ⟨other, ho, hprefix⟩ := exists_prefix_of_mem_chopInit h
  rw [htext]
  exact hprefix.isInfix.trans (infix_joinLines ho)

theorem mem_of_mem_lines {text line : Text} (hl : line ∈ lines text) {c : Char} (hc : c ∈ line)
    : c ∈ text :=
  (infix_of_mem_lines hl).subset hc

theorem returnless_of_mem_lines {text line : Text} (h : '\r' ∉ text) (hl : line ∈ lines text)
    : '\r' ∉ line :=
  fun hm => h (mem_of_mem_lines hl hm)

theorem joinLines_concat {front : List Text} (h : front ≠ []) (last : Text)
    : joinLines (front ++ [last]) = joinLines front ++ '\n' :: last := by
  induction front with
  | nil => contradiction
  | cons first rest ih =>
      cases rest with
      | nil => simp [joinLines, joinWith]
      | cons next rest =>
          rw [List.cons_append, List.cons_append, joinLines_cons_cons, joinLines_cons_cons,
            ← List.cons_append, ih (List.cons_ne_nil next rest), List.append_assoc,
            List.cons_append]

/-- The end of joined lines is that of the last line, unless it is a line feed. -/
theorem getLast?_joinLines_concat (front : List Text) (last : Text) {c : Char} (hc : c ≠ '\n')
    : (joinLines (front ++ [last])).getLast? = some c ↔ last.getLast? = some c := by
  by_cases hfront : front = []
  · rw [hfront, List.nil_append, joinLines, joinWith, List.intercalate_singleton]
  · rw [joinLines_concat hfront, List.getLast?_append_of_ne_nil _ (List.cons_ne_nil _ _)]
    cases last with
    | nil => simp [Ne.symm hc]
    | cons d last => rw [List.getLast?_cons_cons]

/-- The last line of a text ends as the text does. -/
theorem getLast?_of_getLast?_lines {text last : Text} (h : (lines text).getLast? = some last)
    {c : Char} (hc : c ≠ '\n')
    : text.getLast? = some c ↔ last.getLast? = some c := by
  obtain ⟨ls, -, rfl, hlines⟩ := exists_lines_eq_chopInit text
  rw [hlines, getLast?_chopInit] at h
  obtain ⟨front, rfl⟩ := List.getLast?_eq_some_iff.1 h
  exact getLast?_joinLines_concat front last hc

end DiagramRepair.Text
