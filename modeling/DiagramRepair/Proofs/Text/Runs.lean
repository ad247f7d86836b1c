import DiagramRepair.Proofs.Text.Cut

/-! What is said about a text by the runs of certain characters in it. Any other character parts
the text into two about which the same is said one after the other, so it does not matter which
character that is, and blanks around the text do not matter at all.
-/

namespace DiagramRepair.Text

/-- A judgement of texts that goes by the runs of these marks. -/
structure ByRuns {α : Type} (judge : Text → α) (join : α → α → α) (marks : List Char) : Prop where
  solid : ∀ c ∈ marks, isBlank c = false
  append_cons
    : ∀ {c : Char},
        c ∉ marks
        → ∀ front back : Text, judge (front ++ c :: back) = join (judge front) (judge back)
  nil_join : ∀ outcome : α, join (judge []) outcome = outcome
  join_nil : ∀ outcome : α, join outcome (judge []) = outcome

namespace ByRuns

variable {α : Type} {judge : Text → α} {join : α → α → α} {marks : List Char}

theorem cons (h : ByRuns judge join marks) {c : Char} (hc : c ∉ marks) (rest : Text)
    : judge (c :: rest) = judge rest := by
  rw [← h.nil_join (judge rest), ← h.append_cons hc, List.nil_append]

/-- What is no mark can go from the front of a text, by induction on it. -/
theorem gap_append (h : ByRuns judge join marks) {gap : Text} (hg : ∀ c ∈ gap, c ∉ marks)
    (text : Text)
    : judge (gap ++ text) = judge text := by
  induction gap with
  | nil => rfl
  | cons c gap ih =>
      rw [List.forall_mem_cons] at hg
      rw [List.cons_append, h.cons hg.1, ih hg.2]

theorem append_gap (h : ByRuns judge join marks) (text : Text) {gap : Text}
    (hg : ∀ c ∈ gap, c ∉ marks)
    : judge (text ++ gap) = judge text := by
  cases gap with
  | nil => rw [List.append_nil]
  | cons c gap =>
      rw [List.forall_mem_cons] at hg
      have hgap := h.gap_append hg.2 []
      rw [List.append_nil] at hgap
      rw [h.append_cons hg.1, hgap, h.join_nil]

theorem not_mem_of_allBlank (h : ByRuns judge join marks) {gap : Text} (hg : AllBlank gap)
    : ∀ c ∈ gap, c ∉ marks :=
  fun c hc hm => hg.not_mem (h.solid c hm) hc

theorem trimRight (h : ByRuns judge join marks) (text : Text)
    : judge (trimRight text) = judge text := by
  obtain ⟨back, hback, htext⟩ := exists_eq_trimRight_append text
  conv => rhs; rw [htext]
  rw [h.append_gap _ (h.not_mem_of_allBlank hback)]

theorem trim (h : ByRuns judge join marks) (text : Text) : judge (trim text) = judge text := by
  rw [Text.trim, h.trimRight]
  conv => rhs; rw [← indent_append_trimLeft text]
  rw [h.gap_append (h.not_mem_of_allBlank (allBlank_indent text))]

/-- What is no mark does not matter at the two ends of what stands before a cut. -/
theorem before_gap_append (h : ByRuns judge join marks) {cut : Char} {gap : Text}
    (hg : ∀ c ∈ gap, c ∉ marks) (hc : cut ∉ gap) (text : Text)
    : judge (before cut (gap ++ text)) = judge (before cut text) := by
  rw [before_append_of_not_mem hc, h.gap_append hg]

theorem before_append_gap (h : ByRuns judge join marks) {cut : Char} (text : Text) {gap : Text}
    (hg : ∀ c ∈ gap, c ∉ marks) (hc : cut ∉ gap)
    : judge (before cut (text ++ gap)) = judge (before cut text) := by
  by_cases hm : cut ∈ text
  · obtain ⟨front, back, rfl, hfront⟩ := List.eq_append_cons_of_mem hm
    rw [List.append_assoc, List.cons_append, before_append hfront, before_append hfront]
  · rw [before_append_of_not_mem hm, before_of_not_mem hm, before_of_not_mem hc,
      h.append_gap _ hg]

end ByRuns

end DiagramRepair.Text
