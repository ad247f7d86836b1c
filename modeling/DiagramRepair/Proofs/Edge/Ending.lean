import DiagramRepair.Edge.Dangling
import DiagramRepair.Proofs.Label.Requoting
import DiagramRepair.Proofs.Text.Cut

/-! The connectors that a text may end in, as a list of endings. No ending holds a quote, a pipe
or a bracket, so such characters cut off what stands before them, and quoting a line cannot
give it an ending that it did not have.
-/

namespace DiagramRepair.Edge

open Text Label

-----------------------------------------------------------------------------------------
-- Endings
-----------------------------------------------------------------------------------------

/-- The ends of connectors, read backwards. -/
def connectorEndings : List Text :=
  [
    ['>', '-'], ['>', '='], ['-', '-'], ['=', '='], ['-', '.'], ['x', '-', '-'],
    ['x', '=', '='], ['x', '-', '.'], ['o', '-', '-'], ['o', '=', '='], ['o', '-', '.']
  ]

/-- The ends that leave an edge without a target, read backwards. -/
def openEndings : List Text :=
  ['>', '.'] :: connectorEndings

/-- The characters of endings. -/
def endingChars : List Char :=
  ['-', '=', '.', '>', 'x', 'o']

theorem mem_endingChars {ending : Text} (h : ending ∈ openEndings)
    : ∀ c ∈ ending, c ∈ endingChars := by
  have hall : ∀ ending ∈ openEndings, ending.all (endingChars.contains ·) = true := by decide
  simpa using hall ending h

theorem isBlank_of_mem_endingChars {c : Char} (h : c ∈ endingChars) : isBlank c = false := by
  have hall : ∀ c ∈ endingChars, isBlank c = false := List.all_iff_forall_prop.1 (by decide)
  exact hall c h

theorem isShaft_iff {backwards : Text}
    : isShaft backwards = true
      ↔ ['-', '-'] <+: backwards ∨ ['=', '='] <+: backwards ∨ ['-', '.'] <+: backwards := by
  constructor
  · intro h
    unfold isShaft at h
    split at h
    · simp
    · simp
    · simp
    · contradiction
  · rintro (⟨rest, rfl⟩ | ⟨rest, rfl⟩ | ⟨rest, rfl⟩) <;> rfl

theorem isConnector_iff {backwards : Text}
    : isConnector backwards = true ↔ ∃ ending ∈ connectorEndings, ending <+: backwards := by
  constructor
  · intro h
    unfold isConnector at h
    split at h
    · exact ⟨['>', '-'], by decide, by simp⟩
    · exact ⟨['>', '='], by decide, by simp⟩
    · rcases isShaft_iff.1 h with hs | hs | hs
      · exact ⟨['x', '-', '-'], by decide, by simpa using hs⟩
      · exact ⟨['x', '=', '='], by decide, by simpa using hs⟩
      · exact ⟨['x', '-', '.'], by decide, by simpa using hs⟩
    · rcases isShaft_iff.1 h with hs | hs | hs
      · exact ⟨['o', '-', '-'], by decide, by simpa using hs⟩
      · exact ⟨['o', '=', '='], by decide, by simpa using hs⟩
      · exact ⟨['o', '-', '.'], by decide, by simpa using hs⟩
    · rcases isShaft_iff.1 h with hs | hs | hs
      · exact ⟨['-', '-'], by decide, hs⟩
      · exact ⟨['=', '='], by decide, hs⟩
      · exact ⟨['-', '.'], by decide, hs⟩
  · rintro ⟨ending, hm, rest, rfl⟩
    simp only [connectorEndings, List.mem_cons, List.not_mem_nil, or_false] at hm
    rcases hm with rfl | rfl | rfl | rfl | rfl | rfl | rfl | rfl | rfl | rfl | rfl <;> rfl

theorem lacksTarget_iff {backwards : Text}
    : lacksTarget backwards = true ↔ ∃ ending ∈ openEndings, ending <+: backwards := by
  have hdotted : isDottedArrow backwards = true ↔ ['>', '.'] <+: backwards := by
    constructor
    · intro h
      unfold isDottedArrow at h
      split at h
      · simp
      · contradiction
    · rintro ⟨rest, rfl⟩
      rfl
  rw [lacksTarget, Bool.or_eq_true, isConnector_iff, hdotted]
  simp only [openEndings, List.mem_cons, exists_eq_or_imp]
  exact or_comm

/-- What stands before a character that no ending holds, and behind what is read, does not
matter. -/
theorem isConnector_append_cons {c : Char} (hc : c ∉ endingChars) (front back : Text)
    : isConnector (front ++ c :: back) = isConnector front := by
  rw [Bool.eq_iff_iff, isConnector_iff, isConnector_iff]
  refine exists_congr (fun ending => and_congr_right (fun hm => ?_))
  exact prefix_append_cons_iff (fun hmem => hc (mem_endingChars (List.mem_cons_of_mem _ hm) c hmem))

/-- A pipe behind a connector opens an edge label, with blanks between them or not. -/
theorem opensLabel_blank_append {gap backwards : Text} (hg : AllBlank gap)
    (h : isConnector backwards = true)
    : opensLabel (gap ++ backwards) = true := by
  cases backwards with
  | nil => contradiction
  | cons c rest =>
      have hc : c ∈ endingChars := by
        by_contra hn
        have hnone := isConnector_append_cons hn [] rest
        rw [List.nil_append, h] at hnone
        contradiction
      rw [opensLabel, dropWhile_append_cons rest hg (isBlank_of_mem_endingChars hc)]
      exact h

-----------------------------------------------------------------------------------------
-- Dangling edges
-----------------------------------------------------------------------------------------

/-- What may stand behind the last connector of a dangling edge: blanks, or a label. -/
def IsTail (tail : Text) : Prop :=
  AllBlank tail
  ∨ ∃ gap label back,
      tail = gap ++ '|' :: label ++ '|' :: back
      ∧ AllBlank gap
      ∧ '|' ∉ label
      ∧ AllBlank back

theorem isDangling_eq (line : Text)
    : isDangling line = true
      ↔ lacksTarget (trim line).reverse = true
        ∨ ∃ label front,
            (trim line).reverse = '|' :: label ++ '|' :: front
            ∧ '|' ∉ label
            ∧ lacksTarget (front.dropWhile isBlank) = true := by
  rw [isDangling, Bool.or_eq_true]
  apply or_congr_right
  constructor
  · intro h
    split at h
    · rename_i rest hline
      cases hcut : cutAt? '|' rest with
      | none => simp [hcut] at h
      | some sides =>
          obtain ⟨hrest, hlabel⟩ := cutAt?_eq_some hcut
          refine ⟨sides.1, sides.2, ?_, hlabel, by simpa [hcut] using h⟩
          rw [hline, hrest, List.cons_append]
    · contradiction
  · rintro ⟨label, front, hline, hlabel, hfront⟩
    rw [hline]
    simpa [cutAt?_append hlabel] using hfront

/-- The first and the last character of an ending read forwards. -/
theorem exists_ends_of_mem_openEndings {ending : Text} (h : ending ∈ openEndings)
    : ∃ first last,
        ending.reverse.head? = some first
        ∧ ending.reverse.getLast? = some last
        ∧ isBlank first = false
        ∧ isBlank last = false := by
  have hne : ∀ ending ∈ openEndings, ending.reverse ≠ [] := by decide
  have hchars : ∀ c ∈ ending.reverse, isBlank c = false := fun c hc =>
    isBlank_of_mem_endingChars (mem_endingChars h c (List.mem_reverse.1 hc))
  have hends := hne ending h
  exact ⟨ending.reverse.head hends, ending.reverse.getLast hends, List.head?_eq_some_head hends,
    List.getLast?_eq_some_getLast hends, hchars _ (List.head_mem hends),
    hchars _ (List.getLast_mem hends)⟩

/-- A line whose edge dangles is a text, a connector and a tail. -/
theorem exists_ending_of_isDangling {line : Text} (h : isDangling line = true)
    : ∃ front, ∃ ending ∈ openEndings, ∃ tail,
        line = front ++ ending.reverse ++ tail ∧ IsTail tail := by
  obtain ⟨back, hback, hline⟩ := exists_eq_trim_append line
  rcases (isDangling_eq line).1 h with htarget | ⟨label, front, htrim, hlabel, htarget⟩
  · obtain ⟨ending, hm, rest, hrest⟩ := lacksTarget_iff.1 htarget
    refine ⟨indent line ++ rest.reverse, ending, hm, back, ?_, Or.inl hback⟩
    have htrim : trim line = rest.reverse ++ ending.reverse := by
      rw [← List.reverse_append, hrest, List.reverse_reverse]
    apply hline.trans
    rw [htrim]
    simp
  · obtain ⟨ending, hm, rest, hrest⟩ := lacksTarget_iff.1 htarget
    refine ⟨indent line ++ rest.reverse, ending, hm,
      (front.takeWhile isBlank).reverse ++ '|' :: label.reverse ++ '|' :: back, ?_,
      Or.inr ⟨_, label.reverse, back, rfl, ?_, by simpa using hlabel, hback⟩⟩
    · have hfront : front = front.takeWhile isBlank ++ (ending ++ rest) := by
        rw [hrest, List.takeWhile_append_dropWhile]
      have hsame : trim line = ('|' :: label ++ '|' :: front).reverse := by
        rw [← htrim, List.reverse_reverse]
      have hrev : front.reverse
          = rest.reverse ++ ending.reverse ++ (front.takeWhile isBlank).reverse := by
        conv => lhs; rw [hfront]
        simp
      apply hline.trans
      rw [hsame]
      simp [hrev]
    · intro c hc
      exact List.mem_takeWhile_imp (List.mem_reverse.1 hc)

/-- Conversely, a connector and a tail make a dangling edge of every text before them. -/
theorem isDangling_append {ending : Text} (hm : ending ∈ openEndings) (front : Text)
    {tail : Text} (ht : IsTail tail)
    : isDangling (front ++ ending.reverse ++ tail) = true := by
  obtain ⟨first, last, hhead, hlast, hfirst, hend⟩ := exists_ends_of_mem_openEndings hm
  refine (isDangling_eq _).2 ?_
  rcases ht with hblank | ⟨gap, label, back, rfl, hgap, hlabel, hback⟩
  · left
    rw [trim_append_blank _ hblank, trim_append_core front hhead hlast hfirst hend]
    exact lacksTarget_iff.2 ⟨ending, hm, by simp⟩
  · right
    have htrim : trim (front ++ ending.reverse ++ (gap ++ '|' :: label ++ '|' :: back))
        = trimLeft front ++ (ending.reverse ++ gap ++ '|' :: label ++ ['|']) := by
      have hassoc : front ++ ending.reverse ++ (gap ++ '|' :: label ++ '|' :: back)
          = front ++ (ending.reverse ++ gap ++ '|' :: label ++ ['|']) ++ back := by
        simp
      have hstart : (ending.reverse ++ gap ++ '|' :: label ++ ['|']).head? = some first := by
        rw [List.append_assoc, List.append_assoc, List.head?_append, hhead, Option.some_or]
      rw [hassoc, trim_append_blank _ hback]
      exact trim_append_core front hstart List.getLast?_concat hfirst (by decide)
    refine ⟨label.reverse, gap.reverse ++ ending ++ (trimLeft front).reverse, ?_,
      by simpa using hlabel, ?_⟩
    · rw [htrim]
      simp
    · refine lacksTarget_iff.2 ⟨ending, hm, (trimLeft front).reverse, ?_⟩
      rcases List.eq_nil_or_concat ending.reverse with hnil | ⟨init, d, hd⟩
      · rw [hnil] at hhead
        contradiction
      · rw [hd, List.concat_eq_append, List.getLast?_concat] at hlast
        obtain rfl := Option.some.inj hlast
        have hending : ending = d :: init.reverse := by
          rw [← List.reverse_reverse ending, hd]
          simp
        rw [List.append_assoc, hending, List.cons_append, dropWhile_append_cons _ _ hend]
        · intro c hc
          exact hgap c (List.mem_reverse.1 hc)

theorem not_mem_quoteMarks_of_mem_endingChars {c : Char} (h : c ∈ endingChars)
    : c ∉ quoteMarks := by
  have hall : ∀ c ∈ endingChars, c ∉ quoteMarks := List.all_iff_forall_prop.1 (by decide)
  exact hall c h

/-- Quoting leaves no edge without a target that had one. The connector and the pipes behind
it stand in the line as they stand in the quoted line, since quoting touches neither. -/
theorem isDangling_of_requoted {old new : Text} (hr : Requoted old new)
    (h : isDangling new = true)
    : isDangling old = true := by
  obtain ⟨front, ending, hm, tail, rfl, ht⟩ := exists_ending_of_isDangling h
  have hending : ∀ c ∈ ending.reverse, c ∉ quoteMarks := fun c hc =>
    not_mem_quoteMarks_of_mem_endingChars (mem_endingChars hm c (List.mem_reverse.1 hc))
  rcases ht with hblank | ⟨gap, label, back, rfl, hgap, hlabel, hback⟩
  · rw [List.append_assoc] at hr
    have hsuffix : ∀ c ∈ ending.reverse ++ tail, c ∉ quoteMarks := fun c hc =>
      (List.mem_append.1 hc).elim (hending c) (fun hc => hblank.not_mem_quoteMarks hc)
    obtain ⟨oldFront, rfl, -⟩ := hr.exists_suffix hsuffix
    rw [← List.append_assoc]
    exact isDangling_append hm oldFront (Or.inl hblank)
  · have hnew : front ++ ending.reverse ++ (gap ++ '|' :: label ++ '|' :: back)
        = (front ++ (ending.reverse ++ gap) ++ '|' :: label) ++ '|' :: back := by
      simp
    rw [hnew] at hr
    obtain ⟨oldRest, oldBack, rfl, hrest, hb⟩ := hr.exists_cut (by decide)
    obtain ⟨oldStart, oldLabel, rfl, hstart, hl⟩ := hrest.exists_cut (by decide)
    obtain rfl := hb.eq_of_not_mem (fun c hc => hback.not_mem_quoteMarks hc)
    have hsuffix : ∀ c ∈ ending.reverse ++ gap, c ∉ quoteMarks := fun c hc =>
      (List.mem_append.1 hc).elim (hending c) (fun hc => hgap.not_mem_quoteMarks hc)
    obtain ⟨oldFront, rfl, -⟩ := hstart.exists_suffix hsuffix
    have hold : oldFront ++ (ending.reverse ++ gap) ++ '|' :: oldLabel ++ '|' :: oldBack
        = oldFront ++ ending.reverse ++ (gap ++ '|' :: oldLabel ++ '|' :: oldBack) := by
      simp
    rw [hold]
    refine isDangling_append hm oldFront (Or.inr ⟨gap, oldLabel, oldBack, rfl, hgap, ?_, hback⟩)
    exact fun hmem => hlabel ((hl.mem_iff (by decide)).2 hmem)

end DiagramRepair.Edge
