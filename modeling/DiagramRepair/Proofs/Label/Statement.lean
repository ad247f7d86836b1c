import DiagramRepair.Proofs.Diagram.Connectors
import DiagramRepair.Proofs.Label.Classification

/-! Quoting and what a statement of a flowchart adds to the counts. The characters around a label
belong to no connector, and inside it no connector is split, joined or made. Directives and
subgraphs are told by a front that opens no label.
-/

namespace DiagramRepair

open Text Label Counts

-----------------------------------------------------------------------------------------
-- Connectors
-----------------------------------------------------------------------------------------

namespace Label

/-- What a step may read, the characters next to its label belonging to no connector. -/
inductive IsParted : List Piece → Prop
  | plain (text : Text) : IsParted [.plain text]
  | label (front content behind : Text) {opens closes : Char}
      (opener : opens ∉ connectorChars)
      (closer : closes ∉ connectorChars)
    : IsParted [.plain (front ++ [opens]), .label content, .plain (closes :: behind)]

theorem exists_opener_eq (shape : Shape)
    : ∃ front opens, shape.opener = front ++ [opens] ∧ opens ∉ connectorChars := by
  have hlast : shape.opener.getLast?.any (· ∉ connectorChars) = true := by
    cases shape <;> decide
  obtain ⟨front, opens, hfront, hopens⟩ := exists_last_of_any hlast
  exact ⟨front, opens, hfront, of_decide_eq_true hopens⟩

theorem exists_closer_eq {shape : Shape} {closer : Text} (h : closer ∈ shape.closers)
    : ∃ closes behind, closer = closes :: behind ∧ closes ∉ connectorChars := by
  have hall : ∀ closer ∈ shape.closers, closer.head?.any (· ∉ connectorChars) = true := by
    cases shape <;> decide
  obtain ⟨closes, hc, hcloses⟩ := (Option.any_eq_true _ _).1 (hall closer h)
  obtain ⟨behind, hbehind⟩ := List.head?_eq_some_iff.1 hc
  exact ⟨closes, behind, hbehind, of_decide_eq_true hcloses⟩

/-- By cases on the character that the step starts with. -/
theorem isParted_nextPieces (backwards : Text) (c : Char) (rest : Text)
    : IsParted (nextPieces backwards c rest).1 := by
  unfold nextPieces
  split
  · unfold runPieces
    split
    · exact .plain _
    · exact .plain _
  · split
    · unfold edgePieces
      split
      · rename_i content behind hlabel
        have hpipe : '|' ∉ connectorChars := by decide
        exact .label [] content [] hpipe hpipe
      · exact .plain _
    · split
      · unfold nodePieces
        split
        · rename_i opener closing hlabel
          obtain ⟨shape, rfl, hcloser⟩ := exists_shape_of_shapeLabel? hlabel
          obtain ⟨front, opens, hopener, hopens⟩ := exists_opener_eq shape
          obtain ⟨closes, behind, hcloses, hends⟩ := exists_closer_eq hcloser
          rw [hopener, hcloses, ← List.append_assoc]
          exact .label _ closing.content behind hopens hends
        · exact .plain _
      · exact .plain _

theorem not_mem_connectorChars_of_mem_quoteMarks
    : ∀ c ∈ quoteMarks, c ∉ connectorChars :=
  List.all_iff_forall_prop.1 (by decide)

/-- A step keeps the connectors, those included that reach into it or out of it. -/
theorem IsParted.connectorCount_append {step : List Piece} (h : IsParted step)
    (reserved : List Char) {first second : Text}
    (hrest : ∀ front, connectorCount (front ++ first) = connectorCount (front ++ second))
    (front : Text)
    : connectorCount (front ++ (step.flatMap (Piece.written reserved) ++ first))
      = connectorCount (front ++ (textOf step ++ second)) := by
  cases h with
  | plain text => simpa [textOf, Piece.written, Piece.text] using hrest (front ++ text)
  | @label lead content behind opens closes opener closer =>
      have hsplit : ∀ label rest : Text,
          connectorCount (front ++ (lead ++ opens :: (label ++ closes :: (behind ++ rest))))
            = connectorCount (front ++ lead) + (connectorCount label
              + connectorCount (behind ++ rest)) := by
        intro label rest
        rw [← List.append_assoc, connectorCount_append_cons opener,
          connectorCount_append_cons closer]
      simp only [textOf, Piece.written, Piece.text, List.flatMap_cons, List.flatMap_nil,
        List.append_nil, List.append_assoc, List.cons_append, List.nil_append, hsplit, hrest,
        judge_written byRuns_connectorCount not_mem_connectorChars_of_mem_quoteMarks]

/-- Quoting keeps the connectors of a text, whatever stands in front of it. By induction on the
steps. -/
theorem connectorCount_append_quotedFrom (reserved : List Char) (backwards text front : Text)
    : connectorCount (front ++ quotedFrom reserved backwards text)
      = connectorCount (front ++ text) := by
  fun_induction piecesFrom backwards text generalizing front with
  | case1 => rw [quotedFrom_nil]
  | case2 backwards c rest next =>
      rename_i ih
      have hstep := (isParted_nextPieces backwards c rest).connectorCount_append reserved ih front
      rw [textOf_nextPieces] at hstep
      rw [quotedFrom_cons]
      exact hstep

-----------------------------------------------------------------------------------------
-- Fronts
-----------------------------------------------------------------------------------------

theorem quotedFrom_eq_self_of_closed {reserved : List Char} {text : Text}
    (h : ∀ c ∈ text, c ∉ openers)
    : quotedFrom reserved [] text = text := by
  have hmarks : ∀ c ∈ openers, c ∉ quoteMarks := List.all_iff_forall_prop.1 (by decide)
  exact quotedFrom_eq_self_of_not_mem fun c hc hm =>
    h c (((requoted_quotedFrom reserved [] text).mem_iff (hmarks c hm)).1 hc) hm

/-- A front that opens no label stands before more than blanks in both texts or in neither: where
only blanks follow it, nothing opens a label. -/
theorem exists_append_quotedFrom_iff {reserved : List Char} {text front : Text}
    (hf : ∀ c ∈ front, c ∉ openers)
    : (∃ rest, quotedFrom reserved [] text = front ++ rest ∧ ¬AllBlank rest)
      ↔ ∃ rest, text = front ++ rest ∧ ¬AllBlank rest := by
  have hclosed : ∀ {rest : Text}, AllBlank rest → ∀ c ∈ front ++ rest, c ∉ openers :=
    fun hb => List.forall_mem_append.2 ⟨hf, fun _ hc => hb.not_mem_openers hc⟩
  constructor
  · rintro ⟨rest, hrest, hblank⟩
    obtain ⟨other, hother⟩ := (prefix_quotedFrom_iff hf).1 ⟨rest, hrest.symm⟩
    refine ⟨other, hother.symm, fun hb => hblank ?_⟩
    have hself : quotedFrom reserved [] text = text :=
      quotedFrom_eq_self_of_closed (hother ▸ hclosed hb)
    rw [hrest, ← hother, List.append_cancel_left_eq] at hself
    exact hself ▸ hb
  · rintro ⟨rest, hrest, hblank⟩
    obtain ⟨other, hother⟩ : front <+: quotedFrom reserved [] text :=
      (prefix_quotedFrom_iff hf).2 ⟨rest, hrest.symm⟩
    refine ⟨other, hother.symm, fun hb => hblank ?_⟩
    have hself := quotedFrom_eq_self_of_not_mem (hother ▸ hclosed hb)
    rw [← hother, hrest, List.append_cancel_left_eq] at hself
    exact hself ▸ hb

/-- A text is trimmed to a word that opens no label after quoting exactly if it was before. -/
theorem trim_quotedFrom_eq_iff {reserved : List Char} {text word : Text}
    (hw : ∀ c ∈ word, c ∉ openers)
    : trim (quotedFrom reserved [] text) = word ↔ trim text = word := by
  have hclosed : ∀ {text : Text}, trim text = word → ∀ c ∈ text, c ∉ openers := by
    intro text htrim
    obtain ⟨back, hback, htext⟩ := exists_eq_trim_append text
    rw [htext, htrim]
    exact List.forall_mem_append.2 ⟨List.forall_mem_append.2
      ⟨fun _ hc => (allBlank_indent text).not_mem_openers hc, hw⟩,
      fun _ hc => hback.not_mem_openers hc⟩
  constructor
  · intro h
    rwa [quotedFrom_eq_self_of_not_mem (hclosed h)] at h
  · intro h
    rwa [quotedFrom_eq_self_of_closed (hclosed h)]

end Label

-----------------------------------------------------------------------------------------
-- Statements
-----------------------------------------------------------------------------------------

namespace Counts

/-- A word that a statement may start with. -/
structure IsLeadWord (word : Text) : Prop where
  ne_nil : word ≠ []
  solid : ∀ c ∈ word, isBlank c = false
  closed : ∀ c ∈ word, c ∉ openers

theorem isLeadWord_of_mem {word : Text} (h : word ∈ "subgraph".toList :: directives)
    : IsLeadWord word := by
  have hall : ∀ word ∈ "subgraph".toList :: directives,
      word ≠ [] ∧ word.all (fun c => !isBlank c && !openers.contains c) = true := by
    decide +kernel
  obtain ⟨hne, hchars⟩ := hall word h
  simp only [List.all_eq_true, Bool.and_eq_true, Bool.not_eq_true', List.contains_eq_mem,
    decide_eq_false_iff_not] at hchars
  exact ⟨hne, fun c hc => (hchars c hc).1, fun c hc => (hchars c hc).2⟩

/-- Behind the word that a statement starts with comes a blank, and more than blanks behind it. -/
theorem exists_front_of_startsWithWord {words : List Text} {text : Text}
    (h : startsWithWord words (trim text) = true)
    : ∃ gap word c,
        AllBlank gap
        ∧ word ∈ words
        ∧ isBlank c = true
        ∧ ∃ rest, text = (gap ++ word ++ [c]) ++ rest ∧ ¬AllBlank rest := by
  obtain ⟨word, rest, hspan, htrim, -, hhead⟩ := span_spec isNotBlank (trim text)
  rw [startsWithWord, hspan] at h
  simp only [List.contains_eq_mem, Bool.and_eq_true, decide_eq_true_eq, Bool.not_eq_true',
    List.isEmpty_eq_false_iff] at h
  obtain ⟨c, behind, rfl⟩ := List.exists_cons_of_ne_nil h.2
  have hc : isBlank c = true := by simpa [isNotBlank] using hhead c rfl
  obtain ⟨back, -, htext⟩ := exists_eq_trim_append text
  refine ⟨indent text, word, c, allBlank_indent text, h.1, hc, behind ++ back, ?_, ?_⟩
  · conv => lhs; rw [htext, htrim]
    simp
  · intro hall
    have hblank : AllBlank (c :: behind) := List.forall_mem_cons.2
      ⟨hc, fun d hd => hall d (List.mem_append_left _ hd)⟩
    have hne : c :: behind ≠ [] := List.cons_ne_nil c behind
    have hlast : (trim text).getLast? = some ((c :: behind).getLast hne) := by
      rw [htrim, List.getLast?_append, List.getLast?_eq_some_getLast hne, Option.some_or]
    have hsolid := isBlank_getLast?_trim hlast
    rw [hblank _ (List.getLast_mem _)] at hsolid
    cases hsolid

theorem startsWithWord_trim_append {words : List Text} {gap word rest : Text} {c : Char}
    (hw : IsLeadWord word) (hm : word ∈ words) (hg : AllBlank gap) (hc : isBlank c = true)
    (hr : ¬AllBlank rest)
    : startsWithWord words (trim (gap ++ word ++ [c] ++ rest)) = true := by
  obtain ⟨d, hd, hsolid⟩ : ∃ d ∈ rest, isBlank d = false := by
    simpa [AllBlank] using hr
  obtain ⟨front, back, rfl⟩ := List.append_of_mem hd
  obtain ⟨first, more, rfl⟩ := List.exists_cons_of_ne_nil hw.ne_nil
  have htrim : trim (gap ++ (first :: more) ++ [c] ++ (front ++ d :: back))
      = first :: more ++ c :: (front ++ d :: trimRight back) := by
    have hassoc : gap ++ (first :: more) ++ [c] ++ (front ++ d :: back)
        = gap ++ ((first :: (more ++ c :: front)) ++ d :: back) := by
      simp
    have hfirst := hw.solid first List.mem_cons_self
    rw [hassoc, trim_blank_append _ hg, trim_append_cons _ _ hsolid,
      trimLeft_append_of_not_blank _ hfirst]
    simp
  have hrun : ∀ e ∈ first :: more, isNotBlank e = true := fun e he => by
    simp [isNotBlank, hw.solid e he]
  rw [startsWithWord, htrim, span_append hrun fun e he => by
    obtain rfl := Option.some.inj he
    simp [isNotBlank, hc]]
  simpa using hm

theorem startsWithWord_trim_iff {words : List Text} (hw : ∀ word ∈ words, IsLeadWord word)
    {text : Text}
    : startsWithWord words (trim text) = true
      ↔ ∃ gap word c,
          AllBlank gap
          ∧ word ∈ words
          ∧ isBlank c = true
          ∧ ∃ rest, text = (gap ++ word ++ [c]) ++ rest ∧ ¬AllBlank rest := by
  constructor
  · exact exists_front_of_startsWithWord
  · rintro ⟨gap, word, c, hgap, hm, hc, rest, rfl, hrest⟩
    exact startsWithWord_trim_append (hw word hm) hm hgap hc hrest

theorem startsWithWord_quoted {words : List Text} (hw : ∀ word ∈ words, IsLeadWord word)
    (reserved : List Char) (text : Text)
    : startsWithWord words (trim (quotedFrom reserved [] text))
      = startsWithWord words (trim text) := by
  rw [Bool.eq_iff_iff, startsWithWord_trim_iff hw, startsWithWord_trim_iff hw]
  refine exists_congr fun gap => exists_congr fun word => exists_congr fun c => ?_
  refine and_congr_right fun hgap => and_congr_right fun hm => and_congr_right fun hc => ?_
  refine exists_append_quotedFrom_iff ?_
  have hblank : AllBlank [c] := by simpa [AllBlank] using hc
  exact List.forall_mem_append.2 ⟨List.forall_mem_append.2
    ⟨fun _ hd => hgap.not_mem_openers hd, (hw word hm).closed⟩,
    fun _ hd => hblank.not_mem_openers hd⟩

/-- The edges and subgraphs of a statement. -/
def Tally.marks (tally : Tally) : Nat × Nat :=
  (tally.edges, tally.subgraphs)

/-- What a statement adds goes by the word it starts with and by its connectors. -/
theorem marks_ofStatement (statement : Text)
    : (Tally.ofStatement statement).marks
      = if (statement = [] ∨ startsWithWord directives statement = true)
            ∨ statement = "end".toList then (0, 0)
        else if startsWithWord ["subgraph".toList] statement = true then (0, 1)
        else (connectorCount statement, 0) := by
  simp only [Tally.ofStatement, connectorCount, Bool.or_eq_true, List.isEmpty_iff, beq_iff_eq]
  split
  · rfl
  · split
    · rfl
    · split
      · rfl
      · rename_i hparts
        rw [Nat.sub_eq_zero_of_le (Nat.not_lt.1 hparts)]
        rfl

/-- Quoting changes neither the edges nor the subgraphs of a statement. -/
theorem marks_ofStatement_quoted (reserved : List Char) (text : Text)
    : (Tally.ofStatement (trim (quotedFrom reserved [] text))).marks
      = (Tally.ofStatement (trim text)).marks := by
  have hend : ∀ c ∈ "end".toList, c ∉ openers := List.all_iff_forall_prop.1 (by decide)
  have hnil : ∀ c ∈ ([] : Text), c ∉ openers := List.forall_mem_nil _
  have hcount := connectorCount_append_quotedFrom reserved [] text []
  rw [List.nil_append, List.nil_append] at hcount
  have hdirectives : ∀ word ∈ directives, IsLeadWord word := fun _ hm =>
    isLeadWord_of_mem (List.mem_cons_of_mem _ hm)
  have hsubgraph : ∀ word ∈ ["subgraph".toList], IsLeadWord word := fun _ hm =>
    isLeadWord_of_mem (List.mem_singleton.1 hm ▸ List.mem_cons_self)
  simp only [marks_ofStatement, trim_quotedFrom_eq_iff hnil, trim_quotedFrom_eq_iff hend,
    byRuns_connectorCount.trim, hcount, startsWithWord_quoted hdirectives,
    startsWithWord_quoted hsubgraph]

end Counts

end DiagramRepair
