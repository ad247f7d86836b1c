import DiagramRepair.Proofs.Label.Statement
import DiagramRepair.Proofs.Repair.Reporting

/-! Counting a repaired flowchart. A line that is quoted adds the edges and subgraphs that it added
before, and a line that loses its edge adds none, like a blank line in its place.
-/

namespace DiagramRepair

open Text Label Counts

-----------------------------------------------------------------------------------------
-- What one line adds
-----------------------------------------------------------------------------------------

/-- The edges and subgraphs that a line of a flowchart adds, if there is a statement on it. -/
def Counts.lineMarks? (text : Text) : Option (Nat × Nat) :=
  (statementOf? (Line.read false false 0 text)).map fun statement =>
    (Tally.ofStatement statement).marks

theorem lineMarks?_congr {first second : Text} (h : trim first = trim second)
    : lineMarks? first = lineMarks? second := by
  simp only [lineMarks?, statementOf?, Line.kind_read, Line.text_read, Line.trimmed,
    LineKind.ofLine_congr h, Declaration.ofLine?_congr h, h]

theorem filterMap_lineMarks?_congr {first second : List Text} (h : SameTrimmed first second)
    : first.filterMap lineMarks? = second.filterMap lineMarks? := by
  induction h with
  | nil => rfl
  | cons hline _ ih => rw [List.filterMap_cons, List.filterMap_cons, lineMarks?_congr hline, ih]

/-- Neither blanks nor comments add anything. -/
theorem lineMarks?_of_not_meaningful {text : Text} (h : isMeaningful text = false)
    : lineMarks? text = none := by
  rcases LineKind.ofLine_of_not_meaningful false false h with hk | hk
  · simp [lineMarks?, statementOf?, hk]
  · simp [lineMarks?, statementOf?, hk]

theorem lineMarks?_of_content {text : Text} (h : LineKind.ofLine false false text = .content)
    : lineMarks? text = some (Tally.ofStatement (trim text)).marks := by
  simp [lineMarks?, statementOf?, h, Line.trimmed]

/-- The statements behind the semicolon of a declaration are what it adds. -/
theorem lineMarks?_of_declaration {head body : Text} (hh : ';' ∉ head)
    (h : LineKind.ofLine false false (head ++ ';' :: body) = .declaration)
    : lineMarks? (head ++ ';' :: body) = some (Tally.ofStatement (trim body)).marks := by
  obtain ⟨declaration, hd⟩ :=
    Option.isSome_iff_exists.1 (LineKind.ofLine_eq_declaration_iff.1 h)
  obtain ⟨-, -, hbody⟩ := Declaration.exists_word_of_ofLine? hd
  obtain ⟨back, hback, hrest⟩ := exists_eq_trimRight_append body
  have htrim : trim (trimRight body) = trim body := by
    conv => rhs; rw [hrest]
    rw [trim_append_blank _ hback]
  rw [trim_append_cons _ _ (by decide), behind_append (not_mem_trimLeft hh), htrim] at hbody
  simp [lineMarks?, statementOf?, h, hd, hbody]

/-- The line, or a blank one in its place if it ends in a connector. -/
def Line.blanked (blank : Text) (line : Line) : Text :=
  if line.kind = .content ∧ Edge.isDangling line.text = true then blank else line.text

theorem Line.blanked_of_joined {line : Line}
    (h : line.kind = .content → Edge.isDangling line.text = false) (blank : Text)
    : line.blanked blank = line.text :=
  if_neg fun hline => by simp [h hline.1] at hline

/-- What a line is written as adds what the line adds that stands in its place. By cases on the
edit. -/
theorem Line.filterMap_lineMarks?_written {line : Line}
    (hkind : line.kind = LineKind.ofLine false false line.text) {blank : Text}
    (hb : AllBlank blank)
    : (line.written false).filterMap lineMarks? = (lineMarks? (line.blanked blank)).toList := by
  have hedit := isEdit_repairEdit? false line
  rw [Line.written]
  generalize repairEdit? false line = edit at hedit ⊢
  cases hedit with
  | untouched first label =>
      rw [firstEdit?_flowchart, edgeEdit?_eq_none_iff] at first
      rw [Line.blanked_of_joined first, Option.elim_none, List.filterMap_cons]
      cases lineMarks? line.text <;> rfl
  | attributes isEr => cases isEr
  | edge isFlowchart kind dangles =>
      have hcomment : isMeaningful (Edge.commentOut line.text) = false := by
        simp [isMeaningful, isComment_commentOut]
      have hblank : isMeaningful blank = false := by simp [isMeaningful, isAllBlank_iff.2 hb]
      rw [Line.blanked, if_pos ⟨kind, dangles⟩, Option.elim_some, List.filterMap_cons,
        lineMarks?_of_not_meaningful hcomment, lineMarks?_of_not_meaningful hblank]
      rfl
  | relationship isEr => cases isEr
  | content isFlowchart kind joined =>
      rw [kind] at hkind
      rw [Line.blanked_of_joined fun _ => joined, Option.elim_some, Edit.ofQuoted, List.nil_append,
        lineMarks?_of_content hkind.symm, List.filterMap_cons,
        lineMarks?_of_content (LineKind.ofLine_quoted hkind.symm), text_quoteLine,
        marks_ofStatement_quoted]
      rfl
  | @declaration head body isFlowchart kind cut =>
      obtain ⟨htext, hhead⟩ := cutAt?_eq_some cut
      rw [kind, htext] at hkind
      rw [Line.blanked_of_joined (by simp [kind]), Option.elim_some, Edit.ofQuoted,
        ← List.append_cons, htext, lineMarks?_of_declaration hhead hkind.symm, List.filterMap_cons,
        lineMarks?_of_declaration hhead (LineKind.ofLine_declaration_congr hhead hkind.symm _),
        text_quoteLine, marks_ofStatement_quoted]
      rfl

-----------------------------------------------------------------------------------------
-- What all lines add
-----------------------------------------------------------------------------------------

/-- The statement on a line does not depend on the position of the line. -/
theorem statementOf?_index (line : Line) (index : Nat)
    : statementOf? { line with index } = statementOf? line :=
  rfl

theorem filterMap_statementOf?_classifyFrom (index : Nat) (texts : List Text)
    : (classifyFrom false false index texts).filterMap statementOf?
      = texts.filterMap fun text => statementOf? (Line.read false false 0 text) := by
  induction texts generalizing index with
  | nil => rfl
  | cons text rest ih =>
      have hline := statementOf?_index (Line.read false false 0 text) index
      rw [classifyFrom, LineKind.inBlockAfter_of_not_er, List.filterMap_cons, List.filterMap_cons,
        ih, ← hline, Line.read]

/-- The edges and subgraphs of a flowchart are those that its lines add. -/
theorem exists_ofFlowchart_eq (index : Nat) (texts : List Text)
    : ∃ nodes,
        ofFlowchart (classifyFrom false false index texts)
        = .flowchart nodes
            (total ((texts.filterMap lineMarks?).map Prod.fst))
            (total ((texts.filterMap lineMarks?).map Prod.snd)) := by
  have hmarks : texts.filterMap lineMarks?
      = ((classifyFrom false false index texts).filterMap statementOf?).map fun statement =>
          (Tally.ofStatement statement).marks := by
    rw [filterMap_statementOf?_classifyFrom, List.map_filterMap]
    rfl
  rw [hmarks, ofFlowchart]
  simp only [List.map_map]
  exact ⟨_, rfl⟩

theorem exists_countElements_eq {text : Text} (h : isErDiagram (lines text) = false)
    : ∃ nodes,
        countElements text
        = .flowchart nodes
            (total (((lines text).filterMap lineMarks?).map Prod.fst))
            (total (((lines text).filterMap lineMarks?).map Prod.snd)) := by
  rw [countElements, h, if_neg Bool.false_ne_true, classify, h]
  exact exists_ofFlowchart_eq 0 (lines text)

-----------------------------------------------------------------------------------------
-- Blank lines in place of removed edges
-----------------------------------------------------------------------------------------

/-- The text with a blank line in place of every line that a repair took an edge from. -/
def withoutRemovedEdges (blank text : Text) : Text :=
  joinLines ((lines text).mapIdx fun index line =>
    if (repair text).repairs.any fun made =>
        made.line == (index : Int) + 1 && made.kind == .incompleteEdge then blank
    else line)

/-- An edge is taken from the content lines that dangle, by cases on the edit. -/
theorem Line.exists_incompleteEdge_iff {line : Line}
    : (∃ made ∈ line.repairs false, made.kind = .incompleteEdge)
      ↔ line.kind = .content ∧ Edge.isDangling line.text = true := by
  have hedit := isEdit_repairEdit? false line
  rw [Line.repairs]
  generalize repairEdit? false line = edit at hedit ⊢
  cases hedit with
  | untouched first label =>
      rw [firstEdit?_flowchart, edgeEdit?_eq_none_iff] at first
      simpa using first
  | attributes isEr => cases isEr
  | edge isFlowchart kind dangles => simp [kind, dangles, Repair.kind, Fix.kind]
  | relationship isEr => cases isEr
  | content isFlowchart kind joined => simp [Edit.ofQuoted, Repair.kind, Fix.kind, joined]
  | declaration isFlowchart kind cut => simp [Edit.ofQuoted, Repair.kind, Fix.kind, kind]

/-- The edit that leaves nothing of a line with a dangling edge. -/
def blankEdit? (blank : Text) (line : Line) : Option Edit :=
  if line.kind = .content ∧ Edge.isDangling line.text = true then some ⟨[blank], []⟩ else none

theorem blankEdit?_of_kind {line : Line} (h : line.kind ≠ .content) (blank : Text)
    : blankEdit? blank line = none :=
  if_neg fun hline => h hline.1

theorem keepsHeader_blankEdit? (blank : Text) : KeepsHeader (blankEdit? blank) where
  inert := by
    rintro line (hkind | hkind)
    · exact blankEdit?_of_kind (by simp [hkind]) blank
    · exact blankEdit?_of_kind (by simp [hkind]) blank
  declared := by
    intro line edit hkind hedit
    rw [blankEdit?_of_kind (by simp [hkind])] at hedit
    cases hedit

/-- The first lines, with blank ones for those with dangling edges, declare the same type. -/
theorem declaredType?_map_blanked {texts : List Text} {type : DiagramType}
    (h : declaredType? texts = some type) (blank : Text)
    : declaredType? ((classifyFrom false false 0 texts).map (Line.blanked blank)) = some type := by
  have hwrite : (fun line => (blankEdit? blank line).elim [line.text] Edit.texts)
      = fun line => [Line.blanked blank line] := by
    funext line
    rw [blankEdit?, Line.blanked]
    split
    · rfl
    · rfl
  rw [List.map_eq_flatMap, ← hwrite, ← texts_numberedFrom 0 texts, ← texts_runFrom]
  refine (keepsHeader_blankEdit? blank).declaredType? ?_
  rw [texts_numberedFrom, h]

section Flowchart

variable {text : Text} (h : (declaredType? (lines text)).any DiagramType.isSupported = true)
  (her : isErDiagram (lines text) = false)

include h her

/-- The lines that lose an edge are the content lines that dangle. -/
theorem withoutRemovedEdges_eq (blank : Text)
    : withoutRemovedEdges blank text
      = joinLines ((classify (lines text)).map (Line.blanked blank)) := by
  refine congrArg joinLines (List.ext_getElem? fun index => ?_)
  rw [List.getElem?_mapIdx, List.getElem?_map]
  cases hline : (classify (lines text))[index]? with
  | none =>
      rw [List.getElem?_eq_none_iff] at hline
      have hlength := length_classifyFrom (isErDiagram (lines text)) false 0 (lines text)
      rw [List.getElem?_eq_none (hlength ▸ hline)]
      rfl
  | some line =>
      obtain ⟨hindex, htext⟩ := index_of_getElem?_classifyFrom hline
      have hm := List.mem_of_getElem? hline
      have hnumber : (line.number : Int) = (index : Int) + 1 := by
        rw [Line.number, hindex]
        omega
      rw [htext, Option.map_some, Option.map_some]
      refine congrArg some (if_congr ?_ rfl rfl)
      rw [← Line.exists_incompleteEdge_iff, ← her, List.any_eq_true]
      simp only [Bool.and_eq_true, beq_iff_eq, ← mem_repairs_at_iff h hm, hnumber, and_assoc]

theorem sameTrimmed_withoutRemovedEdges {blank : Text} (hb : IsLine blank)
    : SameTrimmed ((classify (lines text)).map (Line.blanked blank))
        (lines (withoutRemovedEdges blank text)) := by
  rw [withoutRemovedEdges_eq h her, lines_joinLines]
  · exact sameTrimmed_chopInit _
  · intro written hw
    obtain ⟨line, hm, rfl⟩ := List.mem_map.1 hw
    rw [Line.blanked]
    split
    · exact hb
    · exact isLine_of_mem_lines (mem_classify_text hm)
  · exact fun hnil => classify_lines_ne_nil text (List.map_eq_nil_iff.1 hnil)

theorem isErDiagram_withoutRemovedEdges {blank : Text} (hb : IsLine blank)
    : isErDiagram (lines (withoutRemovedEdges blank text)) = false := by
  obtain ⟨type, htype, -⟩ := exists_declaredType_of_supported h
  rw [← her]
  apply isErDiagram_congr
  rw [← declaredType?_congr (sameTrimmed_withoutRemovedEdges h her hb), htype, classify, her]
  exact declaredType?_map_blanked htype blank

/-- The lines of the repaired text add what the lines add that stand in their places. -/
theorem filterMap_lineMarks?_sanitize {blank : Text} (hl : IsLine blank) (hb : AllBlank blank)
    : (lines (sanitize text)).filterMap lineMarks?
      = (lines (withoutRemovedEdges blank text)).filterMap lineMarks? := by
  rw [lines_sanitize h, ← filterMap_lineMarks?_congr (sameTrimmed_chopInit _),
    ← filterMap_lineMarks?_congr (sameTrimmed_withoutRemovedEdges h her hl), her,
    List.filterMap_flatMap, List.filterMap_map, List.filterMap_eq_flatMap_toList]
  refine List.flatMap_congr fun line hm => ?_
  rw [classify, her] at hm
  rw [Function.comp_apply]
  exact Line.filterMap_lineMarks?_written (kind_of_mem_classifyFrom_of_not_er hm) hb

/-- A repaired flowchart has as many edges and subgraphs as the text with blank lines in place of
those that lost an edge. -/
theorem exists_countElements_sanitize {blank : Text} (hl : IsLine blank) (hb : AllBlank blank)
    : ∃ nodes others edges subgraphs,
        countElements (sanitize text) = .flowchart nodes edges subgraphs
        ∧ countElements (withoutRemovedEdges blank text) = .flowchart others edges subgraphs := by
  have hagain : isErDiagram (lines (sanitize text)) = false := by
    rw [isErDiagram_congr (declaredType?_sanitize text), her]
  obtain ⟨nodes, hnodes⟩ := exists_countElements_eq hagain
  obtain ⟨others, hothers⟩ := exists_countElements_eq (isErDiagram_withoutRemovedEdges h her hl)
  rw [← filterMap_lineMarks?_sanitize h her hl hb] at hothers
  exact ⟨nodes, others, _, _, hnodes, hothers⟩

end Flowchart

end DiagramRepair
