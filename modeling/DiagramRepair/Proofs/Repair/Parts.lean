import DiagramRepair.Proofs.Repair.Written

/-! Parts of a repaired text. A part without blanks and without the characters that repairs put in
stood in the text before. Such a character ends the repaired text only where it ended the text, or
where attributes were written in place of a last line with blanks behind the character.
-/

namespace DiagramRepair

open Text Label

-----------------------------------------------------------------------------------------
-- Parts of written lines
-----------------------------------------------------------------------------------------

/-- A character that is not blank and that no repair puts in. -/
def IsOriginal (c : Char) : Prop :=
  isBlank c = false ∧ c ∉ addedChars

theorem IsOriginal.not_mem_quoteMarks {c : Char} (h : IsOriginal c) : c ∉ quoteMarks :=
  fun hm => h.2 (by simp [addedChars, hm])

theorem IsOriginal.not_mem_defaultType {c : Char} (h : IsOriginal c)
    : c ∉ Attribute.defaultType :=
  fun hm => h.2 (by simp [addedChars, hm])

/-- A part that holds nothing else. -/
structure IsOriginalPart (part : Text) : Prop where
  ne_nil : part ≠ []
  original : ∀ c ∈ part, IsOriginal c

theorem IsOriginalPart.not_mem {part : Text} (h : IsOriginalPart part) {c : Char}
    (hc : ¬IsOriginal c)
    : c ∉ part :=
  fun hm => hc (h.original c hm)

theorem IsOriginalPart.infix_of_indent {part : Text} (h : IsOriginalPart part) {line text : Text}
    (hi : part <:+: indent line ++ text)
    : part <:+: text := by
  refine (infix_gap_append_iff h.ne_nil (fun c hc => h.not_mem fun hori => ?_) text).1 hi
  exact (allBlank_indent line).not_mem hori.1 hc

theorem IsOriginalPart.infix_of_commentOut {part : Text} (h : IsOriginalPart part) {line : Text}
    (hi : part <:+: Edge.commentOut line)
    : part <:+: line := by
  have hadded : ∀ c ∈ addedChars, c ∉ part := fun c hc => h.not_mem fun hori => hori.2 hc
  have hlead : ∀ c ∈ commentMarker ++ [' '], c ∈ addedChars :=
    List.all_iff_forall_prop.1 (by decide)
  have htail : ∀ c ∈ ' ' :: commentMarker ++ ' ' :: Edge.removedMarker, c ∈ addedChars :=
    List.all_iff_forall_prop.1 (by decide)
  have hcomment : Edge.commentOut line
      = indent line ++ ((commentMarker ++ [' ']) ++ (trim line
        ++ (' ' :: commentMarker ++ ' ' :: Edge.removedMarker))) := by
    simp [Edge.commentOut]
  rw [hcomment] at hi
  replace hi := h.infix_of_indent hi
  rw [infix_gap_append_iff h.ne_nil fun c hc => hadded c (hlead c hc),
    infix_append_gap_iff h.ne_nil fun c hc => hadded c (htail c hc)] at hi
  exact hi.trans (trim_isInfix line)

/-- What a line is written as holds no other such parts than the line. -/
theorem IsOriginalPart.infix_of_mem_written {part : Text} (h : IsOriginalPart part) {er : Bool}
    {line : Line} {written : Text} (hw : written ∈ line.written er) (hi : part <:+: written)
    : part <:+: line.text := by
  rcases Line.cases_of_mem_written hw with hquoted | ⟨fields, reads, field, hf, rfl⟩ | rfl
  · exact hquoted.isInfix (fun c hc => (h.original c hc).not_mem_quoteMarks) hi
  · have hspace : ' ' ∉ part := h.not_mem fun hori => absurd hori.1 (by decide)
    exact Attribute.infix_of_infix_render reads hf h.ne_nil hspace
      (fun c hc => (h.original c hc).not_mem_defaultType) (h.infix_of_indent hi)
  · exact h.infix_of_commentOut hi

/-- A repaired text holds no other such parts than the text. -/
theorem IsOriginalPart.infix_of_sanitize {part text : Text} (h : IsOriginalPart part)
    (hi : part <:+: sanitize text)
    : part <:+: text := by
  cases hs : (declaredType? (lines text)).any DiagramType.isSupported with
  | false => rwa [sanitize, repair_of_not_supported hs] at hi
  | true =>
      have hfeed : '\n' ∉ part := h.not_mem fun hori => absurd hori.1 (by decide)
      rw [sanitize_of_supported hs] at hi
      obtain ⟨written, hw, hpart⟩ := exists_infix_of_joinWith h.ne_nil hfeed hi
      obtain ⟨line, hm, hwritten⟩ := List.mem_flatMap.1 hw
      exact (h.infix_of_mem_written hwritten hpart).trans
        (infix_of_mem_lines (mem_classify_text hm))

-----------------------------------------------------------------------------------------
-- The end of the last line
-----------------------------------------------------------------------------------------

/-- The character is the last one that is not blank on a line that is written as attributes. -/
structure Line.BaresEnd (c : Char) (line : Line) : Prop where
  kind : line.kind = .attribute
  rewritten : (Attribute.replacement? line.text).isSome = true
  ends : (trim line.text).getLast? = some c

theorem getLast?_of_requoted {old new : Text} (h : Requoted old new) {c : Char}
    (hc : c ∉ quoteMarks) (hn : new.getLast? = some c)
    : old.getLast? = some c := by
  obtain ⟨front, rfl⟩ := List.getLast?_eq_some_iff.1 hn
  obtain ⟨oldFront, rfl, -⟩ := h.exists_suffix (by simpa using hc)
  exact List.getLast?_concat

theorem getLast?_commentOut_ne {c : Char} (hc : IsOriginal c) (line : Text)
    : (Edge.commentOut line).getLast? ≠ some c := by
  intro h
  rw [Edge.commentOut, List.getLast?_append_of_ne_nil _ (List.cons_ne_nil _ _)] at h
  have hmem : ∀ d ∈ ' ' :: Edge.removedMarker, d ∈ addedChars :=
    List.all_iff_forall_prop.1 (by decide)
  exact hc.2 (hmem c (List.mem_of_getLast? h))

/-- A line that does not end in such a character is written with it at the end exactly when blanks
behind it go away, by cases on the edit. -/
theorem Line.getLast?_last_written_iff {er : Bool} {line : Line} {c : Char} (hc : IsOriginal c)
    (her : line.kind = .attribute → er = true) (hl : line.text.getLast? ≠ some c) {last : Text}
    (hw : (line.written er).getLast? = some last)
    : last.getLast? = some c ↔ line.BaresEnd c := by
  have hquoted : ∀ {new : Text}, Requoted line.text new → new.getLast? ≠ some c := fun h hn =>
    hl (getLast?_of_requoted h hc.not_mem_quoteMarks hn)
  have hkind : line.kind ≠ .attribute → ¬line.BaresEnd c := fun hne hbares => hne hbares.kind
  have hedit := isEdit_repairEdit? er line
  rw [Line.written] at hw
  generalize repairEdit? er line = edit at hedit hw
  cases hedit with
  | untouched first label =>
      obtain rfl := Option.some.inj hw
      refine iff_of_false hl fun hbares => ?_
      obtain rfl := her hbares.kind
      rw [firstEdit?_er, attributeEdit?_eq_none_iff] at first
      have hsome := hbares.rewritten
      rw [first hbares.kind] at hsome
      cases hsome
  | @attributes fields isEr kind reads =>
      rw [Option.elim_some, List.getLast?_map] at hw
      obtain ⟨field, hfield, rfl⟩ := Option.map_eq_some_iff.1 hw
      obtain ⟨front, rfl⟩ := List.getLast?_eq_some_iff.1 hfield
      obtain ⟨rest, hrender⟩ := field.render_eq
      rw [List.getLast?_append_of_ne_nil _ (by simp [hrender]), Attribute.getLast?_render reads]
      exact ⟨fun hend => ⟨kind, by rw [reads]; rfl, hend⟩, fun hbares => hbares.ends⟩
  | edge isFlowchart kind dangles =>
      obtain rfl := Option.some.inj hw
      exact iff_of_false (getLast?_commentOut_ne hc line.text) (hkind (by simp [kind]))
  | relationship isEr kind =>
      obtain rfl := Option.some.inj hw
      exact iff_of_false (hquoted (requoted_quoteRelationship line.text)) (hkind (by simp [kind]))
  | content isFlowchart kind joined =>
      obtain rfl := Option.some.inj hw
      exact iff_of_false (hquoted (requoted_quoteLine _ line.text)) (hkind (by simp [kind]))
  | @declaration head body isFlowchart kind cut =>
      obtain rfl := Option.some.inj hw
      exact iff_of_false (hquoted (requoted_declaration cut _)) (hkind (by simp [kind]))

/-- The last line of a diagram, if it is one that is written as attributes and bares the
character. -/
def BaresEnd (c : Char) (text : Text) : Prop :=
  ∃ line, (classify (lines text)).getLast? = some line ∧ line.BaresEnd c

theorem getLast?_flatMap_written {er : Bool} {classified : List Line} {line : Line}
    (h : classified.getLast? = some line)
    : (classified.flatMap (Line.written er)).getLast? = (line.written er).getLast? := by
  obtain ⟨front, rfl⟩ := List.getLast?_eq_some_iff.1 h
  rw [List.flatMap_append, List.flatMap_singleton,
    List.getLast?_append_of_ne_nil _ (Line.written_ne_nil er line)]

/-- A diagram that does not end in such a character is repaired to a text that does exactly when
blanks behind the character go away. -/
theorem getLast?_sanitize_iff {text : Text}
    (h : (declaredType? (lines text)).any DiagramType.isSupported = true) {c : Char}
    (hc : IsOriginal c) (hl : text.getLast? ≠ some c)
    : (sanitize text).getLast? = some c ↔ BaresEnd c text := by
  have hfeed : c ≠ '\n' := by
    rintro rfl
    exact absurd hc.1 (by decide)
  obtain ⟨line, hline⟩ : ∃ line, (classify (lines text)).getLast? = some line :=
    ⟨_, List.getLast?_eq_some_getLast (classify_lines_ne_nil text)⟩
  obtain ⟨last, hlast⟩ : ∃ last, (line.written (isErDiagram (lines text))).getLast? = some last :=
    ⟨_, List.getLast?_eq_some_getLast (Line.written_ne_nil _ line)⟩
  have htext : (lines text).getLast? = some line.text := by
    rw [← map_text_classifyFrom (isErDiagram (lines text)) false 0 (lines text), ← classify,
      List.getLast?_map, hline, Option.map_some]
  have hend : line.text.getLast? ≠ some c := fun he =>
    hl ((getLast?_of_getLast?_lines htext hfeed).2 he)
  have her := isErDiagram_of_attribute (List.mem_of_getLast? hline)
  have hwritten := (getLast?_flatMap_written hline).trans hlast
  obtain ⟨front, hfront⟩ := List.getLast?_eq_some_iff.1 hwritten
  rw [sanitize_of_supported h, hfront, getLast?_joinLines_concat front last hfeed,
    Line.getLast?_last_written_iff hc her hend hlast]
  constructor
  · exact fun hbares => ⟨line, hline, hbares⟩
  · rintro ⟨other, hother, hbares⟩
    obtain rfl := Option.some.inj (hline.symm.trans hother)
    exact hbares

end DiagramRepair
