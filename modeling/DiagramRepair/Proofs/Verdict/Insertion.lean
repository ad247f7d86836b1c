import DiagramRepair.Proofs.Repair.Insertion
import DiagramRepair.Proofs.Verdict.Resolution

/-! Verdicts on a text into which a blank line or a comment was put. Such a line holds no bracket
and no line end, so the same is found wrong with the text or repaired in it, on lines that are
numbered on behind the line put in.
-/

namespace DiagramRepair

open Text

-----------------------------------------------------------------------------------------
-- The text with a line put in
-----------------------------------------------------------------------------------------

/-- A line that is blank or a comment, and holds neither line ends nor brackets. -/
structure IsIdle (line : Text) : Prop where
  aside : isAllBlank line = true ∨ isComment line = true
  feedless : '\n' ∉ line
  returnless : '\r' ∉ line
  bracketless : ∀ bracket : Bracket, bracket.opener ∉ line ∧ bracket.closer ∉ line

/-- The text with a line put in behind its first lines. -/
def insertLine (position : Nat) (added text : Text) : Text :=
  joinLines ((lines text).take position ++ added :: (lines text).drop position)

theorem IsIdle.isMeaningful {line : Text} (h : IsIdle line)
    : DiagramRepair.isMeaningful line = false := by
  rcases h.aside with hb | hc
  · simp [DiagramRepair.isMeaningful, hb]
  · simp [DiagramRepair.isMeaningful, hc]

theorem mem_insert {position : Nat} {added line : Text} {ls : List Text}
    : line ∈ ls.take position ++ added :: ls.drop position ↔ line = added ∨ line ∈ ls := by
  conv => rhs; rw [← List.take_append_drop position ls]
  simp only [List.mem_append, List.mem_cons]
  tauto

theorem lines_insertLine {text : Text} (ht : '\r' ∉ text) {added : Text} (ha : IsIdle added)
    (position : Nat)
    : lines (insertLine position added text)
      = (lines text).take position ++ added :: (lines text).drop position := by
  refine lines_joinLines_of_returnless (fun line hm => ?_) (fun line hm => ?_) (by simp)
  · rcases mem_insert.1 hm with rfl | hm
    · exact ha.feedless
    · exact isLine_of_mem_lines hm
  · rcases mem_insert.1 hm with rfl | hm
    · exact ha.returnless
    · exact returnless_of_mem_lines ht hm

theorem returnless_insertLine {text : Text} (ht : '\r' ∉ text) {added : Text} (ha : IsIdle added)
    (position : Nat)
    : '\r' ∉ insertLine position added text := by
  intro hm
  rcases mem_joinWith hm with hfeed | ⟨line, hl, hreturn⟩
  · exact absurd hfeed (by decide)
  · rcases mem_insert.1 hl with rfl | hl
    · exact ha.returnless hreturn
    · exact returnless_of_mem_lines ht hl hreturn

theorem declaredType?_insertLine {text : Text} (ht : '\r' ∉ text) {added : Text}
    (ha : IsIdle added) (position : Nat)
    : declaredType? (lines (insertLine position added text)) = declaredType? (lines text) := by
  rw [lines_insertLine ht ha, declaredType?_insert ha.isMeaningful, List.take_append_drop]

theorem isAllBlank_insertLine {text : Text} (h : isAllBlank text = false) (position : Nat)
    (added : Text)
    : isAllBlank (insertLine position added text) = false := by
  rw [Bool.eq_false_iff, ne_eq, isAllBlank_iff] at h ⊢
  intro hblank
  refine h fun c hc => ?_
  by_cases hreturn : c = '\r'
  · subst hreturn
    decide
  · have hjoined : c ∈ joinLines (lines text) := by
      rwa [joinLines_lines, ← List.count_pos_iff, count_dropReturns hreturn, List.count_pos_iff]
    rcases mem_joinWith hjoined with hfeed | ⟨line, hl, hm⟩
    · rw [List.mem_singleton] at hfeed
      subst hfeed
      decide
    · exact hblank c ((infix_joinLines (mem_insert.2 (Or.inr hl))).subset hm)

-----------------------------------------------------------------------------------------
-- Brackets
-----------------------------------------------------------------------------------------

theorem lineCount_of_not_mem (er : Bool) {c : Char} (hc : isBlank c = false) {line : Text}
    (h : c ∉ line)
    : lineCount er c line = 0 := by
  have hspace : c ≠ ' ' := by
    rintro rfl
    exact absurd hc (by decide)
  have hzero : line.count c = 0 := List.count_eq_zero.2 h
  cases er with
  | true =>
      rw [lineCount_er]
      exact Nat.eq_zero_of_le_zero (hzero ▸ count_maskedLine_le hspace line)
  | false => rw [lineCount_flowchart, hzero]

/-- What the line does not hold is counted as often with it as without it. -/
theorem count_countedText_insertLine {text : Text} (ht : '\r' ∉ text) {added : Text}
    (ha : IsIdle added) (position : Nat) {c : Char} (hc : isBlank c = false) (hm : c ∉ added)
    : (countedText (insertLine position added text)).count c = (countedText text).count c := by
  have her : isErDiagram (lines (insertLine position added text)) = isErDiagram (lines text) :=
    isErDiagram_congr (declaredType?_insertLine ht ha position)
  have hadded : ∀ er, linesCount er c [added] = 0 := fun er => by
    rw [linesCount_singleton, lineCount_of_not_mem er hc hm]
  rw [count_countedText hc, count_countedText hc, her, lines_insertLine ht ha, List.append_cons,
    linesCount_append, linesCount_append, hadded, Nat.add_zero, ← linesCount_append,
    List.take_append_drop]

theorem imbalances_congr {first second : Text}
    (h : ∀ bracket : Bracket,
      (countedText first).count bracket.opener = (countedText second).count bracket.opener
      ∧ (countedText first).count bracket.closer = (countedText second).count bracket.closer)
    : imbalances first = imbalances second := by
  rw [imbalances, imbalances]
  refine congrArg (List.filter _) (List.map_congr_left fun bracket _ => ?_)
  rw [(h bracket).1, (h bracket).2]

theorem imbalances_insertLine {text : Text} (ht : '\r' ∉ text) {added : Text} (ha : IsIdle added)
    (position : Nat)
    : imbalances (insertLine position added text) = imbalances text := by
  refine imbalances_congr fun bracket => ⟨?_, ?_⟩
  · exact count_countedText_insertLine ht ha position
      (isBlank_of_mem_bracketChars bracket.opener_mem) (ha.bracketless bracket).1
  · exact count_countedText_insertLine ht ha position
      (isBlank_of_mem_bracketChars bracket.closer_mem) (ha.bracketless bracket).2

-----------------------------------------------------------------------------------------
-- The repaired text
-----------------------------------------------------------------------------------------

theorem inserts_insertLine {text : Text} (ht : '\r' ∉ text) {added : Text} (ha : IsIdle added)
    {position : Nat} (hp : position ≤ (lines text).length) (er : Bool)
    : let old := repairLines er (SourceLine.ofTexts (lines text))
      let new := repairLines er (SourceLine.ofTexts (lines (insertLine position added text)))
      Inserts position added old.lines new.lines
      ∧ new.repairs = old.repairs.map (Repair.renumber (shiftNumber position)) := by
  rw [lines_insertLine ht ha]
  exact (inserts_ofTexts hp added).repairLines ha.isMeaningful er

/-- The repairs are numbered on behind the line put in, and sorted as before. -/
theorem repairs_insertLine {text : Text} (ht : '\r' ∉ text) {added : Text} (ha : IsIdle added)
    {position : Nat} (hp : position ≤ (lines text).length)
    : (repair (insertLine position added text)).repairs
      = (repair text).repairs.map (Repair.renumber (shiftNumber position)) := by
  have hdeclared := declaredType?_insertLine ht ha position
  have her := isErDiagram_congr hdeclared
  rw [repair, repair]
  dsimp only
  rw [hdeclared, her]
  split
  · rw [(inserts_insertLine ht ha hp _).2]
    refine (List.map_mergeSort fun first _ second _ => ?_).symm
    exact decide_eq_decide.2 (shiftNumber_le_iff position first.line second.line).symm
  · rfl

/-- The repaired text of a text without carriage returns has the lines that were written. -/
theorem lines_sanitize_of_returnless {text : Text}
    (h : (declaredType? (lines text)).any DiagramType.isSupported = true) (ht : '\r' ∉ text)
    : lines (sanitize text)
      = SourceLine.texts
          (repairLines (isErDiagram (lines text)) (SourceLine.ofTexts (lines text))).lines := by
  obtain ⟨type, htype, -⟩ := exists_declaredType_of_supported h
  rw [lines_sanitize h, (repairLines_ofTexts htype).1, chopInit_eq_self_iff]
  intro written hw hlast
  obtain ⟨line, hm, hwritten⟩ := List.mem_flatMap.1 (List.dropLast_subset _ hw)
  refine returnless_of_mem_lines ht (mem_classify_text hm) ?_
  exact Line.mem_of_mem_written hwritten (by decide) (List.mem_of_getLast? hlast)

-----------------------------------------------------------------------------------------
-- The verdict
-----------------------------------------------------------------------------------------

/-- The second verdict says what the first one says, with other numbers on the repairs. Only the
message that no type is declared may differ, since it shows the first line. -/
structure Verdict.AgreesWith (number : Int → Int) (old new : Verdict) : Prop where
  isValid : new.isValid = old.isValid
  kind : new.rejection?.map Rejection.kind = old.rejection?.map Rejection.kind
  type? : new.type? = old.type?
  message
    : old.rejection?.map Rejection.kind ≠ some .unknownType
      → new.rejection?.map Rejection.message = old.rejection?.map Rejection.message
  repairs : new.repairs = old.repairs.map (Repair.renumber number)

theorem Verdict.AgreesWith.refl (number : Int → Int) (reason : Rejection)
    : AgreesWith number (.rejected reason) (.rejected reason) :=
  ⟨rfl, rfl, rfl, fun _ => rfl, rfl⟩

/-- By cases on what may be found wrong with the text. -/
theorem agreesWith_insertLine (expected : Option Text) {text added : Text} {position : Nat}
    (hb : isAllBlank text = false) (ht : '\r' ∉ text) (hp : position ≤ (lines text).length)
    (ha : IsIdle added)
    : Verdict.AgreesWith (shiftNumber position) (validate expected text)
        (validate expected (insertLine position added text)) := by
  unfold validate
  rw [isAllBlank_insertLine hb, hb, declaredType?_insertLine ht ha, imbalances_insertLine ht ha]
  cases declaredType? (lines text) with
  | none => exact ⟨rfl, rfl, rfl, fun h => absurd rfl h, rfl⟩
  | some type =>
      dsimp only
      cases type.isSupported with
      | false => exact .refl _ _
      | true =>
          cases expected.filter fun name => !type.meets name with
          | some name => exact .refl _ _
          | none =>
              cases imbalances text with
              | cons => exact .refl _ _
              | nil => exact ⟨rfl, rfl, rfl, fun _ => rfl, repairs_insertLine ht ha hp⟩

/-- A blank line or a comment without brackets that is put into a text changes nothing but the
numbers of lines: the verdicts agree, and an accepted text resolves to the lines that it resolves to
without it and the line itself, behind those that come from the lines in front of it. -/
theorem validate_insertLine (expected : Option Text) {text added : Text} {position : Nat}
    (hb : isAllBlank text = false) (ht : '\r' ∉ text) (hp : position ≤ (lines text).length)
    (ha : IsIdle added)
    : let old := validate expected text
      let more := insertLine position added text
      let new := validate expected more
      Verdict.AgreesWith (shiftNumber position) old new
      ∧ (old.isValid = true
        → ∃ front back,
            (repairLines (isErDiagram (lines text)) (SourceLine.ofTexts (lines text))).lines
              = front ++ back
            ∧ (∀ line ∈ front, line.number ≤ position)
            ∧ (∀ line ∈ back, position < line.number)
            ∧ lines (old.resolve text) = SourceLine.texts front ++ SourceLine.texts back
            ∧ lines (new.resolve more)
              = SourceLine.texts front ++ added :: SourceLine.texts back) := by
  refine ⟨agreesWith_insertLine expected hb ht hp ha, fun hvalid => ?_⟩
  obtain ⟨type, haccepts⟩ := isValid_validate_iff.1 hvalid
  have hdeclared := declaredType?_insertLine ht ha position
  have hagain : Accepts expected (insertLine position added text) type := {
    declared := hdeclared.trans haccepts.declared
    supported := haccepts.supported
    expected := haccepts.expected
    balanced := (imbalances_insertLine ht ha position).trans haccepts.balanced
  }
  have hmore : '\r' ∉ insertLine position added text := returnless_insertLine ht ha position
  obtain ⟨hinserts, -⟩ := inserts_insertLine ht ha hp (isErDiagram (lines text))
  obtain ⟨front, back, hlines, hfront, hback, htexts⟩ := hinserts.exists_texts
  refine ⟨front, back, hlines, hfront, hback, ?_, ?_⟩
  · rw [haccepts.resolve, lines_sanitize_of_returnless haccepts.any_supported ht, hlines,
      SourceLine.texts, List.map_append]
    rfl
  · rw [hagain.resolve, lines_sanitize_of_returnless hagain.any_supported hmore,
      isErDiagram_congr hdeclared, htexts]

theorem validate_insertLine_in_block
    : isAllBlank "erDiagram\nE \x7b\nid\n\x7d".toList = false
      ∧ IsIdle "%% key".toList
      ∧ (let text := "erDiagram\nE \x7b\nid\n\x7d".toList
        let old := validate none text
        let more := insertLine 2 "%% key".toList text
        let new := validate none more
        Verdict.AgreesWith (shiftNumber 2) old new
        ∧ (old.isValid = true
          → ∃ front back,
              (repairLines (isErDiagram (lines text)) (SourceLine.ofTexts (lines text))).lines
                = front ++ back
              ∧ (∀ line ∈ front, line.number ≤ 2)
              ∧ (∀ line ∈ back, 2 < line.number)
              ∧ lines (old.resolve text) = SourceLine.texts front ++ SourceLine.texts back
              ∧ lines (new.resolve more)
                = SourceLine.texts front ++ "%% key".toList :: SourceLine.texts back)) :=
  have hb : isAllBlank "erDiagram\nE \x7b\nid\n\x7d".toList = false := by decide
  have ha : IsIdle "%% key".toList :=
    ⟨Or.inr (by decide), by decide, by decide, fun bracket => by cases bracket <;> decide⟩
  ⟨hb, ha, validate_insertLine none hb (by decide) (by decide +kernel) ha⟩

end DiagramRepair
