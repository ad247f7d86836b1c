import DiagramRepair.Proofs.Diagram.Classification
import DiagramRepair.Proofs.Label.Pieces
import DiagramRepair.Proofs.Text.Cut

/-! Quoting and the kinds of flowchart lines. What stands before the first opening character of a
line is written as it is, and so is its last character. A line declares a type, is a comment or
is blank by what stands before any such character, so quoting changes the kind of no line.
-/

namespace DiagramRepair

open Text Label

-----------------------------------------------------------------------------------------
-- The two ends of a quoted text
-----------------------------------------------------------------------------------------

namespace Label

theorem prefix_append_congr {front first second : Text}
    (h : ∀ rest, rest <:+ front → (rest <+: first ↔ rest <+: second)) (text : Text)
    : front <+: text ++ first ↔ front <+: text ++ second := by
  induction text generalizing front with
  | nil => exact h front (List.suffix_refl front)
  | cons c text ih =>
      cases front with
      | nil => simp
      | cons d front =>
          rw [List.cons_append, List.cons_append, List.cons_prefix_cons, List.cons_prefix_cons]
          exact and_congr_right fun _ => ih fun rest hrest =>
            h rest (hrest.trans (List.suffix_cons d front))

/-- The front of a step is written as it is, up to the first character that opens a label. -/
theorem IsStep.prefix_congr {step : List Piece} (h : IsStep step) (reserved : List Char)
    {front first second : Text} (hf : ∀ c ∈ front, c ∉ openers)
    (hrest : ∀ rest, rest <:+ front → (rest <+: first ↔ rest <+: second))
    : front <+: step.flatMap (Piece.written reserved) ++ first
      ↔ front <+: textOf step ++ second := by
  cases h with
  | plain text => simpa [textOf, Piece.written, Piece.text] using prefix_append_congr hrest text
  | @label opening content closing opens closes =>
      obtain ⟨c, hm, hopens⟩ := opens
      have hc : c ∉ front := fun hmem => hf c hmem hopens
      obtain ⟨before, behind, rfl⟩ := List.append_of_mem hm
      simp [textOf, Piece.written, Piece.text, prefix_append_cons_iff hc]

/-- What opens no label stays in front of a text, by induction on the steps. -/
theorem prefix_quotedFrom_iff {reserved : List Char} {backwards text front : Text}
    (hf : ∀ c ∈ front, c ∉ openers)
    : front <+: quotedFrom reserved backwards text ↔ front <+: text := by
  fun_induction piecesFrom backwards text generalizing front with
  | case1 backwards => rw [quotedFrom_nil]
  | case2 backwards c rest next =>
      rename_i ih
      have hstep := (isStep_nextPieces backwards c rest).prefix_congr reserved hf
        (fun more hmore => ih (fun d hd => hf d (hmore.subset hd)))
      rw [textOf_nextPieces] at hstep
      rw [quotedFrom_cons]
      exact hstep

theorem ne_nil_of_mem_closings {closing : Text} (h : closing ∈ closings) : closing ≠ [] := by
  revert closing
  decide +kernel

theorem IsStep.getLast? {step : List Piece} (h : IsStep step) (reserved : List Char)
    : (step.flatMap (Piece.written reserved)).getLast? = (textOf step).getLast? := by
  cases h with
  | plain text => rfl
  | @label opening content closing opens closes =>
      have hlast := List.getLast?_eq_some_getLast (ne_nil_of_mem_closings closes)
      simp [textOf, Piece.written, Piece.text, hlast]

/-- The last character of a text is written as it is, by induction on the steps. -/
theorem getLast?_quotedFrom (reserved : List Char) (backwards text : Text)
    : (quotedFrom reserved backwards text).getLast? = text.getLast? := by
  fun_induction piecesFrom backwards text with
  | case1 backwards => rw [quotedFrom_nil]
  | case2 backwards c rest next ih =>
      have hstep := (isStep_nextPieces backwards c rest).getLast? reserved
      rw [quotedFrom_cons, ← textOf_nextPieces backwards c rest, List.getLast?_append,
        List.getLast?_append, hstep]
      exact congrArg (Option.or · _) ih

end Label

-----------------------------------------------------------------------------------------
-- Kinds of quoted lines
-----------------------------------------------------------------------------------------

theorem Text.AllBlank.not_mem_openers {gap : Text} (h : AllBlank gap) {c : Char} (hc : c ∈ gap)
    : c ∉ openers := by
  have hopeners : ∀ mark ∈ openers, isBlank mark = false := List.all_iff_forall_prop.1 (by decide)
  exact fun hm => h.not_mem (hopeners c hm) hc

theorem isComment_iff {line : Text}
    : isComment line = true ↔ ∃ gap, AllBlank gap ∧ gap ++ commentMarker <+: line := by
  rw [isComment, startsWith, afterLead?_isSome_iff]
  constructor
  · rintro ⟨rest, hrest⟩
    obtain ⟨back, -, hline⟩ := exists_eq_trim_append line
    refine ⟨indent line, allBlank_indent line, rest ++ back, ?_⟩
    refine Eq.trans ?_ hline.symm
    rw [← hrest]
    simp
  · rintro ⟨gap, hgap, rest, rfl⟩
    refine ⟨trimRight rest, Eq.symm ?_⟩
    have hassoc : gap ++ commentMarker ++ rest = gap ++ '%' :: '%' :: rest := by
      simp [commentMarker]
    rw [hassoc, trim_blank_append _ hgap, trim_cons _ (by decide), trimRight_cons _ (by decide)]
    rfl

/-- The type that a line declares depends on what stands before its first semicolon. -/
theorem Declaration.map_type_congr {first second : Text}
    (h : before ';' (trim first) = before ';' (trim second))
    : (Declaration.ofLine? first).map Declaration.type
      = (Declaration.ofLine? second).map Declaration.type := by
  simp only [Declaration.ofLine?, h]
  split
  · rfl
  · split
    · rfl
    · rfl

theorem before_trim_append {front : Text} (h : ';' ∉ front) (back : Text)
    : before ';' (trim (front ++ ';' :: back)) = trimLeft front := by
  rw [trim_append_cons _ _ (by decide)]
  exact before_append (not_mem_trimLeft h) _

/-- What stands behind the first semicolon does not matter for the declared type. -/
theorem Declaration.map_type_append_congr {head : Text} (h : ';' ∉ head) (first second : Text)
    : (Declaration.ofLine? (head ++ ';' :: first)).map Declaration.type
      = (Declaration.ofLine? (head ++ ';' :: second)).map Declaration.type := by
  apply map_type_congr
  rw [before_trim_append h, before_trim_append h]

/-- What stands before the first semicolon of a declaration opens no label. -/
theorem Declaration.not_mem_openers {line : Text} {declaration : Declaration}
    (h : Declaration.ofLine? line = some declaration)
    : ∀ c ∈ before ';' (trim line), c ∉ openers := by
  obtain ⟨hword, hlooks, -⟩ := Declaration.exists_word_of_ofLine? h
  generalize hb : before ';' (trim line) = head at hword hlooks
  have hopeners : ∀ c ∈ openers, c ∈ "[]()\x7b\x7d|>".toList ∧ isNameChar c = false
      ∧ isBlank c = false ∧ c ≠ ' ' :=
    List.all_iff_forall_prop.1 (by decide +kernel)
  intro c hc hm
  obtain ⟨hstatement, hname, hblank, hspace⟩ := hopeners c hm
  have htrim : c ∈ trim head := by
    obtain ⟨back, hback, hhead⟩ := exists_eq_trim_append head
    rw [hhead, List.mem_append, List.mem_append] at hc
    rcases hc with (hc | hc) | hc
    · exact absurd hc ((allBlank_indent head).not_mem hblank)
    · exact hc
    · exact absurd hc (hback.not_mem hblank)
  have hcut : c ∈ before ' ' (trim head) ∨ c ∈ behind ' ' (trim head) := by
    by_cases hmem : ' ' ∈ trim head
    · obtain ⟨front, back, he, hfront⟩ := List.eq_append_cons_of_mem hmem
      rw [he] at htrim ⊢
      rw [before_append hfront, behind_append hfront]
      simpa [hspace] using htrim
    · rw [before_of_not_mem hmem]
      exact Or.inl htrim
  rcases hcut with hcut | hcut
  · rw [DiagramType.isNameChar_of_ofWord? hword hcut] at hname
    cases hname
  · simp only [looksLikeStatement, Bool.or_eq_false_iff, List.any_eq_false] at hlooks
    exact hlooks.1.1.1 c hcut (by simpa using hstatement)

namespace Label

/-- What stands before a semicolon of a quoted text was there before, if it opens no label. -/
theorem exists_append_of_quotedFrom {reserved : List Char} {line front back : Text}
    (hf : ∀ c ∈ front, c ∉ openers) (h : quotedFrom reserved [] line = front ++ ';' :: back)
    : ∃ behind, line = front ++ ';' :: behind := by
  have hopen : ∀ c ∈ front ++ [';'], c ∉ openers := by
    have hmark : ';' ∉ openers := by decide
    intro c hc
    rcases List.mem_append.1 hc with hc | hc
    · exact hf c hc
    · exact List.mem_singleton.1 hc ▸ hmark
  have hquoted : front ++ [';'] <+: quotedFrom reserved [] line := ⟨back, by simp [h]⟩
  obtain ⟨behind, hline⟩ := (prefix_quotedFrom_iff hopen).1 hquoted
  exact ⟨behind, by simp [← hline]⟩

/-- A quoted text in which nothing opens a label is the text. -/
theorem quotedFrom_eq_self_of_not_mem {reserved : List Char} {line : Text}
    (h : ∀ c ∈ quotedFrom reserved [] line, c ∉ openers)
    : quotedFrom reserved [] line = line := by
  have hmarks : ∀ c ∈ openers, c ∉ quoteMarks := List.all_iff_forall_prop.1 (by decide)
  have hline : ∀ c ∈ line, c ∉ openers := fun c hc hm =>
    h c (((requoted_quotedFrom reserved [] line).mem_iff (hmarks c hm)).2 hc) hm
  have hfirst := (prefix_quotedFrom_iff h).1 (List.prefix_refl _)
  have hsecond : line <+: quotedFrom reserved [] line :=
    (prefix_quotedFrom_iff hline).2 (List.prefix_refl line)
  exact hfirst.eq_of_length (Nat.le_antisymm hfirst.length_le hsecond.length_le)

end Label

/-- No line comes to declare a type by quoting: what stands before the first semicolon was
there before. -/
theorem Declaration.isSome_of_quoted {reserved : List Char} {line : Text}
    (h : (Declaration.ofLine? (quoteLine reserved line).text).isSome = true)
    : (Declaration.ofLine? line).isSome = true := by
  rw [text_quoteLine] at h
  obtain ⟨declaration, hd⟩ := Option.isSome_iff_exists.1 h
  have hopen := Declaration.not_mem_openers hd
  generalize hnew : quotedFrom reserved [] line = new at h hopen
  have hindent : ∀ c ∈ indent new, c ∉ openers := fun c hc =>
    (allBlank_indent new).not_mem_openers hc
  obtain ⟨back, hback, htrim⟩ := exists_eq_trim_append new
  by_cases hmem : ';' ∈ trim new
  · obtain ⟨front, rest, hcut, hfront⟩ := List.eq_append_cons_of_mem hmem
    rw [hcut, before_append hfront] at hopen
    rw [hcut, ← List.append_assoc, List.append_assoc, List.cons_append] at htrim
    have hlead : ∀ c ∈ indent new ++ front, c ∉ openers :=
      List.forall_mem_append.2 ⟨hindent, hopen⟩
    have hsemicolon : ';' ∉ indent new ++ front :=
      List.not_mem_append ((allBlank_indent new).not_mem (by decide)) hfront
    obtain ⟨behind, hline⟩ := exists_append_of_quotedFrom hlead (hnew.trans htrim)
    rw [htrim, ← Option.isSome_map, Declaration.map_type_append_congr hsemicolon _ behind,
      Option.isSome_map, ← hline] at h
    exact h
  · -- Nothing in the line opens a label, so the line is as it was.
    rw [before_of_not_mem hmem] at hopen
    have hall : ∀ c ∈ new, c ∉ openers := by
      rw [htrim]
      exact List.forall_mem_append.2
        ⟨List.forall_mem_append.2 ⟨hindent, hopen⟩, fun c hc => hback.not_mem_openers hc⟩
    rw [← hnew] at hall
    rwa [← hnew, quotedFrom_eq_self_of_not_mem hall] at h

/-- Quoting makes no comment of a line. -/
theorem isComment_quoted (reserved : List Char) (line : Text)
    : isComment (quoteLine reserved line).text = isComment line := by
  rw [Bool.eq_iff_iff, isComment_iff, isComment_iff, text_quoteLine]
  refine exists_congr fun gap => and_congr_right fun hgap => prefix_quotedFrom_iff ?_
  intro c hc
  rcases List.mem_append.1 hc with hc | hc
  · exact hgap.not_mem_openers hc
  · have hmarker : ∀ d ∈ commentMarker, d ∉ openers := List.all_iff_forall_prop.1 (by decide)
    exact hmarker c hc

/-- A declaration stays one when the statements behind its first semicolon change. -/
theorem LineKind.ofLine_declaration_congr {head first : Text} (hh : ';' ∉ head)
    (h : LineKind.ofLine false false (head ++ ';' :: first) = .declaration) (second : Text)
    : LineKind.ofLine false false (head ++ ';' :: second) = .declaration := by
  rw [LineKind.ofLine_eq_declaration_iff] at h ⊢
  rw [← Option.isSome_map, Declaration.map_type_append_congr hh second first, Option.isSome_map]
  exact h

theorem LineKind.ofLine_eq_content_iff {text : Text}
    : LineKind.ofLine false false text = .content
      ↔ Declaration.ofLine? text = none ∧ isComment text = false ∧ trim text ≠ [] := by
  constructor
  · intro h
    cases LineKind.isOf h with
    | content _ declares comment written => exact ⟨declares, comment, written⟩
  · rintro ⟨declares, comment, written⟩
    simp [LineKind.ofLine, Declaration.ofLine?_trim, isComment_trim, declares, comment, written]

/-- A content line of a flowchart is one after quoting, too. -/
theorem LineKind.ofLine_quoted {reserved : List Char} {line : Text}
    (h : LineKind.ofLine false false line = .content)
    : LineKind.ofLine false false (quoteLine reserved line).text = .content := by
  obtain ⟨hdeclares, hcomment, hblank⟩ := LineKind.ofLine_eq_content_iff.1 h
  refine LineKind.ofLine_eq_content_iff.2 ⟨?_, ?_, ?_⟩
  · cases hd : Declaration.ofLine? (quoteLine reserved line).text with
    | none => rfl
    | some declaration =>
        have hagain : (Declaration.ofLine? (quoteLine reserved line).text).isSome = true := by
          rw [hd]
          rfl
        have hsome := Declaration.isSome_of_quoted hagain
        simp [hdeclares] at hsome
  · rw [isComment_quoted, hcomment]
  · intro hnil
    have hall := trim_eq_nil_iff.1 hnil
    have hsame := (requoted_quoteLine reserved line).eq_of_not_mem fun c hc =>
      hall.not_mem_quoteMarks hc
    rw [← hsame] at hnil
    exact hblank hnil

end DiagramRepair
