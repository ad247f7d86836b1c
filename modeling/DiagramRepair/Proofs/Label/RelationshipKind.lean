import DiagramRepair.Proofs.Diagram.Balance
import DiagramRepair.Proofs.Diagram.Classification
import DiagramRepair.Proofs.Label.RelationshipLabel

/-! Relationship lines stay what they are when their labels are quoted. Whether a line looks like a
statement goes by runs of a few characters, which quoting leaves alone, so no relationship comes to
declare a type; and it goes on relating the same entities.
-/

namespace DiagramRepair

open Text Label

-----------------------------------------------------------------------------------------
-- Statements behind a header
-----------------------------------------------------------------------------------------

theorem Text.occursIn_append_cons {needle : Text} {c : Char} (h : c ∉ needle) (front back : Text)
    : occursIn needle (front ++ c :: back)
      = (occursIn needle front || occursIn needle back) := by
  have hstart : ∀ front : Text,
      startsWith needle (front ++ c :: back) = startsWith needle front := by
    intro front
    rw [startsWith, startsWith, afterLead?_append_cons h, Option.isSome_map]
  induction front with
  | nil =>
      have hnil : startsWith needle [] = needle.isEmpty := by cases needle <;> rfl
      have hback : startsWith needle (c :: back) = needle.isEmpty := (hstart []).trans hnil
      rw [List.nil_append, occursIn, occursIn, hback]
  | cons d front ih =>
      rw [List.cons_append, occursIn, occursIn, ← List.cons_append, hstart, ih, Bool.or_assoc]

namespace Declaration

/-- The characters that tell statements from headers. -/
def statementChars : List Char :=
  ['[', ']', '(', ')', '{', '}', '|', '>', '-', '=', '.']

theorem looksLikeStatement_append_cons {c : Char} (hc : c ∉ statementChars) (front back : Text)
    : looksLikeStatement (front ++ c :: back)
      = (looksLikeStatement front || looksLikeStatement back) := by
  have hmarks : ∀ mark ∈ "[]()\x7b\x7d|>".toList, mark ∈ statementChars :=
    List.all_iff_forall_prop.1 (by decide +kernel)
  have hshafts : ∀ d ∈ [['-', '-'], ['=', '='], ['-', '.']].flatten, d ∈ statementChars :=
    List.all_iff_forall_prop.1 (by decide +kernel)
  have hmark : "[]()\x7b\x7d|>".toList.contains c = false := by
    rw [List.contains_eq_mem]
    exact decide_eq_false fun hm => hc (hmarks c hm)
  have hshaft : ∀ shaft ∈ [['-', '-'], ['=', '='], ['-', '.']], c ∉ shaft :=
    fun shaft hs hm => hc (hshafts c (List.mem_flatten_of_mem hs hm))
  rw [looksLikeStatement, looksLikeStatement, looksLikeStatement, List.any_append, List.any_cons,
    hmark, occursIn_append_cons (hshaft _ (by simp)), occursIn_append_cons (hshaft _ (by simp)),
    occursIn_append_cons (hshaft _ (by simp))]
  rw [Bool.false_or]
  ac_rfl

theorem byRuns_looksLikeStatement : ByRuns looksLikeStatement (· || ·) statementChars where
  solid := List.all_iff_forall_prop.1 (by decide +kernel)
  append_cons := looksLikeStatement_append_cons
  nil_join := fun _ => rfl
  join_nil := fun outcome => by cases outcome <;> rfl

theorem not_mem_statementChars_of_mem_quoteMarks : ∀ c ∈ quoteMarks, c ∉ statementChars :=
  List.all_iff_forall_prop.1 (by decide +kernel)

theorem isSome_ofLine?_iff {line : Text}
    : (ofLine? line).isSome = true
      ↔ (DiagramType.ofWord? (before ' ' (trim (before ';' (trim line))))).isSome = true
        ∧ looksLikeStatement (behind ' ' (trim (before ';' (trim line)))) = false := by
  unfold ofLine?
  dsimp only
  cases DiagramType.ofWord? (before ' ' (trim (before ';' (trim line)))) with
  | none => simp
  | some type =>
      cases looksLikeStatement (behind ' ' (trim (before ';' (trim line)))) <;> simp

/-- What stands before the first semicolon of a line, where a colon stands in front of it. -/
theorem exists_head_append_colon {front : Text} (hf : ';' ∉ front) (rest : Text)
    : ∃ tail,
        trim (before ';' (trim (front ++ ':' :: rest))) = trimLeft front ++ ':' :: tail
        ∧ looksLikeStatement tail = looksLikeStatement (before ';' rest) := by
  refine ⟨trimRight (before ';' (trimRight rest)), ?_, ?_⟩
  · rw [trim_append_cons _ _ (by decide), before_append_of_not_mem (not_mem_trimLeft hf),
      before_cons_of_ne (by decide), trim_append_cons _ _ (by decide), trimLeft_trimLeft]
  · obtain ⟨back, hback, hrest⟩ := exists_eq_trimRight_append rest
    have hgap := byRuns_looksLikeStatement.not_mem_of_allBlank hback
    rw [byRuns_looksLikeStatement.trimRight]
    conv => rhs; rw [hrest]
    exact (byRuns_looksLikeStatement.before_append_gap _ hgap (hback.not_mem (by decide))).symm

/-- Where a colon stands before any semicolon, a line declares a type by what stands before the
colon, and by whether a statement stands between the colon and the semicolon. -/
theorem isSome_append_colon_iff {front : Text} (hf : ';' ∉ front) (rest : Text)
    : (ofLine? (front ++ ':' :: rest)).isSome = true
      ↔ ∃ word args,
          trimLeft front = word ++ ' ' :: args
          ∧ ' ' ∉ word
          ∧ (DiagramType.ofWord? word).isSome = true
          ∧ looksLikeStatement args = false
          ∧ looksLikeStatement (before ';' rest) = false := by
  have hcolon : ':' ∉ statementChars := by decide
  obtain ⟨tail, hhead, htail⟩ := exists_head_append_colon hf rest
  rw [isSome_ofLine?_iff, hhead]
  constructor
  · rintro ⟨hword, hlooks⟩
    by_cases hspace : ' ' ∈ trimLeft front
    · obtain ⟨word, args, hfront, hw⟩ := List.eq_append_cons_of_mem hspace
      rw [hfront, List.append_assoc, List.cons_append, before_append hw] at hword
      rw [hfront, List.append_assoc, List.cons_append, behind_append hw,
        looksLikeStatement_append_cons hcolon, htail, Bool.or_eq_false_iff] at hlooks
      exact ⟨word, args, hfront, hw, hword, hlooks⟩
    · -- The first word reaches to the colon, which no keyword holds.
      obtain ⟨type, htype⟩ := Option.isSome_iff_exists.1 hword
      have hm : ':' ∈ before ' ' (trimLeft front ++ ':' :: tail) := by
        rw [before_append_of_not_mem hspace, before_cons_of_ne (by decide)]
        simp
      exact absurd (DiagramType.isNameChar_of_ofWord? htype hm) (by decide)
  · rintro ⟨word, args, hfront, hw, hword, hargs, hrest⟩
    rw [hfront, List.append_assoc, List.cons_append, before_append hw, behind_append hw,
      looksLikeStatement_append_cons hcolon, htail, hargs, hrest]
    exact ⟨hword, rfl⟩

end Declaration

-----------------------------------------------------------------------------------------
-- Quoted relationship lines
-----------------------------------------------------------------------------------------

namespace Label

/-- A text and what it is softened to are cut alike, by induction on how the second comes from the
first. -/
theorem Softens.before {old new : Text} (h : Softens old new) {cut : Char}
    (hc : cut ∉ quoteMarks)
    : Softens (before cut old) (before cut new) := by
  have hne : ∀ mark ∈ quoteMarks, mark ≠ cut := fun mark hm he => hc (he ▸ hm)
  have hdouble := before_cons_of_ne (hne '"' (by decide))
  have hsingle := before_cons_of_ne (hne '\x27' (by decide))
  have hback := before_cons_of_ne (hne '\\' (by decide))
  induction h with
  | nil => exact .nil
  | @keep c old new _ ih =>
      by_cases he : c = cut
      · simpa [Text.before, he] using Softens.nil
      · rw [before_cons_of_ne he, before_cons_of_ne he]
        exact .keep c ih
  | soften _ ih =>
      rw [hdouble, hsingle]
      exact .soften ih
  | escape _ ih =>
      rw [hsingle] at ih ⊢
      rw [hback]
      exact .escape ih

end Label

/-- A statement stands before the first semicolon of a quoted label if it stood there before. -/
theorem Declaration.looksLikeStatement_before_quoted {reserved : List Char} {content quoted : Text}
    (h : quote? reserved content = some quoted)
    : looksLikeStatement (before ';' quoted) = looksLikeStatement (before ';' content) := by
  have hquote : '"' ∉ statementChars := by decide
  have hcut : ';' ∉ quoteMarks := by decide
  have hsoft := (softens_softened content).before hcut
  rw [(quote?_eq_some h).1, List.cons_append, before_cons_of_ne (by decide),
    byRuns_looksLikeStatement.cons hquote,
    byRuns_looksLikeStatement.before_append_gap _ (by simpa using hquote) (by decide)]
  exact hsoft.judge_append byRuns_looksLikeStatement not_mem_statementChars_of_mem_quoteMarks []

/-- What stands before the colon of a relationship holds no semicolon. -/
theorem Relationship.IsFormed.exists_front {r : Relationship} (h : r.IsFormed)
    : ∃ front,
        ';' ∉ front
        ∧ ∀ label : Text,
            { r with label : Relationship }.toText
            = front ++ ':' :: (r.labelGap ++ (label ++ r.trailing)) := by
  have hname : ∀ {name : Text}, (∀ c ∈ name, isNameChar c = true) → ';' ∉ name :=
    fun hn hm => absurd (hn _ hm) (by decide)
  have hsymbol : ';' ∉ r.symbol := fun hm => absurd (mem_cardinalityChars h.symbol _ hm) (by decide)
  refine ⟨r.indent ++ r.left ++ r.leftGap ++ r.symbol ++ r.rightGap ++ r.right ++ r.colonGap,
    ?_, fun label => by simp [Relationship.toText_eq]⟩
  simp only [List.mem_append, not_or]
  exact ⟨⟨⟨⟨⟨⟨h.indent.not_mem (by decide), hname h.left⟩, h.leftGap.not_mem (by decide)⟩, hsymbol⟩,
    h.rightGap.not_mem (by decide)⟩, hname h.right⟩, h.colonGap.not_mem (by decide)⟩

/-- No relationship comes to declare a type, or ceases to, when its label is quoted. -/
theorem Declaration.isSome_quoteRelationship (line : Text)
    : (ofLine? (quoteRelationship line).text).isSome = (ofLine? line).isSome := by
  rcases quoteRelationship_cases line with hself | ⟨r, quoted, hr, hq, hquoted⟩
  · rw [hself]
  · obtain ⟨htext, hformed⟩ := Relationship.ofLine?_spec hr
    obtain ⟨front, hfront, htoText⟩ := hformed.exists_front
    have hgaps : ∀ label : Text,
        looksLikeStatement (before ';' (r.labelGap ++ (label ++ r.trailing)))
        = looksLikeStatement (before ';' label) := by
      intro label
      rw [byRuns_looksLikeStatement.before_gap_append
          (byRuns_looksLikeStatement.not_mem_of_allBlank hformed.labelGap)
          (hformed.labelGap.not_mem (by decide)),
        byRuns_looksLikeStatement.before_append_gap _
          (byRuns_looksLikeStatement.not_mem_of_allBlank hformed.trailing)
          (hformed.trailing.not_mem (by decide))]
    rw [hquoted, ← htext, Bool.eq_iff_iff]
    dsimp only
    rw [htoText quoted, show r.toText = _ from htoText r.label, isSome_append_colon_iff hfront,
      isSome_append_colon_iff hfront, hgaps, hgaps, looksLikeStatement_before_quoted hq]

/-- A relationship line starts with the name of an entity. -/
theorem exists_cons_of_relationship? {text : Text} (h : (relationship? text).isSome = true)
    : ∃ c rest, trim text = c :: rest ∧ isNameChar c = true := by
  obtain ⟨r, hr⟩ := Option.isSome_iff_exists.1 h
  obtain ⟨htext, hformed⟩ := Relationship.ofLine?_spec hr
  obtain ⟨c, left, hleft⟩ := List.exists_cons_of_ne_nil hformed.left_ne_nil
  rw [Relationship.toText_eq] at htext
  cases hindent : r.indent with
  | nil =>
      rw [hindent, hleft] at htext
      exact ⟨c, _, htext.symm, hformed.left c (hleft ▸ List.mem_cons_self)⟩
  | cons d indent =>
      have hhead : (trim text).head? = some d := by
        rw [← htext, hindent]
        rfl
      have hsolid := isBlank_head?_trim hhead
      rw [hformed.indent d (hindent ▸ List.mem_cons_self)] at hsolid
      cases hsolid

theorem LineKind.ofLine_eq_relationship_iff {text : Text}
    : LineKind.ofLine true false text = .relationship
      ↔ Declaration.ofLine? text = none ∧ (relationship? text).isSome = true := by
  constructor
  · intro h
    refine ⟨?_, (relates_of_relationship h).2⟩
    cases hd : Declaration.ofLine? text with
    | none => rfl
    | some declaration =>
        have hkind : ofLine true false text = .declaration :=
          ofLine_eq_declaration_iff.2 (by rw [hd]; rfl)
        rw [h] at hkind
        cases hkind
  · rintro ⟨hd, hr⟩
    obtain ⟨c, rest, htrim, hc⟩ := exists_cons_of_relationship? hr
    have hcomment : isComment text = false := isComment_of_trim_cons htrim (by
      rintro rfl
      exact absurd hc (by decide))
    have hempty : (trim text).isEmpty = false := by rw [htrim, List.isEmpty_cons]
    simp [LineKind.ofLine, Declaration.ofLine?_trim, isComment_trim, relationship?_trim, hd,
      hcomment, hempty, isEntityStart_of_relationship? hr, hr]

/-- A relationship line is one after quoting, too. -/
theorem LineKind.ofLine_quoteRelationship {text : Text}
    (h : LineKind.ofLine true false text = .relationship)
    : LineKind.ofLine true false (quoteRelationship text).text = .relationship := by
  rw [ofLine_eq_relationship_iff] at h ⊢
  refine ⟨?_, isSome_relationship?_quoted h.2⟩
  rw [← Option.isNone_iff_eq_none, ← Option.not_isSome, Declaration.isSome_quoteRelationship, h.1]
  rfl

/-- The entities that a relationship relates are the same after quoting. -/
theorem ends_quoteRelationship (line : Text)
    : (relationship? (quoteRelationship line).text).map (fun r => (r.left, r.right))
      = (relationship? line).map fun r => (r.left, r.right) := by
  have hstated := congrArg (Option.map fun parts => (parts.1, parts.2.2.1))
    (stated_quoteRelationship line)
  rwa [Option.map_map, Option.map_map] at hstated

end DiagramRepair
