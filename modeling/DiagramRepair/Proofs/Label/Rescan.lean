import DiagramRepair.Proofs.Edge.Ending
import DiagramRepair.Proofs.Label.Pieces
import DiagramRepair.Proofs.Text.Character

/-! Reading a quoted line again. Single characters, quoted runs and edge labels are read again as
they were, each label being the quoted one. Only the search for the closer of a node label can
come to another end, since it goes by all quotes up to the end of the line, and quoting puts in
more of them.
-/

namespace DiagramRepair.Label

open Text

-----------------------------------------------------------------------------------------
-- What stands before a text
-----------------------------------------------------------------------------------------

/-- Whatever is read next, a pipe behind it opens an edge label after both or after neither. -/
def SameContext (first second : Text) : Prop :=
  ∀ read, Edge.opensLabel (read ++ first) = Edge.opensLabel (read ++ second)

theorem SameContext.append {first second : Text} (h : SameContext first second) (read : Text)
    : SameContext (read ++ first) (read ++ second) := by
  intro more
  rw [← List.append_assoc, ← List.append_assoc]
  exact h (more ++ read)

/-- A character that is neither blank nor part of a connector hides what is behind it. -/
theorem opensLabel_append_cons {c : Char} (hc : c ∉ Edge.endingChars) (hb : isBlank c = false)
    (read back : Text)
    : Edge.opensLabel (read ++ c :: back) = Edge.isConnector (read.dropWhile isBlank) := by
  rw [Edge.opensLabel, List.dropWhile_append]
  split
  · rename_i hnil
    rw [List.isEmpty_iff] at hnil
    rw [hnil, List.dropWhile_cons_of_neg (by simp [hb])]
    exact Edge.isConnector_append_cons hc [] back
  · exact Edge.isConnector_append_cons hc _ back

theorem sameContext_cons {c : Char} (hc : c ∉ Edge.endingChars) (hb : isBlank c = false)
    (first second : Text)
    : SameContext (c :: first) (c :: second) := by
  intro read
  rw [opensLabel_append_cons hc hb, opensLabel_append_cons hc hb]

/-- Behind the closing mark of a label, the label does not matter any more. -/
theorem sameContext_closing {closing : Text} (h : closing ∈ closings) (first second : Text)
    : SameContext (closing.reverse ++ first) (closing.reverse ++ second) := by
  have hall : ∀ closing ∈ closings,
      closing.getLast?.any (fun last => last ∉ Edge.endingChars ∧ isBlank last = false) = true := by
    decide +kernel
  obtain ⟨front, last, rfl, hends⟩ := exists_last_of_any (hall closing h)
  obtain ⟨hc, hb⟩ := of_decide_eq_true hends
  simp only [List.reverse_append, List.reverse_singleton, List.cons_append]
  exact sameContext_cons hc hb _ _

theorem nextPieces_congr {first second : Text}
    (h : Edge.opensLabel first = Edge.opensLabel second) (c : Char) (rest : Text)
    : nextPieces first c rest = nextPieces second c rest := by
  rw [nextPieces, nextPieces, h]

/-- What stands before a text matters only for the pipes in it, by induction on the steps. -/
theorem piecesFrom_congr {first second : Text} (h : SameContext first second) (text : Text)
    : piecesFrom first text = piecesFrom second text := by
  fun_induction piecesFrom first text generalizing second with
  | case1 => rw [piecesFrom]
  | case2 first c rest next =>
      rename_i ih
      have hnext : nextPieces first c rest = nextPieces second c rest :=
        nextPieces_congr (by simpa using h []) c rest
      rw [piecesFrom_cons, ahead, ← hnext]
      exact congrArg _ (ih (h.append _))

-----------------------------------------------------------------------------------------
-- Edge labels
-----------------------------------------------------------------------------------------

/-- How a text stands to a double quote at its start: there is none, there is one with a
partner, or there is one without. -/
theorem quote_cases (text : Text)
    : (text.dropWhile isBlank).head? ≠ some '"'
      ∨ (∃ gap inside behind,
          text = gap ++ '"' :: inside ++ '"' :: behind ∧ AllBlank gap ∧ '"' ∉ inside)
      ∨ ∃ gap rest, text = gap ++ '"' :: rest ∧ AllBlank gap ∧ '"' ∉ rest := by
  have htext := indent_append_trimLeft text
  cases hrest : trimLeft text with
  | nil =>
      left
      rw [trimLeft] at hrest
      simp [hrest]
  | cons c rest =>
      by_cases hc : c = '"'
      · subst hc
        rw [hrest] at htext
        right
        cases hcut : cutAt? '"' rest with
        | some sides =>
            obtain ⟨rfl, hinside⟩ := cutAt?_eq_some hcut
            exact Or.inl ⟨indent text, sides.1, sides.2, by simpa using htext.symm,
              allBlank_indent text, hinside⟩
        | none =>
            exact Or.inr ⟨indent text, rest, htext.symm, allBlank_indent text,
              cutAt?_eq_none_iff.1 hcut⟩
      · left
        rw [trimLeft] at hrest
        simpa [hrest] using hc

theorem edgeLabel?_of_head?_ne {text : Text} (h : (text.dropWhile isBlank).head? ≠ some '"')
    : edgeLabel? text = cutAt? '|' text := by
  unfold edgeLabel?
  split
  · rename_i rest hrest
    simp [hrest] at h
  · rfl

theorem edgeLabel?_quoted {gap inside : Text} (hg : AllBlank gap) (hi : '"' ∉ inside)
    (behind : Text)
    : edgeLabel? (gap ++ '"' :: inside ++ '"' :: behind)
      = (cutAt? '|' behind).map fun sides =>
          (gap ++ '"' :: inside ++ '"' :: sides.1, sides.2) := by
  have hassoc : gap ++ '"' :: inside ++ '"' :: behind
      = gap ++ '"' :: (inside ++ '"' :: behind) := by
    simp
  rw [hassoc, edgeLabel?, dropWhile_append_cons _ hg (by decide),
    takeWhile_append_cons _ hg (by decide)]
  simp only [cutAt?_append hi]

theorem edgeLabel?_open {gap rest : Text} (hg : AllBlank gap) (hr : '"' ∉ rest)
    : edgeLabel? (gap ++ '"' :: rest) = cutAt? '|' (gap ++ '"' :: rest) := by
  rw [edgeLabel?, dropWhile_append_cons _ hg (by decide)]
  simp only [cutAt?_eq_none_iff.2 hr]

/-- There is no edge label where no pipe is left to close it. -/
theorem pipe_of_edgeLabel?_eq_none {text : Text} (h : edgeLabel? text = none)
    : '|' ∉ text
      ∨ ∃ gap inside behind,
          text = gap ++ '"' :: inside ++ '"' :: behind
          ∧ AllBlank gap
          ∧ '"' ∉ inside
          ∧ '|' ∉ behind := by
  rcases quote_cases text with hhead | ⟨gap, inside, behind, rfl, hg, hi⟩ | ⟨gap, rest, rfl, hg, hr⟩
  · rw [edgeLabel?_of_head?_ne hhead] at h
    exact Or.inl (cutAt?_eq_none_iff.1 h)
  · rw [edgeLabel?_quoted hg hi, Option.map_eq_none_iff] at h
    exact Or.inr ⟨gap, inside, behind, rfl, hg, hi, cutAt?_eq_none_iff.1 h⟩
  · rw [edgeLabel?_open hg hr] at h
    exact Or.inl (cutAt?_eq_none_iff.1 h)

theorem edgeLabel?_of_not_mem {text : Text} (h : '|' ∉ text) : edgeLabel? text = none := by
  cases hl : edgeLabel? text with
  | none => rfl
  | some sides =>
      rw [edgeLabel?_eq_some hl] at h
      exact absurd (by simp) h

/-- A label with a double quote that has no partner is quoted. -/
theorem quote?_open_ne_none {reserved : List Char} (hr : '"' ∈ reserved) {gap rest : Text}
    (hg : AllBlank gap) (hq : '"' ∉ rest)
    : quote? reserved (gap ++ '"' :: rest) ≠ none := by
  intro h
  have hblank : isAllBlank (gap ++ '"' :: rest) = false := by
    rw [Bool.eq_false_iff, ne_eq, isAllBlank_iff]
    intro hall
    have hquote := hall '"' (by simp)
    exact absurd hquote (by decide)
  have hquoted : isQuoted (gap ++ '"' :: rest) = false := by
    rw [isQuoted, trim_blank_append _ hg, trim_cons _ (by decide)]
    obtain ⟨back, -, hback⟩ := exists_eq_trimRight_append rest
    have hmem : '"' ∉ trimRight rest := fun hm => hq (hback ▸ List.mem_append_left _ hm)
    have hlast : (trimRight rest).getLast? ≠ some '"' := fun he =>
      hmem (List.mem_of_getLast? he)
    simp [hlast]
  have hany : (gap ++ '"' :: rest).any reserved.contains = true := by
    rw [List.any_eq_true]
    exact ⟨'"', by simp, by simpa using hr⟩
  simp [quote?, hblank, hquoted, hany] at h

/-- The pipe behind an edge label is no double quote, so it does not matter for the start. -/
theorem head?_append_pipe (content other : Text)
    : ((content ++ '|' :: other).dropWhile isBlank).head? = some '"'
      ↔ (content.dropWhile isBlank).head? = some '"' := by
  rw [List.dropWhile_append]
  split
  · rename_i hnil
    rw [List.isEmpty_iff] at hnil
    rw [hnil, List.dropWhile_cons_of_neg (by decide)]
    simp
  · rename_i hne
    rw [List.isEmpty_iff] at hne
    obtain ⟨c, rest, hrest⟩ := List.exists_cons_of_ne_nil hne
    rw [hrest, List.cons_append, List.head?_cons, List.head?_cons]

theorem edgeLabel?_append_of_head? {content : Text}
    (hhead : (content.dropWhile isBlank).head? ≠ some '"') (hp : '|' ∉ content) (other : Text)
    : edgeLabel? (content ++ '|' :: other) = some (content, other) := by
  rw [edgeLabel?_of_head?_ne (mt (head?_append_pipe content other).1 hhead), cutAt?_append hp]

/-- An edge label that starts with no double quote is read again, whatever stands behind it. -/
theorem edgeLabel?_append_of_head?_ne {text content behind : Text}
    (hhead : (text.dropWhile isBlank).head? ≠ some '"')
    (h : edgeLabel? text = some (content, behind)) (other : Text)
    : edgeLabel? (content ++ '|' :: other) = some (content, other) := by
  rw [edgeLabel?_of_head?_ne hhead] at h
  obtain ⟨rfl, hpipe⟩ := cutAt?_eq_some h
  exact edgeLabel?_append_of_head? (mt (head?_append_pipe content behind).2 hhead) hpipe other

/-- An edge label that starts with a quoted run is read again, whatever stands behind it. -/
theorem edgeLabel?_append_of_run {gap inside tail content behind : Text} (hg : AllBlank gap)
    (hi : '"' ∉ inside)
    (h : edgeLabel? (gap ++ '"' :: inside ++ '"' :: tail) = some (content, behind))
    (other : Text)
    : edgeLabel? (content ++ '|' :: other) = some (content, other) := by
  rw [edgeLabel?_quoted hg hi] at h
  obtain ⟨sides, hcut, heq⟩ := Option.map_eq_some_iff.1 h
  obtain ⟨rfl, rfl⟩ := Prod.mk.inj heq
  obtain ⟨-, hpipe⟩ := cutAt?_eq_some hcut
  have hlabel := edgeLabel?_quoted hg hi (sides.1 ++ '|' :: other)
  rw [cutAt?_append hpipe] at hlabel
  simpa using hlabel

/-- An edge label reaches beyond a double quote at its start that has no partner, since no blank
and no quote is a pipe. -/
theorem exists_open_of_edgeLabel? {gap rest content behind : Text} (hg : AllBlank gap)
    (hrest : '"' ∉ rest) (h : edgeLabel? (gap ++ '"' :: rest) = some (content, behind))
    : ∃ inner, content = gap ++ '"' :: inner ∧ '"' ∉ inner := by
  rw [edgeLabel?_open hg hrest] at h
  obtain ⟨htext, -⟩ := cutAt?_eq_some h
  have hfront : ∃ inner, content = gap ++ '"' :: inner := by
    rcases List.append_eq_append_iff.1 htext with ⟨more, hmore, hback⟩ | ⟨more, hmore, hback⟩
    · cases more with
      | nil => simp at hback
      | cons c more => exact ⟨more, by rw [hmore, (List.cons.inj hback).1]⟩
    · cases more with
      | nil => simp at hback
      | cons c more =>
          have hc : c = '|' := (List.cons.inj hback).1.symm
          exact absurd (by simp [hmore, hc]) (hg.not_mem (c := '|') (by decide))
  obtain ⟨inner, rfl⟩ := hfront
  refine ⟨inner, rfl, fun hm => hrest ?_⟩
  rw [List.append_assoc, List.append_cancel_left_eq, List.cons_append] at htext
  exact (List.cons.inj htext).2 ▸ List.mem_append_left _ hm

/-- A quoted edge label is the edge label that is read again, whatever stands behind it. By cases
on the quotes at the start of the text. -/
theorem edgeLabel?_written {reserved : List Char} (hr : '"' ∈ reserved)
    {text content behind : Text} (h : edgeLabel? text = some (content, behind)) (other : Text)
    : edgeLabel? (written reserved content ++ '|' :: other)
      = some (written reserved content, other) := by
  cases hq : quote? reserved content with
  | some quoted =>
      obtain ⟨rfl, -⟩ := quote?_eq_some hq
      have hgap : AllBlank [] := by simp [AllBlank]
      have hlabel := edgeLabel?_quoted hgap (not_mem_softened content) ('|' :: other)
      rw [written, hq, Option.getD_some]
      simpa [cutAt?] using hlabel
  | none =>
      rw [written_of_quote?_eq_none hq]
      rcases quote_cases text
        with hhead | ⟨gap, inside, tail, rfl, hg, hi⟩ | ⟨gap, rest, rfl, hg, hrest⟩
      · exact edgeLabel?_append_of_head?_ne hhead h other
      · exact edgeLabel?_append_of_run hg hi h other
      · obtain ⟨inner, rfl, hinner⟩ := exists_open_of_edgeLabel? hg hrest h
        exact absurd hq (quote?_open_ne_none hr hg hinner)

-----------------------------------------------------------------------------------------
-- Steps that are read again
-----------------------------------------------------------------------------------------

/-- The piece with its label quoted. -/
def Piece.requoted (reserved : List Char) : Piece → Piece
  | .plain text => .plain text
  | .label content => .label (Label.written reserved content)

/-- No label changes that is quoted already. -/
theorem changed?_requoted (reserved : List Char) (pieces : List Piece)
    : (pieces.map (Piece.requoted reserved)).filterMap (Piece.changed? reserved) = [] := by
  rw [List.filterMap_map, List.filterMap_eq_nil_iff]
  intro piece _
  cases piece with
  | plain text => rfl
  | label content => simp [Piece.requoted, Piece.changed?, quote?_written]

/-- The step that starts a text starts the quoted text, too, with its label quoted. -/
def KeepsStep (reserved : List Char) (backwards : Text) (c : Char) (rest : Text) : Prop :=
  nextPieces backwards c (quotedFrom reserved backwards (c :: rest)).tail
    = ((nextPieces backwards c rest).1.map (Piece.requoted reserved),
        quotedFrom reserved (ahead backwards c rest) (nextPieces backwards c rest).2)

/-- Every step starts with plain text. -/
theorem exists_plain_nextPieces (backwards : Text) (c : Char) (rest : Text)
    : ∃ text more, (nextPieces backwards c rest).1 = .plain (c :: text) :: more := by
  unfold nextPieces runPieces edgePieces nodePieces
  split
  · rename_i hc
    subst hc
    split <;> exact ⟨_, _, rfl⟩
  · split
    · rename_i hc
      obtain rfl := hc.1
      split <;> exact ⟨_, _, rfl⟩
    · split
      · split <;> exact ⟨_, _, rfl⟩
      · exact ⟨_, _, rfl⟩

/-- Quoting leaves the first character of a text in its place. -/
theorem quotedFrom_eq_cons (reserved : List Char) (backwards : Text) (c : Char) (rest : Text)
    : quotedFrom reserved backwards (c :: rest)
      = c :: (quotedFrom reserved backwards (c :: rest)).tail := by
  obtain ⟨text, more, hstep⟩ := exists_plain_nextPieces backwards c rest
  rw [quotedFrom_cons, hstep]
  rfl

theorem head?_quotedFrom (reserved : List Char) (backwards text : Text)
    : (quotedFrom reserved backwards text).head? = text.head? := by
  cases text with
  | nil => rw [quotedFrom_nil]
  | cons c rest =>
      rw [quotedFrom_eq_cons]
      rfl

theorem nextPieces_plain {backwards : Text} {c : Char} (hq : c ≠ '"')
    (hp : ¬(c = '|' ∧ Edge.opensLabel backwards = true)) (hw : isWordChar c = false) (rest : Text)
    : nextPieces backwards c rest = ([.plain [c]], rest) := by
  rw [nextPieces, if_neg hq, if_neg hp, if_neg (by simp [hw])]

theorem nextPieces_quote (backwards rest : Text)
    : nextPieces backwards '"' rest = runPieces rest :=
  if_pos rfl

theorem nextPieces_pipe {backwards : Text} (h : Edge.opensLabel backwards = true) (rest : Text)
    : nextPieces backwards '|' rest = edgePieces rest := by
  rw [nextPieces, if_neg (by decide), if_pos ⟨rfl, h⟩]

/-- A character that starts neither a quoted run nor an edge label nor a word. -/
def IsIdle (c : Char) : Prop :=
  c ≠ '"' ∧ c ≠ '|' ∧ isWordChar c = false

theorem isIdle_of_isBlank {c : Char} (h : isBlank c = true) : IsIdle c := by
  refine ⟨?_, ?_, ?_⟩
  · rintro rfl
    exact absurd h (by decide)
  · rintro rfl
    exact absurd h (by decide)
  · cases hw : isWordChar c with
    | false => rfl
    | true => exact absurd h (by simp [isBlank_of_isWordChar hw])

theorem nextPieces_idle {c : Char} (h : IsIdle c) (backwards rest : Text)
    : nextPieces backwards c rest = ([.plain [c]], rest) :=
  nextPieces_plain h.1 (fun hc => h.2.1 hc.1) h.2.2 rest

theorem nextPieces_word {c : Char} (h : isWordChar c = true) (backwards rest : Text)
    : nextPieces backwards c rest
      = nodePieces (c :: rest.takeWhile isWordChar) (rest.dropWhile isWordChar) := by
  have hq : c ≠ '"' := by
    rintro rfl
    exact absurd h (by decide)
  have hp : ¬(c = '|' ∧ Edge.opensLabel backwards = true) := by
    rintro ⟨rfl, -⟩
    exact absurd h (by decide)
  rw [nextPieces, if_neg hq, if_neg hp, if_pos h]

theorem not_mem_of_isWord {text : Text} (h : ∀ c ∈ text, isWordChar c = true) : '"' ∉ text :=
  fun hm => absurd (h '"' hm) (by decide)

theorem nextPieces_word_append {c : Char} {word text : Text}
    (hw : ∀ d ∈ c :: word, isWordChar d = true)
    (ht : ∀ d, text.head? = some d → isWordChar d = false) (backwards : Text)
    : nextPieces backwards c (word ++ text) = nodePieces (c :: word) text := by
  obtain ⟨hc, hword⟩ := List.forall_mem_cons.1 hw
  have hspan := span_append hword ht
  rw [List.span_eq_takeWhile_dropWhile] at hspan
  obtain ⟨htake, hdrop⟩ := Prod.mk.inj hspan
  rw [nextPieces_word hc, htake, hdrop]

theorem Shape.isIdle_of_mem_opener {shape : Shape} {c : Char} (h : c ∈ shape.opener)
    : IsIdle c := by
  have hall : ∀ c ∈ shape.opener, c ≠ '"' ∧ c ≠ '|' ∧ isWordChar c = false := by
    cases shape <;> exact List.all_iff_forall_prop.1 (by decide)
  exact hall c h

theorem head?_opener_append {shape : Shape} {text : Text} {c : Char}
    (h : (shape.opener ++ text).head? = some c)
    : isWordChar c = false := by
  obtain ⟨first, more, hopener⟩ : ∃ first more, shape.opener = first :: more := by
    cases shape <;> exact ⟨_, _, rfl⟩
  rw [hopener] at h
  obtain rfl := Option.some.inj h
  exact (Shape.isIdle_of_mem_opener (hopener ▸ List.mem_cons_self)).2.2

/-- A node is read from its word, which its opener ends. -/
theorem nextPieces_node {c : Char} {word : Text} (hw : ∀ d ∈ c :: word, isWordChar d = true)
    (backwards : Text) (shape : Shape) (rest : Text)
    : nextPieces backwards c (word ++ (shape.opener ++ rest))
      = nodePieces (c :: word) (shape.opener ++ rest) :=
  nextPieces_word_append hw (fun _ => head?_opener_append) backwards

/-- Blanks are written as they are, by induction on them. -/
theorem quotedFrom_blank_append (reserved : List Char) (backwards : Text) {gap : Text}
    (h : AllBlank gap) (rest : Text)
    : ∃ before, quotedFrom reserved backwards (gap ++ rest)
        = gap ++ quotedFrom reserved before rest := by
  induction gap generalizing backwards with
  | nil => exact ⟨backwards, rfl⟩
  | cons c gap ih =>
      have hc : isBlank c = true := h c List.mem_cons_self
      have hgap : AllBlank gap := fun d hd => h d (List.mem_cons_of_mem _ hd)
      obtain ⟨before, hrest⟩ := ih (ahead backwards c (gap ++ rest)) hgap
      refine ⟨before, ?_⟩
      rw [List.cons_append, quotedFrom_cons, nextPieces_idle (isIdle_of_isBlank hc), hrest]
      rfl

theorem runPieces_of_append {inside : Text} (h : '"' ∉ inside) (behind : Text)
    : runPieces (inside ++ '"' :: behind) = ([.plain ('"' :: inside ++ ['"'])], behind) := by
  simp only [runPieces, cutAt?_append h]

/-- A quoted run is written as it is. -/
theorem quotedFrom_run (reserved : List Char) (backwards : Text) {inside : Text}
    (h : '"' ∉ inside) (behind : Text)
    : ∃ before, quotedFrom reserved backwards ('"' :: inside ++ '"' :: behind)
        = '"' :: inside ++ '"' :: quotedFrom reserved before behind := by
  refine ⟨ahead backwards '"' (inside ++ '"' :: behind), ?_⟩
  rw [List.cons_append, quotedFrom_cons, nextPieces_quote, runPieces_of_append h]
  simp [Piece.written]

theorem keepsStep_quote (reserved : List Char) (backwards rest : Text)
    : KeepsStep reserved backwards '"' rest := by
  rw [KeepsStep, quotedFrom_cons, nextPieces_quote, nextPieces_quote]
  cases hcut : cutAt? '"' rest with
  | none =>
      have hmem := cutAt?_eq_none_iff.1 hcut
      simp [runPieces, hcut, Piece.written, Piece.requoted]
  | some sides =>
      obtain ⟨rfl, hinside⟩ := cutAt?_eq_some hcut
      rw [runPieces_of_append hinside]
      simpa [Piece.written, Piece.requoted] using runPieces_of_append hinside _

/-- No edge label arises where there was none: the pipes behind stay behind the quotes. -/
theorem edgeLabel?_quotedFrom_eq_none {text : Text} (h : edgeLabel? text = none)
    (reserved : List Char) (backwards : Text)
    : edgeLabel? (quotedFrom reserved backwards text) = none := by
  rcases pipe_of_edgeLabel?_eq_none h with hpipe | ⟨gap, inside, behind, rfl, hg, hi, hpipe⟩
  · refine edgeLabel?_of_not_mem (fun hm => hpipe ?_)
    exact ((requoted_quotedFrom reserved backwards text).mem_iff (by decide)).1 hm
  · obtain ⟨first, hfirst⟩ := quotedFrom_blank_append reserved backwards hg
      ('"' :: inside ++ '"' :: behind)
    obtain ⟨second, hsecond⟩ := quotedFrom_run reserved first hi behind
    have hbehind : '|' ∉ quotedFrom reserved second behind := fun hm =>
      hpipe (((requoted_quotedFrom reserved second behind).mem_iff (by decide)).1 hm)
    have hlabel := edgeLabel?_quoted hg hi (quotedFrom reserved second behind)
    rw [cutAt?_eq_none_iff.2 hbehind] at hlabel
    rw [List.append_assoc, hfirst, hsecond, ← List.append_assoc]
    exact hlabel

theorem keepsStep_pipe {reserved : List Char} (hr : '"' ∈ reserved) {backwards : Text}
    (h : Edge.opensLabel backwards = true) (rest : Text)
    : KeepsStep reserved backwards '|' rest := by
  rw [KeepsStep, quotedFrom_cons, nextPieces_pipe h, nextPieces_pipe h]
  cases hl : edgeLabel? rest with
  | none =>
      have hnone := edgeLabel?_quotedFrom_eq_none hl reserved (ahead backwards '|' rest)
      simp [edgePieces, hl, Piece.written, Piece.requoted, hnone]
  | some label =>
      have hsome := edgeLabel?_written hr hl
        (quotedFrom reserved (ahead backwards '|' rest) label.2)
      simp [edgePieces, hl, Piece.written, Piece.requoted, hsome]

/-- Only a word can be read differently in the quoted text. -/
theorem keepsStep_of_not_word {reserved : List Char} (hr : '"' ∈ reserved) {c : Char}
    (hw : isWordChar c = false) (backwards rest : Text)
    : KeepsStep reserved backwards c rest := by
  by_cases hq : c = '"'
  · subst hq
    exact keepsStep_quote reserved backwards rest
  · by_cases hp : c = '|' ∧ Edge.opensLabel backwards = true
    · obtain ⟨rfl, hopens⟩ := hp
      exact keepsStep_pipe hr hopens rest
    · rw [KeepsStep, quotedFrom_cons, nextPieces_plain hq hp hw, nextPieces_plain hq hp hw]
      rfl

-----------------------------------------------------------------------------------------
-- Kept steps one after the other
-----------------------------------------------------------------------------------------

/-- The context behind a step is the same whether its label is quoted or not. -/
theorem sameContext_step (reserved : List Char) {step : List Piece} (h : IsStep step)
    (backwards : Text)
    : SameContext ((textOf (step.map (Piece.requoted reserved))).reverse ++ backwards)
        ((textOf step).reverse ++ backwards) := by
  cases h with
  | plain text => exact fun _ => rfl
  | @label opening content closing opens closes =>
      have hcontext := sameContext_closing closes
        ((opening ++ written reserved content).reverse ++ backwards)
        ((opening ++ content).reverse ++ backwards)
      simpa [textOf, Piece.requoted, Piece.text] using hcontext

/-- Where a step is kept, the pieces of the quoted text are those of the text, quoted, and then
those of the quoted rest. -/
theorem KeepsStep.piecesFrom {reserved : List Char} {backwards : Text} {c : Char} {rest : Text}
    (h : KeepsStep reserved backwards c rest)
    : Label.piecesFrom backwards (quotedFrom reserved backwards (c :: rest))
      = (nextPieces backwards c rest).1.map (Piece.requoted reserved)
        ++ Label.piecesFrom (ahead backwards c rest)
            (quotedFrom reserved (ahead backwards c rest) (nextPieces backwards c rest).2) := by
  have hcontext := sameContext_step reserved (isStep_nextPieces backwards c rest) backwards
  rw [quotedFrom_eq_cons, piecesFrom_cons, ahead, h]
  exact congrArg _ (piecesFrom_congr hcontext _)

theorem KeepsStep.changedFrom {reserved : List Char} {backwards : Text} {c : Char} {rest : Text}
    (h : KeepsStep reserved backwards c rest)
    : Label.changedFrom reserved backwards (quotedFrom reserved backwards (c :: rest))
      = Label.changedFrom reserved (ahead backwards c rest)
          (quotedFrom reserved (ahead backwards c rest) (nextPieces backwards c rest).2) := by
  rw [Label.changedFrom, h.piecesFrom, List.filterMap_append, changed?_requoted, List.nil_append,
    Label.changedFrom]

end DiagramRepair.Label
