import DiagramRepair.Proofs.Label.Rescan

/-! Lines that are settled once they are quoted. A quoted line is read again as the line was as long
as each node label is closed where it was closed before. Behind a word where that ends, the line is
settled if no label that the quoted text closes there needs quotes.
-/

namespace DiagramRepair.Label

open Text

-----------------------------------------------------------------------------------------
-- Closers in the quoted text
-----------------------------------------------------------------------------------------

/-- A node label with its content quoted, in front of the quoted text behind it. -/
def requotedLabel (reserved : List Char) (backwards : Text) : Text × Closing → Text × Closing
  | (opener, closing) =>
      (opener,
        { closing with
          content := written reserved closing.content
          behind := quotedFrom reserved backwards closing.behind })

/-- Behind the word at the start of a text, the label is closed in the quoted text where it was
closed before, or in neither of them. -/
def KeepsCloser (reserved : List Char) (backwards : Text) (c : Char) (rest : Text) : Prop :=
  shapeLabel? ((quotedFrom reserved backwards (c :: rest)).tail.dropWhile isWordChar)
    = (shapeLabel? (rest.dropWhile isWordChar)).map
        (requotedLabel reserved (ahead backwards c rest))

theorem nodePieces_eq_plain_iff {word text : Text}
    : nodePieces word text = ([.plain word], text) ↔ shapeLabel? text = none := by
  unfold nodePieces
  cases shapeLabel? text with
  | none => simp
  | some label => simp

theorem nodePieces_eq_label_iff {word text opener content closer behind : Text}
    : nodePieces word text
        = ([.plain (word ++ opener), .label content, .plain closer], behind)
      ↔ shapeLabel? text = some (opener, ⟨content, closer, behind⟩) := by
  unfold nodePieces
  cases shapeLabel? text with
  | none => simp
  | some label =>
      obtain ⟨opening, closing⟩ := label
      cases closing
      simp [and_assoc]

theorem dropWhile_word_append {word text : Text} (hw : ∀ d ∈ word, isWordChar d = true)
    (ht : ∀ d, text.head? = some d → isWordChar d = false)
    : (word ++ text).dropWhile isWordChar = text := by
  have hspan := span_append hw ht
  rw [List.span_eq_takeWhile_dropWhile] at hspan
  exact (Prod.mk.inj hspan).2

/-- By cases on the label behind the word. -/
theorem keepsStep_word_append_iff {c : Char} {word text : Text}
    (hw : ∀ d ∈ c :: word, isWordChar d = true)
    (ht : ∀ d, text.head? = some d → isWordChar d = false) (reserved : List Char)
    (backwards : Text)
    : KeepsStep reserved backwards c (word ++ text)
      ↔ KeepsCloser reserved backwards c (word ++ text) := by
  have hword : ∀ d ∈ word, isWordChar d = true := fun d hd => hw d (List.mem_cons_of_mem c hd)
  rw [KeepsStep, KeepsCloser, dropWhile_word_append hword ht, quotedFrom_cons]
  cases hlabel : shapeLabel? text with
  | none =>
      have hstep : nextPieces backwards c (word ++ text) = ([.plain (c :: word)], text) := by
        rw [nextPieces_word_append hw ht, nodePieces_eq_plain_iff.2 hlabel]
      have hhead := head?_quotedFrom reserved (ahead backwards c (word ++ text)) text
      simp only [hstep, List.flatMap_cons, List.flatMap_nil, List.append_nil, Piece.written,
        List.cons_append, List.tail_cons, List.map_cons, List.map_nil, Piece.requoted]
      rw [nextPieces_word_append hw (hhead ▸ ht), dropWhile_word_append hword (hhead ▸ ht)]
      exact nodePieces_eq_plain_iff
  | some label =>
      obtain ⟨opener, closing⟩ := label
      obtain ⟨shape, rfl, -⟩ := exists_shape_of_shapeLabel? hlabel
      have hstep : nextPieces backwards c (word ++ text)
          = ([.plain (c :: word ++ shape.opener), .label closing.content,
              .plain closing.closer], closing.behind) := by
        rw [nextPieces_word_append hw ht, nodePieces_eq_label_iff.2 hlabel]
      simp only [hstep, List.flatMap_cons, List.flatMap_nil, List.append_nil, Piece.written,
        List.cons_append, List.append_assoc, List.tail_cons, List.map_cons, List.map_nil,
        Piece.requoted]
      rw [nextPieces_word_append hw fun d => head?_opener_append,
        dropWhile_word_append hword fun d => head?_opener_append]
      exact nodePieces_eq_label_iff

/-- A word is read again as it was exactly when its label is closed where it was closed. -/
theorem keepsStep_iff_keepsCloser {reserved : List Char} {c : Char} (hw : isWordChar c = true)
    (backwards rest : Text)
    : KeepsStep reserved backwards c rest ↔ KeepsCloser reserved backwards c rest := by
  obtain ⟨word, text, -, rfl, hword, htext⟩ := span_spec isWordChar rest
  exact keepsStep_word_append_iff (List.forall_mem_cons.2 ⟨hw, hword⟩) htext reserved backwards

/-- Each label that the text closes is one that needs no quotes. -/
inductive Quiet (reserved : List Char) : Text → Text → Prop
  | done (backwards : Text) : Quiet reserved backwards []
  | plain {backwards : Text} {c : Char} {rest read : Text}
      (noLabel : (nextPieces backwards c rest).1 = [.plain read])
      (behind : Quiet reserved (ahead backwards c rest) (nextPieces backwards c rest).2)
    : Quiet reserved backwards (c :: rest)
  | edge {backwards rest content behind : Text}
      (opens : Edge.opensLabel backwards = true)
      (closes : edgeLabel? rest = some (content, behind))
      (needsNone : quote? reserved content = none)
      (quiet : Quiet reserved (ahead backwards '|' rest) behind)
    : Quiet reserved backwards ('|' :: rest)
  | node {backwards : Text} {c : Char} {rest opener : Text} {closing : Closing}
      (word : isWordChar c = true)
      (closes : shapeLabel? (rest.dropWhile isWordChar) = some (opener, closing))
      (needsNone : quote? reserved closing.content = none)
      (quiet : Quiet reserved (ahead backwards c rest) closing.behind)
    : Quiet reserved backwards (c :: rest)

/-- What a step reads: plain text, the label of an edge or the label of a node. -/
theorem nextPieces_cases (backwards : Text) (c : Char) (rest : Text)
    : (∃ read, (nextPieces backwards c rest).1 = [.plain read])
      ∨ (∃ content behind,
          c = '|'
          ∧ Edge.opensLabel backwards = true
          ∧ edgeLabel? rest = some (content, behind)
          ∧ nextPieces backwards c rest
            = ([.plain ['|'], .label content, .plain ['|']], behind))
      ∨ ∃ opener closing,
          isWordChar c = true
          ∧ shapeLabel? (rest.dropWhile isWordChar) = some (opener, closing)
          ∧ nextPieces backwards c rest
            = ([.plain (c :: rest.takeWhile isWordChar ++ opener), .label closing.content,
                .plain closing.closer], closing.behind) := by
  unfold nextPieces
  split
  · left
    unfold runPieces
    split <;> exact ⟨_, rfl⟩
  · split
    · rename_i hpipe
      cases hlabel : edgeLabel? rest with
      | none => exact Or.inl ⟨_, by rw [edgePieces, hlabel]⟩
      | some label =>
          refine Or.inr (Or.inl ⟨label.1, label.2, hpipe.1, hpipe.2, rfl, ?_⟩)
          rw [edgePieces, hlabel]
    · split
      · rename_i hword
        cases hlabel : shapeLabel? (rest.dropWhile isWordChar) with
        | none => exact Or.inl ⟨_, by rw [nodePieces, hlabel]⟩
        | some label =>
            refine Or.inr (Or.inr ⟨label.1, label.2, hword, rfl, ?_⟩)
            rw [nodePieces, hlabel]
      · exact Or.inl ⟨_, rfl⟩

theorem filterMap_label_eq_nil_iff {reserved : List Char} {opening content closing : Text}
    : [.plain opening, .label content, .plain closing].filterMap (Piece.changed? reserved) = []
      ↔ quote? reserved content = none := by
  cases hq : quote? reserved content <;> simp [Piece.changed?, hq]

/-- A text is quiet exactly when no label of it changes, by induction on the steps in one direction
and on the quiet text in the other. -/
theorem quiet_iff {reserved : List Char} {backwards text : Text}
    : Quiet reserved backwards text ↔ changedFrom reserved backwards text = [] := by
  constructor
  · intro h
    induction h with
    | done backwards => rw [changedFrom, piecesFrom, List.filterMap_nil]
    | plain noLabel behind ih =>
        rw [changedFrom_cons, noLabel, ih]
        rfl
    | @edge backwards rest content behind opens closes needsNone quiet ih =>
        have hstep : nextPieces backwards '|' rest
            = ([.plain ['|'], .label content, .plain ['|']], behind) := by
          rw [nextPieces_pipe opens, edgePieces, closes]
        rw [changedFrom_cons, hstep, ih, List.append_nil]
        exact filterMap_label_eq_nil_iff.2 needsNone
    | @node backwards c rest opener closing word closes needsNone quiet ih =>
        have hstep : nextPieces backwards c rest
            = ([.plain (c :: rest.takeWhile isWordChar ++ opener), .label closing.content,
                .plain closing.closer], closing.behind) := by
          rw [nextPieces_word word, nodePieces_eq_label_iff.2 closes]
        rw [changedFrom_cons, hstep, ih, List.append_nil]
        exact filterMap_label_eq_nil_iff.2 needsNone
  · intro h
    fun_induction piecesFrom backwards text with
    | case1 backwards => exact .done backwards
    | case2 backwards c rest next ih =>
        rw [changedFrom_cons, List.append_eq_nil_iff] at h
        obtain ⟨hstep, hbehind⟩ := h
        have hquiet : Quiet reserved (ahead backwards c rest) (nextPieces backwards c rest).2 :=
          ih hbehind
        rcases nextPieces_cases backwards c rest
          with ⟨read, hread⟩ | ⟨content, behind, rfl, hopens, hcloses, hread⟩
            | ⟨opener, closing, hword, hcloses, hread⟩
        · exact .plain hread hquiet
        · rw [hread] at hstep hquiet
          exact .edge hopens hcloses (filterMap_label_eq_nil_iff.1 hstep) hquiet
        · rw [hread] at hstep hquiet
          exact .node hword hcloses (filterMap_label_eq_nil_iff.1 hstep) hquiet

-----------------------------------------------------------------------------------------
-- Texts that are settled once they are quoted
-----------------------------------------------------------------------------------------

/-- Once quoted, the text is read again step by step as it was, or up to a word behind which the
closer of a label is another one than before, and no label that is closed from there on needs
quotes. -/
inductive Settled (reserved : List Char) : Text → Text → Prop
  | done (backwards : Text) : Settled reserved backwards []
  | kept {backwards : Text} {c : Char} {rest : Text}
      (keeps : isWordChar c = true → KeepsCloser reserved backwards c rest)
      (behind : Settled reserved (ahead backwards c rest) (nextPieces backwards c rest).2)
    : Settled reserved backwards (c :: rest)
  | parted {backwards : Text} {c : Char} {rest : Text}
      (word : isWordChar c = true)
      (differs : ¬KeepsCloser reserved backwards c rest)
      (quiet : Quiet reserved backwards (quotedFrom reserved backwards (c :: rest)))
    : Settled reserved backwards (c :: rest)

/-- No label of a quoted text asks for quotes exactly when the text is settled, by induction on
the steps in one direction and on the settled text in the other. -/
theorem settled_iff {reserved : List Char} (hr : '"' ∈ reserved) {backwards text : Text}
    : Settled reserved backwards text
      ↔ changedFrom reserved backwards (quotedFrom reserved backwards text) = [] := by
  have hkeeps_iff : ∀ {backwards c rest},
      KeepsStep reserved backwards c rest
      ↔ (isWordChar c = true → KeepsCloser reserved backwards c rest) := by
    intro backwards c rest
    cases hw : isWordChar c with
    | true => simp [keepsStep_iff_keepsCloser hw]
    | false => simp [keepsStep_of_not_word hr hw]
  constructor
  · intro h
    induction h with
    | done backwards => rw [quotedFrom_nil, changedFrom, piecesFrom, List.filterMap_nil]
    | kept keeps behind ih => rw [(hkeeps_iff.2 keeps).changedFrom, ih]
    | parted word differs quiet => exact quiet_iff.1 quiet
  · intro h
    fun_induction piecesFrom backwards text with
    | case1 backwards => exact .done backwards
    | case2 backwards c rest next ih =>
        by_cases hkeeps : KeepsStep reserved backwards c rest
        · rw [hkeeps.changedFrom] at h
          exact .kept (hkeeps_iff.1 hkeeps) (ih h)
        · cases hw : isWordChar c with
          | true =>
              exact .parted hw (mt (keepsStep_iff_keepsCloser hw _ _).2 hkeeps) (quiet_iff.2 h)
          | false => exact absurd (keepsStep_of_not_word hr hw backwards rest) hkeeps

/-- Quoting a line twice is quoting it once exactly when the line is settled. -/
theorem quoteLine_quoteLine_iff {reserved : List Char} (hr : '"' ∈ reserved) (line : Text)
    : (quoteLine reserved (quoteLine reserved line).text).text = (quoteLine reserved line).text
      ↔ Settled reserved [] line := by
  rw [settled_iff hr, text_quoteLine_eq_self_iff]
  rfl

end DiagramRepair.Label
