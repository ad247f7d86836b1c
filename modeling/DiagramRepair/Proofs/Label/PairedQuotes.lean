import DiagramRepair.Proofs.Label.Precedence
import DiagramRepair.Proofs.Label.Settled

/-! Lines without pipes in which the double quotes come in pairs. On such a line all searches agree
on where the quoted runs are, and the label of a node is neutral, before it is quoted and after. So
a search for a closer comes to the same end on the quoted line, every node keeps its shape and every
word without a label stays without one: quoting is a fixed point.
-/

namespace DiagramRepair.Label

open Text

-----------------------------------------------------------------------------------------
-- Other labels in the same places
-----------------------------------------------------------------------------------------

/-- The second text is the first one with other neutral labels in some of its nodes. -/
inductive Relabels : Text → Text → Prop
  | nil : Relabels [] []
  | char {c : Char} {old new : Text} (plain : c ≠ '"') (rest : Relabels old new)
    : Relabels (c :: old) (c :: new)
  | run {inside old new : Text} (closed : '"' ∉ inside) (rest : Relabels old new)
    : Relabels ('"' :: inside ++ '"' :: old) ('"' :: inside ++ '"' :: new)
  | node (shape : Shape) {content other closer old new : Text} (closes : closer ∈ shape.closers)
      (before : IsNeutral content) (after : IsNeutral other) (rest : Relabels old new)
    : Relabels (shape.opener ++ (content ++ (closer ++ old)))
        (shape.opener ++ (other ++ (closer ++ new)))

theorem Relabels.append_left {old new : Text} (h : Relabels old new) {front : Text}
    (hq : Paired front)
    : Relabels (front ++ old) (front ++ new) := by
  induction hq with
  | nil => exact h
  | char plain _ ih => exact .char plain ih
  | run closed _ ih => simpa using Relabels.run closed ih

/-- What holds neither an opening bracket nor a double quote starts both texts or neither. -/
theorem Relabels.prefix_iff {old new : Text} (h : Relabels old new) {lead : Text}
    (hl : ∀ c ∈ lead, isOpeningBracket c = false ∧ c ≠ '"')
    : lead <+: old ↔ lead <+: new := by
  induction h generalizing lead with
  | nil => rfl
  | @char c old new _ _ ih =>
      cases lead with
      | nil => simp
      | cons d lead =>
          rw [List.cons_prefix_cons, List.cons_prefix_cons]
          exact and_congr_right fun _ => ih (List.forall_mem_cons.1 hl).2
  | @run inside old new _ _ _ =>
      cases lead with
      | nil => simp
      | cons d lead => simp [List.cons_prefix_cons, (hl d List.mem_cons_self).2]
  | @node shape content other closer old new _ _ _ _ _ =>
      cases lead with
      | nil => simp
      | cons d lead =>
          obtain ⟨bracket, rest, hopener, hopen⟩ := shape.exists_bracket_opener
          have hne : d ≠ bracket := by
            rintro rfl
            simp [(hl d List.mem_cons_self).1] at hopen
          simp [hopener, List.cons_prefix_cons, hne]

/-- The same closers stand at the start of both texts. -/
theorem Relabels.closerAt?_eq_none_iff {old new : Text} (h : Relabels old new) (shape : Shape)
    (depth : Nat)
    : closerAt? (closersAt depth shape.closers) old = none
      ↔ closerAt? (closersAt depth shape.closers) new = none := by
  rw [Label.closerAt?_eq_none_iff, Label.closerAt?_eq_none_iff]
  refine forall₂_congr fun closer hm => not_congr (h.prefix_iff fun c hc => ?_)
  have hk := closersAt_subset depth shape.closers hm
  exact ⟨Shape.not_opening_of_mem_closer hk hc,
    ne_quote_of_mem_delimiters ((shape.closer_subset_delimiters closer hk).2 hc)⟩

theorem isSome_close?_of_closerAt? {closers : List Text} {depth : Nat} {text : Text}
    (hne : text ≠ []) (h : closerAt? (closersAt depth closers) text ≠ none)
    : (close? closers depth text).isSome = true := by
  obtain ⟨c, rest, rfl⟩ := List.exists_cons_of_ne_nil hne
  obtain ⟨found, hfound⟩ := Option.ne_none_iff_exists'.1 h
  rw [close?.eq_def]
  simp [hfound]

/-- A search finds a closer in both texts or in neither, by induction on how the second text comes
from the first: the steps of the search are the same, and whole nodes are passed over. -/
theorem Relabels.isSome_close? {old new : Text} (h : Relabels old new) (shape : Shape)
    (depth : Nat)
    : (close? shape.closers depth old).isSome = (close? shape.closers depth new).isSome := by
  induction h generalizing depth with
  | nil => rfl
  | @char c old new plain rest ih =>
      have hcloser := (Relabels.char plain rest).closerAt?_eq_none_iff shape depth
      by_cases hnone : closerAt? (closersAt depth shape.closers) (c :: old) = none
      · rw [close?_cons hnone plain, close?_cons (hcloser.1 hnone) plain]
        cases depthAfter c depth with
        | none => rfl
        | some next => simpa using ih next
      · rw [isSome_close?_of_closerAt? (List.cons_ne_nil _ _) hnone,
          isSome_close?_of_closerAt? (List.cons_ne_nil _ _) (mt hcloser.2 hnone)]
  | @run inside old new closed _ ih =>
      rw [List.cons_append, List.cons_append, close?_run (closerAt?_quote shape depth _) closed,
        close?_run (closerAt?_quote shape depth _) closed]
      simpa using ih depth
  | @node other content label closer old new closes before after _ ih =>
      rw [close?_node shape before closes, close?_node shape after closes]
      simpa using ih depth

-----------------------------------------------------------------------------------------
-- Labels that are found again
-----------------------------------------------------------------------------------------

/-- A closer that does not stand where a label goes on does not stand there with other text behind
the label either, since all closers of a shape are of one length. -/
theorem closerAt?_behind_congr {shape : Shape} {closer : Text} (hk : closer ∈ shape.closers)
    {depth : Nat} {text behind : Text}
    (h : closerAt? (closersAt depth shape.closers) (text ++ (closer ++ behind)) = none)
    (other : Text)
    : closerAt? (closersAt depth shape.closers) (text ++ (closer ++ other)) = none := by
  rw [closerAt?_eq_none_iff] at h ⊢
  intro candidate hm hprefix
  refine h candidate hm ?_
  have hlength := Shape.length_closer (closersAt_subset depth shape.closers hm) hk
  rw [← List.append_assoc] at hprefix ⊢
  have hfront : candidate <+: text ++ closer :=
    List.prefix_of_prefix_length_le hprefix (List.prefix_append _ _)
      (by rw [List.length_append]; omega)
  exact hfront.trans (List.prefix_append _ _)

/-- A label ends at its closer whatever stands behind it, by induction on the label. -/
theorem close?_behind_congr {shape : Shape} {content closer behind : Text} (hq : Paired content)
    {depth : Nat}
    (h : close? shape.closers depth (content ++ (closer ++ behind))
      = some ⟨content, closer, behind⟩)
    (other : Text)
    : close? shape.closers depth (content ++ (closer ++ other))
      = some ⟨content, closer, other⟩ := by
  have hk : closer ∈ shape.closers := closer_mem_of_close? h
  induction hq generalizing depth with
  | nil =>
      obtain rfl := depth_of_close?_nil h
      exact close?_closer hk other
  | @char c content plain _ ih =>
      obtain ⟨next, hdepth, hnext⟩ := exists_depthAfter_of_close? plain h
      have hnone := closerAt?_behind_congr hk (closerAt?_of_close? h) other
      rw [List.cons_append] at hnone ⊢
      rw [close?_cons hnone plain, hdepth, Option.bind_some, ih hnext]
      rfl
  | @run inside content closed _ ih =>
      have hassoc : ∀ behind : Text, '"' :: inside ++ '"' :: content ++ (closer ++ behind)
          = '"' :: inside ++ '"' :: (content ++ (closer ++ behind)) := by
        simp
      have hnone := closerAt?_behind_congr hk (closerAt?_of_close? h) other
      rw [hassoc] at h hnone ⊢
      rw [List.cons_append] at hnone ⊢
      rw [close?_run hnone closed, ih (close?_behind_run closed h)]
      simp [Closing.extend]

/-- A label that is found where quotes come in pairs has its quotes in pairs, by induction on the
pairs: the search passes over single characters and quoted runs up to its end. -/
theorem even_count_of_close? {closers : List Text} {text : Text} (hq : Paired text) {depth : Nat}
    {closing : Closing} (h : close? closers depth text = some closing)
    : closing.content.count '"' % 2 = 0 := by
  induction hq generalizing depth closing with
  | nil => simp [close?] at h
  | @char c rest plain _ ih =>
      obtain ⟨content, closer, behind⟩ := closing
      cases content with
      | nil => rfl
      | cons d content =>
          rw [close?_cons (closerAt?_of_close? h) plain] at h
          obtain ⟨next, -, hnext⟩ := Option.bind_eq_some_iff.1 h
          obtain ⟨inner, hinner, heq⟩ := Option.map_eq_some_iff.1 hnext
          rw [← heq]
          simpa [Closing.extend, List.count_cons_of_ne plain] using ih hinner
  | @run inside rest closed _ ih =>
      obtain ⟨content, closer, behind⟩ := closing
      cases content with
      | nil => rfl
      | cons d content =>
          have hnone := closerAt?_of_close? h
          rw [List.cons_append] at h hnone
          rw [close?_run hnone closed] at h
          obtain ⟨inner, hinner, heq⟩ := Option.map_eq_some_iff.1 h
          have hcontent : '"' :: inside ++ ['"'] ++ inner.content
              = '"' :: inside ++ '"' :: inner.content := by
            simp
          rw [← heq, Closing.extend, hcontent, count_run closed, Nat.add_mod_right]
          exact ih hinner

/-- Where quotes come in pairs, the label of a text is neutral and paired, and the quotes behind it
come in pairs, too. -/
theorem neutral_of_shapeLabel? {text opener : Text} {closing : Closing}
    (h : shapeLabel? text = some (opener, closing)) (hq : text.count '"' % 2 = 0)
    : Paired closing.content
      ∧ IsNeutral closing.content
      ∧ closing.behind.count '"' % 2 = 0 := by
  obtain ⟨before, shape, after, -, rfl, ⟨inside, rfl, hfound⟩, -⟩ := shapeLabel?_eq_some_iff.1 h
  have hk := closer_mem_of_close? hfound
  have htext := close?_eq_some hfound
  rw [count_append_of_not_mem shape.quote_not_mem_opener] at hq
  have heven := even_count_of_close? (paired_of_count inside hq) hfound
  have hpaired := paired_of_count closing.content heven
  refine ⟨hpaired, ?_, ?_⟩
  · rw [htext, List.append_assoc] at hfound
    exact isNeutral_of_close? hpaired hfound
  · rw [htext, List.append_assoc, List.count_append,
      count_append_of_not_mem (Shape.quote_not_mem_closer hk)] at hq
    omega

theorem isNeutral_written {content : Text} (hn : IsNeutral content) (reserved : List Char)
    : IsNeutral (written reserved content) := by
  cases hquote : quote? reserved content with
  | none => rwa [written_of_quote?_eq_none hquote]
  | some quoted =>
      rw [written, hquote, Option.getD_some, (quote?_eq_some hquote).1]
      exact isNeutral_run (not_mem_softened content)

-----------------------------------------------------------------------------------------
-- Steps where quotes come in pairs
-----------------------------------------------------------------------------------------

/-- What one step reads in a text without pipes in which all quotes have partners. -/
inductive IsPairedStep : Char → Text → List Piece × Text → Prop
  | idle {c : Char} {rest : Text} (idle : c ≠ '"') : IsPairedStep c rest ([.plain [c]], rest)
  | run {inside behind : Text} (closed : '"' ∉ inside)
    : IsPairedStep '"' (inside ++ '"' :: behind) ([.plain ('"' :: inside ++ ['"'])], behind)
  | word {c : Char} {word behind : Text} (isWord : ∀ d ∈ c :: word, isWordChar d = true)
    : IsPairedStep c (word ++ behind) ([.plain (c :: word)], behind)
  | node {c : Char} {word text opener : Text} {closing : Closing}
      (isWord : ∀ d ∈ c :: word, isWordChar d = true)
      (labelled : shapeLabel? text = some (opener, closing))
    : IsPairedStep c (word ++ text)
        ([.plain (c :: word ++ opener), .label closing.content, .plain closing.closer],
          closing.behind)

/-- By cases on the character that the step starts with. -/
theorem isPairedStep_nextPieces (backwards : Text) {c : Char} {rest : Text} (hp : c ≠ '|')
    (hq : (c :: rest).count '"' % 2 = 0)
    : IsPairedStep c rest (nextPieces backwards c rest) := by
  by_cases hquote : c = '"'
  · subst hquote
    rw [nextPieces_quote]
    cases hcut : cutAt? '"' rest with
    | none =>
        rw [List.count_cons_self, List.count_eq_zero_of_not_mem (cutAt?_eq_none_iff.1 hcut)] at hq
        contradiction
    | some sides =>
        obtain ⟨rfl, hinside⟩ := cutAt?_eq_some hcut
        rw [runPieces_of_append hinside]
        exact .run hinside
  · cases hword : isWordChar c with
    | false =>
        rw [nextPieces_plain hquote (fun h => hp h.1) hword]
        exact .idle hquote
    | true =>
        have hall : ∀ d ∈ c :: rest.takeWhile isWordChar, isWordChar d = true :=
          List.forall_mem_cons.2 ⟨hword, fun d hd => List.mem_takeWhile_imp hd⟩
        have hrest := List.takeWhile_append_dropWhile (p := isWordChar) (l := rest)
        rw [nextPieces_word hword, nodePieces]
        generalize rest.takeWhile isWordChar = word at hall hrest ⊢
        generalize rest.dropWhile isWordChar = text at hrest ⊢
        subst hrest
        split
        · rename_i hlabel
          exact .node hall hlabel
        · exact .word hall

theorem IsPairedStep.even_count {c : Char} {rest : Text} {step : List Piece × Text}
    (h : IsPairedStep c rest step) (hq : (c :: rest).count '"' % 2 = 0)
    : step.2.count '"' % 2 = 0 := by
  cases h with
  | idle idle => rwa [List.count_cons_of_ne idle] at hq
  | run closed => rwa [← List.cons_append, count_run closed, Nat.add_mod_right] at hq
  | word isWord =>
      rwa [← List.cons_append, count_append_of_not_mem (not_mem_of_isWord isWord)] at hq
  | node isWord labelled =>
      rw [← List.cons_append, count_append_of_not_mem (not_mem_of_isWord isWord)] at hq
      exact (neutral_of_shapeLabel? labelled hq).2.2

/-- What is behind a step stood in the text. -/
theorem not_mem_behind_step {mark c : Char} {rest : Text} (h : mark ∉ c :: rest) (backwards : Text)
    : mark ∉ (nextPieces backwards c rest).2 := by
  rw [← textOf_nextPieces backwards c rest] at h
  exact fun hm => h (List.mem_append_right _ hm)

/-- Where quotes come in pairs and there are no pipes, a quoted text has other neutral labels in the
same nodes. By induction on the steps. -/
theorem relabels_quotedFrom (reserved : List Char) (backwards : Text) {text : Text}
    (hp : '|' ∉ text) (hq : text.count '"' % 2 = 0)
    : Relabels text (quotedFrom reserved backwards text) := by
  fun_induction piecesFrom backwards text with
  | case1 backwards =>
      rw [quotedFrom_nil]
      exact .nil
  | case2 backwards c rest next =>
      rename_i ih
      have hpipe : c ≠ '|' := fun he => hp (he ▸ List.mem_cons_self)
      have hstep := isPairedStep_nextPieces backwards hpipe hq
      have hrest : Relabels (nextPieces backwards c rest).2
          (quotedFrom reserved (ahead backwards c rest) (nextPieces backwards c rest).2) :=
        ih (not_mem_behind_step hp backwards) (hstep.even_count hq)
      rw [quotedFrom_cons]
      generalize quotedFrom reserved (ahead backwards c rest) (nextPieces backwards c rest).2 = new
        at hrest ⊢
      generalize nextPieces backwards c rest = step at hstep hrest ⊢
      cases hstep with
      | idle idle => exact .char idle hrest
      | run closed => simpa [Piece.written] using hrest.run closed
      | word isWord =>
          simpa [Piece.written] using
            hrest.append_left (paired_of_not_mem (not_mem_of_isWord isWord))
      | @node _ word text opener closing isWord labelled =>
          rw [← List.cons_append, count_append_of_not_mem (not_mem_of_isWord isWord)] at hq
          obtain ⟨-, hneutral, -⟩ := neutral_of_shapeLabel? labelled hq
          have hwritten := isNeutral_written hneutral reserved
          obtain ⟨shape, rfl, hk⟩ := exists_shape_of_shapeLabel? labelled
          have hnode := (hrest.node shape hk hneutral hwritten).append_left
            (paired_of_not_mem (not_mem_of_isWord isWord))
          rw [shapeLabel?_eq_some labelled]
          simpa [Piece.written] using hnode

-----------------------------------------------------------------------------------------
-- Words that are read again
-----------------------------------------------------------------------------------------

/-- What is read character by character at the start of a quoted text starts the text, too, and what
is behind it is quoted for itself. By induction on it. -/
theorem exists_behind_of_quotedFrom {reserved : List Char} {backwards text lead rest : Text}
    (hl : ∀ c ∈ lead, IsIdle c) (h : quotedFrom reserved backwards text = lead ++ rest)
    : ∃ before behind, text = lead ++ behind ∧ rest = quotedFrom reserved before behind := by
  induction lead generalizing backwards text with
  | nil => exact ⟨backwards, text, rfl, h.symm⟩
  | cons c lead ih =>
      obtain ⟨hc, hlead⟩ := List.forall_mem_cons.1 hl
      cases text with
      | nil => simp at h
      | cons d text =>
          have hd := quotedFrom_eq_cons reserved backwards d text
          rw [h, List.cons_append] at hd
          obtain rfl := (List.cons.inj hd).1
          rw [quotedFrom_cons, nextPieces_idle hc] at h
          obtain ⟨before, behind, rfl, hrest⟩ := ih hlead (List.cons.inj h).2
          exact ⟨before, behind, rfl, hrest⟩

/-- A word without a label has none after quoting, since a search behind any opener finds no closer
in the quoted text either. -/
theorem shapeLabel?_quotedFrom_eq_none {text : Text} (hp : '|' ∉ text)
    (hq : text.count '"' % 2 = 0) (h : shapeLabel? text = none) (reserved : List Char)
    (backwards : Text)
    : shapeLabel? (quotedFrom reserved backwards text) = none := by
  rw [shapeLabel?_eq_none_iff] at h ⊢
  intro shape inside hinside
  obtain ⟨before, behind, rfl, rfl⟩ :=
    exists_behind_of_quotedFrom (fun _ => Shape.isIdle_of_mem_opener) hinside
  rw [count_append_of_not_mem shape.quote_not_mem_opener] at hq
  have hrelabels := relabels_quotedFrom reserved before
    (fun hm => hp (List.mem_append_right _ hm)) hq
  have hsome := hrelabels.isSome_close? shape 0
  rw [h shape behind rfl] at hsome
  simpa using hsome.symm

/-- An opener goes on into a label that starts with a slash by that slash only. -/
theorem Shape.prefix_slash {earlier shape : Shape} {rest : Text}
    (h : earlier.opener <+: shape.opener ++ '/' :: rest)
    : earlier.opener <+: shape.opener ∨ earlier.opener = shape.opener ++ ['/'] := by
  have hlast : '/' ∉ earlier.opener.dropLast := by
    cases earlier <;> decide
  have hslash : shape.opener ++ ['/'] <+: shape.opener ++ '/' :: rest := ⟨rest, by simp⟩
  rcases List.prefix_or_prefix_of_prefix h hslash with hshort | ⟨more, hmore⟩
  · rcases List.prefix_concat_iff.1 hshort with hsame | hopener
    · exact Or.inr hsame
    · exact Or.inl hopener
  · rcases List.eq_nil_or_concat more with rfl | ⟨front, last, rfl⟩
    · exact Or.inr (by simpa using hmore.symm)
    · rw [← hmore, List.concat_eq_append, ← List.append_assoc, List.dropLast_concat] at hlast
      simp at hlast

/-- A label that is left alone and starts with a delimiter starts with a slash, since all other
delimiters are reserved. -/
theorem head_of_quote?_eq_none {c : Char} {rest : Text} (hd : c ∈ delimiters)
    (h : quote? flowchartReserved (c :: rest) = none)
    : c = '/' := by
  have hblank : ∀ c ∈ delimiters, isBlank c = false := List.all_iff_forall_prop.1 (by decide)
  have hmarks : ∀ c ∈ delimiters, c ≠ '"' ∧ c ≠ '\x27' :=
    List.all_iff_forall_prop.1 (by decide)
  have hreserved : ∀ c ∈ delimiters, c = '/' ∨ c ∈ flowchartReserved :=
    List.all_iff_forall_prop.1 (by decide)
  rcases quote?_eq_none_iff.1 h with hall | hquoted | ⟨-, hfree⟩
  · simp [isAllBlank, hblank c hd] at hall
  · rw [isQuoted, trim_cons _ (hblank c hd)] at hquoted
    simp [hmarks c hd] at hquoted
  · exact (hreserved c hd).resolve_right (hfree c List.mem_cons_self)

/-- A label that was found in the delimiters of a shape is found there again once it is quoted,
whatever stands behind it. -/
theorem close?_written {shape : Shape} {content closer behind : Text} (hq : Paired content)
    (h : close? shape.closers 0 (content ++ (closer ++ behind)) = some ⟨content, closer, behind⟩)
    (reserved : List Char) (other : Text)
    : close? shape.closers 0 (written reserved content ++ (closer ++ other))
      = some ⟨written reserved content, closer, other⟩ := by
  cases hquote : quote? reserved content with
  | none =>
      rw [written_of_quote?_eq_none hquote]
      exact close?_behind_congr hq h other
  | some quoted =>
      rw [written, hquote, Option.getD_some, (quote?_eq_some hquote).1, List.cons_append,
        List.cons_append, List.append_assoc, List.singleton_append,
        close?_run (closerAt?_quote shape 0 _) (not_mem_softened content),
        close?_closer (closer_mem_of_close? h)]
      simp [Closing.extend]

/-- A quoted label that starts with a delimiter was left alone, and the delimiter is a slash. -/
theorem exists_slash_of_written {content : Text} {c : Char}
    (hc : (written flowchartReserved content).head? = some c) (hd : c ∈ delimiters)
    : ∃ rest, content = '/' :: rest ∧ written flowchartReserved content = content := by
  cases hquote : quote? flowchartReserved content with
  | some quoted =>
      rw [written, hquote, Option.getD_some, (quote?_eq_some hquote).1] at hc
      obtain rfl := Option.some.inj hc
      exact absurd hd (by decide)
  | none =>
      have hwritten := written_of_quote?_eq_none hquote
      rw [hwritten] at hc
      obtain ⟨rest, rfl⟩ := List.head?_eq_some_iff.1 hc
      obtain rfl := head_of_quote?_eq_none hd hquote
      exact ⟨rest, rfl, hwritten⟩

/-- A label that was found in the delimiters of a shape is found there again once it is quoted, in
the same shape. A quote at its start hides it from the shapes in front; and where it starts with a
slash, the shape whose opener ends in a slash found no closer before, and finds none now. -/
theorem shapeLabel?_written {text opener : Text} {closing : Closing}
    (h : shapeLabel? text = some (opener, closing)) (hq : text.count '"' % 2 = 0) {other : Text}
    (hr : Relabels closing.behind other)
    : shapeLabel? (opener
          ++ (written flowchartReserved closing.content ++ (closing.closer ++ other)))
      = some (opener, ⟨written flowchartReserved closing.content, closing.closer, other⟩) := by
  obtain ⟨hpaired, -, -⟩ := neutral_of_shapeLabel? h hq
  obtain ⟨before, shape, after, hall, rfl, ⟨inside, rfl, hfound⟩, hbefore⟩ :=
    shapeLabel?_eq_some_iff.1 h
  obtain ⟨content, closer, behind⟩ := closing
  dsimp only at hpaired hr ⊢
  have hk : closer ∈ shape.closers := closer_mem_of_close? hfound
  have hinside : inside = content ++ (closer ++ behind) := by simp [close?_eq_some hfound]
  rw [hinside] at hfound hbefore
  have hagain := close?_written hpaired hfound flowchartReserved other
  by_cases hhead : ∀ c, (written flowchartReserved content).head? = some c → c ∉ delimiters
  · exact shapeLabel?_of_close? hhead hagain
  · push Not at hhead
    obtain ⟨c, hc, hd⟩ := hhead
    obtain ⟨rest, rfl, hwritten⟩ := exists_slash_of_written hc hd
    rw [shapeLabel?_eq_some_iff]
    refine ⟨before, shape, after, hall, rfl, ⟨_, rfl, hagain⟩, ?_⟩
    intro earlier he inner hinner
    rw [hwritten] at hinner
    rcases Shape.prefix_slash ⟨inner, hinner.symm⟩ with hopener | hopener
    · exact absurd (hopener.trans (List.prefix_append _ closer))
        (Shape.not_prefix_of_all_eq hall he hk)
    · have hnone := hbefore earlier he (rest ++ (closer ++ behind)) (by simp [hopener])
      have hrest : Paired rest := by
        cases hpaired with
        | char _ behind => exact behind
      have hcloser : Paired closer := paired_of_not_mem (Shape.quote_not_mem_closer hk)
      have hsome := ((hr.append_left hcloser).append_left hrest).isSome_close? earlier 0
      rw [hopener, List.append_assoc, List.append_cancel_left_eq, List.cons_append,
        List.singleton_append, List.cons_inj_right] at hinner
      rw [hnone, hinner] at hsome
      simpa using hsome.symm

/-- A word without a label is read again as it was. -/
theorem keepsStep_bare {c : Char} {word text : Text} (hw : ∀ d ∈ c :: word, isWordChar d = true)
    (ht : ∀ d, text.head? = some d → isWordChar d = false) (hl : shapeLabel? text = none)
    (hp : '|' ∉ text) (hq : text.count '"' % 2 = 0) (backwards : Text)
    : KeepsStep flowchartReserved backwards c (word ++ text) := by
  have hstep : nextPieces backwards c (word ++ text) = ([.plain (c :: word)], text) := by
    rw [nextPieces_word_append hw ht, nodePieces, hl]
  rw [KeepsStep, quotedFrom_cons, hstep]
  have hnone := shapeLabel?_quotedFrom_eq_none hp hq hl flowchartReserved
    (ahead backwards c (word ++ text))
  have hhead := head?_quotedFrom flowchartReserved (ahead backwards c (word ++ text)) text
  have hagain := nextPieces_word_append hw (hhead ▸ ht) backwards
  rw [nodePieces, hnone] at hagain
  simpa [Piece.written, Piece.requoted] using hagain

/-- A word with a label is read again with the quoted label. -/
theorem keepsStep_node {c : Char} {word text opener : Text} {closing : Closing}
    (hw : ∀ d ∈ c :: word, isWordChar d = true) (hl : shapeLabel? text = some (opener, closing))
    (hp : '|' ∉ text) (hq : text.count '"' % 2 = 0) (backwards : Text)
    : KeepsStep flowchartReserved backwards c (word ++ text) := by
  obtain ⟨-, -, hbehind⟩ := neutral_of_shapeLabel? hl hq
  have htext := shapeLabel?_eq_some hl
  obtain ⟨shape, rfl, -⟩ := exists_shape_of_shapeLabel? hl
  have hstep : nextPieces backwards c (word ++ text)
      = ([.plain (c :: word ++ shape.opener), .label closing.content, .plain closing.closer],
          closing.behind) := by
    rw [htext, List.append_assoc, List.append_assoc, nextPieces_node hw, nodePieces,
      ← List.append_assoc, ← List.append_assoc, ← htext, hl]
  rw [KeepsStep, quotedFrom_cons, hstep]
  have hpipe : '|' ∉ closing.behind := fun hm => hp (htext ▸ List.mem_append_right _ hm)
  have hrelabels := relabels_quotedFrom flowchartReserved (ahead backwards c (word ++ text)) hpipe
    hbehind
  have hagain := nextPieces_node hw backwards shape
    (written flowchartReserved closing.content ++ (closing.closer
      ++ quotedFrom flowchartReserved (ahead backwards c (word ++ text)) closing.behind))
  rw [nodePieces, shapeLabel?_written hl hq hrelabels] at hagain
  simpa [Piece.written, Piece.requoted] using hagain

/-- Where quotes come in pairs and there are no pipes, a word is read again as it was, and so is its
label. -/
theorem keepsStep_word {c : Char} {rest : Text} (hw : isWordChar c = true) (hp : '|' ∉ c :: rest)
    (hq : (c :: rest).count '"' % 2 = 0) (backwards : Text)
    : KeepsStep flowchartReserved backwards c rest := by
  obtain ⟨word, text, -, rfl, hword, htext⟩ := span_spec isWordChar rest
  have hall : ∀ d ∈ c :: word, isWordChar d = true := List.forall_mem_cons.2 ⟨hw, hword⟩
  rw [← List.cons_append, count_append_of_not_mem (not_mem_of_isWord hall)] at hq
  have hpipe : '|' ∉ text := fun hm => hp (List.mem_append_right (c :: word) hm)
  cases hlabel : shapeLabel? text with
  | none => exact keepsStep_bare hall htext hlabel hpipe hq backwards
  | some label => exact keepsStep_node hall hlabel hpipe hq backwards

-----------------------------------------------------------------------------------------
-- Quoting twice
-----------------------------------------------------------------------------------------

/-- Where quotes come in pairs and there are no pipes, every step is read again as it was. By
induction on the steps. -/
theorem settled_of_paired {backwards text : Text} (hp : '|' ∉ text)
    (hq : text.count '"' % 2 = 0)
    : Settled flowchartReserved backwards text := by
  fun_induction piecesFrom backwards text with
  | case1 backwards => exact .done backwards
  | case2 backwards c rest next =>
      rename_i ih
      have hpipe : c ≠ '|' := fun he => hp (he ▸ List.mem_cons_self)
      have heven := (isPairedStep_nextPieces backwards hpipe hq).even_count hq
      have hkeeps : isWordChar c = true → KeepsCloser flowchartReserved backwards c rest :=
        fun hw => (keepsStep_iff_keepsCloser hw _ _).1 (keepsStep_word hw hp hq backwards)
      exact .kept hkeeps (ih (not_mem_behind_step hp backwards) heven)

/-- On a line without pipes in which double quotes come in pairs, quoting is a fixed point: a second
application changes no label, whatever brackets the line opens and closes. -/
theorem quoteLine_quoteLine_of_paired (line : Text) (hp : '|' ∉ line)
    (hq : line.count '"' % 2 = 0)
    : quoteLine flowchartReserved (quoteLine flowchartReserved line).text
      = ⟨(quoteLine flowchartReserved line).text, []⟩ := by
  have htext := (quoteLine_quoteLine_iff (by decide) line).2 (settled_of_paired hp hq)
  have hchanged := (text_quoteLine_eq_self_iff flowchartReserved _).1 htext
  exact congrArg₂ QuotedLine.mk htext hchanged

/-- The first bracket of this line stays open once it is quoted, and so does the last one. -/
theorem quoteLine_quoteLine_unclosed
    : quoteLine flowchartReserved "A[(x] --> B[\"]\" (y)] --> C((z)".toList
        = ⟨"A[(x] --> B[\"']' (y)\"] --> C((z)".toList, ["\"]\" (y)".toList]⟩
      ∧ quoteLine flowchartReserved "A[(x] --> B[\"']' (y)\"] --> C((z)".toList
        = ⟨"A[(x] --> B[\"']' (y)\"] --> C((z)".toList, []⟩ := by
  have htext : (quoteLine flowchartReserved "A[(x] --> B[\"]\" (y)] --> C((z)".toList).text
      = "A[(x] --> B[\"']' (y)\"] --> C((z)".toList := by
    decide +kernel
  have hchanged : (quoteLine flowchartReserved "A[(x] --> B[\"]\" (y)] --> C((z)".toList).changed
      = ["\"]\" (y)".toList] := by
    decide +kernel
  have hagain := quoteLine_quoteLine_of_paired "A[(x] --> B[\"]\" (y)] --> C((z)".toList
    (by decide) (by decide)
  rw [htext] at hagain
  exact ⟨congrArg₂ QuotedLine.mk htext hchanged, hagain⟩

end DiagramRepair.Label
