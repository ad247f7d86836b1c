import DiagramRepair.Label.Scan
import DiagramRepair.Proofs.Label.Requoting

/-! The pieces of a line and the line they make up after quoting. Every step of the scanner reads
plain text, or a label between two plain texts of which the second closes it. So the quoted
line differs from the line exactly when a label changes.
-/

namespace DiagramRepair.Label

open Text

-----------------------------------------------------------------------------------------
-- Openers and closers
-----------------------------------------------------------------------------------------

/-- The characters that may open a label. -/
def openers : List Char :=
  ['|', '[', '(', '{']

/-- All that may close a label: a pipe, or the closers of the shapes. -/
def closings : List Text :=
  ['|'] :: Shape.all.flatMap Shape.closers

theorem exists_mem_opener (shape : Shape) : ∃ c ∈ shape.opener, c ∈ openers := by
  cases shape <;> exact List.any_iff_exists_prop.1 (by decide)

theorem Shape.mem_all (shape : Shape) : shape ∈ Shape.all := by
  cases shape <;> decide

theorem closer_mem_closings {shape : Shape} {closer : Text} (h : closer ∈ shape.closers)
    : closer ∈ closings :=
  List.mem_cons_of_mem _ (List.mem_flatMap.2 ⟨shape, shape.mem_all, h⟩)

/-- A closer found is one of those looked for, by induction on the search. -/
theorem closer_mem_of_close? {closers : List Text} {depth : Nat} {text : Text}
    {closing : Closing} (h : close? closers depth text = some closing)
    : closing.closer ∈ closers := by
  fun_induction close? closers depth text generalizing closing with
  | case1 => contradiction
  | case2 depth c rest closer behind hclose =>
      obtain rfl := Option.some.inj h
      have hm := (closerAt?_eq_some hclose).1
      cases depth with
      | zero => exact hm
      | succ depth => simp [closersAt] at hm
  | case6 => contradiction
  | case3 _ _ _ _ _ _ ih =>
      obtain ⟨inner, hinner, rfl⟩ := Option.map_eq_some_iff.1 h
      have hinside := ih hinner
      exact hinside
  | case4 _ _ _ _ ih =>
      obtain ⟨inner, hinner, rfl⟩ := Option.map_eq_some_iff.1 h
      have hinside := ih hinner
      exact hinside
  | case5 _ _ _ _ _ _ ih =>
      obtain ⟨inner, hinner, rfl⟩ := Option.map_eq_some_iff.1 h
      have hinside := ih hinner
      exact hinside
  | case7 _ _ _ _ _ _ _ ih =>
      obtain ⟨inner, hinner, rfl⟩ := Option.map_eq_some_iff.1 h
      have hinside := ih hinner
      exact hinside
  | case8 _ _ _ _ _ _ _ ih =>
      obtain ⟨inner, hinner, rfl⟩ := Option.map_eq_some_iff.1 h
      have hinside := ih hinner
      exact hinside

/-- A label found has the opener and a closer of one shape. -/
theorem exists_shape_of_shapeLabel? {text opener : Text} {closing : Closing}
    (h : shapeLabel? text = some (opener, closing))
    : ∃ shape : Shape, opener = shape.opener ∧ closing.closer ∈ shape.closers := by
  obtain ⟨shape, -, hshape⟩ := List.exists_of_findSome?_eq_some h
  obtain ⟨inside, -, hmap⟩ := Option.bind_eq_some_iff.1 hshape
  obtain ⟨found, hfound, heq⟩ := Option.map_eq_some_iff.1 hmap
  obtain ⟨rfl, rfl⟩ := Prod.mk.inj heq
  exact ⟨shape, rfl, closer_mem_of_close? hfound⟩

theorem ends_of_shapeLabel? {text opener : Text} {closing : Closing}
    (h : shapeLabel? text = some (opener, closing))
    : (∃ c ∈ opener, c ∈ openers) ∧ closing.closer ∈ closings := by
  obtain ⟨shape, rfl, hcloser⟩ := exists_shape_of_shapeLabel? h
  exact ⟨exists_mem_opener shape, closer_mem_closings hcloser⟩

-----------------------------------------------------------------------------------------
-- Steps
-----------------------------------------------------------------------------------------

/-- What one step of the scanner may read. -/
inductive IsStep : List Piece → Prop
  | plain (text : Text) : IsStep [.plain text]
  | label {opening : Text} (content : Text) {closing : Text}
      (opens : ∃ c ∈ opening, c ∈ openers)
      (closes : closing ∈ closings)
    : IsStep [.plain opening, .label content, .plain closing]

/-- Every step is one of the two, by cases on the character it starts with. -/
theorem isStep_nextPieces (backwards : Text) (c : Char) (rest : Text)
    : IsStep (nextPieces backwards c rest).1 := by
  unfold nextPieces
  split
  · unfold runPieces
    split
    · exact .plain _
    · exact .plain _
  · split
    · unfold edgePieces
      split
      · exact .label _ ⟨'|', by decide, by decide⟩ (by decide)
      · exact .plain _
    · split
      · unfold nodePieces
        split
        · rename_i hlabel
          obtain ⟨⟨opens, hm, hopens⟩, hcloses⟩ := ends_of_shapeLabel? hlabel
          exact .label _ ⟨opens, List.mem_append_right _ hm, hopens⟩ hcloses
        · exact .plain _
      · exact .plain _

/-- What stands before the text behind a step, backwards. -/
def ahead (backwards : Text) (c : Char) (rest : Text) : Text :=
  (textOf (nextPieces backwards c rest).1).reverse ++ backwards

theorem piecesFrom_cons (backwards : Text) (c : Char) (rest : Text)
    : piecesFrom backwards (c :: rest)
      = (nextPieces backwards c rest).1
        ++ piecesFrom (ahead backwards c rest) (nextPieces backwards c rest).2 := by
  rw [piecesFrom]
  rfl

theorem textOf_append (first second : List Piece)
    : textOf (first ++ second) = textOf first ++ textOf second :=
  List.flatMap_append

/-- The pieces make up the text, by induction on the steps. -/
theorem textOf_piecesFrom (backwards text : Text) : textOf (piecesFrom backwards text) = text := by
  fun_induction piecesFrom backwards text with
  | case1 => rfl
  | case2 backwards c rest next ih =>
      rw [textOf_append, ih]
      exact textOf_nextPieces backwards c rest

-----------------------------------------------------------------------------------------
-- The quoted text
-----------------------------------------------------------------------------------------

/-- The text as it is written after quoting, given what stands before it, backwards. -/
def quotedFrom (reserved : List Char) (backwards text : Text) : Text :=
  (piecesFrom backwards text).flatMap (Piece.written reserved)

theorem text_quoteLine (reserved : List Char) (line : Text)
    : (quoteLine reserved line).text = quotedFrom reserved [] line :=
  rfl

@[simp]
theorem quotedFrom_nil (reserved : List Char) (backwards : Text)
    : quotedFrom reserved backwards [] = [] := by
  rw [quotedFrom, piecesFrom, List.flatMap_nil]

theorem quotedFrom_cons (reserved : List Char) (backwards : Text) (c : Char) (rest : Text)
    : quotedFrom reserved backwards (c :: rest)
      = (nextPieces backwards c rest).1.flatMap (Piece.written reserved)
        ++ quotedFrom reserved (ahead backwards c rest) (nextPieces backwards c rest).2 := by
  rw [quotedFrom, piecesFrom_cons, List.flatMap_append, quotedFrom]

theorem requoted_pieces (reserved : List Char) (pieces : List Piece)
    : Requoted (textOf pieces) (pieces.flatMap (Piece.written reserved)) := by
  induction pieces with
  | nil => exact .nil
  | cons piece rest ih =>
      refine Requoted.append ?_ ih
      cases piece with
      | plain text => exact .refl text
      | label content => exact .written reserved content

/-- Quoting a text only requotes it. -/
theorem requoted_quotedFrom (reserved : List Char) (backwards text : Text)
    : Requoted text (quotedFrom reserved backwards text) := by
  have h := requoted_pieces reserved (piecesFrom backwards text)
  rwa [textOf_piecesFrom] at h

theorem requoted_quoteLine (reserved : List Char) (line : Text)
    : Requoted line (quoteLine reserved line).text :=
  requoted_quotedFrom reserved [] line

-----------------------------------------------------------------------------------------
-- A changed label changes the text
-----------------------------------------------------------------------------------------

/-- The labels that change when the text is quoted. -/
def changedFrom (reserved : List Char) (backwards text : Text) : List Text :=
  (piecesFrom backwards text).filterMap (Piece.changed? reserved)

theorem changedFrom_cons (reserved : List Char) (backwards : Text) (c : Char) (rest : Text)
    : changedFrom reserved backwards (c :: rest)
      = (nextPieces backwards c rest).1.filterMap (Piece.changed? reserved)
        ++ changedFrom reserved (ahead backwards c rest) (nextPieces backwards c rest).2 := by
  rw [changedFrom, piecesFrom_cons, List.filterMap_append, changedFrom]

theorem dropEscapes_cons {quote c : Char} (hc : c ≠ '\\') (rest : Text)
    : dropEscapes quote (c :: rest) = c :: dropEscapes quote rest := by
  rw [dropEscapes]
  rintro _ _ rfl
  exact absurd rfl hc

theorem softened_cons_quote {c : Char} (hc : c = '"' ∨ c = '\x27') (rest : Text)
    : softened (c :: rest) = '\x27' :: softened rest := by
  have hback : c ≠ '\\' := by
    rintro rfl
    revert hc
    decide
  rw [softened, unescape, dropEscapes_cons hback, dropEscapes_cons hback, List.map_cons]
  rcases hc with rfl | rfl <;> rfl

/-- Text softened behind a single quote is never what stood there: both would be runs of single
quotes up to the end of the label, where the closing mark stands. -/
theorem single_softened_append_ne (content : Text) {rest : Text}
    (hr : rest.head? ≠ some '\x27') (other : Text)
    : '\x27' :: softened content ++ '"' :: other ≠ content ++ rest := by
  induction content with
  | nil =>
      intro h
      rw [List.nil_append] at h
      exact hr (by rw [← h]; rfl)
  | cons c content ih =>
      intro h
      obtain ⟨hc, hrest⟩ := List.cons.inj h
      subst hc
      rw [softened_cons_quote (Or.inr rfl)] at hrest
      exact ih hrest

/-- A quoted label differs from the label within the length of the label, so no text behind can
make up for it. -/
theorem quoted_append_ne {reserved : List Char} {content quoted : Text}
    (h : quote? reserved content = some quoted) {rest : Text}
    (hr : rest.head? ≠ some '\x27') (other : Text)
    : quoted ++ other ≠ content ++ rest := by
  obtain ⟨rfl, hblank⟩ := quote?_eq_some h
  intro he
  cases content with
  | nil => simp [isAllBlank] at hblank
  | cons c content =>
      obtain ⟨hc, htail⟩ := List.cons.inj he
      subst hc
      rw [softened_cons_quote (Or.inl rfl)] at htail
      apply single_softened_append_ne content hr other
      simpa using htail

theorem head?_closing_append_ne {closing : Text} (h : closing ∈ closings) (rest : Text)
    : (closing ++ rest).head? ≠ some '\x27' := by
  have hall : ∀ closing ∈ closings, closing ≠ [] ∧ '\x27' ∉ closing := by
    decide +kernel
  obtain ⟨hne, hm⟩ := hall closing h
  cases closing with
  | nil => exact absurd rfl hne
  | cons c closing =>
      intro he
      exact hm (Option.some.inj he ▸ List.mem_cons_self)

theorem written_of_quote?_eq_none {reserved : List Char} {content : Text}
    (h : quote? reserved content = none)
    : written reserved content = content := by
  rw [written, h, Option.getD_none]

/-- A label is written as it was exactly when it is not quoted. -/
theorem written_eq_self_iff {reserved : List Char} {content : Text}
    : written reserved content = content ↔ quote? reserved content = none := by
  refine ⟨fun h => ?_, written_of_quote?_eq_none⟩
  cases hquote : quote? reserved content with
  | none => rfl
  | some quoted =>
      rw [written, hquote, Option.getD_some] at h
      have hnil : ([] : Text).head? ≠ some '\x27' := by simp
      exact absurd (by rw [h]) (quoted_append_ne hquote hnil [])

/-- A step that quoting leaves as it is holds no label that changes, and the text behind it
stays as it is, too. -/
theorem unchanged_of_append_eq {reserved : List Char} {step : List Piece} (hs : IsStep step)
    {rest other : Text}
    (h : step.flatMap (Piece.written reserved) ++ other = textOf step ++ rest)
    : step.filterMap (Piece.changed? reserved) = [] ∧ other = rest := by
  cases hs with
  | plain text =>
      simp only [textOf, Piece.text, Piece.written, List.flatMap_cons, List.flatMap_nil,
        List.append_nil, List.append_cancel_left_eq] at h
      exact ⟨rfl, h⟩
  | @label opening content closing opens closes =>
      simp only [textOf, Piece.text, Piece.written, List.flatMap_cons, List.flatMap_nil,
        List.append_nil, List.append_assoc, List.append_cancel_left_eq] at h
      cases hq : quote? reserved content with
      | none =>
          rw [written_of_quote?_eq_none hq] at h
          refine ⟨?_, List.append_cancel_left (List.append_cancel_left h)⟩
          simp [Piece.changed?, hq]
      | some quoted =>
          rw [written, hq, Option.getD_some] at h
          exact absurd h (quoted_append_ne hq (head?_closing_append_ne closes rest) _)

/-- Nothing changes in a text that quoting leaves as it is, by induction on the steps. -/
theorem changedFrom_eq_nil {reserved : List Char} {backwards text : Text}
    (h : quotedFrom reserved backwards text = text)
    : changedFrom reserved backwards text = [] := by
  fun_induction piecesFrom backwards text with
  | case1 => rw [changedFrom, piecesFrom, List.filterMap_nil]
  | case2 backwards c rest next ih =>
      have htext := textOf_nextPieces backwards c rest
      rw [quotedFrom_cons, ← htext] at h
      obtain ⟨hstep, hrest⟩ := unchanged_of_append_eq (isStep_nextPieces backwards c rest) h
      rw [changedFrom_cons, hstep, List.nil_append]
      exact ih hrest

theorem written_of_filterMap_eq_nil {reserved : List Char} {pieces : List Piece}
    (h : pieces.filterMap (Piece.changed? reserved) = [])
    : pieces.flatMap (Piece.written reserved) = textOf pieces := by
  induction pieces with
  | nil => rfl
  | cons piece rest ih =>
      rw [List.filterMap_eq_nil_iff] at h
      have hrest := ih (List.filterMap_eq_nil_iff.2 fun other ho =>
        h other (List.mem_cons_of_mem _ ho))
      have hpiece : piece.written reserved = piece.text := by
        have hnone := h piece List.mem_cons_self
        cases piece with
        | plain text => rfl
        | label content =>
            apply written_of_quote?_eq_none
            cases hq : quote? reserved content with
            | none => rfl
            | some quoted => simp [Piece.changed?, hq] at hnone
      rw [List.flatMap_cons, hpiece, hrest, textOf, textOf, List.flatMap_cons]

/-- A text is as it was after quoting exactly when no label of it changes. -/
theorem quotedFrom_eq_self_iff {reserved : List Char} {backwards text : Text}
    : quotedFrom reserved backwards text = text ↔ changedFrom reserved backwards text = [] := by
  constructor
  · exact changedFrom_eq_nil
  · intro h
    rw [quotedFrom, written_of_filterMap_eq_nil h, textOf_piecesFrom]

theorem text_quoteLine_eq_self_iff (reserved : List Char) (line : Text)
    : (quoteLine reserved line).text = line ↔ (quoteLine reserved line).changed = [] :=
  quotedFrom_eq_self_iff

end DiagramRepair.Label
