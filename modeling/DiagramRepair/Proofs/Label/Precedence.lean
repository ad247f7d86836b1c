import DiagramRepair.Proofs.Label.Closer

/-! Which shape a label has. Of the shapes that open at a text, the first one in the order of
precedence for which a closer is found takes the label. The order keeps the label of each shape from
the shapes in front of it: where a label does not start with a delimiter, none of them opens.
-/

namespace DiagramRepair.Label

open Text

-----------------------------------------------------------------------------------------
-- Openers in the order of precedence
-----------------------------------------------------------------------------------------

/-- No shape steals the label of one behind it in the order, even if the label is empty. -/
theorem Shape.precedence
    : Shape.all.Pairwise fun earlier later =>
        ∀ closer ∈ later.closers, ¬earlier.opener <+: later.opener ++ closer := by
  decide +kernel

/-- An opener does not reach beyond the label of another shape, since neither the start of a label
nor the end of a closer looks like a part of an opener. -/
theorem Shape.prefix_of_opener_prefix {earlier shape : Shape} {content closer behind : Text}
    (hd : ∀ c, content.head? = some c → c ∉ delimiters) (hk : closer ∈ shape.closers)
    (h : earlier.opener <+: shape.opener ++ (content ++ (closer ++ behind)))
    : earlier.opener <+: shape.opener ++ closer := by
  cases content with
  | nil =>
      obtain ⟨front, bracket, rfl, hbracket⟩ := exists_bracket_of_mem_closers hk
      have hnot : bracket ∉ earlier.opener := fun hm => by
        simp [not_closing_of_mem_opener hm] at hbracket
      have hassoc : shape.opener ++ ([] ++ (front ++ [bracket] ++ behind))
          = (shape.opener ++ front) ++ bracket :: behind := by
        simp
      rw [hassoc, prefix_append_cons_iff hnot] at h
      rw [← List.append_assoc]
      exact h.trans (List.prefix_append _ _)
  | cons c content =>
      have hnot : c ∉ earlier.opener := fun hm =>
        hd c rfl (earlier.opener_subset_delimiters hm)
      rw [List.cons_append, prefix_append_cons_iff hnot] at h
      exact h.trans (List.prefix_append _ _)

section Order

variable {earlier shape : Shape} {before after : List Shape} {closer : Text}

theorem Shape.not_prefix_of_all_eq (hall : Shape.all = before ++ shape :: after)
    (he : earlier ∈ before) (hk : closer ∈ shape.closers)
    : ¬earlier.opener <+: shape.opener ++ closer := by
  have hprecedence := Shape.precedence
  rw [hall, List.pairwise_append] at hprecedence
  exact hprecedence.2.2 earlier he shape List.mem_cons_self closer hk

/-- Where a label does not start with a delimiter, no shape in front of its own one opens. -/
theorem Shape.not_opener_prefix (hall : Shape.all = before ++ shape :: after)
    (he : earlier ∈ before) (hk : closer ∈ shape.closers) {content : Text}
    (hd : ∀ c, content.head? = some c → c ∉ delimiters) (behind : Text)
    : ¬earlier.opener <+: shape.opener ++ (content ++ (closer ++ behind)) :=
  fun h => Shape.not_prefix_of_all_eq hall he hk (Shape.prefix_of_opener_prefix hd hk h)

end Order

-----------------------------------------------------------------------------------------
-- The label of a shape
-----------------------------------------------------------------------------------------

theorem bind_afterLead?_eq_some_iff {α : Type} {lead text : Text} {next : Text → Option α} {a : α}
    : (afterLead? lead text).bind next = some a
      ↔ ∃ rest, text = lead ++ rest ∧ next rest = some a := by
  rw [Option.bind_eq_some_iff]
  simp only [afterLead?_eq_some_iff]

theorem bind_afterLead?_eq_none_iff {α : Type} {lead text : Text} {next : Text → Option α}
    : (afterLead? lead text).bind next = none
      ↔ ∀ rest, text = lead ++ rest → next rest = none := by
  rw [Option.bind_eq_none_iff]
  simp only [afterLead?_eq_some_iff]

/-- The label of a text is that of the first shape that opens there and finds a closer. -/
theorem shapeLabel?_eq_some_iff {text opener : Text} {closing : Closing}
    : shapeLabel? text = some (opener, closing)
      ↔ ∃ before shape after,
          Shape.all = before ++ shape :: after
          ∧ opener = shape.opener
          ∧ (∃ inside,
              text = shape.opener ++ inside ∧ close? shape.closers 0 inside = some closing)
          ∧ ∀ earlier ∈ before, ∀ inside,
              text = earlier.opener ++ inside → close? earlier.closers 0 inside = none := by
  rw [shapeLabel?, List.findSome?_eq_some_iff]
  simp only [bind_afterLead?_eq_some_iff, bind_afterLead?_eq_none_iff, Option.map_eq_some_iff,
    Option.map_eq_none_iff, Prod.mk.injEq]
  constructor
  · rintro ⟨before, shape, after, hall, ⟨inside, htext, found, hfound, rfl, rfl⟩, hnone⟩
    exact ⟨before, shape, after, hall, rfl, ⟨inside, htext, hfound⟩, hnone⟩
  · rintro ⟨before, shape, after, hall, rfl, ⟨inside, htext, hfound⟩, hnone⟩
    exact ⟨before, shape, after, hall, ⟨inside, htext, closing, hfound, rfl, rfl⟩, hnone⟩

/-- A text has no label when no shape that opens there finds a closer. -/
theorem shapeLabel?_eq_none_iff {text : Text}
    : shapeLabel? text = none
      ↔ ∀ (shape : Shape) (inside : Text),
          text = shape.opener ++ inside → close? shape.closers 0 inside = none := by
  rw [shapeLabel?, List.findSome?_eq_none_iff]
  simp only [bind_afterLead?_eq_none_iff, Option.map_eq_none_iff]
  exact ⟨fun h shape => h shape shape.mem_all, fun h shape _ => h shape⟩

/-- A label that does not start with a delimiter and ends at a closer of its shape is found: the
shapes before that one in the order do not open here. -/
theorem shapeLabel?_of_close? {shape : Shape} {content closer behind : Text}
    (hd : ∀ c, content.head? = some c → c ∉ delimiters)
    (h : close? shape.closers 0 (content ++ (closer ++ behind)) = some ⟨content, closer, behind⟩)
    : shapeLabel? (shape.opener ++ (content ++ (closer ++ behind)))
      = some (shape.opener, ⟨content, closer, behind⟩) := by
  obtain ⟨before, after, hall⟩ := List.append_of_mem shape.mem_all
  have hk : closer ∈ shape.closers := closer_mem_of_close? h
  rw [shapeLabel?_eq_some_iff]
  refine ⟨before, shape, after, hall, rfl, ⟨_, rfl, h⟩, ?_⟩
  intro earlier he inside htext
  exact absurd ⟨inside, htext.symm⟩ (Shape.not_opener_prefix hall he hk hd behind)

/-- A shape keeps its own label. -/
theorem shapeLabel?_append (shape : Shape) {content closer : Text} (hq : Paired content)
    (hd : ∀ c ∈ content, c ∉ delimiters) (hk : closer ∈ shape.closers) (behind : Text)
    : shapeLabel? (shape.opener ++ (content ++ (closer ++ behind)))
      = some (shape.opener, ⟨content, closer, behind⟩) := by
  refine shapeLabel?_of_close? (fun c hc => hd c (List.mem_of_mem_head? hc)) ?_
  rw [close?_append hq hd, close?_closer hk]
  simp [Closing.extend]

end DiagramRepair.Label
