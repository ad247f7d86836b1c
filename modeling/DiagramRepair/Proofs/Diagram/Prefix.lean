import DiagramRepair.Proofs.Diagram.Classification

/-! Lines added at the end of a diagram leave the kinds of the others as they are. The type of the
diagram is looked up before any line is classified; while no header is among the first lines, they
are blanks and comments, which are the same in diagrams of every type.
-/

namespace DiagramRepair

/-- A line without meaning is a comment if it is marked as one, and else a blank, in every diagram
and in every state. -/
theorem LineKind.ofLine_eq_aside (er inBlock : Bool) {text : Text}
    (h : isMeaningful text = false)
    : ofLine er inBlock text = if isComment text then .comment else .blank := by
  have hkind := isOf_ofLine er inBlock text
  rcases ofLine_of_not_meaningful er inBlock h with hk | hk
  · rw [hk] at hkind ⊢
    cases hkind with
    | comment _ comment => rw [if_pos comment]
  · rw [hk] at hkind ⊢
    cases hkind with
    | blank comment => rw [if_neg (by simp [comment])]

/-- Lines without meaning are classified in the same way in diagrams of every type, by induction on
the lines. -/
theorem classifyFrom_asides_congr (er other inBlock : Bool) (index : Nat) {texts : List Text}
    (h : ∀ text ∈ texts, isMeaningful text = false)
    : classifyFrom er inBlock index texts = classifyFrom other inBlock index texts := by
  induction texts generalizing index with
  | nil => rfl
  | cons text rest ih =>
      rw [List.forall_mem_cons] at h
      have hkind : LineKind.ofLine er inBlock text = LineKind.ofLine other inBlock text := by
        rw [LineKind.ofLine_eq_aside er inBlock h.1, LineKind.ofLine_eq_aside other inBlock h.1]
      simp only [classifyFrom, hkind, LineKind.inBlockAfter_of_not_meaningful _ inBlock h.1,
        ih _ h.2]

/-- A header among the first lines is the header of the diagram. -/
theorem declaredType?_append_of_meaningful {earlier : List Text} {text : Text}
    (hm : text ∈ earlier) (h : isMeaningful text = true) (later : List Text)
    : declaredType? (earlier ++ later) = declaredType? earlier := by
  have hheader : (earlier.find? isMeaningful).isSome = true :=
    List.find?_isSome.2 ⟨text, hm, h⟩
  obtain ⟨header, hfound⟩ := Option.isSome_iff_exists.1 hheader
  simp only [declaredType?, header?, List.find?_append, hfound, Option.some_or]

/-- The flag of the whole diagram classifies its first lines as their own flag does. The two can
differ only where the header comes later, and then no line in front of it has a meaning. -/
theorem classifyFrom_isErDiagram_append (earlier later : List Text)
    : classifyFrom (isErDiagram (earlier ++ later)) false 0 earlier = classify earlier := by
  by_cases h : ∀ text ∈ earlier, isMeaningful text = false
  · exact classifyFrom_asides_congr _ _ false 0 h
  · simp only [not_forall, Bool.not_eq_false] at h
    obtain ⟨text, hm, hmeaning⟩ := h
    have hflag : isErDiagram (earlier ++ later) = isErDiagram earlier := by
      simp only [isErDiagram, declaredType?_append_of_meaningful hm hmeaning]
    rw [hflag, classify]

/-- Later lines never change the classification of earlier ones, wherever the header stands. -/
theorem take_classify_append (earlier later : List Text)
    : (classify (earlier ++ later)).take earlier.length = classify earlier := by
  have hlength : (classify earlier).length = earlier.length := length_classifyFrom _ _ _ _
  rw [classify, classifyFrom_append, classifyFrom_isErDiagram_append, List.take_left' hlength]

end DiagramRepair
