import DiagramRepair.Proofs.Repair.Written

/-! Every change is reported, and every report is a change. Each line is written as lines of its
own, which are the line alone exactly when no repair names it.
-/

namespace DiagramRepair

open Text Label

-----------------------------------------------------------------------------------------
-- The repairs of one line
-----------------------------------------------------------------------------------------

/-- An attribute line that is written anew does not stay as it is, since it would have been well
formed. -/
theorem map_render_ne_self {line : Text} {fields : List Attribute.Field}
    (h : Attribute.replacement? line = some fields)
    : (fields.map fun field => indent line ++ field.render) ≠ [line] := by
  obtain ⟨hform, -, -, hread⟩ := Attribute.replacement?_eq_some h
  intro hself
  obtain ⟨field, rfl, hline⟩ := List.map_eq_singleton_iff.1 hself
  have hprintable := Attribute.isPrintable_of_replacement? h List.mem_cons_self
  have htrim : trim line = field.render := by
    rw [← hline, hprintable.trim_indented (allBlank_indent line)]
  rw [htrim, hprintable.tokens_render, hprintable.isWellFormed] at hform
  contradiction

theorem commentOut_ne_self (line : Text) : Edge.commentOut line ≠ line := by
  intro hself
  obtain ⟨back, hback, hline⟩ := exists_eq_trim_append line
  have hcount := congrArg (List.count '%') hself
  have hblank : back.count '%' = 0 := by
    rw [List.count_eq_zero]
    intro hm
    exact absurd (hback _ hm) (by decide)
  conv at hcount => rhs; rw [hline]
  simp only [Edge.commentOut, commentMarker, List.count_append, List.count_cons, hblank] at hcount
  simp at hcount
  omega

/-- A line stays as it is exactly when no repair is made to it, by cases on the edit. -/
theorem Line.written_eq_self_iff {er : Bool} {line : Line}
    : line.written er = [line.text] ↔ line.repairs er = [] := by
  have hedit := isEdit_repairEdit? er line
  rw [Line.written, Line.repairs]
  generalize repairEdit? er line = edit at hedit ⊢
  cases hedit with
  | untouched first label => simp
  | attributes isEr kind reads =>
      have hne := map_render_ne_self reads
      simpa [Line.indent] using hne
  | edge isFlowchart kind dangles => simpa using commentOut_ne_self line.text
  | relationship isEr kind =>
      simpa [Edit.ofQuoted] using text_quoteRelationship_eq_self_iff line.text
  | content isFlowchart kind joined =>
      simpa [Edit.ofQuoted] using text_quoteLine_eq_self_iff flowchartReserved line.text
  | @declaration head body isFlowchart kind cut =>
      have hbody := text_quoteLine_eq_self_iff flowchartReserved body
      simpa [Edit.ofQuoted, (cutAt?_eq_some cut).1] using hbody

theorem Line.line_of_mem_repairs {er : Bool} {line : Line} {repair : Repair}
    (h : repair ∈ line.repairs er)
    : repair.line = line.number := by
  obtain ⟨fix, -, rfl⟩ := List.mem_map.1 h
  rfl

/-- The kinds of repairs that are made to a line at most once. -/
def singleKinds : List FixKind :=
  [.attributeSplit, .attributeTyped, .incompleteEdge]

/-- Either one repair is made to a line, or labels are quoted on it. -/
theorem Line.repairs_cases (er : Bool) (line : Line)
    : (∃ repair, line.repairs er = [repair])
      ∨ ∀ repair ∈ line.repairs er, repair.kind = .labelQuoted := by
  have hedit := isEdit_repairEdit? er line
  rw [Line.repairs]
  generalize repairEdit? er line = edit at hedit ⊢
  cases hedit with
  | untouched first label => exact Or.inr (by simp)
  | attributes isEr kind reads => exact Or.inl ⟨_, rfl⟩
  | edge isFlowchart kind dangles => exact Or.inl ⟨_, rfl⟩
  | _ =>
      right
      intro repair hr
      simp only [Edit.ofQuoted, Option.elim_some, List.map_map, List.mem_map] at hr
      obtain ⟨label, -, rfl⟩ := hr
      rfl

theorem Line.kind_of_mem_repairs {er : Bool} {line : Line} {first second : Repair}
    (hf : first ∈ line.repairs er) (hs : second ∈ line.repairs er)
    : first.kind = second.kind := by
  rcases Line.repairs_cases er line with ⟨repair, hone⟩ | hall
  · rw [hone, List.mem_singleton] at hf hs
    rw [hf, hs]
  · rw [hall first hf, hall second hs]

theorem Line.countP_repairs_le (er : Bool) (line : Line) (number : Int)
    : (line.repairs er).countP (fun repair =>
        repair.line = number ∧ repair.kind ∈ singleKinds) ≤ 1 := by
  rcases Line.repairs_cases er line with ⟨repair, hone⟩ | hall
  · rw [hone]
    exact List.countP_le_length
  · rw [List.countP_eq_zero.2]
    · exact Nat.zero_le 1
    · intro repair hr
      simp [hall repair hr, singleKinds]

-----------------------------------------------------------------------------------------
-- The repairs of all lines
-----------------------------------------------------------------------------------------

/-- Classified lines are numbered in order. -/
theorem index_of_getElem?_classifyFrom {er inBlock : Bool} {index offset : Nat}
    {texts : List Text} {line : Line}
    (h : (classifyFrom er inBlock index texts)[offset]? = some line)
    : line.index = index + offset ∧ texts[offset]? = some line.text := by
  induction texts generalizing inBlock index offset with
  | nil => simp [classifyFrom] at h
  | cons text rest ih =>
      cases offset with
      | zero =>
          obtain rfl := Option.some.inj h
          exact ⟨rfl, rfl⟩
      | succ offset =>
          obtain ⟨hindex, htext⟩ := ih h
          exact ⟨by omega, htext⟩

theorem eq_of_index_eq {texts : List Text} {first second : Line} (hf : first ∈ classify texts)
    (hs : second ∈ classify texts) (h : first.index = second.index)
    : first = second := by
  obtain ⟨i, hi⟩ := List.mem_iff_getElem?.1 hf
  obtain ⟨j, hj⟩ := List.mem_iff_getElem?.1 hs
  have hij : i = j := by
    have hfirst := (index_of_getElem?_classifyFrom hi).1
    have hsecond := (index_of_getElem?_classifyFrom hj).1
    omega
  rw [hij, hj] at hi
  exact (Option.some.inj hi).symm

/-- Every repair of a single kind is the only one on its line, by induction on the lines: those of
the first line carry its number, and those of the others carry higher ones. -/
theorem countP_flatMap_repairs_le (er inBlock : Bool) (index : Nat) (texts : List Text)
    (number : Int)
    : ((classifyFrom er inBlock index texts).flatMap (Line.repairs er)).countP (fun repair =>
        repair.line = number ∧ repair.kind ∈ singleKinds) ≤ 1 := by
  induction texts generalizing inBlock index with
  | nil => simp [classifyFrom]
  | cons text rest ih =>
      rw [classifyFrom, List.flatMap_cons, List.countP_append]
      by_cases hnumber : number = (index : Int) + 1
      · have hrest : ((classifyFrom er ((LineKind.ofLine er inBlock text).inBlockAfter inBlock)
            (index + 1) rest).flatMap (Line.repairs er)).countP (fun repair =>
              repair.line = number ∧ repair.kind ∈ singleKinds) = 0 := by
          rw [List.countP_eq_zero]
          intro repair hr
          obtain ⟨line, hm, hline⟩ := List.mem_flatMap.1 hr
          obtain ⟨offset, hoffset⟩ := List.mem_iff_getElem?.1 hm
          have hindex := (index_of_getElem?_classifyFrom hoffset).1
          have hrepair := Line.line_of_mem_repairs hline
          have hne : repair.line ≠ number := by
            rw [hrepair, hnumber, Line.number]
            omega
          simp [hne]
        rw [hrest, Nat.add_zero]
        exact Line.countP_repairs_le er _ number
      · have hfirst : (Line.repairs er ⟨index, text, LineKind.ofLine er inBlock text⟩).countP
            (fun repair => repair.line = number ∧ repair.kind ∈ singleKinds) = 0 := by
          rw [List.countP_eq_zero]
          intro repair hr
          have hrepair := Line.line_of_mem_repairs hr
          have hne : repair.line ≠ number := by
            rw [hrepair, Line.number]
            intro he
            exact hnumber (by rw [← he]; push_cast; rfl)
          simp [hne]
        rw [hfirst, Nat.zero_add]
        exact ih _ _

-----------------------------------------------------------------------------------------
-- The repairs of a diagram
-----------------------------------------------------------------------------------------

/-- The repairs of a result account for all that the result changes in some lines. -/
structure Accounted (source : List Text) (result : RepairedText) : Prop where
  /-- Every line is written as a block of lines, which is the line itself if no repair names it. -/
  blocks
    : ∃ blocks : List (List Text),
        blocks.length = source.length
        ∧ result.text = joinLines blocks.flatten
        ∧ (∀ block ∈ blocks, block ≠ [] ∧ ∀ line ∈ block, IsLine line)
        ∧ ∀ (index : Nat) (block : List Text) (line : Text),
            blocks[index]? = some block
            → source[index]? = some line
            → (block = [line] ↔ ∀ repair ∈ result.repairs, repair.line ≠ (index : Int) + 1)
  ordered : result.repairs.Pairwise fun first second => first.line ≤ second.line
  inRange : ∀ repair ∈ result.repairs, 1 ≤ repair.line ∧ repair.line ≤ source.length
  uniform
    : ∀ first ∈ result.repairs,
        ∀ second ∈ result.repairs, first.line = second.line → first.kind = second.kind
  single
    : ∀ number : Int,
        result.repairs.countP (fun repair =>
          repair.line = number ∧ repair.kind ∈ singleKinds) ≤ 1
  unrepaired : result.repairs = [] ↔ result.text = joinLines source

theorem mem_repairs_iff {text : Text}
    (h : (declaredType? (lines text)).any DiagramType.isSupported = true) {made : Repair}
    : made ∈ (repair text).repairs
      ↔ ∃ line ∈ classify (lines text), made ∈ line.repairs (isErDiagram (lines text)) := by
  rw [(repairs_perm_of_supported h).mem_iff, List.mem_flatMap]

/-- The repairs with the number of a line are those made to it. -/
theorem mem_repairs_at_iff {text : Text}
    (h : (declaredType? (lines text)).any DiagramType.isSupported = true) {line : Line}
    (hm : line ∈ classify (lines text)) {made : Repair}
    : made ∈ (repair text).repairs ∧ made.line = line.number
      ↔ made ∈ line.repairs (isErDiagram (lines text)) := by
  constructor
  · rintro ⟨hr, hline⟩
    obtain ⟨other, ho, hother⟩ := (mem_repairs_iff h).1 hr
    have hnumber := (Line.line_of_mem_repairs hother).symm.trans hline
    have hindex : other.index = line.index := by
      simp only [Line.number] at hnumber
      omega
    rwa [eq_of_index_eq ho hm hindex] at hother
  · exact fun hr => ⟨(mem_repairs_iff h).2 ⟨line, hm, hr⟩, Line.line_of_mem_repairs hr⟩

/-- A line of a diagram stays as it is exactly when no repair has its number. -/
theorem written_eq_self_iff_of_mem {text : Text}
    (h : (declaredType? (lines text)).any DiagramType.isSupported = true) {line : Line}
    (hm : line ∈ classify (lines text))
    : line.written (isErDiagram (lines text)) = [line.text]
      ↔ ∀ made ∈ (repair text).repairs, made.line ≠ line.number := by
  rw [Line.written_eq_self_iff, List.eq_nil_iff_forall_not_mem]
  simp only [← mem_repairs_at_iff h hm, not_and]

/-- A diagram has no repairs exactly when it is written as it was read. -/
theorem repairs_eq_nil_iff {text : Text}
    (h : (declaredType? (lines text)).any DiagramType.isSupported = true)
    : (repair text).repairs = [] ↔ (repair text).text = joinLines (lines text) := by
  have htext : (repair text).text
      = joinLines ((classify (lines text)).flatMap (Line.written (isErDiagram (lines text)))) :=
    sanitize_of_supported h
  have hself := flatMap_eq_map_iff Line.text
    (fun line (_ : line ∈ classify (lines text)) =>
      Line.written_ne_nil (isErDiagram (lines text)) line)
  rw [classify, map_text_classifyFrom, ← classify] at hself
  constructor
  · intro hnil
    rw [htext, hself.2]
    intro line hm
    rw [written_eq_self_iff_of_mem h hm, hnil]
    simp
  · intro hsame
    rw [htext] at hsame
    have hflat := joinLines_inj (fun _ hw => isLine_of_mem_flatMap_written hw)
      (fun _ hl => isLine_of_mem_lines hl) (flatMap_written_ne_nil _ text) (lines_ne_nil text)
      hsame
    rw [List.eq_nil_iff_forall_not_mem]
    intro made hr
    obtain ⟨line, hm, hline⟩ := (mem_repairs_iff h).1 hr
    rw [Line.written_eq_self_iff.1 (hself.1 hflat line hm)] at hline
    cases hline

/-- The line at a position is written as the block of lines at that position. -/
theorem exists_blocks {text : Text}
    (h : (declaredType? (lines text)).any DiagramType.isSupported = true)
    : ∃ blocks : List (List Text),
        blocks.length = (lines text).length
        ∧ (repair text).text = joinLines blocks.flatten
        ∧ (∀ block ∈ blocks, block ≠ [] ∧ ∀ line ∈ block, IsLine line)
        ∧ ∀ (index : Nat) (block : List Text) (line : Text),
            blocks[index]? = some block
            → (lines text)[index]? = some line
            → (block = [line]
              ↔ ∀ made ∈ (repair text).repairs, made.line ≠ (index : Int) + 1) := by
  refine ⟨(classify (lines text)).map (Line.written (isErDiagram (lines text))), ?_, ?_, ?_, ?_⟩
  · rw [List.length_map]
    exact length_classifyFrom _ _ _ _
  · rw [← List.flatMap_def]
    exact sanitize_of_supported h
  · intro block hb
    obtain ⟨line, hm, rfl⟩ := List.mem_map.1 hb
    exact ⟨Line.written_ne_nil _ line,
      Line.isLine_written (isLine_of_mem_lines (mem_classify_text hm))⟩
  · intro index block source hblock hsource
    rw [List.getElem?_map, Option.map_eq_some_iff] at hblock
    obtain ⟨line, hline, rfl⟩ := hblock
    obtain ⟨hindex, hsame⟩ := index_of_getElem?_classifyFrom hline
    obtain rfl : line.text = source := Option.some.inj (hsame.symm.trans hsource)
    have hnumber : (line.number : Int) = (index : Int) + 1 := by
      rw [Line.number, hindex]
      omega
    rw [written_eq_self_iff_of_mem h (List.mem_of_getElem? hline), hnumber]

/-- Repairs name lines of the diagram. -/
theorem line_inRange_of_mem_repairs {text : Text}
    (h : (declaredType? (lines text)).any DiagramType.isSupported = true) {made : Repair}
    (hr : made ∈ (repair text).repairs)
    : 1 ≤ made.line ∧ made.line ≤ (lines text).length := by
  have hclassified : (classify (lines text)).length = (lines text).length :=
    length_classifyFrom _ _ _ _
  obtain ⟨line, hm, hline⟩ := (mem_repairs_iff h).1 hr
  obtain ⟨offset, hoffset⟩ := List.mem_iff_getElem?.1 hm
  have hindex := (index_of_getElem?_classifyFrom hoffset).1
  have hlt : offset < (classify (lines text)).length := (List.getElem?_eq_some_iff.1 hoffset).1
  rw [Line.line_of_mem_repairs hline, Line.number]
  omega

/-- Repairs that name the same line were made to the same line, so they are of one kind. -/
theorem kind_eq_of_line_eq {text : Text}
    (h : (declaredType? (lines text)).any DiagramType.isSupported = true) {first second : Repair}
    (hf : first ∈ (repair text).repairs) (hs : second ∈ (repair text).repairs)
    (hsame : first.line = second.line)
    : first.kind = second.kind := by
  obtain ⟨line, hm, hline⟩ := (mem_repairs_iff h).1 hf
  obtain ⟨other, ho, hother⟩ := (mem_repairs_iff h).1 hs
  rw [Line.line_of_mem_repairs hline, Line.line_of_mem_repairs hother] at hsame
  have hindex : other.index = line.index := by
    simp only [Line.number] at hsame
    omega
  rw [eq_of_index_eq ho hm hindex] at hother
  exact Line.kind_of_mem_repairs hline hother

/-- A repair accounts for all that it does to a diagram of a supported type, and does nothing to
any other text. -/
theorem repair_accounted (text : Text)
    : if (declaredType? (lines text)).any DiagramType.isSupported then
        Accounted (lines text) (repair text)
      else repair text = ⟨text, []⟩ := by
  split
  · rename_i h
    exact {
      blocks := exists_blocks h
      ordered := pairwise_repairs
      inRange := fun _ hr => line_inRange_of_mem_repairs h hr
      uniform := fun _ hf _ hs hsame => kind_eq_of_line_eq h hf hs hsame
      single := by
        intro number
        rw [(repairs_perm_of_supported h).countP_eq]
        exact countP_flatMap_repairs_le _ _ _ _ number
      unrepaired := repairs_eq_nil_iff h
    }
  · rename_i h
    exact repair_of_not_supported (by simpa using h)

end DiagramRepair
