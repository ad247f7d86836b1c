import DiagramRepair.Proofs.Repair.OnePass
import DiagramRepair.Proofs.Text.Lines

/-! The lines that a line of a diagram is written as. There is at least one, none holds a line
feed, and reading them back from the repaired text only drops carriage returns.
-/

namespace DiagramRepair

open Text Label

-----------------------------------------------------------------------------------------
-- The edits of a line by cases
-----------------------------------------------------------------------------------------

/-- All that may happen to a line. -/
inductive IsEdit (er : Bool) (line : Line) : Option Edit → Prop
  | untouched (first : firstEdit? er line = none) (label : labelEdit? er line = none)
    : IsEdit er line none
  | attributes {fields : List Attribute.Field}
      (isEr : er = true)
      (kind : line.kind = .attribute)
      (reads : Attribute.replacement? line.text = some fields)
    : IsEdit er line
        (some ⟨fields.map fun field => line.indent ++ field.render, [.ofFields fields]⟩)
  | edge
      (isFlowchart : er = false)
      (kind : line.kind = .content)
      (dangles : Edge.isDangling line.text = true)
    : IsEdit er line (some ⟨[Edge.commentOut line.text], [.edgeRemoved line.trimmed]⟩)
  | relationship (isEr : er = true) (kind : line.kind = .relationship)
    : IsEdit er line (some (.ofQuoted [] (quoteRelationship line.text)))
  | content
      (isFlowchart : er = false)
      (kind : line.kind = .content)
      (joined : Edge.isDangling line.text = false)
    : IsEdit er line (some (.ofQuoted [] (quoteLine flowchartReserved line.text)))
  | declaration {head body : Text}
      (isFlowchart : er = false)
      (kind : line.kind = .declaration)
      (cut : cutAt? ';' line.text = some (head, body))
    : IsEdit er line (some (.ofQuoted (head ++ [';']) (quoteLine flowchartReserved body)))

theorem isEdit_repairEdit? (er : Bool) (line : Line) : IsEdit er line (repairEdit? er line) := by
  rw [repairEdit?]
  cases hfirst : firstEdit? er line with
  | some edit =>
      rw [Option.some_or]
      cases er with
      | true =>
          obtain ⟨hkind, fields, hfields, rfl⟩ := attributeEdit?_eq_some hfirst
          exact .attributes rfl hkind hfields
      | false =>
          obtain ⟨hkind, hdangling, rfl⟩ := edgeEdit?_eq_some hfirst
          exact .edge rfl hkind hdangling
  | none =>
      rw [Option.none_or]
      cases hlabel : labelEdit? er line with
      | none => exact .untouched hfirst hlabel
      | some edit =>
          unfold labelEdit? at hlabel
          split at hlabel
          · rename_i hkind
            obtain rfl := Option.some.inj hlabel
            exact .relationship rfl hkind
          · rename_i hkind
            obtain rfl := Option.some.inj hlabel
            refine .content rfl hkind ?_
            simpa [firstEdit?, edgeEdit?, hkind] using hfirst
          · rename_i hkind
            obtain ⟨sides, hcut, rfl⟩ := Option.map_eq_some_iff.1 hlabel
            exact .declaration rfl hkind hcut
          · contradiction

/-- Every line is written as at least one line. -/
theorem Line.written_ne_nil (er : Bool) (line : Line) : line.written er ≠ [] := by
  have hedit := isEdit_repairEdit? er line
  rw [Line.written]
  generalize repairEdit? er line = edit at hedit ⊢
  cases hedit with
  | attributes isEr kind reads =>
      obtain ⟨-, hne, -⟩ := Attribute.replacement?_eq_some reads
      simpa using hne
  | _ => simp [Edit.ofQuoted]

/-- Items that are written as at least one line each make up some lines exactly when each of them
is written as its line, by induction on the items. -/
theorem flatMap_eq_map_iff {α : Type} {write : α → List Text} (read : α → Text) {items : List α}
    (h : ∀ item ∈ items, write item ≠ [])
    : items.flatMap write = items.map read ↔ ∀ item ∈ items, write item = [read item] := by
  have hlength : ∀ items : List α, (∀ item ∈ items, write item ≠ []) →
      items.length ≤ (items.flatMap write).length := by
    intro items hne
    induction items with
    | nil => exact Nat.le_refl 0
    | cons item rest ih =>
        have hpos := List.length_pos_iff.2 (hne item List.mem_cons_self)
        have hrest := ih fun other ho => hne other (List.mem_cons_of_mem _ ho)
        rw [List.flatMap_cons, List.length_append, List.length_cons]
        omega
  induction items with
  | nil => simp
  | cons item rest ih =>
      have hmore : ∀ other ∈ rest, write other ≠ [] := fun other ho =>
        h other (List.mem_cons_of_mem _ ho)
      have hrest := ih hmore
      rw [List.flatMap_cons, List.map_cons, List.forall_mem_cons]
      constructor
      · intro heq
        have hsame := congrArg List.length heq
        have hpos := List.length_pos_iff.2 (h item List.mem_cons_self)
        have hle := hlength rest hmore
        rw [List.length_append, List.length_cons, List.length_map] at hsame
        obtain ⟨text, htext⟩ := List.length_eq_one_iff.1 (show (write item).length = 1 by omega)
        rw [htext, List.singleton_append, List.cons.injEq] at heq
        exact ⟨by rw [htext, heq.1], hrest.1 heq.2⟩
      · rintro ⟨hitem, hothers⟩
        rw [hitem, hrest.2 hothers, List.singleton_append]

theorem requoted_declaration {line head body : Text} (h : cutAt? ';' line = some (head, body))
    (reserved : List Char)
    : Requoted line (head ++ [';'] ++ (quoteLine reserved body).text) := by
  rw [(cutAt?_eq_some h).1, List.append_cons]
  exact (Requoted.refl _).append (requoted_quoteLine reserved body)

/-- The characters that a repair may put on a line that does not hold them. -/
def addedChars : List Char :=
  quoteMarks ++ ' ' :: commentMarker ++ Edge.removedMarker ++ Attribute.defaultType

theorem mem_of_mem_commentOut {line : Text} {c : Char} (hc : c ∉ addedChars)
    (hm : c ∈ Edge.commentOut line)
    : c ∈ line := by
  obtain ⟨back, -, hline⟩ := exists_eq_trim_append line
  simp only [addedChars, List.mem_append, List.mem_cons, not_or] at hc
  simp only [Edge.commentOut, List.mem_append, List.mem_cons] at hm
  rw [hline, List.mem_append, List.mem_append]
  tauto

/-- What a line is written as: the line but for quotes, an attribute that is read from it, or the
line as a comment. -/
theorem Line.cases_of_mem_written {er : Bool} {line : Line} {written : Text}
    (h : written ∈ line.written er)
    : Requoted line.text written
      ∨ (∃ fields,
          Attribute.replacement? line.text = some fields
          ∧ ∃ field ∈ fields, line.indent ++ field.render = written)
      ∨ written = Edge.commentOut line.text := by
  have hedit := isEdit_repairEdit? er line
  rw [Line.written] at h
  generalize repairEdit? er line = edit at hedit h
  cases hedit with
  | untouched first label =>
      obtain rfl := List.mem_singleton.1 h
      exact Or.inl (Requoted.refl _)
  | @attributes fields isEr kind reads =>
      exact Or.inr (Or.inl ⟨fields, reads, List.mem_map.1 h⟩)
  | edge isFlowchart kind dangles => exact Or.inr (Or.inr (List.mem_singleton.1 h))
  | relationship isEr kind =>
      obtain rfl := List.mem_singleton.1 h
      exact Or.inl (requoted_quoteRelationship line.text)
  | content isFlowchart kind joined =>
      obtain rfl := List.mem_singleton.1 h
      exact Or.inl (requoted_quoteLine _ line.text)
  | declaration isFlowchart kind cut =>
      obtain rfl := List.mem_singleton.1 h
      exact Or.inl (requoted_declaration cut _)

/-- What a line is written as holds the characters of the line, and those that repairs put in. -/
theorem Line.mem_of_mem_written {er : Bool} {line : Line} {written : Text}
    (h : written ∈ line.written er) {c : Char} (hc : c ∉ addedChars) (hm : c ∈ written)
    : c ∈ line.text := by
  rcases Line.cases_of_mem_written h with hquoted | ⟨fields, reads, field, hf, rfl⟩ | rfl
  · exact (hquoted.mem_iff fun hq => hc (by simp [addedChars, hq])).1 hm
  · rcases List.mem_append.1 hm with hm | hm
    · exact (List.takeWhile_prefix _).subset hm
    · rcases Attribute.mem_render reads hf hm with hspace | hdefault | hline
      · exact absurd (by simp [addedChars, hspace]) hc
      · exact absurd (by simp [addedChars, hdefault]) hc
      · exact hline
  · exact mem_of_mem_commentOut hc hm

/-- No line that a line is written as holds a line feed. -/
theorem Line.isLine_written {er : Bool} {line : Line} (h : IsLine line.text)
    : ∀ text ∈ line.written er, IsLine text :=
  fun _ hw hm => h (Line.mem_of_mem_written hw (by decide) hm)

-----------------------------------------------------------------------------------------
-- Reading the repaired text
-----------------------------------------------------------------------------------------

theorem mem_classify_text {texts : List Text} {line : Line} (h : line ∈ classify texts)
    : line.text ∈ texts := by
  rw [← map_text_classifyFrom (isErDiagram texts) false 0 texts]
  exact List.mem_map_of_mem h

theorem isLine_of_mem_flatMap_written {er : Bool} {text written : Text}
    (h : written ∈ (classify (lines text)).flatMap (Line.written er))
    : IsLine written := by
  obtain ⟨line, hm, hw⟩ := List.mem_flatMap.1 h
  exact Line.isLine_written (isLine_of_mem_lines (mem_classify_text hm)) written hw

theorem classify_lines_ne_nil (text : Text) : classify (lines text) ≠ [] := by
  intro hnil
  have hlength := length_classifyFrom (isErDiagram (lines text)) false 0 (lines text)
  rw [← classify, hnil] at hlength
  exact lines_ne_nil text (List.eq_nil_of_length_eq_zero hlength.symm)

theorem flatMap_written_ne_nil (er : Bool) (text : Text)
    : (classify (lines text)).flatMap (Line.written er) ≠ [] := by
  intro hnil
  obtain ⟨line, rest, hlines⟩ := List.exists_cons_of_ne_nil (classify_lines_ne_nil text)
  rw [List.flatMap_eq_nil_iff] at hnil
  exact Line.written_ne_nil er line (hnil line (by simp [hlines]))

/-- The lines of the repaired text are those written, read back. -/
theorem lines_sanitize {text : Text}
    (h : (declaredType? (lines text)).any DiagramType.isSupported = true)
    : lines (sanitize text)
      = chopInit ((classify (lines text)).flatMap (Line.written (isErDiagram (lines text)))) := by
  rw [sanitize_of_supported h]
  exact lines_joinLines (fun _ hw => isLine_of_mem_flatMap_written hw)
    (flatMap_written_ne_nil _ text)

/-- Trimming does not change what a line declares, so reading lines back keeps the header. -/
theorem declaredType?_congr {first second : List Text}
    (h : SameTrimmed first second)
    : declaredType? first = declaredType? second := by
  induction h with
  | nil => rfl
  | @cons line read first second hline _ ih =>
      cases hm : isMeaningful line with
      | false =>
          rw [declaredType?_cons_of_not_meaningful hm, ih,
            declaredType?_cons_of_not_meaningful (isMeaningful_congr hline ▸ hm)]
      | true =>
          rw [declaredType?_cons_of_meaningful hm,
            declaredType?_cons_of_meaningful (isMeaningful_congr hline ▸ hm),
            Declaration.ofLine?_congr hline]

/-- The repaired text declares the type of the text. -/
theorem declaredType?_sanitize (text : Text)
    : declaredType? (lines (sanitize text)) = declaredType? (lines text) := by
  cases h : (declaredType? (lines text)).any DiagramType.isSupported with
  | false => rw [sanitize, repair_of_not_supported h]
  | true =>
      obtain ⟨type, htype, -⟩ := exists_declaredType_of_supported h
      rw [lines_sanitize h, ← declaredType?_congr (sameTrimmed_chopInit _), htype]
      exact declaredType?_written htype

end DiagramRepair
