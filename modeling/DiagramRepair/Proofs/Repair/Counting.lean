import DiagramRepair.Proofs.Label.RelationshipKind
import DiagramRepair.Proofs.Repair.FlowchartCounts
import DiagramRepair.Proofs.Repair.SecondRun

/-! Counting a repaired diagram. In an ER diagram, entity blocks and relationships are written as
lines that name the same entities, and an attribute line as lines of which the first is an
attribute line; so only attributes can become more.
-/

namespace DiagramRepair

open Text Label Counts

-----------------------------------------------------------------------------------------
-- The first line of an attribute line
-----------------------------------------------------------------------------------------

theorem isComment_iff_prefix {text : Text}
    : isComment text = true ↔ commentMarker <+: trim text := by
  rw [isComment, startsWith, afterLead?_isSome_iff]

/-- The first attribute of a line is no comment if the line is none: its type is the default type,
or the line starts with it. -/
theorem Attribute.isComment_head_render {line : Text} {field : Field} {fields : List Field}
    (h : replacement? line = some (field :: fields)) (hc : isComment line = false)
    : isComment field.render = false := by
  have hprintable := isPrintable_of_replacement? h List.mem_cons_self
  have htrim : trim field.render = field.render := by
    simpa using hprintable.trim_indented (List.forall_mem_nil _)
  obtain ⟨rest, hrender⟩ := field.render_eq
  have hspace : ' ' ∉ commentMarker := by decide
  rw [Bool.eq_false_iff, ne_eq, isComment_iff_prefix, htrim, hrender,
    prefix_append_cons_iff hspace]
  intro hmarker
  cases hown : field.ownType with
  | none =>
      rw [Field.type, hown, Option.getD_none] at hmarker
      exact absurd hmarker (by decide)
  | some token =>
      obtain ⟨-, -, hflat, -⟩ := replacement?_eq_some h
      rw [List.flatMap_cons, Field.sourceTokens, hown, Option.toList_some] at hflat
      have hstart := prefix_of_tokens_cons hflat.symm fun c => isBlank_head?_trim
      rw [Field.type, hown, Option.getD_some] at hmarker
      rw [Bool.eq_false_iff, ne_eq, isComment_iff_prefix] at hc
      exact hc (hmarker.trans hstart)

-----------------------------------------------------------------------------------------
-- The counts of lines
-----------------------------------------------------------------------------------------

/-- The second lines name the entities of the first, with as many relationships and no fewer
attributes. -/
structure KeepsCounts (old new : List Line) : Prop where
  entities : new.flatMap entitiesOf = old.flatMap entitiesOf
  relationships
    : new.countP (fun line => line.kind == .relationship)
      = old.countP fun line => line.kind == .relationship
  attributes
    : old.countP (fun line => line.kind == .attribute)
      ≤ new.countP fun line => line.kind == .attribute

theorem KeepsCounts.append {old new more next : List Line} (hf : KeepsCounts old new)
    (hs : KeepsCounts more next)
    : KeepsCounts (old ++ more) (new ++ next) where
  entities := by rw [List.flatMap_append, List.flatMap_append, hf.entities, hs.entities]
  relationships := by
    rw [List.countP_append, List.countP_append, hf.relationships, hs.relationships]
  attributes := by
    rw [List.countP_append, List.countP_append]
    exact Nat.add_le_add hf.attributes hs.attributes

theorem KeepsCounts.nil : KeepsCounts [] [] :=
  ⟨rfl, rfl, Nat.le_refl 0⟩

/-- A line of the same kind that names the same entities. -/
theorem KeepsCounts.singleton {old new : Line} (hk : new.kind = old.kind)
    (he : entitiesOf new = entitiesOf old)
    : KeepsCounts [old] [new] where
  entities := by rw [List.flatMap_singleton, List.flatMap_singleton, he]
  relationships := by rw [List.countP_singleton, List.countP_singleton, hk]
  attributes := by rw [List.countP_singleton, List.countP_singleton, hk]

/-- Blanks around a line do not matter for the entities that it names. -/
theorem entitiesOf_congr {old new : Line} (hk : new.kind = old.kind)
    (ht : trim old.text = trim new.text)
    : entitiesOf new = entitiesOf old := by
  have hname : entityName new.text = entityName old.text := by rw [entityName, entityName, ht]
  have hrelationship : relationship? new.text = relationship? old.text := by
    rw [relationship?, relationship?, ht]
  rw [entitiesOf, entitiesOf, hk, hname, hrelationship]

theorem entitiesOf_relationship {line : Line} (h : line.kind = .relationship)
    : entitiesOf line
      = (((relationship? line.text).map fun r => (r.left, r.right)).elim [] fun ends =>
          [ends.1, ends.2]) := by
  rw [entitiesOf, h]
  cases relationship? line.text with
  | none => rfl
  | some r => rfl

theorem classifyFrom_singleton (er inBlock : Bool) (index : Nat) (text : Text)
    : classifyFrom er inBlock index [text] = [Line.read er inBlock index text] :=
  rfl

/-- Lines that keep the state are classified one by one in that state. -/
theorem kind_of_mem_classifyFrom_of_kept {er inBlock : Bool} {index : Nat} {texts : List Text}
    (h : ∀ text ∈ texts, (LineKind.ofLine er inBlock text).inBlockAfter inBlock = inBlock)
    {line : Line} (hm : line ∈ classifyFrom er inBlock index texts)
    : line.text ∈ texts ∧ line.kind = LineKind.ofLine er inBlock line.text := by
  induction texts generalizing index with
  | nil => simp [classifyFrom] at hm
  | cons text rest ih =>
      rw [List.forall_mem_cons] at h
      rcases List.mem_cons.1 hm with rfl | hm
      · exact ⟨List.mem_cons_self, rfl⟩
      · rw [h.1] at hm
        obtain ⟨hmem, hkind⟩ := ih h.2 hm
        exact ⟨List.mem_cons_of_mem _ hmem, hkind⟩

/-- Attribute lines and comments in place of an attribute line, the first of them an attribute
line. -/
theorem keepsCounts_of_inert {inBlock : Bool} {line : Line} (hl : line.kind = .attribute)
    {first : Text} {more : List Text} (hf : LineKind.ofLine true inBlock first = .attribute)
    (hm : ∀ text ∈ more, IsInert true inBlock text) (index : Nat)
    : KeepsCounts [line] (classifyFrom true inBlock index (first :: more)) := by
  have hinert : ∀ text ∈ first :: more, IsInert true inBlock text :=
    List.forall_mem_cons.2 ⟨Or.inr ⟨rfl, hf⟩, hm⟩
  have hkinds : ∀ other ∈ classifyFrom true inBlock index (first :: more),
      other.kind = .comment ∨ other.kind = .attribute := by
    intro other ho
    obtain ⟨hmem, hkind⟩ :=
      kind_of_mem_classifyFrom_of_kept (fun text ht => (hinert text ht).inBlockAfter) ho
    rw [hkind]
    rcases hinert _ hmem with hk | ⟨-, hk⟩
    · exact Or.inl hk
    · exact Or.inr hk
  have hentities : entitiesOf line = [] := by rw [entitiesOf, hl]
  refine ⟨?_, ?_, ?_⟩
  · rw [List.flatMap_singleton, hentities, List.flatMap_eq_nil_iff]
    intro other ho
    rcases hkinds other ho with hk | hk
    · rw [entitiesOf, hk]
    · rw [entitiesOf, hk]
  · rw [List.countP_singleton, hl, List.countP_eq_zero.2]
    · rfl
    · intro other ho
      rcases hkinds other ho with hk | hk
      · simp [hk]
      · simp [hk]
  · rw [List.countP_singleton, hl, classifyFrom, hf, List.countP_cons_of_pos (by rfl)]
    exact Nat.le_add_left 1 _

-----------------------------------------------------------------------------------------
-- Repaired ER diagrams
-----------------------------------------------------------------------------------------

/-- The lines that an attribute line is written as keep the counts. -/
theorem keepsCounts_attributes {line : Line} (hl : line.kind = .attribute)
    (hc : isComment line.text = false) {fields : List Attribute.Field}
    (hf : Attribute.replacement? line.text = some fields) {reads : List Text}
    (h : SameTrimmed (fields.map fun field => line.indent ++ field.render) reads) (index : Nat)
    : KeepsCounts [line] (classifyFrom true true index reads) := by
  have hprintable : ∀ field ∈ fields, field.IsPrintable := fun _ =>
    Attribute.isPrintable_of_replacement? hf
  have htrim : ∀ field ∈ fields, trim (line.indent ++ field.render) = field.render :=
    fun field hm => (hprintable field hm).trim_indented line.allBlank_indent
  obtain ⟨-, hne, -⟩ := Attribute.replacement?_eq_some hf
  obtain ⟨field, rest, rfl⟩ := List.exists_cons_of_ne_nil hne
  rw [List.map_cons] at h
  cases h with
  | @cons _ first _ more hfirst hmore =>
      have hrender : trim first = field.render :=
        hfirst.symm.trans (htrim field List.mem_cons_self)
      have hcomment : isComment first = false := by
        rw [isComment_congr (hrender.trans (htrim field List.mem_cons_self).symm)]
        rw [isComment_congr (trim_blank_append field.render line.allBlank_indent)]
        exact Attribute.isComment_head_render hf hc
      refine keepsCounts_of_inert hl ?_ (fun text hm => ?_) index
      · rcases LineKind.ofLine_of_render (hprintable field List.mem_cons_self) hrender with hk | hk
        · exact hk
        · cases LineKind.isOf hk with
          | comment _ comment =>
              rw [hcomment] at comment
              cases comment
      · obtain ⟨written, hw, hsame⟩ := SameTrimmed.exists_of_mem hmore hm
        obtain ⟨other, ho, rfl⟩ := List.mem_map.1 hw
        have hother := List.mem_cons_of_mem field ho
        rw [htrim other hother] at hsame
        rcases LineKind.ofLine_of_render (hprintable other hother) hsame.symm with hk | hk
        · exact Or.inr ⟨rfl, hk⟩
        · exact Or.inl hk

/-- The line that a relationship line is written as keeps the counts. -/
theorem keepsCounts_relationship {line : Line} (hl : line.kind = .relationship)
    (hk : LineKind.ofLine true false line.text = .relationship) {read : Text}
    (h : trim (quoteRelationship line.text).text = trim read) (index : Nat)
    : KeepsCounts [line] [Line.read true false index read] := by
  have hread : (Line.read true false index read).kind = .relationship := by
    rw [Line.kind_read, ← LineKind.ofLine_congr h, LineKind.ofLine_quoteRelationship hk]
  have hsame : relationship? read = relationship? (quoteRelationship line.text).text := by
    rw [relationship?, relationship?, h]
  refine .singleton (hread.trans hl.symm) ?_
  rw [entitiesOf_relationship hl, entitiesOf_relationship hread, Line.text_read, hsame,
    ends_quoteRelationship]

/-- A line that differs in the blanks around it keeps the counts. -/
theorem keepsCounts_of_trim {inBlock : Bool} {text read : Text} (h : trim text = trim read)
    (index other : Nat)
    : KeepsCounts [Line.read true inBlock index text] [Line.read true inBlock other read] := by
  have hkind : (Line.read true inBlock other read).kind
      = (Line.read true inBlock index text).kind := by
    rw [Line.kind_read, Line.kind_read, LineKind.ofLine_congr h]
  have htext : trim (Line.read true inBlock index text).text
      = trim (Line.read true inBlock other read).text := by
    rw [Line.text_read, Line.text_read, h]
  exact .singleton hkind (entitiesOf_congr hkind htext)

/-- What a line is written as keeps the counts, by cases on the edit. -/
theorem keepsCounts_written {inBlock : Bool} {text : Text} {reads : List Text} (index other : Nat)
    (h : SameTrimmed ((Line.read true inBlock index text).written true) reads)
    : KeepsCounts [Line.read true inBlock index text] (classifyFrom true inBlock other reads) := by
  have hedit := isEdit_repairEdit? true (Line.read true inBlock index text)
  rw [Line.written] at h
  generalize repairEdit? true (Line.read true inBlock index text) = edit at hedit h
  cases hedit with
  | untouched first label =>
      cases h with
      | cons hline hrest =>
          cases hrest with
          | nil =>
              rw [classifyFrom_singleton]
              exact keepsCounts_of_trim hline index other
  | attributes isEr kind reads =>
      have hkind : LineKind.ofLine true inBlock text = .attribute := kind
      obtain rfl := LineKind.inBlock_of_attribute hkind
      cases LineKind.isOf hkind with
      | attributes inside comment => exact keepsCounts_attributes kind comment reads h other
  | edge isFlowchart => cases isFlowchart
  | relationship isEr kind =>
      have hkind : LineKind.ofLine true inBlock text = .relationship := kind
      obtain ⟨rfl, -⟩ := LineKind.relates_of_relationship hkind
      cases h with
      | cons hline hrest =>
          cases hrest with
          | nil =>
              rw [classifyFrom_singleton]
              exact keepsCounts_relationship kind hkind hline other
  | content isFlowchart => cases isFlowchart
  | declaration isFlowchart => cases isFlowchart

/-- What lines are written as keeps the counts, by induction on the lines: the state behind what a
line is written as is the state behind the line. -/
theorem keepsCounts_writtenFrom {inBlock : Bool} {texts reads : List Text}
    (h : SameTrimmed (writtenFrom true inBlock texts) reads) (index other : Nat)
    : KeepsCounts (classifyFrom true inBlock index texts)
        (classifyFrom true inBlock other reads) := by
  induction texts generalizing inBlock reads index other with
  | nil =>
      cases h with
      | nil => exact .nil
  | cons text rest ih =>
      rw [writtenFrom] at h
      obtain ⟨block, behind, rfl, hblock, hbehind⟩ := h.exists_append
      have hafter := blockAfter_congr true inBlock hblock
      rw [Line.blockAfter_written (by simp)] at hafter
      rw [classifyFrom_append, ← hafter]
      exact (keepsCounts_written index other hblock).append (ih hbehind (index + 1) _)

/-- A repaired ER diagram has as many entities and relationships as the diagram, and no fewer
attributes. -/
theorem exists_countElements_sanitize_er {text : Text}
    (h : declaredType? (lines text) = some .erDiagram)
    : ∃ entities relationships attributes more,
        countElements text = .er entities relationships attributes
        ∧ countElements (sanitize text) = .er entities relationships more
        ∧ attributes ≤ more := by
  have her : isErDiagram (lines text) = true := by
    rw [isErDiagram, h]
    rfl
  have hagain : isErDiagram (lines (sanitize text)) = true := by
    rw [isErDiagram_congr (declaredType?_sanitize text), her]
  have hsupported : (declaredType? (lines text)).any DiagramType.isSupported = true := by
    rw [h]
    rfl
  have hkeeps : KeepsCounts (classify (lines text)) (classify (lines (sanitize text))) := by
    have hsame := sameTrimmed_chopInit (writtenFrom true false (lines text))
    rw [classify, classify, her, hagain, lines_sanitize hsupported, classify, her,
      flatMap_written_classifyFrom]
    exact keepsCounts_writtenFrom hsame 0 0
  rw [countElements, countElements, her, hagain, if_pos rfl, if_pos rfl, ofErDiagram, ofErDiagram,
    hkeeps.entities, hkeeps.relationships]
  exact ⟨_, _, _, _, rfl, rfl, hkeeps.attributes⟩

-----------------------------------------------------------------------------------------
-- Repaired diagrams
-----------------------------------------------------------------------------------------

/-- A repair keeps what is reported of a diagram. A flowchart has the edges and subgraphs that it
has with blank lines in place of those that lost an edge; an ER diagram has the entities and
relationships that it had, and no fewer attributes. -/
theorem countElements_sanitize (text : Text)
    : ((declaredType? (lines text) = some .flowchart ∨ declaredType? (lines text) = some .graph)
        → ∀ blank : Text,
            IsLine blank
            → AllBlank blank
            → ∃ nodes others edges subgraphs,
                countElements (sanitize text) = .flowchart nodes edges subgraphs
                ∧ countElements (withoutRemovedEdges blank text)
                  = .flowchart others edges subgraphs)
      ∧ (declaredType? (lines text) = some .erDiagram
        → ∃ entities relationships attributes more,
            countElements text = .er entities relationships attributes
            ∧ countElements (sanitize text) = .er entities relationships more
            ∧ attributes ≤ more) := by
  constructor
  · rintro (h | h) blank hl hb
    · exact exists_countElements_sanitize (by rw [h]; rfl) (by rw [isErDiagram, h]; rfl) hl hb
    · exact exists_countElements_sanitize (by rw [h]; rfl) (by rw [isErDiagram, h]; rfl) hl hb
  · exact exists_countElements_sanitize_er

theorem countElements_sanitize_dangling_untyped
    : (∃ nodes others edges subgraphs,
        countElements (sanitize "graph TD\nA -->\nB[(x--y)] --> C".toList)
          = .flowchart nodes edges subgraphs
        ∧ countElements (withoutRemovedEdges [' '] "graph TD\nA -->\nB[(x--y)] --> C".toList)
          = .flowchart others edges subgraphs)
      ∧ ∃ entities relationships attributes more,
          countElements "erDiagram\nA \x7b\nid int n\n\x7d\nA ||--o\x7b B : (x)".toList
            = .er entities relationships attributes
          ∧ countElements
              (sanitize "erDiagram\nA \x7b\nid int n\n\x7d\nA ||--o\x7b B : (x)".toList)
            = .er entities relationships more
          ∧ attributes ≤ more :=
  have hline : IsLine [' '] := by simp [IsLine]
  have hblank : AllBlank [' '] := List.forall_mem_singleton.2 (by decide)
  ⟨(countElements_sanitize _).1 (Or.inr (by decide +kernel)) [' '] hline hblank,
    (countElements_sanitize _).2 (by decide +kernel)⟩

end DiagramRepair
