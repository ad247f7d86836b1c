import DiagramRepair.Proofs.Diagram.Balance
import DiagramRepair.Proofs.Repair.Conservation
import DiagramRepair.Verdict.Basic

/-! Judging the text that a verdict resolves to. Quoting and commenting out keep brackets in
balance, and so does writing attributes anew, apart from braces that the bracket count left out
of the line that they stood on: no attribute looks like a relationship any more.
-/

namespace DiagramRepair

open Text Label

-----------------------------------------------------------------------------------------
-- Sums over lines
-----------------------------------------------------------------------------------------

/-- How often a character is counted on a line, in an ER diagram or not. -/
def lineCount (er : Bool) (c : Char) (line : Text) : Nat :=
  (if er then maskedLine line else line).count c

/-- How often a character is counted on some lines. -/
def linesCount (er : Bool) (c : Char) (texts : List Text) : Nat :=
  (texts.map (lineCount er c)).sum

theorem lineCount_er (c : Char) (line : Text)
    : lineCount true c line = (maskedLine line).count c := by
  rw [lineCount, if_pos rfl]

theorem lineCount_flowchart (c : Char) (line : Text)
    : lineCount false c line = line.count c := by
  rw [lineCount, if_neg Bool.false_ne_true]

theorem linesCount_append (er : Bool) (c : Char) (first second : List Text)
    : linesCount er c (first ++ second) = linesCount er c first + linesCount er c second := by
  simp [linesCount]

theorem linesCount_singleton (er : Bool) (c : Char) (text : Text)
    : linesCount er c [text] = lineCount er c text := by
  simp [linesCount]

theorem linesCount_chopInit (er : Bool) {c : Char} (hc : isBlank c = false) (texts : List Text)
    : linesCount er c (chopInit texts) = linesCount er c texts := by
  have hline : ∀ text, lineCount er c (chop text) = lineCount er c text := by
    intro text
    cases er with
    | true => rw [lineCount_er, lineCount_er, count_maskedLine_chop hc]
    | false => rw [lineCount_flowchart, lineCount_flowchart, count_chop hc]
  induction texts with
  | nil => rfl
  | cons text rest ih =>
      cases rest with
      | nil => rfl
      | cons next rest =>
          simp only [linesCount, chopInit, List.map_cons, List.sum_cons, hline] at ih ⊢
          rw [ih]

/-- The counted text line by line. -/
theorem count_countedText {c : Char} (hc : isBlank c = false) (text : Text)
    : (countedText text).count c = linesCount (isErDiagram (lines text)) c (lines text) := by
  have hfeed : c ≠ '\n' := by
    rintro rfl
    exact absurd hc (by decide)
  have hreturn : c ≠ '\r' := by
    rintro rfl
    exact absurd hc (by decide)
  rw [countedText]
  cases her : isErDiagram (lines text) with
  | true =>
      have hline : lineCount true c = fun line => (maskedLine line).count c :=
        funext (lineCount_er c)
      rw [if_pos rfl, count_joinLines hfeed, List.map_map, linesCount, hline, Function.comp_def]
  | false =>
      have hline : lineCount false c = fun line => line.count c := funext (lineCount_flowchart c)
      rw [if_neg Bool.false_ne_true, ← count_dropReturns hreturn, ← joinLines_lines,
        count_joinLines hfeed, linesCount, hline]

-----------------------------------------------------------------------------------------
-- What a line is written as, counted
-----------------------------------------------------------------------------------------

/-- How often a character stands uncounted on a line that is written as attributes. -/
def Line.uncovered (c : Char) (line : Line) : Nat :=
  if (attributeEdit? line).isSome then line.text.count c - (maskedLine line.text).count c else 0

theorem Line.uncovered_of_kind {line : Line} (h : line.kind ≠ .attribute) (c : Char)
    : line.uncovered c = 0 := by
  simp [Line.uncovered, attributeEdit?, h]

/-- Quoting the label of a relationship changes no bracket that is counted. -/
theorem count_maskedLine_quoted {c : Char} (hc : c ∈ bracketChars) {line : Text}
    (h : (relationship? line).isSome = true)
    : (maskedLine (quoteRelationship line).text).count c = (maskedLine line).count c := by
  have hagain := isSome_relationship?_quoted h
  rcases quoteRelationship_cases line with hself | ⟨r, quoted, hr, hq, hquoted⟩
  · rw [hself]
  · obtain ⟨htext, hformed⟩ := Relationship.ofLine?_spec hr
    obtain ⟨masked, hmask⟩ := hformed.exists_mask []
    have hlabel := Requoted.written relationshipReserved r.label
    rw [written, hq, Option.getD_some] at hlabel
    have hcount := hlabel.count (not_mem_quoteMarks_of_mem_bracketChars hc)
    have hnew : maskSymbolFrom false { r with label := quoted : Relationship }.toText
        = masked ++ (quoted ++ r.trailing) :=
      hmask quoted r.trailing
    have hold : maskSymbolFrom false r.toText = masked ++ (r.label ++ r.trailing) :=
      hmask r.label r.trailing
    rw [hquoted] at hagain ⊢
    rw [maskedLine, maskedLine, if_pos hagain, if_pos h, hnew, ← htext, hold]
    simp only [List.count_append, hcount]

/-- Attributes that are written anew hold every bracket of their line, and all of them count. -/
theorem linesCount_render {c : Char} (hc : c ∈ bracketChars) {line : Text}
    {fields : List Attribute.Field} (h : Attribute.replacement? line = some fields)
    : linesCount true c (fields.map fun field => indent line ++ field.render) = line.count c := by
  have hblank := isBlank_of_mem_bracketChars hc
  have hdefault := not_mem_defaultType_of_mem_bracketChars hc
  have hline : ∀ field ∈ fields,
      lineCount true c (indent line ++ field.render) = field.render.count c := by
    intro field hf
    have hprintable := Attribute.isPrintable_of_replacement? h hf
    have htrim := hprintable.trim_indented (allBlank_indent line)
    rw [lineCount_er, maskedLine_of_none (hprintable.relationship?_eq_none htrim),
      List.count_append, count_blank hblank (allBlank_indent line), Nat.zero_add]
  rw [linesCount, List.map_map, Function.comp_def, List.map_congr_left hline,
    Attribute.sum_count_render h hblank hdefault, count_trim hblank]

theorem lineCount_of_requoted {c : Char} (hc : c ∈ bracketChars) {old new : Text}
    (h : Requoted old new)
    : lineCount false c new = lineCount false c old := by
  rw [lineCount_flowchart, lineCount_flowchart,
    h.count (not_mem_quoteMarks_of_mem_bracketChars hc)]

theorem lineCount_quoteRelationship {c : Char} (hc : c ∈ bracketChars) {line : Text}
    (h : (relationship? line).isSome = true)
    : lineCount true c (quoteRelationship line).text = lineCount true c line := by
  rw [lineCount_er, lineCount_er, count_maskedLine_quoted hc h]

theorem lineCount_commentOut {c : Char} (hc : c ∈ bracketChars) (line : Text)
    : lineCount false c (Edge.commentOut line)
      = lineCount false c line + Edge.removedMarker.count c := by
  rw [lineCount_flowchart, lineCount_flowchart, count_commentOut (isBlank_of_mem_bracketChars hc)
    (not_mem_commentMarker_of_mem_bracketChars hc)]

/-- The attribute pass writes no line outside ER diagrams. -/
theorem attributeEdit?_eq_none {er inBlock : Bool} {line : Line}
    (hkind : line.kind = LineKind.ofLine er inBlock line.text)
    (hstate : er = false → inBlock = false) (h : firstEdit? er line = none)
    : attributeEdit? line = none := by
  cases er with
  | true => exact h
  | false =>
      refine attributeEdit?_eq_none_iff.2 fun hattribute => ?_
      have hinside := LineKind.inBlock_of_attribute (hkind.symm.trans hattribute)
      rw [hstate rfl] at hinside
      cases hinside

/-- A line that is written anew keeps every bracket that was counted. What the mask covered counts
if the line becomes attributes, and a comment gets the brackets of its marker. By cases on the
edit. -/
theorem Line.linesCount_written {er inBlock : Bool} {line : Line}
    (hkind : line.kind = LineKind.ofLine er inBlock line.text)
    (hstate : er = false → inBlock = false)
    : ∃ added, (added = [] ∨ added = Edge.removedMarker)
        ∧ ∀ c ∈ bracketChars,
            linesCount er c (line.written er)
              = lineCount er c line.text + line.uncovered c + added.count c := by
  have hedit := isEdit_repairEdit? er line
  rw [Line.written]
  generalize repairEdit? er line = edit at hedit ⊢
  cases hedit with
  | untouched first label =>
      refine ⟨[], Or.inl rfl, fun c _ => ?_⟩
      rw [Line.uncovered, attributeEdit?_eq_none hkind hstate first, Option.elim_none,
        linesCount_singleton, Option.isSome_none, if_neg Bool.false_ne_true, List.count_nil,
        Nat.add_zero]
  | attributes isEr kind reads =>
      subst isEr
      refine ⟨[], Or.inl rfl, fun c hc => ?_⟩
      have hsome : (attributeEdit? line).isSome = true := by
        rw [attributeEdit?, if_pos kind, reads]
        rfl
      have hspace : ∀ d ∈ bracketChars, d ≠ ' ' := List.all_iff_forall_prop.1 (by decide)
      have hle := count_maskedLine_le (hspace c hc) line.text
      rw [Line.uncovered, if_pos hsome, lineCount_er, Option.elim_some, Line.indent,
        linesCount_render hc reads, List.count_nil]
      omega
  | edge isFlowchart kind dangles =>
      subst isFlowchart
      refine ⟨Edge.removedMarker, Or.inr rfl, fun c hc => ?_⟩
      rw [Line.uncovered_of_kind (by simp [kind]), Option.elim_some, linesCount_singleton,
        lineCount_commentOut hc, Nat.add_zero]
  | relationship isEr kind =>
      subst isEr
      refine ⟨[], Or.inl rfl, fun c hc => ?_⟩
      obtain ⟨-, hsome⟩ := LineKind.relates_of_relationship (hkind.symm.trans kind)
      rw [Line.uncovered_of_kind (by simp [kind]), Option.elim_some, Edit.ofQuoted,
        List.nil_append, linesCount_singleton, lineCount_quoteRelationship hc hsome,
        List.count_nil, Nat.add_zero]
  | content isFlowchart kind joined =>
      subst isFlowchart
      refine ⟨[], Or.inl rfl, fun c hc => ?_⟩
      rw [Line.uncovered_of_kind (by simp [kind]), Option.elim_some, Edit.ofQuoted,
        List.nil_append, linesCount_singleton,
        lineCount_of_requoted hc (requoted_quoteLine flowchartReserved line.text),
        List.count_nil, Nat.add_zero]
  | declaration isFlowchart kind cut =>
      subst isFlowchart
      refine ⟨[], Or.inl rfl, fun c hc => ?_⟩
      rw [Line.uncovered_of_kind (by simp [kind]), Option.elim_some, Edit.ofQuoted,
        linesCount_singleton, lineCount_of_requoted hc (requoted_declaration cut _),
        List.count_nil, Nat.add_zero]

-----------------------------------------------------------------------------------------
-- What a repaired text holds, counted
-----------------------------------------------------------------------------------------

/-- How often a character stands uncounted on the lines that are written as attributes. -/
def uncovered (c : Char) (text : Text) : Nat :=
  ((classify (lines text)).map (Line.uncovered c)).sum

/-- The sides of a bracket pair on some lines and on the lines that they are written as, by
induction on the lines. -/
theorem linesCount_flatMap_written {er : Bool} {classified : List Line}
    (h : ∀ line ∈ classified, ∃ inBlock,
      line.kind = LineKind.ofLine er inBlock line.text ∧ (er = false → inBlock = false))
    (bracket : Bracket)
    : linesCount er bracket.opener (classified.flatMap (Line.written er))
          + linesCount er bracket.closer (classified.map Line.text)
          + (classified.map (Line.uncovered bracket.closer)).sum
        = linesCount er bracket.closer (classified.flatMap (Line.written er))
          + linesCount er bracket.opener (classified.map Line.text)
          + (classified.map (Line.uncovered bracket.opener)).sum := by
  induction classified with
  | nil => simp [linesCount]
  | cons line rest ih =>
      obtain ⟨inBlock, hkind, hstate⟩ := h line List.mem_cons_self
      obtain ⟨added, hadded, hline⟩ := Line.linesCount_written hkind hstate
      have hopener := hline bracket.opener bracket.opener_mem
      have hcloser := hline bracket.closer bracket.closer_mem
      have hpairs : added.count bracket.opener = added.count bracket.closer := by
        rcases hadded with rfl | rfl
        · rfl
        · exact bracket.count_removedMarker
      have hrest := ih fun other ho => h other (List.mem_cons_of_mem _ ho)
      have hcons : ∀ c, linesCount er c ((line :: rest).map Line.text)
          = lineCount er c line.text + linesCount er c (rest.map Line.text) := fun c => by
        rw [List.map_cons, linesCount, List.map_cons, List.sum_cons, ← linesCount]
      rw [List.flatMap_cons, linesCount_append, linesCount_append, hcons, hcons, List.map_cons,
        List.map_cons, List.sum_cons, List.sum_cons]
      omega

theorem count_countedText_sanitize {text : Text}
    (h : (declaredType? (lines text)).any DiagramType.isSupported = true) (bracket : Bracket)
    : (countedText (sanitize text)).count bracket.opener
          + (countedText text).count bracket.closer + uncovered bracket.closer text
        = (countedText (sanitize text)).count bracket.closer
          + (countedText text).count bracket.opener + uncovered bracket.opener text := by
  have hkinds : ∀ line ∈ classify (lines text), ∃ inBlock,
      line.kind = LineKind.ofLine (isErDiagram (lines text)) inBlock line.text
      ∧ (isErDiagram (lines text) = false → inBlock = false) :=
    fun _ hm => exists_kind_of_mem_classify hm
  have hwritten := linesCount_flatMap_written hkinds bracket
  have htexts : (classify (lines text)).map Line.text = lines text :=
    map_text_classifyFrom _ _ _ _
  rw [htexts] at hwritten
  have hopener := isBlank_of_mem_bracketChars bracket.opener_mem
  have hcloser := isBlank_of_mem_bracketChars bracket.closer_mem
  rw [count_countedText hopener, count_countedText hcloser, count_countedText hopener,
    count_countedText hcloser, isErDiagram_congr (declaredType?_sanitize text), lines_sanitize h,
    linesCount_chopInit _ hopener, linesCount_chopInit _ hcloser]
  exact hwritten

theorem imbalances_eq_nil_iff {text : Text}
    : imbalances text = []
      ↔ ∀ bracket : Bracket,
          (countedText text).count bracket.opener = (countedText text).count bracket.closer := by
  rw [imbalances]
  simp only [List.filter_eq_nil_iff, List.mem_map, forall_exists_index, and_imp,
    forall_apply_eq_imp_iff₂, bne_iff_ne, ne_eq, Decidable.not_not]
  constructor
  · intro h bracket
    exact h bracket (by cases bracket <;> decide)
  · intro h bracket _
    exact h bracket

/-- No square or round bracket is left out of a count. -/
theorem uncovered_eq_zero {c : Char} (hc : c ≠ ' ') (hm : c ∉ cardinalityChars) (text : Text)
    : uncovered c text = 0 := by
  rw [uncovered, List.sum_eq_zero_iff_forall_eq_nat]
  intro count hcount
  obtain ⟨line, -, rfl⟩ := List.mem_map.1 hcount
  rw [Line.uncovered, count_maskedLine hc hm, Nat.sub_self, ite_self]

/-- A balanced diagram is balanced after its repair exactly when the braces that the repair makes
count are balanced. -/
theorem imbalances_sanitize_iff {text : Text}
    (h : (declaredType? (lines text)).any DiagramType.isSupported = true)
    (hb : imbalances text = [])
    : imbalances (sanitize text) = [] ↔ uncovered '{' text = uncovered '}' text := by
  have hbefore := imbalances_eq_nil_iff.1 hb
  rw [imbalances_eq_nil_iff]
  constructor
  · intro hafter
    have hcount := count_countedText_sanitize h .curly
    have hold := hbefore .curly
    have hnew := hafter .curly
    simp only [Bracket.opener, Bracket.closer] at hcount hold hnew
    omega
  · intro hcovered bracket
    have hcount := count_countedText_sanitize h bracket
    have hold := hbefore bracket
    have hsame : uncovered bracket.closer text = uncovered bracket.opener text := by
      cases bracket with
      | square =>
          rw [uncovered_eq_zero (by decide) (by decide), uncovered_eq_zero (by decide) (by decide)]
      | round =>
          rw [uncovered_eq_zero (by decide) (by decide), uncovered_eq_zero (by decide) (by decide)]
      | curly => exact hcovered.symm
    omega

-----------------------------------------------------------------------------------------
-- Verdicts
-----------------------------------------------------------------------------------------

/-- A text that declares a type is not blank. -/
theorem isAllBlank_of_declaredType? {text : Text} {type : DiagramType}
    (h : declaredType? (lines text) = some type)
    : isAllBlank text = false := by
  rw [declaredType?, Option.map_eq_some_iff] at h
  obtain ⟨declaration, hd, -⟩ := h
  obtain ⟨header, hheader, -⟩ := Option.bind_eq_some_iff.1 hd
  have hmeaningful : isMeaningful header = true := by simpa using List.find?_some hheader
  have hmem : header ∈ lines text := List.mem_of_find?_eq_some hheader
  cases hb : isAllBlank text with
  | false => rfl
  | true =>
      have hblank : isAllBlank header = true :=
        isAllBlank_iff.2 fun c hc => isAllBlank_iff.1 hb c (mem_of_mem_lines hmem hc)
      simp [isMeaningful, hblank] at hmeaningful

/-- The text is a balanced diagram of a supported type that meets the expectation. -/
structure Accepts (expected : Option Text) (text : Text) (type : DiagramType) : Prop where
  declared : declaredType? (lines text) = some type
  supported : type.isSupported = true
  expected : expected.filter (fun name => !type.meets name) = none
  balanced : imbalances text = []

theorem Accepts.any_supported {expected : Option Text} {text : Text} {type : DiagramType}
    (h : Accepts expected text type)
    : (declaredType? (lines text)).any DiagramType.isSupported = true := by
  rw [h.declared]
  exact h.supported

theorem Accepts.validate {expected : Option Text} {text : Text} {type : DiagramType}
    (h : Accepts expected text type)
    : DiagramRepair.validate expected text = .accepted (.ofText type text) := by
  unfold DiagramRepair.validate
  rw [if_neg (by simp [isAllBlank_of_declaredType? h.declared]), h.declared]
  dsimp only
  rw [if_neg (by simp [h.supported]), h.expected]
  dsimp only
  rw [h.balanced]

/-- These are all the diagrams that are accepted, by cases on what may be found wrong. -/
theorem isValid_validate_iff {expected : Option Text} {text : Text}
    : (validate expected text).isValid = true ↔ ∃ type, Accepts expected text type := by
  constructor
  · intro h
    unfold validate at h
    split at h
    · contradiction
    · split at h
      · contradiction
      · rename_i type htype
        split at h
        · contradiction
        · rename_i hsupported
          split at h
          · contradiction
          · rename_i hexpected
            split at h
            · rename_i hbalanced
              exact ⟨type, htype, by simpa using hsupported, hexpected, hbalanced⟩
            · contradiction
  · rintro ⟨type, h⟩
    rw [h.validate]
    rfl

theorem Accepts.type? {expected : Option Text} {text : Text} {type : DiagramType}
    (h : Accepts expected text type)
    : (DiagramRepair.validate expected text).type? = some type := by
  rw [h.validate]
  rfl

/-- An accepted diagram resolves to the repaired text, whether it is another one or not. -/
theorem Accepts.resolve {expected : Option Text} {text : Text} {type : DiagramType}
    (h : Accepts expected text type)
    : (DiagramRepair.validate expected text).resolve text = sanitize text := by
  rw [h.validate, Verdict.resolve, Verdict.corrected?, Acceptance.ofText]
  dsimp only
  split
  · rename_i hsame
    exact hsame.symm
  · rfl

/-- The text that an accepted diagram resolves to is balanced and accepted again, with the same
type, exactly when the braces that the repair makes count are balanced. -/
theorem isValid_resolve_iff {expected : Option Text} {text : Text}
    (h : (validate expected text).isValid = true)
    : let resolved := (validate expected text).resolve text
      (imbalances resolved = []
        ∧ (validate expected resolved).isValid = true
        ∧ (validate expected resolved).type? = (validate expected text).type?)
      ↔ uncovered '{' text = uncovered '}' text := by
  obtain ⟨type, haccepts⟩ := isValid_validate_iff.1 h
  have hdeclared : declaredType? (lines (sanitize text)) = some type :=
    (declaredType?_sanitize text).trans haccepts.declared
  dsimp only
  rw [haccepts.resolve, haccepts.type?,
    ← imbalances_sanitize_iff haccepts.any_supported haccepts.balanced]
  constructor
  · exact And.left
  · intro hbalanced
    have hagain : Accepts expected (sanitize text) type :=
      ⟨hdeclared, haccepts.supported, haccepts.expected, hbalanced⟩
    exact ⟨hbalanced, isValid_validate_iff.2 ⟨type, hagain⟩, hagain.type?⟩

theorem isValid_resolve_iff_typed
    : (validate none "erDiagram\nE \x7b\nid\n\x7d\nA ||--o\x7b B : a/b".toList).isValid = true
      ∧ (let text := "erDiagram\nE \x7b\nid\n\x7d\nA ||--o\x7b B : a/b".toList
        let resolved := (validate none text).resolve text
        (imbalances resolved = []
          ∧ (validate none resolved).isValid = true
          ∧ (validate none resolved).type? = (validate none text).type?)
        ↔ uncovered '{' text = uncovered '}' text) :=
  have h
      : (validate none "erDiagram\nE \x7b\nid\n\x7d\nA ||--o\x7b B : a/b".toList).isValid
        = true := by
    decide +kernel
  ⟨h, isValid_resolve_iff h⟩

/-- An attribute line that looks like a relationship loses its cover: the brace of its symbol is
not counted before the repair, and is counted after it. -/
theorem rejected_resolve_of_relationship_in_block
    : (validate none "erDiagram\nE \x7b\nA ||--o\x7b B : x\n\x7d".toList).isValid = true
      ∧ (validate none ((validate none "erDiagram\nE \x7b\nA ||--o\x7b B : x\n\x7d".toList).resolve
            "erDiagram\nE \x7b\nA ||--o\x7b B : x\n\x7d".toList)).isValid = false := by
  decide +kernel

end DiagramRepair
