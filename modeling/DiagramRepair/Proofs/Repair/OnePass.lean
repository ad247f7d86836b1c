import DiagramRepair.Proofs.Attribute.Rendering
import DiagramRepair.Proofs.Label.Classification
import DiagramRepair.Proofs.Label.Relationship
import DiagramRepair.Proofs.Repair.Pass
import DiagramRepair.Repair.Diagram

/-! The two passes of a repair as one. The first pass keeps the classifier's state and writes only
lines that the label pass leaves alone, so every line of a diagram is edited at most once, and
the repaired text is made of what each line is written as.
-/

namespace DiagramRepair

open Text Label

-----------------------------------------------------------------------------------------
-- Lines that the first pass writes
-----------------------------------------------------------------------------------------

theorem LineKind.ofLine_of_isComment {er inBlock : Bool} {text : Text}
    (h : isComment text = true)
    : LineKind.ofLine er inBlock text = .comment := by
  have hnone : Declaration.ofLine? text = none := by
    cases hd : Declaration.ofLine? text with
    | none => rfl
    | some declaration =>
        have hm := isMeaningful_of_ofLine? hd
        simp [isMeaningful, h] at hm
  simp [LineKind.ofLine, Declaration.ofLine?_trim, isComment_trim, hnone, h]

theorem isComment_commentOut (line : Text) : isComment (Edge.commentOut line) = true := by
  refine isComment_iff.2 ⟨indent line, allBlank_indent line, ?_⟩
  simp [Edge.commentOut]

/-- The line that an attribute is written as is an attribute line, or a comment when the type
looks like the start of one. -/
theorem LineKind.ofLine_of_render {field : Attribute.Field} (h : field.IsPrintable) {text : Text}
    (ht : trim text = field.render)
    : LineKind.ofLine true true text = .attribute ∨ LineKind.ofLine true true text = .comment := by
  obtain ⟨rest, hrender⟩ := field.render_eq
  have hne : field.type ≠ [] := (h.bare field.type List.mem_cons_self).ne_nil
  have hend : (field.render == ['}']) = false := by
    obtain ⟨c, type, htype⟩ := List.exists_cons_of_ne_nil hne
    simp [hrender, htype]
  have hempty : field.render.isEmpty = false := by simp [hrender]
  cases hcomment : isComment field.render with
  | true => right; simp [LineKind.ofLine, ht, hcomment]
  | false => left; simp [LineKind.ofLine, ht, hcomment, hend, hempty]

/-- What the attribute pass writes for a line. -/
theorem attributeEdit?_eq_some {line : Line} {edit : Edit} (h : attributeEdit? line = some edit)
    : line.kind = .attribute
      ∧ ∃ fields,
          Attribute.replacement? line.text = some fields
          ∧ edit = ⟨fields.map fun field => line.indent ++ field.render, [.ofFields fields]⟩ := by
  unfold attributeEdit? at h
  split at h
  · rename_i hkind
    obtain ⟨fields, hfields, rfl⟩ := Option.map_eq_some_iff.1 h
    exact ⟨hkind, fields, hfields, rfl⟩
  · contradiction

theorem edgeEdit?_eq_some {line : Line} {edit : Edit} (h : edgeEdit? line = some edit)
    : line.kind = .content
      ∧ Edge.isDangling line.text = true
      ∧ edit = ⟨[Edge.commentOut line.text], [.edgeRemoved line.trimmed]⟩ := by
  unfold edgeEdit? at h
  split at h
  · rename_i hline
    exact ⟨hline.1, hline.2, (Option.some.inj h).symm⟩
  · contradiction

theorem attributeEdit?_eq_none_iff {line : Line}
    : attributeEdit? line = none
      ↔ (line.kind = .attribute → Attribute.replacement? line.text = none) := by
  unfold attributeEdit?
  split
  · rename_i hkind
    simp [hkind]
  · rename_i hkind
    simp [hkind]

theorem edgeEdit?_eq_none_iff {line : Line}
    : edgeEdit? line = none
      ↔ (line.kind = .content → Edge.isDangling line.text = false) := by
  unfold edgeEdit?
  split
  · rename_i hline
    simp [hline.1, hline.2]
  · rename_i hline
    simpa using hline

-----------------------------------------------------------------------------------------
-- Both edits of a line
-----------------------------------------------------------------------------------------

/-- The edit of the first pass. -/
def firstEdit? (er : Bool) (line : Line) : Option Edit :=
  if er then attributeEdit? line else edgeEdit? line

theorem firstEdit?_er (line : Line) : firstEdit? true line = attributeEdit? line :=
  if_pos rfl

theorem firstEdit?_flowchart (line : Line) : firstEdit? false line = edgeEdit? line :=
  if_neg Bool.false_ne_true

/-- The edit of a line: that of the first pass, or else that of the label pass. -/
def repairEdit? (er : Bool) (line : Line) : Option Edit :=
  (firstEdit? er line).or (labelEdit? er line)

/-- The label pass edits a line in the same way wherever it stands. -/
theorem labelEdit?_index (er : Bool) (line : Line) (index : Nat)
    : labelEdit? er { line with index } = labelEdit? er line :=
  rfl

/-- A line of this kind opens and closes no block, and the label pass leaves it alone. -/
def IsInert (er inBlock : Bool) (text : Text) : Prop :=
  LineKind.ofLine er inBlock text = .comment
  ∨ er = true ∧ LineKind.ofLine er inBlock text = .attribute

theorem IsInert.inBlockAfter {er inBlock : Bool} {text : Text} (h : IsInert er inBlock text)
    : (LineKind.ofLine er inBlock text).inBlockAfter inBlock = inBlock := by
  rcases h with hk | ⟨-, hk⟩ <;> rw [hk] <;> rfl

theorem labelEdit?_of_kind {er : Bool} {line : Line}
    (h : line.kind = .comment ∨ line.kind = .blank ∨ er = true ∧ line.kind = .attribute)
    : labelEdit? er line = none := by
  rcases h with hk | hk | ⟨rfl, hk⟩
  · cases er <;> simp [labelEdit?, hk]
  · cases er <;> simp [labelEdit?, hk]
  · simp [labelEdit?, hk]

theorem IsInert.labelEdit? {er inBlock : Bool} {text : Text} (h : IsInert er inBlock text)
    (index : Nat)
    : DiagramRepair.labelEdit? er (Line.read er inBlock index text) = none := by
  refine labelEdit?_of_kind ?_
  rw [Line.kind_read]
  rcases h with hk | hk
  · exact Or.inl hk
  · exact Or.inr (Or.inr hk)

/-- Every line that the first pass writes is inert in the state of the line it stands for. -/
theorem isInert_of_firstEdit? {er inBlock : Bool} {index : Nat} {text : Text} {edit : Edit}
    (h : firstEdit? er (Line.read er inBlock index text) = some edit)
    : (∀ written ∈ edit.texts, IsInert er inBlock written)
      ∧ (LineKind.ofLine er inBlock text).inBlockAfter inBlock = inBlock := by
  cases er with
  | true =>
      obtain ⟨hkind, fields, hfields, rfl⟩ := attributeEdit?_eq_some h
      rw [Line.kind_read] at hkind
      obtain rfl := LineKind.inBlock_of_attribute hkind
      refine ⟨?_, by rw [hkind]; rfl⟩
      intro written hw
      obtain ⟨field, hf, rfl⟩ := List.mem_map.1 hw
      have hprintable := Attribute.isPrintable_of_replacement? hfields hf
      have htrim := hprintable.trim_indented (Line.allBlank_indent (Line.read true true index text))
      rcases LineKind.ofLine_of_render hprintable htrim with hk | hk
      · exact Or.inr ⟨rfl, hk⟩
      · exact Or.inl hk
  | false =>
      obtain ⟨hkind, -, rfl⟩ := edgeEdit?_eq_some h
      rw [Line.kind_read] at hkind
      refine ⟨?_, by rw [hkind]; rfl⟩
      intro written hw
      rw [List.mem_singleton] at hw
      rw [hw]
      exact Or.inl (LineKind.ofLine_of_isComment (isComment_commentOut _))

/-- The state stays as it is over lines that keep it, by induction on them. -/
theorem blockAfter_of_kept {er inBlock : Bool} {texts : List Text}
    (h : ∀ text ∈ texts, (LineKind.ofLine er inBlock text).inBlockAfter inBlock = inBlock)
    : blockAfter er inBlock texts = inBlock := by
  induction texts with
  | nil => rfl
  | cons text rest ih =>
      rw [blockAfter_cons, h text List.mem_cons_self]
      exact ih fun other ho => h other (List.mem_cons_of_mem _ ho)

/-- The label pass leaves inert lines as they are, by induction on them. -/
theorem runFrom_labelEdit?_of_inert {er inBlock : Bool} {index : Nat} {sources : List SourceLine}
    (h : ∀ source ∈ sources, IsInert er inBlock source.text)
    : runFrom (labelEdit? er) er inBlock index sources = ⟨sources, []⟩ := by
  induction sources generalizing index with
  | nil => rfl
  | cons source rest ih =>
      have hsource := h source List.mem_cons_self
      have hrest : runFrom (labelEdit? er) er inBlock (index + 1) rest = ⟨rest, []⟩ :=
        ih fun other ho => h other (List.mem_cons_of_mem _ ho)
      simp only [runFrom, hsource.labelEdit?, Line.kind_read, hsource.inBlockAfter, hrest]
      rfl

/-- The two passes are one. -/
theorem composes_repairEdit? (er : Bool)
    : Composes (firstEdit? er) (labelEdit? er) (repairEdit? er) er where
  state := by
    intro inBlock index source
    rw [texts_apply]
    cases hfirst : firstEdit? er (Line.read er inBlock index source.text) with
    | none => rfl
    | some edit =>
        obtain ⟨hinert, hstate⟩ := isInert_of_firstEdit? hfirst
        rw [hstate]
        exact blockAfter_of_kept fun text ht => (hinert text ht).inBlockAfter
  step := by
    intro inBlock index other source
    dsimp only
    cases hfirst : firstEdit? er (Line.read er inBlock index source.text) with
    | none =>
        have hlabel : labelEdit? er (Line.read er inBlock other source.text)
            = labelEdit? er (Line.read er inBlock index source.text) :=
          labelEdit?_index er (Line.read er inBlock index source.text) other
        have hboth : repairEdit? er (Line.read er inBlock index source.text)
            = labelEdit? er (Line.read er inBlock index source.text) := by
          rw [repairEdit?, hfirst, Option.none_or]
        rw [hboth]
        simp only [SourceLine.apply, SourceLine.repairs, runFrom, PassResult.append, hlabel,
          List.append_nil, List.nil_append, and_self]
    | some edit =>
        obtain ⟨hinert, -⟩ := isInert_of_firstEdit? hfirst
        have hboth : repairEdit? er (Line.read er inBlock index source.text) = some edit := by
          rw [repairEdit?, hfirst, Option.some_or]
        have hagain : runFrom (labelEdit? er) er inBlock other (source.apply (some edit))
            = ⟨source.apply (some edit), []⟩ := by
          refine runFrom_labelEdit?_of_inert fun written hw => ?_
          obtain ⟨text, ht, rfl⟩ := List.mem_map.1 hw
          exact hinert text ht
        rw [hboth, hagain]
        exact ⟨rfl, List.append_nil _⟩

-----------------------------------------------------------------------------------------
-- The header under the edits
-----------------------------------------------------------------------------------------

theorem firstEdit?_of_kind {er : Bool} {line : Line} (ha : line.kind ≠ .attribute)
    (hc : line.kind ≠ .content)
    : firstEdit? er line = none := by
  cases er <;> simp [firstEdit?, attributeEdit?, edgeEdit?, ha, hc]

theorem keepsHeader_firstEdit? (er : Bool) : KeepsHeader (firstEdit? er) where
  inert := by
    intro line hkind
    rcases hkind with hk | hk <;> exact firstEdit?_of_kind (by simp [hk]) (by simp [hk])
  declared := by
    intro line edit hkind hedit
    rw [firstEdit?_of_kind (by simp [hkind]) (by simp [hkind])] at hedit
    contradiction

/-- The label pass edits a declaration behind its first semicolon only. -/
theorem keepsHeader_labelEdit? (er : Bool) : KeepsHeader (labelEdit? er) where
  inert := by
    intro line hkind
    rcases hkind with hk | hk <;> cases er <;> simp [labelEdit?, hk]
  declared := by
    intro line edit hkind hedit
    cases er with
    | true => simp [labelEdit?, hkind] at hedit
    | false =>
        simp only [labelEdit?, hkind, Option.map_eq_some_iff] at hedit
        obtain ⟨sides, hcut, rfl⟩ := hedit
        obtain ⟨htext, hfront⟩ := cutAt?_eq_some hcut
        refine ⟨_, rfl, ?_⟩
        rw [htext, List.append_assoc, List.singleton_append]
        exact Declaration.map_type_append_congr hfront _ _

theorem keepsHeader_repairEdit? (er : Bool) : KeepsHeader (repairEdit? er) where
  inert := by
    intro line hkind
    rw [repairEdit?, (keepsHeader_firstEdit? er).inert line hkind,
      (keepsHeader_labelEdit? er).inert line hkind, Option.none_or]
  declared := by
    intro line edit hkind hedit
    rw [repairEdit?, firstEdit?_of_kind (by simp [hkind]) (by simp [hkind]), Option.none_or]
      at hedit
    exact (keepsHeader_labelEdit? er).declared line edit hkind hedit

-----------------------------------------------------------------------------------------
-- What the lines of a diagram are written as
-----------------------------------------------------------------------------------------

/-- The lines that a line is written as. -/
def Line.written (er : Bool) (line : Line) : List Text :=
  (repairEdit? er line).elim [line.text] Edit.texts

/-- The repairs made to a line. -/
def Line.repairs (er : Bool) (line : Line) : List Repair :=
  ((repairEdit? er line).elim [] Edit.fixes).map fun fix => ⟨line.number, fix⟩

/-- Texts numbered as the lines of a diagram from a position on. -/
def numberedFrom (index : Nat) (texts : List Text) : List SourceLine :=
  texts.mapIdx fun offset text => ⟨((index + offset : Nat) : Int) + 1, text⟩

theorem numberedFrom_cons (index : Nat) (text : Text) (rest : List Text)
    : numberedFrom index (text :: rest)
      = ⟨(index : Int) + 1, text⟩ :: numberedFrom (index + 1) rest := by
  simp [numberedFrom, List.mapIdx_cons, Nat.add_assoc, Nat.add_comm 1]

theorem texts_numberedFrom (index : Nat) (texts : List Text)
    : SourceLine.texts (numberedFrom index texts) = texts := by
  induction texts generalizing index with
  | nil => rfl
  | cons text rest ih =>
      rw [numberedFrom_cons, SourceLine.texts, List.map_cons, ← SourceLine.texts, ih]

theorem ofTexts_eq_numberedFrom (texts : List Text)
    : SourceLine.ofTexts texts = numberedFrom 0 texts := by
  simp [SourceLine.ofTexts, numberedFrom]

/-- A pass writes for every classified line what the edit of that line says, by induction on the
lines. -/
theorem texts_runFrom (edit? : Line → Option Edit) (er inBlock : Bool) (index : Nat)
    (sources : List SourceLine)
    : SourceLine.texts (runFrom edit? er inBlock index sources).lines
      = (classifyFrom er inBlock index (SourceLine.texts sources)).flatMap fun line =>
          (edit? line).elim [line.text] Edit.texts := by
  induction sources generalizing inBlock index with
  | nil => rfl
  | cons source rest ih =>
      have hrest := ih ((LineKind.ofLine er inBlock source.text).inBlockAfter inBlock) (index + 1)
      simp only [runFrom, PassResult.append, Line.kind_read, classifyFrom, List.flatMap_cons,
        SourceLine.texts, List.map_append, List.map_cons] at hrest ⊢
      rw [hrest, ← SourceLine.texts, texts_apply]
      rfl

theorem texts_runFrom_repairEdit? (er inBlock : Bool) (index : Nat) (texts : List Text)
    : SourceLine.texts (runFrom (repairEdit? er) er inBlock index (numberedFrom index texts)).lines
      = (classifyFrom er inBlock index texts).flatMap (Line.written er) := by
  rw [texts_runFrom, texts_numberedFrom]
  rfl

theorem repairs_runFrom_repairEdit? (er inBlock : Bool) (index : Nat) (texts : List Text)
    : (runFrom (repairEdit? er) er inBlock index (numberedFrom index texts)).repairs
      = (classifyFrom er inBlock index texts).flatMap (Line.repairs er) := by
  induction texts generalizing inBlock index with
  | nil => rfl
  | cons text rest ih =>
      have hrest := ih ((LineKind.ofLine er inBlock text).inBlockAfter inBlock) (index + 1)
      simp only [numberedFrom_cons, runFrom, PassResult.append, Line.kind_read, classifyFrom,
        List.flatMap_cons] at hrest ⊢
      rw [hrest]
      congr 1
      rw [Line.repairs]
      unfold SourceLine.repairs
      change _ = List.map _ (Option.elim (repairEdit? er (Line.read er inBlock index text)) [] _)
      cases repairEdit? er (Line.read er inBlock index text) with
      | none => rfl
      | some edit => rfl

theorem isErDiagram_congr {first second : List Text}
    (h : declaredType? first = declaredType? second)
    : isErDiagram first = isErDiagram second := by
  rw [isErDiagram, isErDiagram, h]

/-- The declared type is that of the written lines, too. -/
theorem declaredType?_written {er : Bool} {texts : List Text} {type : DiagramType}
    (h : declaredType? texts = some type)
    : declaredType? ((classifyFrom er false 0 texts).flatMap (Line.written er)) = some type := by
  rw [← texts_runFrom_repairEdit?]
  refine (keepsHeader_repairEdit? er).declaredType? ?_
  rw [texts_numberedFrom, h]

/-- The passes over numbered lines that declare a type come to one pass over them. -/
theorem repairLines_eq_runFrom {sources : List SourceLine} {type : DiagramType}
    (h : declaredType? (SourceLine.texts sources) = some type)
    : let er := isErDiagram (SourceLine.texts sources)
      let once := runFrom (repairEdit? er) er false 0 sources
      (repairLines er sources).lines = once.lines
      ∧ (repairLines er sources).repairs.Perm once.repairs := by
  intro er once
  have hfirst
      : (if er then attributePass sources else edgePass sources)
        = runFrom (firstEdit? er) er false 0 sources := by
    have her : isErDiagram (SourceLine.texts sources) = er := rfl
    cases hcase : er with
    | true =>
        rw [if_pos rfl, attributePass, runPass_eq_runFrom, her, hcase]
        rfl
    | false =>
        rw [if_neg (by simp), edgePass, runPass_eq_runFrom, her, hcase]
        rfl
  have hsecond
      : isErDiagram (SourceLine.texts (runFrom (firstEdit? er) er false 0 sources).lines) = er := by
    apply isErDiagram_congr
    rw [h]
    exact (keepsHeader_firstEdit? er).declaredType? h
  rw [repairLines, hfirst, labelPass, runPass_eq_runFrom, hsecond]
  exact ⟨(composes_repairEdit? er).lines false 0 0 sources,
    (composes_repairEdit? er).repairs false 0 0 sources⟩

/-- The passes over the lines of a diagram write its lines and report what is done to them. -/
theorem repairLines_ofTexts {texts : List Text} {type : DiagramType}
    (h : declaredType? texts = some type)
    : let er := isErDiagram texts
      let result := repairLines er (SourceLine.ofTexts texts)
      SourceLine.texts result.lines = (classify texts).flatMap (Line.written er)
      ∧ result.repairs.Perm ((classify texts).flatMap (Line.repairs er)) := by
  intro er result
  have htexts : SourceLine.texts (SourceLine.ofTexts texts) = texts := by
    rw [ofTexts_eq_numberedFrom, texts_numberedFrom]
  have hpass := repairLines_eq_runFrom (htexts.symm ▸ h)
  rw [htexts] at hpass
  obtain ⟨hlines, hrepairs⟩ := hpass
  rw [ofTexts_eq_numberedFrom] at hlines hrepairs
  constructor
  · change SourceLine.texts (repairLines er (SourceLine.ofTexts texts)).lines = _
    rw [ofTexts_eq_numberedFrom, hlines, texts_runFrom_repairEdit?]
    rfl
  · change (repairLines er (SourceLine.ofTexts texts)).repairs.Perm _
    rw [ofTexts_eq_numberedFrom]
    refine hrepairs.trans (List.Perm.of_eq ?_)
    rw [repairs_runFrom_repairEdit?]
    rfl

theorem exists_declaredType_of_supported {texts : List Text}
    (h : (declaredType? texts).any DiagramType.isSupported = true)
    : ∃ type, declaredType? texts = some type ∧ type.isSupported = true := by
  rw [Option.any_eq_true] at h
  obtain ⟨type, htype, hsupported⟩ := h
  exact ⟨type, htype, hsupported⟩

/-- The repaired text of a supported diagram: what its lines are written as, joined. -/
theorem sanitize_of_supported {text : Text}
    (h : (declaredType? (lines text)).any DiagramType.isSupported = true)
    : sanitize text
      = joinLines ((classify (lines text)).flatMap (Line.written (isErDiagram (lines text)))) := by
  obtain ⟨type, htype, -⟩ := exists_declaredType_of_supported h
  rw [sanitize, repair, if_pos h]
  exact congrArg joinLines (repairLines_ofTexts htype).1

theorem repair_of_not_supported {text : Text}
    (h : (declaredType? (lines text)).any DiagramType.isSupported = false)
    : repair text = ⟨text, []⟩ := by
  rw [repair, if_neg (by simp [h])]

/-- The repairs of a supported diagram are those made to its lines. -/
theorem repairs_perm_of_supported {text : Text}
    (h : (declaredType? (lines text)).any DiagramType.isSupported = true)
    : (repair text).repairs.Perm
        ((classify (lines text)).flatMap (Line.repairs (isErDiagram (lines text)))) := by
  obtain ⟨type, htype, -⟩ := exists_declaredType_of_supported h
  rw [repair, if_pos h]
  exact (List.mergeSort_perm _ _).trans (repairLines_ofTexts htype).2

theorem pairwise_repairs {text : Text}
    : (repair text).repairs.Pairwise fun first second => first.line ≤ second.line := by
  rw [repair]
  split
  · have htrans : ∀ first second third : Repair,
        decide (first.line ≤ second.line) = true → decide (second.line ≤ third.line) = true →
        decide (first.line ≤ third.line) = true := by
      simpa using fun _ _ _ hf hs => Int.le_trans hf hs
    have htotal : ∀ first second : Repair,
        (decide (first.line ≤ second.line) || decide (second.line ≤ first.line)) = true := by
      simpa using fun first second : Repair => Int.le_total first.line second.line
    simpa only [decide_eq_true_eq] using List.pairwise_mergeSort htrans htotal _
  · exact .nil

end DiagramRepair
