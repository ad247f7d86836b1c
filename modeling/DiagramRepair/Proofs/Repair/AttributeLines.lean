import DiagramRepair.Proofs.Repair.Counting
import DiagramRepair.Proofs.Repair.FixedPoint

/-! The attribute lines behind the attribute pass. Every attribute that is written on a line of its
own makes an attribute line, unless its type starts as comments do. Then the line that it is written
on is a comment, and the diagram has one attribute less than was reported.
-/

namespace DiagramRepair

open Text

-----------------------------------------------------------------------------------------
-- What the pass does to attribute lines
-----------------------------------------------------------------------------------------

def attributeCount (lines : List Line) : Nat :=
  lines.countP fun line => line.kind == .attribute

/-- An attribute line that the pass leaves alone. -/
def Line.isKept (line : Line) : Bool :=
  line.kind == .attribute && (Attribute.replacement? line.text).isNone

/-- The attributes that the pass writes in place of a line. -/
def Line.emitted (line : Line) : List Attribute.Field :=
  if line.kind = .attribute then (Attribute.replacement? line.text).getD [] else []

/-- The line that an attribute is written on looks like a comment. -/
def Attribute.Field.isHidden (field : Field) : Bool :=
  startsWith commentMarker field.type

/-- The line that an attribute is written on is a comment exactly when its type starts as comments
do, since no comment marker holds the space behind the type. -/
theorem LineKind.ofLine_render {field : Attribute.Field} (h : field.IsPrintable) {text : Text}
    (ht : trim text = field.render)
    : ofLine true true text = if field.isHidden then .comment else .attribute := by
  have hspace : ' ' ∉ commentMarker := by decide
  have hmarker : isComment text = field.isHidden := by
    obtain ⟨rest, hrender⟩ := field.render_eq
    rw [Bool.eq_iff_iff, isComment_iff_prefix, ht, hrender, prefix_append_cons_iff hspace,
      Attribute.Field.isHidden, startsWith, afterLead?_isSome_iff]
  have hkind := isOf_ofLine true true text
  rcases ofLine_of_render h ht with hk | hk
  · rw [hk] at hkind ⊢
    cases hkind with
    | attributes _ comment => rw [← hmarker, comment, if_neg Bool.false_ne_true]
  · rw [hk] at hkind ⊢
    cases hkind with
    | comment _ comment => rw [← hmarker, comment, if_pos rfl]

-----------------------------------------------------------------------------------------
-- Accounts of attribute lines
-----------------------------------------------------------------------------------------

/-- The attribute lines among the second lines are those of the first that were left alone, and one
for each attribute that was written and is not hidden. -/
def AccountsFor (old new : List Line) : Prop :=
  attributeCount new + (old.flatMap Line.emitted).countP Attribute.Field.isHidden
    = old.countP Line.isKept + (old.flatMap Line.emitted).length

theorem AccountsFor.nil : AccountsFor [] [] :=
  rfl

theorem AccountsFor.append {old new more next : List Line} (hf : AccountsFor old new)
    (hs : AccountsFor more next)
    : AccountsFor (old ++ more) (new ++ next) := by
  simp only [AccountsFor, attributeCount, List.flatMap_append, List.countP_append,
    List.length_append] at hf hs ⊢
  omega

/-- Lines that keep the state have the kinds that they have in it, by induction on them. -/
theorem map_kind_classifyFrom_of_kept {er inBlock : Bool} {texts : List Text}
    (h : ∀ text ∈ texts, (LineKind.ofLine er inBlock text).inBlockAfter inBlock = inBlock)
    (index : Nat)
    : (classifyFrom er inBlock index texts).map Line.kind
      = texts.map (LineKind.ofLine er inBlock) := by
  induction texts generalizing index with
  | nil => rfl
  | cons text rest ih =>
      obtain ⟨htext, hrest⟩ := List.forall_mem_cons.1 h
      simp only [classifyFrom, List.map_cons, htext, ih hrest]

/-- The lines that an attribute line is written as, one for each attribute. -/
theorem accountsFor_emitted {line : Line} (hk : line.kind = .attribute)
    {fields : List Attribute.Field} (hf : Attribute.replacement? line.text = some fields)
    (index : Nat)
    : AccountsFor [line]
        (classifyFrom true true index (fields.map fun field => line.indent ++ field.render)) := by
  have hkinds : ∀ field ∈ fields,
      LineKind.ofLine true true (line.indent ++ field.render)
        = if field.isHidden then .comment else .attribute := by
    intro field hm
    have hprintable := Attribute.isPrintable_of_replacement? hf hm
    exact LineKind.ofLine_render hprintable (hprintable.trim_indented line.allBlank_indent)
  have hkept : ∀ text ∈ fields.map fun field => line.indent ++ field.render,
      (LineKind.ofLine true true text).inBlockAfter true = true := by
    intro text ht
    obtain ⟨field, hm, rfl⟩ := List.mem_map.1 ht
    rw [hkinds field hm]
    cases field.isHidden <;> rfl
  have hcount
      : attributeCount
          (classifyFrom true true index (fields.map fun field => line.indent ++ field.render))
        = fields.countP fun field => !field.isHidden := by
    have hmap := congrArg (List.countP (· == .attribute))
      (map_kind_classifyFrom_of_kept hkept index)
    rw [List.countP_map, List.countP_map, List.countP_map] at hmap
    refine hmap.trans (List.countP_congr fun field hm => ?_)
    simp only [Function.comp_apply, hkinds field hm]
    cases field.isHidden <;> decide
  have hemitted : [line].flatMap Line.emitted = fields := by simp [Line.emitted, hk, hf]
  have hleft : [line].countP Line.isKept = 0 := by simp [Line.isKept, hf]
  have hparts := List.length_eq_countP_add_countP Attribute.Field.isHidden (l := fields)
  simp only [Bool.not_eq_true, Bool.decide_eq_false] at hparts
  rw [AccountsFor, hemitted, hleft, hcount]
  omega

/-- A line that the pass leaves alone. -/
theorem accountsFor_kept {line other : Line} (hk : other.kind = line.kind)
    (h : line.kind = .attribute → Attribute.replacement? line.text = none)
    : AccountsFor [line] [other] := by
  by_cases hattribute : line.kind = .attribute
  · simp [AccountsFor, attributeCount, Line.emitted, Line.isKept, hk, hattribute, h hattribute]
  · simp [AccountsFor, attributeCount, Line.emitted, Line.isKept, hk, hattribute]

/-- What one line is written as accounts for it and leaves the state of the classifier as it was
behind the line. -/
theorem accountsFor_attributeEdit? {er inBlock : Bool} (hstate : er = false → inBlock = false)
    (text : Text) (index other : Nat)
    : let line := Line.read er inBlock index text
      let written := (attributeEdit? line).elim [line.text] Edit.texts
      AccountsFor [line] (classifyFrom er inBlock other written)
      ∧ blockAfter er inBlock written = line.kind.inBlockAfter inBlock := by
  intro line written
  cases hedit : attributeEdit? line with
  | none =>
      have hwritten : written = [text] := by
        simp only [written, hedit, Option.elim_none, line, Line.text_read]
      rw [hwritten, classifyFrom_singleton]
      exact ⟨accountsFor_kept rfl (attributeEdit?_eq_none_iff.1 hedit), rfl⟩
  | some edit =>
      obtain ⟨hkind, fields, hfields, rfl⟩ := attributeEdit?_eq_some hedit
      obtain rfl : inBlock = true := LineKind.inBlock_of_attribute hkind
      obtain rfl : er = true := by
        by_contra hno
        exact Bool.noConfusion (hstate (Bool.eq_false_iff.2 hno))
      have hfirst : firstEdit? true line = some _ := hedit
      have hinert := isInert_of_firstEdit? hfirst
      have hwritten : written = fields.map fun field => line.indent ++ field.render := by
        simp only [written, hedit, Option.elim_some]
      rw [hwritten]
      refine ⟨accountsFor_emitted hkind hfields other, ?_⟩
      exact (blockAfter_of_kept fun text ht => (hinert.1 text ht).inBlockAfter).trans hinert.2.symm

/-- What lines are written as accounts for them, by induction on the lines. -/
theorem accountsFor_classifyFrom {er inBlock : Bool} (hstate : er = false → inBlock = false)
    (texts : List Text) (index other : Nat)
    : AccountsFor (classifyFrom er inBlock index texts)
        (classifyFrom er inBlock other
          ((classifyFrom er inBlock index texts).flatMap fun line =>
            (attributeEdit? line).elim [line.text] Edit.texts)) := by
  induction texts generalizing inBlock index other with
  | nil => exact .nil
  | cons text rest ih =>
      obtain ⟨hline, hafter⟩ := accountsFor_attributeEdit? hstate text index other
      have hlater := LineKind.inBlockAfter_of_state hstate text
      rw [classifyFrom, List.flatMap_cons, classifyFrom_append]
      refine hline.append ?_
      exact hafter ▸ ih hlater (index + 1) _

-----------------------------------------------------------------------------------------
-- The whole pass
-----------------------------------------------------------------------------------------

/-- The pass leaves a diagram of the same type. -/
theorem isErDiagram_attributePass (lines : List SourceLine)
    : isErDiagram (SourceLine.texts (attributePass lines).lines)
      = isErDiagram (SourceLine.texts lines) := by
  cases her : isErDiagram (SourceLine.texts lines) with
  | false => rw [attributePass_of_not_er her, her]
  | true =>
      have htype : declaredType? (SourceLine.texts lines) = some .erDiagram := by
        simpa [isErDiagram] using her
      have hkeeps : KeepsHeader attributeEdit? := keepsHeader_firstEdit? true
      rw [attributePass, runPass_eq_runFrom, isErDiagram, hkeeps.declaredType? htype]
      rfl

/-- Behind the attribute pass there are as many attribute lines as were left alone and attributes
were written, less the attributes whose types start as comments do; so the numbers are the same
exactly when there is no such attribute. -/
theorem attributeCount_attributePass (lines : List SourceLine)
    : let before := classify (SourceLine.texts lines)
      let after := classify (SourceLine.texts (attributePass lines).lines)
      let emitted := before.flatMap Line.emitted
      attributeCount after + emitted.countP Attribute.Field.isHidden
        = before.countP Line.isKept + emitted.length
      ∧ (attributeCount after = before.countP Line.isKept + emitted.length
        ↔ ∀ field ∈ emitted, field.isHidden = false) := by
  intro before after emitted
  have haccounts : AccountsFor before after := by
    have hrun := @accountsFor_classifyFrom (isErDiagram (SourceLine.texts lines)) false
      (fun _ => rfl) (SourceLine.texts lines) 0 0
    rw [← texts_runFrom, ← runPass_eq_runFrom] at hrun
    rwa [← attributePass, ← isErDiagram_attributePass lines, ← classify, isErDiagram_attributePass,
      ← classify] at hrun
  have htotal : attributeCount after + emitted.countP Attribute.Field.isHidden
      = before.countP Line.isKept + emitted.length :=
    haccounts
  have hnone : emitted.countP Attribute.Field.isHidden = 0
      ↔ ∀ field ∈ emitted, field.isHidden = false := by
    simp only [List.countP_eq_zero, Bool.not_eq_true]
  refine ⟨htotal, ?_⟩
  rw [← hnone]
  omega

/-- A type from the middle of a line starts the second attribute, and the line that it comes to
stand on is a comment: of two attributes that are reported, one is an attribute line. -/
theorem attributeCount_attributePass_ne
    : let lines := SourceLine.ofTexts
        ["erDiagram".toList, "E \x7b".toList, "a b %%c d".toList, "\x7d".toList]
      let before := classify (SourceLine.texts lines)
      let after := classify (SourceLine.texts (attributePass lines).lines)
      (before.flatMap Line.emitted).map Attribute.Field.render = ["a b".toList, "%%c d".toList]
      ∧ after.map Line.kind = [.declaration, .entityStart, .attribute, .comment, .entityEnd]
      ∧ attributeCount after
        ≠ before.countP Line.isKept + (before.flatMap Line.emitted).length := by
  decide +kernel

end DiagramRepair
