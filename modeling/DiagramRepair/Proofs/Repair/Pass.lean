import DiagramRepair.Proofs.Diagram.Classification
import DiagramRepair.Repair.Basic

/-! Passes line by line. A pass carries the classifier's bit of state along, so two passes in a
row are one pass when the first leaves that bit as it was and the second can be foretold on
the lines that the first writes.
-/

namespace DiagramRepair

-----------------------------------------------------------------------------------------
-- A pass as a walk over the lines
-----------------------------------------------------------------------------------------

/-- The outcome of some lines and then of others. -/
def PassResult.append (first second : PassResult) : PassResult :=
  ⟨first.lines ++ second.lines, first.repairs ++ second.repairs⟩

/-- A line as the classifier sees it in a given state. -/
def Line.read (er inBlock : Bool) (index : Nat) (text : Text) : Line :=
  ⟨index, text, LineKind.ofLine er inBlock text⟩

@[simp]
theorem Line.kind_read (er inBlock : Bool) (index : Nat) (text : Text)
    : (Line.read er inBlock index text).kind = LineKind.ofLine er inBlock text :=
  rfl

@[simp]
theorem Line.text_read (er inBlock : Bool) (index : Nat) (text : Text)
    : (Line.read er inBlock index text).text = text :=
  rfl

/-- The pass over the lines from a position on, in the state reached there. -/
def runFrom (edit? : Line → Option Edit) (er inBlock : Bool) (index : Nat)
    : List SourceLine → PassResult
  | [] => ⟨[], []⟩
  | source :: rest =>
      let line := Line.read er inBlock index source.text
      PassResult.append
        ⟨source.apply (edit? line), source.repairs (edit? line)⟩
        (runFrom edit? er (line.kind.inBlockAfter inBlock) (index + 1) rest)

/-- The walk writes what the pass writes, by induction on the lines. -/
theorem runFrom_eq (edit? : Line → Option Edit) (er inBlock : Bool) (index : Nat)
    (sources : List SourceLine)
    : runFrom edit? er inBlock index sources
      = {
          lines :=
            (sources.zipWith SourceLine.apply
              ((classifyFrom er inBlock index (SourceLine.texts sources)).map edit?)).flatten
          repairs :=
            (sources.zipWith SourceLine.repairs
              ((classifyFrom er inBlock index (SourceLine.texts sources)).map edit?)).flatten
        } := by
  induction sources generalizing inBlock index with
  | nil => rfl
  | cons source rest ih =>
      rw [runFrom, ih]
      rfl

theorem runPass_eq_runFrom (edit? : Line → Option Edit) (sources : List SourceLine)
    : runPass edit? sources
      = runFrom edit? (isErDiagram (SourceLine.texts sources)) false 0 sources := by
  rw [runFrom_eq]
  rfl

theorem runFrom_append (edit? : Line → Option Edit) (er inBlock : Bool) (index : Nat)
    (first second : List SourceLine)
    : runFrom edit? er inBlock index (first ++ second)
      = (runFrom edit? er inBlock index first).append
          (runFrom edit? er (blockAfter er inBlock (SourceLine.texts first))
            (index + first.length) second) := by
  induction first generalizing inBlock index with
  | nil => simp [runFrom, PassResult.append, SourceLine.texts, blockAfter]
  | cons source rest ih =>
      simp only [List.cons_append, runFrom, ih, PassResult.append, List.append_assoc,
        SourceLine.texts, List.map_cons, blockAfter_cons, List.length_cons, Line.kind_read]
      rw [Nat.add_assoc, Nat.add_comm 1]

theorem Line.allBlank_indent (line : Line) : Text.AllBlank line.indent :=
  Text.allBlank_indent line.text

theorem texts_apply (source : SourceLine) (edit : Option Edit)
    : SourceLine.texts (source.apply edit) = edit.elim [source.text] Edit.texts := by
  cases edit <;> simp [SourceLine.apply, SourceLine.texts, Function.comp_def]

-----------------------------------------------------------------------------------------
-- The header
-----------------------------------------------------------------------------------------

/-- Lines before the header are left alone, and the header goes on declaring its type. -/
structure KeepsHeader (edit? : Line → Option Edit) : Prop where
  inert : ∀ line : Line, line.kind = .comment ∨ line.kind = .blank → edit? line = none
  declared
    : ∀ (line : Line) (edit : Edit),
        line.kind = .declaration
        → edit? line = some edit
        → ∃ text,
            edit.texts = [text]
            ∧ (Declaration.ofLine? text).map Declaration.type
              = (Declaration.ofLine? line.text).map Declaration.type

/-- The declared type survives a pass, by induction on the lines up to the header. -/
theorem KeepsHeader.declaredType? {edit? : Line → Option Edit} (h : KeepsHeader edit?)
    {er : Bool} {index : Nat} {sources : List SourceLine} {type : DiagramType}
    (hd : declaredType? (SourceLine.texts sources) = some type)
    : DiagramRepair.declaredType? (SourceLine.texts (runFrom edit? er false index sources).lines)
      = some type := by
  induction sources generalizing index with
  | nil => simp [SourceLine.texts, DiagramRepair.declaredType?, header?] at hd
  | cons source rest ih =>
      have htexts : SourceLine.texts (source :: rest) = source.text :: SourceLine.texts rest := rfl
      rw [htexts] at hd
      cases hm : isMeaningful source.text with
      | false =>
          rw [declaredType?_cons_of_not_meaningful hm] at hd
          have hkind := LineKind.ofLine_of_not_meaningful er false hm
          have hnone : edit? (Line.read er false index source.text) = none := by
            apply h.inert
            simpa only [Line.kind_read] using hkind
          have hstate := LineKind.inBlockAfter_of_not_meaningful er false hm
          have hrest := @ih (index + 1) hd
          simp only [SourceLine.texts] at hrest ⊢
          simp only [runFrom, hnone, Line.kind_read, hstate, SourceLine.apply, PassResult.append,
            List.singleton_append, List.map_cons]
          rw [declaredType?_cons_of_not_meaningful hm, hrest]
      | true =>
          rw [declaredType?_cons_of_meaningful hm] at hd
          have hsome : (Declaration.ofLine? source.text).isSome = true := by
            obtain ⟨declaration, hs, -⟩ := Option.map_eq_some_iff.1 hd
            simp [hs]
          have hkind : (Line.read er false index source.text).kind = .declaration := by
            rw [Line.kind_read, LineKind.ofLine_eq_declaration_iff.2 hsome]
          simp only [runFrom, PassResult.append, SourceLine.texts, List.map_append]
          cases he : edit? (Line.read er false index source.text) with
          | none =>
              simp only [SourceLine.apply, List.map_cons, List.map_nil, List.singleton_append]
              exact declaredType?_cons_of_declared hd
          | some edit =>
              obtain ⟨text, htext, hsame⟩ := h.declared _ edit hkind he
              rw [Line.text_read, hd] at hsame
              simp only [SourceLine.apply, htext, List.map_cons, List.map_nil,
                List.singleton_append]
              exact declaredType?_cons_of_declared hsame

-----------------------------------------------------------------------------------------
-- Two passes in a row
-----------------------------------------------------------------------------------------

/-- On every line, `both` does what `second` makes of the lines that `first` writes. -/
structure Composes (first second both : Line → Option Edit) (er : Bool) : Prop where
  state
    : ∀ (inBlock : Bool) (index : Nat) (source : SourceLine),
        blockAfter er inBlock
            (SourceLine.texts (source.apply (first (Line.read er inBlock index source.text))))
          = (LineKind.ofLine er inBlock source.text).inBlockAfter inBlock
  step
    : ∀ (inBlock : Bool) (index other : Nat) (source : SourceLine),
        let line := Line.read er inBlock index source.text
        let again := runFrom second er inBlock other (source.apply (first line))
        again.lines = source.apply (both line)
        ∧ source.repairs (first line) ++ again.repairs = source.repairs (both line)

theorem Composes.lines {first second both : Line → Option Edit} {er : Bool}
    (h : Composes first second both er) (inBlock : Bool) (index other : Nat)
    (sources : List SourceLine)
    : (runFrom second er inBlock other (runFrom first er inBlock index sources).lines).lines
      = (runFrom both er inBlock index sources).lines := by
  induction sources generalizing inBlock index other with
  | nil => rfl
  | cons source rest ih =>
      simp only [runFrom, PassResult.append, runFrom_append, h.state, Line.kind_read]
      rw [(h.step inBlock index other source).1, ih]

/-- The repairs of two passes are those of the one pass in another order. -/
theorem Composes.repairs {first second both : Line → Option Edit} {er : Bool}
    (h : Composes first second both er) (inBlock : Bool) (index other : Nat)
    (sources : List SourceLine)
    : ((runFrom first er inBlock index sources).repairs
        ++ (runFrom second er inBlock other
            (runFrom first er inBlock index sources).lines).repairs).Perm
        (runFrom both er inBlock index sources).repairs := by
  induction sources generalizing inBlock index other with
  | nil => exact .rfl
  | cons source rest ih =>
      simp only [runFrom, PassResult.append, runFrom_append, h.state, Line.kind_read]
      rw [← (h.step inBlock index other source).2, List.append_assoc, List.append_assoc]
      apply List.Perm.append_left _
      refine (List.perm_append_comm_assoc _ _ _).trans ?_
      exact List.Perm.append_left _ (ih _ _ _)

end DiagramRepair
