import DiagramRepair.Diagram.Count
import DiagramRepair.Proofs.Attribute.Machine
import DiagramRepair.Proofs.Diagram.Classification
import DiagramRepair.Verdict.Basic

/-! Judging, repairing and counting with every operation checked that is not defined everywhere.
What such an operation needs is what the classifier found out about the line, or what the
attributes of the line say, so no text leads to a fault.
-/

namespace DiagramRepair.Checked

open Text

-----------------------------------------------------------------------------------------
-- The operations, checked
-----------------------------------------------------------------------------------------

/-- The edit of an attribute line, with the machine that reads it and the description checked. -/
def attributeEdit (line : Line) : Except Fault (Option Edit) := do
  if line.kind = .attribute then
    match ← Attribute.checkedReplacement line.text with
    | none => return none
    | some fields =>
        let fix ← Attribute.describe fields
        return some ⟨fields.map fun field => line.indent ++ field.render, [fix]⟩
  else return none

def attributePass (lines : List SourceLine) : Except Fault PassResult := do
  let edits ← (classify (SourceLine.texts lines)).mapM attributeEdit
  return {
    lines := (lines.zipWith SourceLine.apply edits).flatten
    repairs := (lines.zipWith SourceLine.repairs edits).flatten
  }

/-- The passes of a type. Removing edges and quoting labels are defined everywhere. -/
def repairLines (er : Bool) (lines : List SourceLine) : Except Fault PassResult := do
  let first ← if er then attributePass lines else .ok (edgePass lines)
  let second := labelPass er first.lines
  return ⟨second.lines, first.repairs ++ second.repairs⟩

def repair (text : Text) : Except Fault RepairedText := do
  let lines := Text.lines text
  if (declaredType? lines).any DiagramType.isSupported then
    let result ← repairLines (isErDiagram lines) (SourceLine.ofTexts lines)
    return {
      text := Text.joinLines (SourceLine.texts result.lines)
      repairs := result.repairs.mergeSort fun first second => first.line ≤ second.line
    }
  else return ⟨text, []⟩

/-- The declaration on a line, which must declare a type. -/
def declarationOf (line : Line) : Except Fault Declaration :=
  Fault.noDeclaration.ifNone (Declaration.ofLine? line.text)

def isContent (line : Line) : Except Fault Bool :=
  match line.kind with
  | .declaration => (declarationOf line).map fun declaration => !declaration.body.isEmpty
  | .comment => .ok false
  | .blank => .ok false
  | _ => .ok true

def acceptance (type : DiagramType) (text : Text) : Except Fault Acceptance := do
  let repaired ← repair text
  let hasContent ← (classify (Text.lines text)).anyM isContent
  return {
    type
    repaired
    isBare := !hasContent
    corrected := if repaired.text = text then none else some repaired.text
  }

def validate (expected : Option Text) (text : Text) : Except Fault Verdict :=
  if Text.isAllBlank text then .ok (.rejected .empty)
  else
    match declaredType? (Text.lines text) with
    | none => .ok (.rejected (.unknownType (firstWords text)))
    | some type =>
        if !type.isSupported then .ok (.rejected (.disabledType type))
        else
          match expected.filter fun name => !type.meets name with
          | some name => .ok (.rejected (.typeMismatch name type))
          | none =>
              match imbalances text with
              | [] => (acceptance type text).map .accepted
              | found => .ok (.rejected (.unbalanced type found))

def statementOf? (line : Line) : Except Fault (Option Text) :=
  match line.kind with
  | .declaration => (declarationOf line).map fun declaration => some declaration.body
  | .content => .ok (some line.trimmed)
  | _ => .ok none

/-- The entities that a line names. The name that an entity block starts with must not be empty,
and a relationship must be one. -/
def entitiesOf (line : Line) : Except Fault (List Text) :=
  match line.kind with
  | .entityStart =>
      if (entityName line.text).isEmpty then .error .noEntityName
      else .ok [entityName line.text]
  | .relationship =>
      (Fault.noRelationship.ifNone (relationship? line.text)).map fun relationship =>
        [relationship.left, relationship.right]
  | _ => .ok []

def ofFlowchart (lines : List Line) : Except Fault Counts := do
  let statements ← lines.mapM statementOf?
  let tallies := (statements.filterMap id).map Counts.Tally.ofStatement
  return .flowchart (Counts.countDistinct (tallies.flatMap Counts.Tally.nodes))
    (Counts.total (tallies.map Counts.Tally.edges))
    (Counts.total (tallies.map Counts.Tally.subgraphs))

def ofErDiagram (lines : List Line) : Except Fault Counts := do
  let entities ← lines.mapM entitiesOf
  return .er (Counts.countDistinct entities.flatten)
    (lines.countP fun line => line.kind == .relationship)
    (lines.countP fun line => line.kind == .attribute)

def countElements (text : Text) : Except Fault Counts :=
  let lines := Text.lines text
  if isErDiagram lines then ofErDiagram (classify lines) else ofFlowchart (classify lines)

-----------------------------------------------------------------------------------------
-- Lines
-----------------------------------------------------------------------------------------

theorem ok_bind {α β : Type} (value : α) (next : α → Except Fault β)
    : (Except.ok value >>= next) = next value :=
  rfl

theorem attributeEdit_eq_ok (line : Line) : attributeEdit line = .ok (attributeEdit? line) := by
  unfold attributeEdit attributeEdit?
  split
  · rw [Attribute.checkedReplacement_eq_ok]
    cases hfields : Attribute.replacement? line.text with
    | none => rfl
    | some fields =>
        rw [ok_bind]
        dsimp only
        rw [Attribute.describe_of_replacement? hfields, ok_bind]
        rfl
  · rfl

/-- A line of this kind declares a type. -/
theorem declarationOf_eq_ok {texts : List Text} {line : Line} (h : line ∈ classify texts)
    (hkind : line.kind = .declaration)
    : ∃ declaration,
        Declaration.ofLine? line.text = some declaration
        ∧ declarationOf line = .ok declaration := by
  obtain ⟨inside, hline⟩ := exists_kind_of_mem_classifyFrom h
  cases LineKind.isOf (hline.symm.trans hkind) with
  | declaration outside declares =>
      obtain ⟨declaration, hdeclaration⟩ := Option.isSome_iff_exists.1 declares
      exact ⟨declaration, hdeclaration, by rw [declarationOf, hdeclaration, Fault.ifNone]⟩

theorem isContent_eq_ok {texts : List Text} {line : Line} (h : line ∈ classify texts)
    : isContent line = .ok line.isContent := by
  unfold isContent Line.isContent
  cases hkind : line.kind with
  | declaration =>
      obtain ⟨declaration, hdeclaration, hok⟩ := declarationOf_eq_ok h hkind
      rw [hok, hdeclaration]
      rfl
  | _ => rfl

theorem statementOf?_eq_ok {texts : List Text} {line : Line} (h : line ∈ classify texts)
    : statementOf? line = .ok (Counts.statementOf? line) := by
  unfold statementOf? Counts.statementOf?
  cases hkind : line.kind with
  | declaration =>
      obtain ⟨declaration, hdeclaration, hok⟩ := declarationOf_eq_ok h hkind
      rw [hok, hdeclaration]
      rfl
  | _ => rfl

/-- The name that an entity block starts with is not empty. -/
theorem entityName_ne_nil {text : Text} (h : isEntityStart (trim text) = true)
    : entityName text ≠ [] := by
  rw [isEntityStart, List.span_eq_takeWhile_dropWhile] at h
  simp only [Bool.and_eq_true, Bool.not_eq_true'] at h
  rw [entityName, ne_eq, ← List.isEmpty_iff, h.1]
  exact Bool.false_ne_true

theorem entitiesOf_eq_ok {texts : List Text} {line : Line} (h : line ∈ classify texts)
    : entitiesOf line = .ok (Counts.entitiesOf line) := by
  obtain ⟨inside, hline⟩ := exists_kind_of_mem_classifyFrom h
  unfold entitiesOf Counts.entitiesOf
  cases hkind : line.kind with
  | entityStart =>
      cases LineKind.isOf (hline.symm.trans hkind) with
      | entityStart isEr outside starts =>
          exact if_neg (by simpa using entityName_ne_nil starts)
  | relationship =>
      have hrelates := (LineKind.relates_of_relationship (hline.symm.trans hkind)).2
      obtain ⟨relationship, hrelationship⟩ := Option.isSome_iff_exists.1 hrelates
      rw [hrelationship]
      rfl
  | _ => rfl

-----------------------------------------------------------------------------------------
-- Texts
-----------------------------------------------------------------------------------------

/-- A list of operations none of which faults, by induction on the list. -/
theorem mapM_eq_ok {α β : Type} {operation : α → Except Fault β} {result : α → β} {items : List α}
    (h : ∀ item ∈ items, operation item = .ok (result item))
    : items.mapM operation = .ok (items.map result) := by
  induction items with
  | nil => rfl
  | cons item rest ih =>
      rw [List.forall_mem_cons] at h
      rw [List.mapM_cons, h.1, ih h.2]
      rfl

theorem anyM_eq_ok {α : Type} {question : α → Except Fault Bool} {answer : α → Bool}
    {items : List α} (h : ∀ item ∈ items, question item = .ok (answer item))
    : items.anyM question = .ok (items.any answer) := by
  induction items with
  | nil => rfl
  | cons item rest ih =>
      rw [List.forall_mem_cons] at h
      rw [List.anyM, h.1, List.any_cons]
      cases answer item with
      | true => rfl
      | false => exact ih h.2

theorem repairLines_eq_ok (er : Bool) (lines : List SourceLine)
    : repairLines er lines = .ok (DiagramRepair.repairLines er lines) := by
  cases er with
  | false => rfl
  | true =>
      rw [repairLines, if_pos rfl, attributePass, mapM_eq_ok fun line _ => attributeEdit_eq_ok line]
      rfl

theorem repair_eq_ok (text : Text) : repair text = .ok (DiagramRepair.repair text) := by
  unfold repair DiagramRepair.repair
  dsimp only
  split
  · rw [repairLines_eq_ok]
    rfl
  · rfl

theorem acceptance_eq_ok (type : DiagramType) (text : Text)
    : acceptance type text = .ok (.ofText type text) := by
  rw [acceptance, repair_eq_ok, anyM_eq_ok fun _ h => isContent_eq_ok h]
  rfl

theorem validate_eq_ok (expected : Option Text) (text : Text)
    : validate expected text = .ok (DiagramRepair.validate expected text) := by
  unfold validate DiagramRepair.validate
  cases isAllBlank text with
  | true => rfl
  | false =>
      cases declaredType? (lines text) with
      | none => rfl
      | some type =>
          dsimp only
          rw [acceptance_eq_ok]
          cases type.isSupported with
          | false => rfl
          | true =>
              cases expected.filter fun name => !type.meets name with
              | some name => rfl
              | none =>
                  cases imbalances text with
                  | nil => rfl
                  | cons => rfl

theorem countElements_eq_ok (text : Text)
    : countElements text = .ok (DiagramRepair.countElements text) := by
  unfold countElements DiagramRepair.countElements
  dsimp only
  split
  · rw [ofErDiagram, mapM_eq_ok fun _ h => entitiesOf_eq_ok h]
    rfl
  · rw [ofFlowchart, mapM_eq_ok fun _ h => statementOf?_eq_ok h]
    rw [ok_bind, List.filterMap_map]
    rfl

/-- No text leads to a fault: judging it, whatever type is expected, repairing it, and counting it
or what it resolves to come to their results. -/
theorem runs_without_fault (expected : Option Text) (text : Text)
    : validate expected text = .ok (DiagramRepair.validate expected text)
      ∧ repair text = .ok (DiagramRepair.repair text)
      ∧ countElements text = .ok (DiagramRepair.countElements text)
      ∧ countElements ((DiagramRepair.validate expected text).resolve text)
        = .ok (DiagramRepair.countElements
            ((DiagramRepair.validate expected text).resolve text)) :=
  ⟨validate_eq_ok expected text, repair_eq_ok text, countElements_eq_ok text,
    countElements_eq_ok _⟩

end DiagramRepair.Checked
