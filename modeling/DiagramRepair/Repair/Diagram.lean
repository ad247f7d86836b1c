import DiagramRepair.Repair.Passes

/-! Repairing a whole diagram: the pass for its type, and then the labels.
-/

namespace DiagramRepair

/-- A repaired text with the repairs in the order of their lines. -/
structure RepairedText where
  text : Text
  repairs : List Repair

namespace RepairedText

/-- The repairs that users are warned of. -/
def warnings (repaired : RepairedText) : List Text :=
  (repaired.repairs.filter fun repair => repair.kind.isUserFacing).map Repair.notice

/-- The repairs as a log records them. -/
def log (repaired : RepairedText) : List Text :=
  repaired.repairs.map Repair.notice

end RepairedText

/-- Runs the passes for ER diagrams or for flowcharts over numbered lines. -/
def repairLines (er : Bool) (lines : List SourceLine) : PassResult :=
  let first := if er then attributePass lines else edgePass lines
  let second := labelPass er first.lines
  ⟨second.lines, first.repairs ++ second.repairs⟩

/-- Repairs a diagram of a supported type; any other text is left as it is. -/
def repair (text : Text) : RepairedText :=
  let lines := Text.lines text
  if (declaredType? lines).any DiagramType.isSupported then
    let result := repairLines (isErDiagram lines) (SourceLine.ofTexts lines)
    { text := Text.joinLines (SourceLine.texts result.lines)
      repairs := result.repairs.mergeSort fun first second => first.line ≤ second.line }
  else ⟨text, []⟩

/-- The repaired text. -/
def sanitize (text : Text) : Text :=
  (repair text).text

end DiagramRepair
