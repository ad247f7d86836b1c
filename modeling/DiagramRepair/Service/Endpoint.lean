import DiagramRepair.Json.Reader
import DiagramRepair.Markdown.Preview
import DiagramRepair.Service.Message
import DiagramRepair.Settings.Basic
import DiagramRepair.Verdict.Report

/-! What the service offers. A request names an endpoint by its path; all but one of them take
a JSON object with a text in it, which must not be too long.
-/

namespace DiagramRepair.Service

open Encoding (Bytes CodePoint StandIns)

/-- The fields of a JSON object. -/
abbrev Fields := List (Text × Json)

/-- Stand-ins for the halves of surrogate pairs in the body of a request. -/
def standInsFor (body : Bytes) : StandIns :=
  Json.standInsFor fun standIns => Json.ofBytes? standIns body

/-- The object that a request brings. -/
def readObject (standIns : StandIns) (body : Bytes) : Except Failure Fields :=
  match Json.ofBytes? standIns body with
  | none => .error (.refused .notJson)
  | some (.object fields) => .ok fields
  | some _ => .error (.refused .notAnObject)

/-- The text in a field, which has to be there. -/
def requiredText (fields : Fields) (name : Text) : Except Failure Text :=
  match Json.field? fields name with
  | some (.string text) => .ok text
  | _ => .error (.refused (.missing name))

def checkLength (name : Text) (limit : Int) (text : Text) : Except Failure Unit :=
  if limit < text.length then .error (.refused (.tooLong name limit text.length)) else .ok ()

/-- The object that a request brings and the text in one of its fields. -/
def readTextField (standIns : StandIns) (name : Text) (limit : Int) (body : Bytes)
    : Except Failure (Fields × Text) := do
  let fields ← readObject standIns body
  let text ← requiredText fields name
  checkLength name limit text
  return (fields, text)

/-- The type that a diagram is expected to have, if any. -/
def readExpectedType (fields : Fields) : Except Failure (Option Text) :=
  match Json.field? fields "expected_type".toList with
  | none => .ok none
  | some .null => .ok none
  | some (.string name) =>
      if expectableTypes.contains name then .ok (some name)
      else .error (.refused (.unknownType expectableTypes))
  | some (.array _) => .error .unusableName
  | some (.object _) => .error .unusableName
  | some _ => .error (.refused (.unknownType expectableTypes))

/-- The diagram to judge: the text itself, or the diagram that has to be found in it. -/
def selectDiagram (fields : Fields) (text : Text) : Except Failure Text :=
  if (Json.field? fields "extract".toList).any Json.isTruthy then
    match Markdown.extractDiagram? text with
    | some found => .ok found
    | none => .error (.refused .noDiagram)
  else .ok text

/-- A diagram that is to be judged, and the type that it is expected to have, if any. -/
structure Question where
  expected : Option Text
  diagram : Text

def readQuestion (settings : Settings) (standIns : StandIns) (body : Bytes)
    : Except Failure Question := do
  let (fields, text) ← readTextField standIns "code".toList settings.maxDiagramLength body
  let expected ← readExpectedType fields
  let diagram ← selectDiagram fields text
  return ⟨expected, diagram⟩

/-- What is logged about a verdict. -/
def verdictLog (verdict : Verdict) : List Text :=
  verdict.log
    ++ (verdict.rejection?.map fun reason => "Rejected diagram: ".toList ++ reason.message).toList

/-- What is answered about a diagram beyond the verdict itself. -/
def verdictDetails (text : Text) (verdict : Verdict) : Text × Json :=
  match verdict.rejection? with
  | some reason => reason.suggestions
  | none => ("counts".toList, .object (countElements (verdict.resolve text)).fields)

/-- The verdict on a diagram. -/
def Question.answer (question : Question) : Answer :=
  let verdict := validate question.expected question.diagram
  {
    content := .json (.object (verdict.fields ++ [verdictDetails question.diagram verdict]))
    log := verdictLog verdict
  }

def validateDiagram (settings : Settings) (standIns : StandIns) (body : Bytes)
    : Except Failure Answer :=
  (readQuestion settings standIns body).map Question.answer

def repairDiagram (settings : Settings) (standIns : StandIns) (body : Bytes)
    : Except Failure Answer := do
  let (_, text) ← readTextField standIns "code".toList settings.maxDiagramLength body
  let repaired := repair text
  return {
    content := .json (.object [
      ("code".toList, .string repaired.text),
      ("changed".toList, .bool (repaired.text != text)),
      ("warnings".toList, Json.ofTexts repaired.warnings),
      ("repairs".toList, .array (repaired.repairs.map Repair.toJson))
    ])
    log := repaired.log
  }

def repairDocument (settings : Settings) (standIns : StandIns) (body : Bytes)
    : Except Failure Answer := do
  let (_, text) ← readTextField standIns "markdown".toList settings.maxMarkdownLength body
  let repaired := Markdown.repairDocument text
  return {
    content := .json (.object [
      ("markdown".toList, .string repaired.text),
      ("changed".toList, .bool (repaired.text != text)),
      ("blocks".toList, .array (repaired.reports.map Markdown.BlockReport.toJson))
    ])
    log := repaired.log
  }

def previewDocument (settings : Settings) (standIns : StandIns) (body : Bytes)
    : Except Failure Answer := do
  let (_, text) ← readTextField standIns "markdown".toList settings.maxMarkdownLength body
  return { content := .html (Markdown.preview (Markdown.repairDocument text).text), log := [] }

def reportHealth : Answer :=
  { content := .json (.object [
      ("ok".toList, .bool true),
      ("supported_types".toList, Json.ofTexts (DiagramType.supported.map DiagramType.name))
    ])
    log := [] }

inductive Endpoint where
  | health
  | validateDiagram
  | repairDiagram
  | repairDocument
  | previewDocument
  deriving DecidableEq

namespace Endpoint

def all : List Endpoint :=
  [.health, .validateDiagram, .repairDiagram, .repairDocument, .previewDocument]

def path : Endpoint → Text
  | .health => "/api/health".toList
  | .validateDiagram => "/api/diagrams/validate".toList
  | .repairDiagram => "/api/diagrams/sanitize".toList
  | .repairDocument => "/api/markdown/sanitize".toList
  | .previewDocument => "/api/markdown/preview".toList

def method : Endpoint → Text
  | .health => "GET".toList
  | _ => "POST".toList

def ofPath? (path : Text) : Option Endpoint :=
  all.find? fun endpoint => endpoint.path == path

/-- What an endpoint makes of the body of a request that is read with stand-ins for halves of
surrogate pairs. -/
def answer (endpoint : Endpoint) (settings : Settings) (standIns : StandIns) (body : Bytes)
    : Except Failure Answer :=
  match endpoint with
  | .health => .ok reportHealth
  | .validateDiagram => Service.validateDiagram settings standIns body
  | .repairDiagram => Service.repairDiagram settings standIns body
  | .repairDocument => Service.repairDocument settings standIns body
  | .previewDocument => Service.previewDocument settings standIns body

/-- What an endpoint makes of the body of a request. The answer stands for a `JSONResponse` or an
`HTMLResponse` of the web framework: it is encoded in UTF-8 when it is made, which fails on half a
surrogate pair. -/
def handle (endpoint : Endpoint) (settings : Settings) (body : Bytes) : Except Failure Answer := do
  let standIns := standInsFor body
  let answer ← endpoint.answer settings standIns body
  if (standIns.raw answer.content.text).any CodePoint.isHalf then
    .error (.notEncodable answer.log)
  else .ok answer

end Endpoint

/-- What the service makes of a request. Of the routing of the web framework this has the exact
paths and methods; a slash more at the end of a path leads nowhere here, and the pages that the
framework adds on its own are left out. -/
def handle (settings : Settings) (request : Request) : Except Failure Answer :=
  match Endpoint.ofPath? request.path with
  | none => .error (.refused .notFound)
  | some endpoint =>
      if request.method = endpoint.method then endpoint.handle settings request.body
      else .error (.refused .methodNotAllowed)

/-- What is written to the log of the service. -/
def logText (request : Request) (result : Except Failure Answer) : Text :=
  let log :=
    match result with
    | .ok answer => answer.log
    | .error failure => failure.log
  let shown := (standInsFor request.body).shown
  log.flatMap fun notice => "[app] ".toList ++ shown notice ++ ['\n']

end DiagramRepair.Service
