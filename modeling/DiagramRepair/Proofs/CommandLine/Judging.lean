import DiagramRepair.Proofs.CommandLine.Steps
import DiagramRepair.Proofs.Verdict.Resolution

/-! What a run judges, said without its steps: which text it reads, which diagram that text points
to, and what the result is. A diagram that is not accepted has no result, so a run with a result
ends with the exit code zero unless it is one on a document.
-/

namespace DiagramRepair.CommandLine

open Encoding (Bytes)

variable {options : Options} {around : Surroundings} {tree : FileTree} {text diagram : Text}
  {verdict : Verdict} {finding : Finding}

-----------------------------------------------------------------------------------------
-- Which text is read
-----------------------------------------------------------------------------------------

/-- The text that options have a run read: of the input file, else the code on the command line,
else of the standard input. -/
inductive Options.Reads (options : Options) (around : Surroundings) (tree : FileTree) : Text → Prop
  | file {name : Text} {route : Route} {bytes : Bytes} {text : Text}
      (given : options.input = some name)
      (leads : (Path.ofText name).route around.standIns = .ok route)
      (found : tree.readBytes route = .ok bytes)
      (decoded : decodeInput bytes = .ok text)
      : Reads options around tree text
  | code {text : Text} (noFile : options.input = none) (given : options.code = some text)
      : Reads options around tree text
  | input {text : Text} (noFile : options.input = none) (noCode : options.code = none)
      (read : around.input = .ok text)
      : Reads options around tree text

theorem map_some_eq_ok_iff {found : Except RunError Text}
    : found.map some = .ok (some text) ↔ found = .ok text := by
  cases found with
  | error reason => simp [Except.map]
  | ok other => simp [Except.map]

theorem mapError_eq_ok_iff {found : Except FileError Text}
    : found.mapError RunError.file = .ok text ↔ found = .ok text := by
  cases found with
  | error reason => simp [Except.mapError]
  | ok other => simp [Except.mapError]

/-- What can be read is there. -/
theorem isThere_of_readBytes {route : Route} {bytes : Bytes} (h : tree.readBytes route = .ok bytes)
    : tree.isThere (.ok route) = .ok true := by
  obtain ⟨location, hlocate, h⟩ := FileTree.bind_eq_ok_iff.1 h
  split at h
  · contradiction
  · rename_i entry hentry
    have hleads : tree.entry route = .ok entry := by
      refine FileTree.bind_eq_ok_iff.2 ⟨location, hlocate, ?_⟩
      rw [hentry]
      rfl
    have hfind : tree.find? (.ok route) = .ok (some entry) := by
      rw [FileTree.find?, show Except.bind (.ok route) tree.entry = .ok entry from hleads]
    rw [FileTree.isThere, hfind]
    rfl

theorem fileText?_eq_ok_some_iff {path : Path}
    : Steps.fileText? path around tree = .ok (some text)
      ↔ ∃ route bytes,
          path.route around.standIns = .ok route
          ∧ tree.readBytes route = .ok bytes
          ∧ decodeInput bytes = .ok text := by
  have hread : Steps.fileText path around tree = .ok text
      ↔ ∃ route bytes,
          path.route around.standIns = .ok route
          ∧ tree.readBytes route = .ok bytes
          ∧ decodeInput bytes = .ok text := by
    constructor
    · intro h
      obtain ⟨bytes, hbytes, hdecode⟩ := FileTree.bind_eq_ok_iff.1 h
      obtain ⟨route, hroute, hfound⟩ := FileTree.bind_eq_ok_iff.1 hbytes
      exact ⟨route, bytes, hroute, hfound, hdecode⟩
    · rintro ⟨route, bytes, hroute, hfound, hdecode⟩
      exact FileTree.bind_eq_ok_iff.2
        ⟨bytes, FileTree.bind_eq_ok_iff.2 ⟨route, hroute, hfound⟩, hdecode⟩
  unfold Steps.fileText?
  constructor
  · intro h
    split at h
    · contradiction
    · simp at h
    · exact hread.1 (mapError_eq_ok_iff.1 (map_some_eq_ok_iff.1 h))
  · intro h
    have hthere : tree.isThere (path.route around.standIns) = .ok true := by
      obtain ⟨route, bytes, hroute, hfound, -⟩ := h
      rw [hroute]
      exact isThere_of_readBytes hfound
    rw [hthere]
    exact map_some_eq_ok_iff.2 (mapError_eq_ok_iff.2 (hread.2 h))

theorem sourceText?_eq_ok_some_iff
    : Steps.sourceText? options around tree = .ok (some text)
      ↔ options.Reads around tree text := by
  constructor
  · intro h
    unfold Steps.sourceText? at h
    split at h
    · rename_i hfile
      obtain ⟨route, bytes, hroute, hfound, hdecode⟩ := fileText?_eq_ok_some_iff.1 h
      exact .file hfile hroute hfound hdecode
    · rename_i hfile hcode
      obtain rfl := Option.some.inj (Except.ok.inj h)
      exact .code hfile hcode
    · rename_i hfile hcode
      exact .input hfile hcode (mapError_eq_ok_iff.1 (map_some_eq_ok_iff.1 h))
  · intro h
    cases h with
    | file given leads found decoded =>
        rw [Steps.sourceText?, given]
        exact fileText?_eq_ok_some_iff.2 ⟨_, _, leads, found, decoded⟩
    | code noFile given => rw [Steps.sourceText?, noFile, given]
    | input noFile noCode read =>
        rw [Steps.sourceText?, noFile, noCode]
        exact map_some_eq_ok_iff.2 (mapError_eq_ok_iff.2 read)

/-- Options have a run read one text at most. -/
theorem Options.Reads.unique {other : Text} (h : options.Reads around tree text)
    (ho : options.Reads around tree other)
    : other = text := by
  have hread := sourceText?_eq_ok_some_iff.2 ho
  rw [sourceText?_eq_ok_some_iff.2 h] at hread
  exact (Option.some.inj (Except.ok.inj hread)).symm

-----------------------------------------------------------------------------------------
-- What is found in it
-----------------------------------------------------------------------------------------

/-- The type that an expectation with a name asks for. -/
inductive Expectation.Asks : Expectation → Option Text → Prop
  | any : Asks .any none
  | named (name : Text) : Asks (.named name) (some name)

theorem Expectation.Asks.judge?_eq {expectation : Expectation} {expected : Option Text}
    (h : expectation.Asks expected) (diagram : Text)
    : expectation.judge? diagram = some (validate expected diagram) := by
  cases h with
  | any => rfl
  | named name => rfl

/-- An expectation without a name lets no valid diagram through, as its type is a supported one. -/
theorem Expectation.asks_of_isValid {expectation : Expectation}
    (h : expectation.judge? diagram = some verdict) (hv : verdict.isValid = true)
    : ∃ expected, expectation.Asks expected ∧ verdict = validate expected diagram := by
  cases expectation with
  | any => exact ⟨none, .any, (Option.some.inj h).symm⟩
  | named name => exact ⟨some name, .named name, (Option.some.inj h).symm⟩
  | nameless =>
      rw [judge?] at h
      split at h
      · contradiction
      · rename_i hunsupported
        obtain rfl := Option.some.inj h
        obtain ⟨type, haccepts⟩ := isValid_validate_iff.1 hv
        rw [haccepts.type?] at hunsupported
        exact absurd haccepts.supported hunsupported

/-- The diagram in a text: all of it, or what is extracted from it. -/
inductive Options.Points (options : Options) (text : Text) : Text → Prop
  | whole (given : options.extract = false) : Points options text text
  | extracted {diagram : Text} (given : options.extract = true)
      (found : Markdown.extractDiagram? text = some diagram)
      : Points options text diagram

/-- A text that holds a valid diagram of the type asked for, and what that diagram resolves to. -/
inductive Options.Resolves (options : Options) (text : Text) : Text → Prop
  | valid {diagram : Text} {expected : Option Text} (points : options.Points text diagram)
      (asks : options.expected.Asks expected)
      (valid : (validate expected diagram).isValid = true)
      : Resolves options text ((validate expected diagram).resolve diagram)

/-- The result of a run: the document with its diagrams repaired, or the diagram. -/
inductive Options.Results (options : Options) (text : Text) : Text → Prop
  | document (given : options.markdown = true)
      : Results options text (Markdown.repairDocument text).text
  | diagram {resolved : Text} (given : options.markdown = false)
      (resolves : options.Resolves text resolved)
      : Results options text resolved

/-- What is found in a text. -/
inductive Options.Finds (options : Options) (text : Text) : Finding → Prop
  | document (given : options.markdown = true)
      : Finds options text (.document text (Markdown.repairDocument text))
  | nothing (given : options.markdown = false) : Finds options text .nothing
  | diagram {diagram : Text} {verdict : Verdict} (given : options.markdown = false)
      (points : options.Points text diagram)
      (judged : options.expected.judge? diagram = some verdict)
      : Finds options text (.diagram diagram verdict)

namespace Finding

theorem finds_of_inText? (h : inText? options text = some finding)
    : options.Finds text finding := by
  unfold inText? at h
  split at h
  · rename_i hmarkdown
    obtain rfl := Option.some.inj h
    exact .document hmarkdown
  · rename_i hmarkdown
    have hdiagram : options.markdown = false := by simpa using hmarkdown
    split at h
    · rename_i hextract
      split at h
      · obtain rfl := Option.some.inj h
        exact .nothing hdiagram
      · rename_i found hfound
        obtain ⟨verdict, hjudge, rfl⟩ := Option.map_eq_some_iff.1 h
        exact .diagram hdiagram (.extracted hextract hfound) hjudge
    · rename_i hextract
      obtain ⟨verdict, hjudge, rfl⟩ := Option.map_eq_some_iff.1 h
      exact .diagram hdiagram (.whole (by simpa using hextract)) hjudge

theorem inText?_of_points (hm : options.markdown = false) (hp : options.Points text diagram)
    (hj : options.expected.judge? diagram = some verdict)
    : inText? options text = some (.diagram diagram verdict) := by
  unfold inText?
  rw [if_neg (by simp [hm])]
  cases hp with
  | whole given =>
      rw [if_neg (by simp [given]), hj]
      rfl
  | extracted given found =>
      rw [if_pos given, found]
      dsimp only
      rw [hj]
      rfl

end Finding

theorem Finding.diagram_of_valid (h : verdict.isValid = true)
    : Finding.diagram diagram verdict
      = ⟨0, some (diagramJson diagram verdict), some (verdict.resolve diagram)⟩ := by
  rw [Finding.diagram, if_pos h, if_pos h]

theorem Finding.diagram_of_invalid (h : verdict.isValid = false)
    : Finding.diagram diagram verdict = ⟨1, some (diagramJson diagram verdict), none⟩ := by
  simp [Finding.diagram, h]

/-- A diagram that is not valid has no result. -/
theorem Options.Finds.result?_of_ne_zero (h : options.Finds text finding)
    (hm : options.markdown = false) (hc : finding.exitCode ≠ 0)
    : finding.result? = none := by
  cases h with
  | document given => simp [hm] at given
  | nothing given => rfl
  | @diagram diagram verdict given points judged =>
      cases hvalid : verdict.isValid with
      | true =>
          rw [Finding.diagram_of_valid hvalid] at hc
          contradiction
      | false => rw [Finding.diagram_of_invalid hvalid]

theorem Options.Finds.results {result : Text} (h : options.Finds text finding)
    (hr : finding.result? = some result)
    : options.Results text result := by
  cases h with
  | document given =>
      obtain rfl := Option.some.inj hr
      exact .document given
  | nothing given => contradiction
  | @diagram diagram verdict given points judged =>
      cases hvalid : verdict.isValid with
      | true =>
          rw [Finding.diagram_of_valid hvalid] at hr
          obtain rfl := Option.some.inj hr
          obtain ⟨expected, hasks, rfl⟩ := Expectation.asks_of_isValid judged hvalid
          exact .diagram given (.valid points hasks hvalid)
      | false =>
          rw [Finding.diagram_of_invalid hvalid] at hr
          contradiction

/-- A run that does not fail has a result. -/
theorem Options.Finds.exists_result (h : options.Finds text finding)
    (hc : finding.exitCode = 0)
    : ∃ result, finding.result? = some result := by
  cases h with
  | document given => exact ⟨_, rfl⟩
  | nothing given => contradiction
  | @diagram diagram verdict given points judged =>
      cases hvalid : verdict.isValid with
      | true => exact ⟨_, by rw [Finding.diagram_of_valid hvalid]⟩
      | false =>
          rw [Finding.diagram_of_invalid hvalid] at hc
          contradiction

theorem Options.Results.exists_finding {result : Text} (h : options.Results text result)
    : ∃ finding, Finding.inText? options text = some finding ∧ finding.result? = some result := by
  cases h with
  | document given =>
      refine ⟨.document text (Markdown.repairDocument text), ?_, rfl⟩
      rw [Finding.inText?, if_pos given]
  | diagram given resolves =>
      cases resolves with
      | @valid diagram expected points asks valid =>
          refine ⟨_, Finding.inText?_of_points given points (asks.judge?_eq diagram), ?_⟩
          rw [Finding.diagram_of_valid valid]

end DiagramRepair.CommandLine
