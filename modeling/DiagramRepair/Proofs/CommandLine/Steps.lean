import DiagramRepair.CommandLine.Run
import DiagramRepair.Proofs.Encoding.StandIn
import DiagramRepair.Proofs.Files.Disk
import DiagramRepair.Proofs.Json.Printing

/-! What the steps of a run come to. There is one lemma for each step and one for each way to put
steps together; what was printed and told before does not matter to any of them. A run is then told
by what it finds in the text to judge, and reports in words and in JSON part only where that is
handed over.
-/

namespace DiagramRepair.CommandLine

open Encoding (Bytes CodePoint RawText StandIns)

/-- How steps end: with which result, with what printed, and in which tree. -/
structure Ending (α : Type) where
  result : Except RunError α
  printed : RawText
  tree : FileTree

def Outcome.ending (outcome : Outcome) : Ending Nat :=
  ⟨outcome.exitCode, outcome.output, outcome.tree⟩

/-- The standard output takes all of the text. -/
def Surroundings.CanPrint (around : Surroundings) (text : Text) : Prop :=
  (around.standIns.raw text).all around.output.has = true

instance (around : Surroundings) (text : Text) : Decidable (around.CanPrint text) :=
  inferInstanceAs (Decidable (_ = _))

theorem Surroundings.canPrint_of_isAscii (around : Surroundings) {text : Text}
    (h : text.IsAscii)
    : around.CanPrint text := by
  rw [CanPrint, StandIns.raw_of_isAscii _ h, RawText.ofText, List.all_map, List.all_eq_true]
  exact fun c hc => around.output.ascii c (h c hc)

/-- What comes of writing a text to a file. -/
def Surroundings.write (around : Surroundings) (path : Path) (text : Text) (tree : FileTree)
    : Except FileError Unit × FileTree :=
  (Disk.writeFile around.standIns path (around.standIns.raw text).fileBytes).runOn tree

namespace Steps

variable {α β : Type} {around : Surroundings} {tree middle : FileTree}

/-- The steps end like this, whatever was printed and told before them. -/
def Ends (action : Steps α) (around : Surroundings) (tree : FileTree) (ending : Ending α) : Prop :=
  ∀ output notices, ∃ told,
    ((action.run around).run).run ⟨output, notices, tree⟩
      = (ending.result, ⟨output ++ ending.printed, told, ending.tree⟩)

-----------------------------------------------------------------------------------------
-- Steps one after the other
-----------------------------------------------------------------------------------------

theorem run_bind (action : Steps α) (next : α → Steps β) (console : Console)
    : (((action >>= next).run around).run).run console
      = match ((action.run around).run).run console with
        | (.ok found, between) => (((next found).run around).run).run between
        | (.error reason, between) => (.error reason, between) := by
  rw [ReaderT.run_bind, ExceptT.run_bind, StateT.run_bind]
  generalize ((action.run around).run).run console = made
  obtain ⟨result, between⟩ := made
  cases result <;> rfl

theorem ends_pure (found : α) : Ends (pure found) around tree ⟨.ok found, [], tree⟩ :=
  fun output notices => ⟨notices, by rw [List.append_nil]; rfl⟩

theorem ends_throw (reason : RunError)
    : Ends (throw reason : Steps α) around tree ⟨.error reason, [], tree⟩ :=
  fun output notices => ⟨notices, by rw [List.append_nil]; rfl⟩

theorem Ends.bind {action : Steps α} {next : α → Steps β} {found : α} {printed : RawText}
    {ending : Ending β} (ha : Ends action around tree ⟨.ok found, printed, middle⟩)
    (hn : Ends (next found) around middle ending)
    : Ends (action >>= next) around tree
        ⟨ending.result, printed ++ ending.printed, ending.tree⟩ := by
  intro output notices
  obtain ⟨told, hfirst⟩ := ha output notices
  obtain ⟨later, hlast⟩ := hn (output ++ printed) told
  refine ⟨later, ?_⟩
  rw [run_bind, hfirst, ← List.append_assoc]
  exact hlast

/-- Steps behind ones that print nothing end as they do on their own. -/
theorem Ends.after {action : Steps α} {next : α → Steps β} {found : α} {ending : Ending β}
    (ha : Ends action around tree ⟨.ok found, [], middle⟩)
    (hn : Ends (next found) around middle ending)
    : Ends (action >>= next) around tree ending :=
  ha.bind hn

/-- Steps that print nothing add nothing to what is printed before them. -/
theorem Ends.before {action : Steps α} {next : α → Steps β} {found : α} {printed : RawText}
    {result : Except RunError β} {left : FileTree}
    (ha : Ends action around tree ⟨.ok found, printed, middle⟩)
    (hn : Ends (next found) around middle ⟨result, [], left⟩)
    : Ends (action >>= next) around tree ⟨result, printed, left⟩ := by
  have hends := ha.bind hn
  rwa [List.append_nil] at hends

theorem Ends.bind_error {action : Steps α} {reason : RunError} {printed : RawText}
    (ha : Ends action around tree ⟨.error reason, printed, middle⟩) (next : α → Steps β)
    : Ends (action >>= next) around tree ⟨.error reason, printed, middle⟩ := by
  intro output notices
  obtain ⟨told, hfirst⟩ := ha output notices
  refine ⟨told, ?_⟩
  rw [run_bind, hfirst]

/-- A run from an empty console is as its steps end. -/
theorem Ends.ending_outcomeOf {action : Steps Nat} {ending : Ending Nat}
    (h : Ends action around tree ending)
    : (outcomeOf action around tree).ending = ending := by
  obtain ⟨told, hrun⟩ := h [] []
  rw [outcomeOf, hrun]
  rfl

-----------------------------------------------------------------------------------------
-- Single steps
-----------------------------------------------------------------------------------------

theorem ends_ofExcept (found : Except FileError α)
    : Ends (ofExcept found) around tree ⟨found.mapError .file, [], tree⟩ := by
  cases found with
  | error reason => exact ends_throw (.file reason)
  | ok found => exact ends_pure found

theorem ends_read : Ends (read : Steps Surroundings) around tree ⟨.ok around, [], tree⟩ :=
  fun output notices => ⟨notices, by rw [List.append_nil]; rfl⟩

theorem ends_look (find : StandIns → FileTree → Except FileError α)
    : Ends (look find) around tree ⟨(find around.standIns tree).mapError .file, [], tree⟩ :=
  fun output notices => ends_ofExcept (find around.standIns tree) output notices

theorem ends_onDisk (action : StandIns → Disk α)
    : Ends (onDisk action) around tree
        ⟨((action around.standIns).runOn tree).1.mapError .file, [],
          ((action around.standIns).runOn tree).2⟩ :=
  fun output notices => ends_ofExcept _ output notices

theorem ends_warn (text : Text)
    : Ends (Shell.warn text) around tree ⟨.ok (), [], tree⟩ :=
  fun output _ => ⟨_, by rw [List.append_nil]; rfl⟩

theorem ends_tell (line : Text) : Ends (tell line) around tree ⟨.ok (), [], tree⟩ :=
  ends_warn (line ++ ['\n'])

theorem ends_forM_tell (lines : List α) (write : α → Text)
    : Ends (lines.forM fun entry => tell (write entry)) around tree ⟨.ok (), [], tree⟩ := by
  induction lines with
  | nil => exact ends_pure ()
  | cons first rest ih => exact (ends_tell (write first)).after ih

theorem ends_print {text : Text} (h : around.CanPrint text)
    : Ends (Shell.print text) around tree ⟨.ok (), around.standIns.raw text, tree⟩ := by
  rw [Surroundings.CanPrint] at h
  change Ends (print text) around tree _
  unfold print
  refine ends_read.after ?_
  dsimp only
  rw [if_pos h]
  exact fun output notices => ⟨notices, rfl⟩

theorem ends_print_error {text : Text} (h : ¬around.CanPrint text)
    : Ends (Shell.print text) around tree ⟨.error .unprintable, [], tree⟩ := by
  rw [Surroundings.CanPrint] at h
  change Ends (print text) around tree _
  unfold print
  refine ends_read.after ?_
  dsimp only
  rw [if_neg h]
  exact ends_throw .unprintable

theorem ends_printJson (codeOf : Char → Nat) (value : Json)
    : Ends (printJson codeOf value) around tree
        ⟨.ok (), around.standIns.raw (Json.pretty codeOf value ++ ['\n']), tree⟩ :=
  ends_print <| around.canPrint_of_isAscii <|
    Text.isAscii_append_iff.2 ⟨Json.isAscii_pretty codeOf value, Text.isAscii_of_all (by decide)⟩

theorem ends_record (options : Options) (log : List Text)
    : Ends (record options log) around tree ⟨.ok (), [], tree⟩ := by
  unfold record
  split
  · exact ends_forM_tell log logNotice
  · exact ends_pure ()

/-- Writing ends as it does on the disk, as telling of it cannot fail. -/
theorem ends_writeTo (path : Path) (text : Text) (code : Nat)
    : Ends (writeTo path text >>= fun _ => pure code) around tree
        (let (written, left) := around.write path text tree
         ⟨(written.mapError .file).map fun _ => code, [], left⟩) := by
  have hwrite
      : Ends (Shell.writeFile path text) around tree
          ⟨(around.write path text tree).1.mapError .file, [],
            (around.write path text tree).2⟩ :=
    ends_onDisk fun standIns => Disk.writeFile standIns path (standIns.raw text).fileBytes
  generalize around.write path text tree = made at hwrite ⊢
  obtain ⟨written, left⟩ := made
  cases written with
  | error reason => exact (hwrite.bind_error _).bind_error _
  | ok done => exact (hwrite.after (ends_tell (writtenNotice path))).after (ends_pure code)

end Steps

-----------------------------------------------------------------------------------------
-- What is found
-----------------------------------------------------------------------------------------

/-- What a run finds in a text: how it will end, its report in JSON, and its result. -/
structure Finding where
  exitCode : Nat
  json? : Option Json
  result? : Option Text

namespace Finding

/-- There is no diagram in the text. -/
def nothing : Finding :=
  ⟨2, none, none⟩

def document (text : Text) (repaired : Markdown.RepairedDocument) : Finding :=
  ⟨if (invalidBlocks repaired).isEmpty then 0 else 1, some (documentJson text repaired),
    some repaired.text⟩

def diagram (text : Text) (verdict : Verdict) : Finding :=
  ⟨if verdict.isValid then 0 else 1, some (diagramJson text verdict),
    if verdict.isValid then some (verdict.resolve text) else none⟩

/-- What options have a run find in a text; `none` where the expectation gets in the way. -/
def inText? (options : Options) (text : Text) : Option Finding :=
  if options.markdown then some (document text (Markdown.repairDocument text))
  else if options.extract then
    match Markdown.extractDiagram? text with
    | none => some nothing
    | some found => (options.expected.judge? found).map (diagram found)
  else (options.expected.judge? text).map (diagram text)

section

variable (finding : Finding) (codeOf : Char → Nat) (options : Options) (around : Surroundings)
  (tree : FileTree)

/-- What a report prints. -/
def reported : RawText :=
  match options.json, finding.json? with
  | true, some value => around.standIns.raw (Json.pretty codeOf value ++ ['\n'])
  | _, _ => []

/-- How a run ends that has found this. Its result goes to the output that is asked for, or it is
printed unless there is a report in JSON. -/
def deliver : Ending Nat :=
  match finding.result?, options.output with
  | none, _ => ⟨.ok finding.exitCode, finding.reported codeOf options around, tree⟩
  | some text, some name =>
      let (written, left) := around.write (Path.ofText name) text tree
      ⟨(written.mapError .file).map fun _ => finding.exitCode,
        finding.reported codeOf options around, left⟩
  | some text, none =>
      if options.json then
        ⟨.ok finding.exitCode, finding.reported codeOf options around, tree⟩
      else if around.CanPrint (endLine text) then
        ⟨.ok finding.exitCode, around.standIns.raw (endLine text), tree⟩
      else ⟨.error .unprintable, [], tree⟩

theorem deliver_nothing : nothing.deliver codeOf options around tree = ⟨.ok 2, [], tree⟩ := by
  have hreported : nothing.reported codeOf options around = [] := by
    rw [reported]
    cases options.json <;> rfl
  rw [deliver, hreported]
  rfl

end

end Finding

namespace Steps

section

variable {around : Surroundings} {tree : FileTree} {codeOf : Char → Nat} {options : Options}

/-- The result of a run with a report in words. -/
theorem ends_handOver (hj : options.json = false) (code : Nat) (json : Json) (text : Text)
    : Ends (handOver text options.output >>= fun _ => pure code) around tree
        ((Finding.mk code (some json) (some text)).deliver codeOf options around tree) := by
  rw [Finding.deliver, Finding.reported, hj]
  cases options.output with
  | some name => exact ends_writeTo (Path.ofText name) text code
  | none =>
      dsimp only
      rw [if_neg Bool.false_ne_true]
      split
      · rename_i hprint
        exact (ends_print hprint).before (ends_pure code)
      · rename_i hprint
        exact (ends_print_error hprint).bind_error _

/-- The result of a run with a report in JSON. -/
theorem ends_printJson_handOverToFile (hj : options.json = true) (code : Nat) (json : Json)
    (text : Text)
    : Ends
        (printJson codeOf json >>= fun _ =>
          handOverToFile text options.output >>= fun _ => pure code)
        around tree
        ((Finding.mk code (some json) (some text)).deliver codeOf options around tree) := by
  rw [Finding.deliver, Finding.reported, hj]
  cases options.output with
  | some name =>
      exact (ends_printJson codeOf json).before (ends_writeTo (Path.ofText name) text code)
  | none => exact (ends_printJson codeOf json).before (ends_pure code)

theorem ends_runOnDocument (text : Text)
    : Ends (runOnDocument codeOf options text) around tree
        ((Finding.document text (Markdown.repairDocument text)).deliver codeOf options around
          tree) := by
  refine (ends_record options _).after ?_
  cases hjson : options.json with
  | true =>
      rw [if_pos rfl]
      exact ends_printJson_handOverToFile hjson _ _ _
  | false =>
      rw [if_neg Bool.false_ne_true]
      exact (ends_forM_tell _ blockNotice).after ((ends_tell _).after (ends_handOver hjson _ _ _))

/-- By cases on the verdict, in JSON and in words. -/
theorem ends_report (text : Text) (verdict : Verdict)
    : Ends
        (record options verdict.log >>= fun _ =>
          if options.json then diagramInJson codeOf options text verdict
          else diagramInWords options text verdict)
        around tree ((Finding.diagram text verdict).deliver codeOf options around tree) := by
  refine (ends_record options _).after ?_
  cases hjson : options.json with
  | true =>
      rw [if_pos rfl]
      cases verdict with
      | rejected reason =>
          rw [Finding.deliver, Finding.reported, hjson]
          exact (ends_printJson codeOf _).before (ends_pure 1)
      | accepted acceptance => exact ends_printJson_handOverToFile hjson _ _ _
  | false =>
      rw [if_neg Bool.false_ne_true]
      cases verdict with
      | rejected reason =>
          rw [Finding.deliver, Finding.reported, hjson]
          exact (ends_tell _).after ((ends_forM_tell _ hintNotice).after (ends_pure 1))
      | accepted acceptance =>
          exact (ends_forM_tell _ warningNotice).after
            ((ends_tell _).after (ends_handOver hjson _ _ _))

/-- How a run ends once its text is read. -/
def judged (codeOf : Char → Nat) (options : Options) (around : Surroundings) (tree : FileTree)
    (text : Text)
    : Ending Nat :=
  match Finding.inText? options text with
  | some finding => finding.deliver codeOf options around tree
  | none => ⟨.error .namelessExpectation, [], tree⟩

theorem ends_runOnDiagram (text : Text)
    : Ends (runOnDiagram codeOf options text) around tree
        (match (options.expected.judge? text).map (Finding.diagram text) with
          | some finding => finding.deliver codeOf options around tree
          | none => ⟨.error .namelessExpectation, [], tree⟩) := by
  unfold runOnDiagram
  cases options.expected.judge? text with
  | none => exact ends_throw .namelessExpectation
  | some verdict => exact ends_report text verdict

theorem ends_judge (text : Text)
    : Ends (judge codeOf options text) around tree (judged codeOf options around tree text) := by
  unfold judge judged Finding.inText?
  split
  · exact ends_runOnDocument text
  · split
    · cases Markdown.extractDiagram? text with
      | none =>
          dsimp only
          rw [Finding.deliver_nothing]
          exact (ends_tell _).after (ends_pure 2)
      | some found => exact ends_runOnDiagram found
    · exact ends_runOnDiagram text

-----------------------------------------------------------------------------------------
-- Runs
-----------------------------------------------------------------------------------------

/-- The text of an input file. -/
def fileText (path : Path) (around : Surroundings) (tree : FileTree) : Except FileError Text := do
  decodeInput (← (path.route around.standIns).bind tree.readBytes)

/-- The text of an input file, unless nothing is there. -/
def fileText? (path : Path) (around : Surroundings) (tree : FileTree)
    : Except RunError (Option Text) :=
  match tree.isThere (path.route around.standIns) with
  | .error reason => .error (.file reason)
  | .ok false => .ok none
  | .ok true => ((fileText path around tree).mapError .file).map some

/-- The text to judge, unless its file is missing. -/
def sourceText? (options : Options) (around : Surroundings) (tree : FileTree)
    : Except RunError (Option Text) :=
  match options.input, options.code with
  | some name, _ => fileText? (Path.ofText name) around tree
  | none, some code => .ok (some code)
  | none, none => (around.input.mapError .file).map some

theorem Ends.map_some {action : Steps Text} {found : Except RunError Text}
    (h : Ends action around tree ⟨found, [], tree⟩)
    : Ends (do return some (← action)) around tree ⟨found.map some, [], tree⟩ := by
  cases found with
  | error reason => exact h.bind_error _
  | ok text => exact h.after (ends_pure (some text))

theorem ends_readFileIfThere (path : Path)
    : Ends (readFileIfThere path) around tree ⟨fileText? path around tree, [], tree⟩ := by
  have hthere
      : Ends (Shell.isThere path) around tree
          ⟨(tree.isThere (path.route around.standIns)).mapError .file, [], tree⟩ :=
    ends_look fun standIns tree => tree.isThere (path.route standIns)
  unfold readFileIfThere fileText?
  cases hfound : tree.isThere (path.route around.standIns) with
  | error reason =>
      rw [hfound] at hthere
      exact hthere.bind_error _
  | ok found =>
      rw [hfound] at hthere
      refine hthere.after ?_
      cases found with
      | false => exact (ends_tell _).after (ends_pure none)
      | true => exact Ends.map_some (ends_look _)

theorem ends_source
    : Ends (source options) around tree ⟨sourceText? options around tree, [], tree⟩ := by
  unfold source sourceText?
  cases options.input with
  | some name => exact ends_readFileIfThere (Path.ofText name)
  | none =>
      cases options.code with
      | some code => exact ends_pure (some code)
      | none => exact Ends.map_some (ends_read.after (ends_ofExcept around.input))

/-- How a run with given options ends. -/
def performed (codeOf : Char → Nat) (options : Options) (around : Surroundings) (tree : FileTree)
    : Ending Nat :=
  match sourceText? options around tree with
  | .error reason => ⟨.error reason, [], tree⟩
  | .ok none => ⟨.ok 2, [], tree⟩
  | .ok (some text) => judged codeOf options around tree text

theorem ends_performWith
    : Ends (performWith codeOf options) around tree (performed codeOf options around tree) := by
  have hsource : Ends (source options) around tree ⟨sourceText? options around tree, [], tree⟩ :=
    ends_source
  unfold performWith performed
  cases hread : sourceText? options around tree with
  | error reason =>
      rw [hread] at hsource
      exact hsource.bind_error _
  | ok found =>
      rw [hread] at hsource
      refine hsource.after ?_
      cases found with
      | none => exact ends_pure 2
      | some text => exact ends_judge text

end

theorem isAscii_usage : usage.IsAscii := by
  unfold usage
  simp only [String.toList_append, Text.isAscii_append_iff]
  and_intros
  all_goals exact Text.isAscii_of_all (by decide +kernel)

theorem isAscii_help : help.IsAscii := by
  -- The text is too long to be judged as a whole.
  simp only [help, String.toList_append, Text.isAscii_append_iff]
  refine ⟨isAscii_usage, ?_⟩
  and_intros
  all_goals exact Text.isAscii_of_all (by decide +kernel)

theorem ends_printed {text : Text} (h : text.IsAscii)
    : Ends (Shell.print text >>= fun _ => pure 0) around tree
        ⟨.ok 0, around.standIns.raw text, tree⟩ :=
  (ends_print (around.canPrint_of_isAscii h)).before (ends_pure 0)

theorem ends_refused (notice : Text)
    : Ends (Shell.warn notice >>= fun _ => pure 2) around tree ⟨.ok 2, [], tree⟩ :=
  (ends_warn notice).after (ends_pure 2)

end Steps

section

variable {words : List RawText} {streams : Streams} {options : Options} (tree : FileTree)

/-- A run on words that ask for one ends as a run with the options that they come to. -/
theorem ending_run
    (h : Options.ofTexts (words.map (standInsFor words streams).text) = .ok options)
    : (run words streams tree).ending
      = Steps.performed (standInsFor words streams).codeOf options
          (surroundings (standInsFor words streams) streams) tree := by
  rw [run, perform, h]
  exact Steps.ends_performWith.ending_outcomeOf

theorem ending_run_of_help
    (h : Options.ofTexts (words.map (standInsFor words streams).text) = .error .help)
    : (run words streams tree).ending
      = ⟨.ok 0, (surroundings (standInsFor words streams) streams).standIns.raw help, tree⟩ := by
  simp only [run, perform, h]
  exact (Steps.ends_printed Steps.isAscii_help).ending_outcomeOf

theorem ending_run_of_refused {reason : UsageError}
    (h : Options.ofTexts (words.map (standInsFor words streams).text) = .error (.refused reason))
    : (run words streams tree).ending = ⟨.ok 2, [], tree⟩ := by
  simp only [run, perform, h]
  exact (Steps.ends_refused _).ending_outcomeOf

end

end DiagramRepair.CommandLine
