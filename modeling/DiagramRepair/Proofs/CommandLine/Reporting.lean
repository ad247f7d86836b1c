import DiagramRepair.Proofs.CommandLine.Judging

/-! What the flags for reports change about a run. They decide what is printed and told, and neither
what is found nor the options for anything else depend on them. So the same files are left, and with
the flag for a log nothing else is another one, either. A report in JSON is in ASCII, which can
always be printed; a result in words may hold what the standard output cannot take, and exactly then
the run in words is broken off where the one in JSON has an exit code.
-/

namespace DiagramRepair.CommandLine

open Encoding (CodePoint RawText StandIns)

variable {options : Options} {codeOf : Char → Nat} {around : Surroundings} {tree : FileTree}
  {finding : Finding}

-----------------------------------------------------------------------------------------
-- Runs
-----------------------------------------------------------------------------------------

/-- The result has to be printed, and the standard output cannot take it. -/
def Finding.CannotPrint (finding : Finding) (options : Options) (around : Surroundings) : Prop :=
  options.output = none
  ∧ ∃ result, finding.result? = some result ∧ ¬around.CanPrint (endLine result)

/-- A run in words has to print a result that the standard output cannot take. -/
def Options.CannotPrint (options : Options) (around : Surroundings) (tree : FileTree) : Prop :=
  options.output = none
  ∧ ∃ text result,
      options.Reads around tree text
      ∧ options.Results text result
      ∧ ¬around.CanPrint (endLine result)

/-- How a run with a report in JSON and one in words end: they leave the same files, and they have
the same exit code or break off for the same reason unless the one in words cannot print. -/
structure PartsAt (cannotPrint : Prop) (json words : Ending Nat) : Prop where
  tree : json.tree = words.tree
  result_iff : json.result = words.result ↔ ¬cannotPrint
  brokenOff
    : cannotPrint → words.result = .error .unprintable ∧ ∃ code, json.result = .ok code

theorem PartsAt.of_same {cannotPrint : Prop} {json words : Ending Nat} (hc : ¬cannotPrint)
    (hr : json.result = words.result) (ht : json.tree = words.tree)
    : PartsAt cannotPrint json words :=
  ⟨ht, iff_of_true hr hc, fun h => absurd h hc⟩

/-- By cases on the result and on where it goes. -/
theorem Finding.partsAt_deliver (finding : Finding) (codeOf : Char → Nat) (options : Options)
    (around : Surroundings) (tree : FileTree)
    : PartsAt (finding.CannotPrint options around)
        (finding.deliver codeOf { options with json := true } around tree)
        (finding.deliver codeOf { options with json := false } around tree) := by
  unfold deliver
  dsimp only
  cases hresult : finding.result? with
  | none =>
      refine .of_same ?_ rfl rfl
      rintro ⟨-, result, hsome, -⟩
      rw [hresult] at hsome
      contradiction
  | some result =>
      cases houtput : options.output with
      | some name =>
          refine .of_same ?_ rfl rfl
          rintro ⟨hnone, -⟩
          rw [houtput] at hnone
          contradiction
      | none =>
          dsimp only
          rw [if_pos rfl, if_neg Bool.false_ne_true]
          by_cases hprint : around.CanPrint (endLine result)
          · rw [if_pos hprint]
            refine .of_same ?_ rfl rfl
            rintro ⟨-, other, hsome, hcannot⟩
            rw [hresult] at hsome
            obtain rfl := Option.some.inj hsome
            exact hcannot hprint
          · rw [if_neg hprint]
            have hcannot : finding.CannotPrint options around :=
              ⟨houtput, result, hresult, hprint⟩
            exact ⟨rfl, iff_of_false (by simp) (not_not_intro hcannot), fun _ => ⟨rfl, _, rfl⟩⟩

theorem cannotPrint_iff {text : Text} (hr : options.Reads around tree text)
    (hf : Finding.inText? options text = some finding)
    : options.CannotPrint around tree ↔ finding.CannotPrint options around := by
  constructor
  · rintro ⟨houtput, other, result, hreads, hresults, hcannot⟩
    obtain rfl := hr.unique hreads
    obtain ⟨found, hfound, hresult⟩ := hresults.exists_finding
    obtain rfl := Option.some.inj (hf.symm.trans hfound)
    exact ⟨houtput, result, hresult, hcannot⟩
  · rintro ⟨houtput, result, hresult, hcannot⟩
    exact ⟨houtput, text, result, hr, (Finding.finds_of_inText? hf).results hresult, hcannot⟩

/-- What is found in a text does not depend on the flags for reports. -/
theorem partsAt_judged {text : Text} (hr : options.Reads around tree text)
    : PartsAt (options.CannotPrint around tree)
        (Steps.judged codeOf { options with json := true } around tree text)
        (Steps.judged codeOf { options with json := false } around tree text) := by
  have hfinding : ∀ json,
      Finding.inText? { options with json } text = Finding.inText? options text :=
    fun _ => rfl
  unfold Steps.judged
  rw [hfinding true, hfinding false]
  cases hfound : Finding.inText? options text with
  | none =>
      refine .of_same ?_ rfl rfl
      rintro ⟨-, other, result, hother, hresults, -⟩
      obtain rfl := hr.unique hother
      obtain ⟨finding, hfinding, -⟩ := hresults.exists_finding
      rw [hfound] at hfinding
      contradiction
  | some finding =>
      have hparts := finding.partsAt_deliver codeOf options around tree
      rwa [← propext (cannotPrint_iff hr hfound)] at hparts

/-- Which text is read does not depend on these flags, either, so two runs that differ in them part
at what was found, if at all. -/
theorem partsAt_performed (codeOf : Char → Nat) (options : Options) (around : Surroundings)
    (tree : FileTree)
    : PartsAt (options.CannotPrint around tree)
        (Steps.performed codeOf { options with json := true } around tree)
        (Steps.performed codeOf { options with json := false } around tree) := by
  have hsource : ∀ json,
      Steps.sourceText? { options with json } around tree
        = Steps.sourceText? options around tree :=
    fun _ => rfl
  have hunread (h : ∀ text, Steps.sourceText? options around tree ≠ .ok (some text))
      : ¬options.CannotPrint around tree := by
    rintro ⟨-, text, -, hreads, -⟩
    exact h text (sourceText?_eq_ok_some_iff.2 hreads)
  unfold Steps.performed
  rw [hsource true, hsource false]
  cases hread : Steps.sourceText? options around tree with
  | error reason => exact .of_same (hunread (by simp [hread])) rfl rfl
  | ok found =>
      cases found with
      | none => exact .of_same (hunread (by simp [hread])) rfl rfl
      | some text => exact partsAt_judged (sourceText?_eq_ok_some_iff.1 hread)

/-- A run with given options. -/
def runWith (standIns : StandIns) (options : Options) (streams : Streams) (tree : FileTree)
    : Outcome :=
  outcomeOf (performWith standIns.codeOf options) (surroundings standIns streams) tree

theorem ending_runWith (standIns : StandIns) (options : Options) (streams : Streams)
    (tree : FileTree)
    : (runWith standIns options streams tree).ending
      = Steps.performed standIns.codeOf options (surroundings standIns streams) tree :=
  Steps.ends_performWith.ending_outcomeOf

-----------------------------------------------------------------------------------------
-- Words
-----------------------------------------------------------------------------------------

namespace Options

variable {json verbose : Bool}

/-- The options with these flags for reports, too. -/
def reporting (json verbose : Bool) (options : Options) : Options :=
  { options with json := json || options.json, verbose := verbose || options.verbose }

theorem raise_reporting (options : Options) (flag : Flag)
    : (options.reporting json verbose).raise flag
      = (options.raise flag).map (reporting json verbose) := by
  cases flag with
  | help => rfl
  | json => simp [raise, reporting, Except.map]
  | markdown => rfl
  | extract => rfl
  | verbose => simp [raise, reporting, Except.map]

theorem assign_reporting (options : Options) (parameter : Parameter) (value : Text)
    : (options.reporting json verbose).assign parameter value
      = (options.assign parameter value).map (reporting json verbose) := by
  cases parameter with
  | input => rfl
  | code => rfl
  | output => rfl
  | expect =>
      simp only [assign]
      split
      · rfl
      · split
        · rfl
        · rfl

theorem foldlM_raise_reporting (options : Options) (flags : List Flag)
    : flags.foldlM raise (options.reporting json verbose)
      = (flags.foldlM raise options).map (reporting json verbose) := by
  induction flags generalizing options with
  | nil => rfl
  | cons flag flags ih =>
      rw [List.foldlM_cons, List.foldlM_cons, raise_reporting]
      cases options.raise flag with
      | error stop => rfl
      | ok raised => exact ih raised

theorem map_bind_of_forall {change : Options → Options} {next : Options → Except Stop Options}
    (h : ∀ options, next (change options) = (next options).map change)
    (found : Except Stop Options)
    : (found.map change).bind next = (found.bind next).map change := by
  cases found with
  | error stop => rfl
  | ok options => exact h options

/-- Flags for reports that are raised before the words act are as good as ones that are raised after
that, by induction on the words. -/
theorem collect_reporting (options : Options) (unrecognized : List Text) (words : List Word)
    : (options.reporting json verbose).collect unrecognized words
      = (options.collect unrecognized words).map (reporting json verbose) := by
  induction options, unrecognized, words using collect.induct with
  | case1 options unrecognized hempty =>
      rw [collect, collect, if_pos hempty, if_pos hempty]
      rfl
  | case2 options unrecognized hrest =>
      rw [collect, collect, if_neg hrest, if_neg hrest]
      rfl
  | case3 options unrecognized word rest reason hword =>
      rw [collect, collect, hword]
      rfl
  | case4 options unrecognized word cluster hword more rest hparameter ih =>
      simp only [collect, hword, hparameter, foldlM_raise_reporting]
      exact map_bind_of_forall ih _
  | case5 options unrecognized word cluster hword more parameter value rest hparameter ih =>
      simp only [collect, hword, hparameter, foldlM_raise_reporting]
      refine map_bind_of_forall (fun options => ?_) _
      rw [assign_reporting]
      exact map_bind_of_forall ih _
  | case6 options unrecognized word cluster hword more parameter value rest hparameter ih =>
      simp only [collect, hword, hparameter, foldlM_raise_reporting]
      refine map_bind_of_forall (fun options => ?_) _
      rw [assign_reporting]
      exact map_bind_of_forall ih _
  | case7 options unrecognized word rest cluster hword parameter hparameter hplain =>
      -- The parameter lacks a value, whatever stands behind it.
      cases rest with
      | nil =>
          simp only [collect, hword, hparameter]
          rfl
      | cons next rest =>
          cases next with
          | plain value => exact (hplain value rest rfl).elim
          | long switch value =>
              simp only [collect, hword, hparameter]
              rfl
          | short switch value =>
              simp only [collect, hword, hparameter]
              rfl
          | unknown text =>
              simp only [collect, hword, hparameter]
              rfl

end Options

/-- A word that raises this flag and does nothing else. -/
def Spells (word : Text) (flag : Flag) : Prop :=
  ∃ read, Word.ofText word = .ok read ∧ Cluster.ofWord read = .ok ⟨[flag], none, []⟩

example : Spells "--json".toList .json ∧ Spells "-v".toList .verbose :=
  ⟨⟨_, rfl, rfl⟩, ⟨_, rfl, rfl⟩⟩

-----------------------------------------------------------------------------------------
-- Spellings
-----------------------------------------------------------------------------------------

/-- Letters that name switches are raised or take a value, so none of them is without effect. -/
theorem Cluster.flags_of_ofLetters {switch : Switch} {letters : Text} {cluster : Cluster}
    (h : ofLetters switch letters = .ok cluster)
    : cluster.flags ≠ [] ∨ cluster.parameter ≠ none := by
  unfold ofLetters at h
  split at h
  · obtain rfl := Except.ok.inj h
    exact Or.inr (by simp)
  · obtain rfl := Except.ok.inj h
    exact Or.inr (by simp)
  · obtain rfl := Except.ok.inj h
    exact Or.inl (by simp)
  · split at h
    · contradiction
    · rename_i flag letter rest _ next hnext
      cases hrest : ofLetters next rest with
      | error reason =>
          rw [hrest] at h
          contradiction
      | ok found =>
          rw [hrest] at h
          obtain rfl := Except.ok.inj h
          exact Or.inl (by simp)

/-- More than one letter behind a dash does more than raise one flag. -/
theorem Cluster.ofLetters_cons_ne {raised flag : Flag} {letter : Char} {rest : Text}
    : ofLetters (.flag raised) (letter :: rest) ≠ .ok ⟨[flag], none, []⟩ := by
  intro h
  rw [ofLetters] at h
  split at h
  · contradiction
  · rename_i next hnext
    cases hrest : ofLetters next rest with
    | error reason =>
        rw [hrest] at h
        contradiction
    | ok found =>
        rw [hrest] at h
        obtain ⟨hflags, hparameter, -⟩ := Cluster.mk.inj (Except.ok.inj h)
        have hnone : found.flags = [] := (List.cons.inj hflags).2
        rcases flags_of_ofLetters hrest with hflag | hvalue
        · exact hflag hnone
        · exact hvalue hparameter

theorem Cluster.ofWord_short_attached_ne {switch : Switch} {letter : Char} {rest : Text}
    {flag : Flag}
    : ofWord (.short switch (Word.attached? (letter :: rest))) ≠ .ok ⟨[flag], none, []⟩ := by
  cases switch with
  | parameter parameter => simp [ofWord]
  | flag raised =>
      unfold Word.attached?
      split
      · contradiction
      · rename_i value _
        cases value with
        | nil => simp [ofWord]
        | cons first others => exact ofLetters_cons_ne
      · exact ofLetters_cons_ne

theorem Switch.isAscii_longName (switch : Switch) : switch.longName.IsAscii := by
  rcases switch with flag | parameter
  · cases flag <;> exact Text.isAscii_of_all (by decide)
  · cases parameter <;> exact Text.isAscii_of_all (by decide)

theorem Switch.lt_of_ofLetter? {switch : Switch} {letter : Char}
    (h : ofLetter? letter = some switch)
    : letter.toNat < 0x80 := by
  have hletters : (all.all fun switch => switch.letter?.all (·.toNat < 0x80)) = true := by decide
  have hletter : switch.letter? = some letter := by simpa using List.find?_some h
  have hascii := List.all_eq_true.1 hletters switch (List.mem_of_find?_eq_some h)
  simpa [hletter] using hascii

theorem Cluster.ofWord_unmatched_ne {text : Text} {flag : Flag}
    : ofWord (Word.unmatched text) ≠ .ok ⟨[flag], none, []⟩ := by
  unfold Word.unmatched
  split
  · simp [ofWord]
  · simp [ofWord]

/-- A word that starts with two dashes spells a flag as the front of its name. -/
theorem isAscii_of_ofLong {word : Text} {read : Word} {flag : Flag}
    (hw : Word.ofLong word = .ok read) (hc : Cluster.ofWord read = .ok ⟨[flag], none, []⟩)
    : word.IsAscii := by
  unfold Word.ofLong at hw
  cases hcut : Text.cutAt? '=' word with
  | some sides =>
      obtain ⟨name, value⟩ := sides
      rw [hcut] at hw
      dsimp only at hw
      split at hw
      · obtain rfl := Except.ok.inj hw
        exact absurd hc Cluster.ofWord_unmatched_ne
      · rename_i switch _
        obtain rfl := Except.ok.inj hw
        cases switch with
        | flag raised => simp [Cluster.ofWord] at hc
        | parameter parameter => simp [Cluster.ofWord] at hc
      · contradiction
  | none =>
      rw [hcut] at hw
      dsimp only at hw
      split at hw
      · obtain rfl := Except.ok.inj hw
        exact absurd hc Cluster.ofWord_unmatched_ne
      · rename_i switch hswitch
        have hmem : switch ∈ Switch.startingWith word := by simp [hswitch]
        have hlead := (List.mem_filter.1 hmem).2
        obtain ⟨rest, hrest⟩ := Option.isSome_iff_exists.1 hlead
        have hname := Switch.isAscii_longName switch
        rw [Text.afterLead?_eq_some_iff.1 hrest, Text.isAscii_append_iff] at hname
        exact hname.1
      · contradiction

theorem Spells.isAscii {word : Text} {flag : Flag} (h : Spells word flag) : word.IsAscii := by
  obtain ⟨read, hread, hcluster⟩ := h
  unfold Word.ofText at hread
  split at hread
  · exact isAscii_of_ofLong hread hcluster
  · rename_i letter rest _
    split at hread
    · rename_i switch hletter
      obtain rfl := Except.ok.inj hread
      cases rest with
      | nil =>
          simp only [Text.isAscii_cons_iff]
          exact ⟨by decide, Switch.lt_of_ofLetter? hletter, Text.isAscii_nil⟩
      | cons first others => exact absurd hcluster Cluster.ofWord_short_attached_ne
    · obtain rfl := Except.ok.inj hread
      exact absurd hcluster Cluster.ofWord_unmatched_ne
  · obtain rfl := Except.ok.inj hread
    simp [Cluster.ofWord] at hcluster

-----------------------------------------------------------------------------------------
-- Words
-----------------------------------------------------------------------------------------

section

variable {word : Text} {flag : Flag} {words : List RawText} {streams : Streams}
  {json verbose : Bool}

/-- What stands in for halves does not depend on a word that spells a flag. -/
theorem Spells.standInsFor_cons (h : Spells word flag) (words : List RawText) (streams : Streams)
    : standInsFor (RawText.ofText word :: words) streams = standInsFor words streams := by
  have hprivate : ∀ c ∈ word, Encoding.isPrivate c = false :=
    fun c hc => StandIns.not_isPrivate_of_lt (h.isAscii c hc)
  rw [standInsFor, standInsFor, List.flatten_cons, List.append_assoc]
  exact StandIns.ofRaw_append_ofText hprivate _

/-- One more flag for reports in front of the words is one more option. -/
theorem Spells.ofTexts_cons (h : Spells word flag)
    (hr : ({} : Options).raise flag = .ok (({} : Options).reporting json verbose))
    (words : List Text)
    : Options.ofTexts (word :: words)
      = (Options.ofTexts words).map (Options.reporting json verbose) := by
  obtain ⟨read, hread, hcluster⟩ := h
  have hne : word ≠ ['-', '-'] := by
    rintro rfl
    contradiction
  rw [Options.ofTexts, Options.ofTexts, Word.ofTexts, if_neg hne, hread]
  cases Word.ofTexts words with
  | error reason => rfl
  | ok others =>
      have hcollect : ({} : Options).collect [] (read :: others)
          = (({} : Options).collect [] others).map (Options.reporting json verbose) := by
        rw [← Options.collect_reporting]
        simp only [Options.collect, hcluster, List.foldlM_cons, hr]
        rfl
      exact hcollect

theorem Spells.ofTexts_map_text (h : Spells word flag)
    (words : List RawText) (streams : Streams)
    (hr : ({} : Options).raise flag = .ok (({} : Options).reporting json verbose))
    : Options.ofTexts
        ((RawText.ofText word :: words).map
          (standInsFor (RawText.ofText word :: words) streams).text)
      = (Options.ofTexts (words.map (standInsFor words streams).text)).map
          (Options.reporting json verbose) := by
  rw [h.standInsFor_cons, List.map_cons, StandIns.text_ofText]
  exact h.ofTexts_cons hr _

/-- A command line with one more flag for reports stops like the one without it, or it leads to a
run with one more option. -/
theorem Spells.ending_run_cons (h : Spells word flag)
    (hr : ({} : Options).raise flag = .ok (({} : Options).reporting json verbose))
    (tree : FileTree)
    : (run (RawText.ofText word :: words) streams tree).ending = (run words streams tree).ending
      ∨ ∃ options,
          Options.ofTexts (words.map (standInsFor words streams).text) = .ok options
          ∧ (run (RawText.ofText word :: words) streams tree).ending
            = Steps.performed (standInsFor words streams).codeOf
                (options.reporting json verbose)
                (surroundings (standInsFor words streams) streams) tree := by
  have hwords := h.ofTexts_map_text words streams hr
  cases hrest : Options.ofTexts (words.map (standInsFor words streams).text) with
  | error stop =>
      rw [hrest] at hwords
      cases stop with
      | help =>
          have hwith := ending_run_of_help tree hwords
          rw [h.standInsFor_cons] at hwith
          exact Or.inl (hwith.trans (ending_run_of_help tree hrest).symm)
      | refused reason =>
          exact Or.inl
            ((ending_run_of_refused tree hwords).trans (ending_run_of_refused tree hrest).symm)
  | ok options =>
      rw [hrest] at hwords
      have hwith := ending_run tree hwords
      rw [h.standInsFor_cons] at hwith
      exact Or.inr ⟨options, rfl, hwith⟩

end

-----------------------------------------------------------------------------------------
-- Flags for reports
-----------------------------------------------------------------------------------------

/-- What the flags for reports change about runs on a file tree. The ending of a run is its exit
code, what it prints and the tree that it leaves. -/
structure ReportsAside (streams : Streams) (tree : FileTree) : Prop where
  json (standIns : StandIns) (options : Options)
    : PartsAt (options.CannotPrint (surroundings standIns streams) tree)
        (runWith standIns { options with json := true } streams tree).ending
        (runWith standIns { options with json := false } streams tree).ending
  verbose (standIns : StandIns) (options : Options) (verbose : Bool)
    : (runWith standIns { options with verbose } streams tree).ending
      = (runWith standIns options streams tree).ending
  /-- The flags may be spelled in any way, in front of any words. -/
  jsonWord (word : Text) (words : List RawText) (options : Options)
    : Spells word .json
      → Options.ofTexts (words.map (standInsFor words streams).text) = .ok options
      → options.json = false
      → PartsAt (options.CannotPrint (surroundings (standInsFor words streams) streams) tree)
          (run (RawText.ofText word :: words) streams tree).ending
          (run words streams tree).ending
  verboseWord (word : Text) (words : List RawText)
    : Spells word .verbose
      → (run (RawText.ofText word :: words) streams tree).ending
        = (run words streams tree).ending

end DiagramRepair.CommandLine
