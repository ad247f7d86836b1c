import DiagramRepair.Proofs.CommandLine.Judging

/-! What a run on a diagram leaves in its files. A diagram that is not accepted has no result, so
nothing is written before the exit code is known to be zero, and then one file at most, with the
diagram as it was resolved.
-/

namespace DiagramRepair.CommandLine

open Encoding (RawText StandIns)

variable {options : Options} {codeOf : Char → Nat} {around : Surroundings} {tree : FileTree}
  {finding : Finding} {code : Nat}

-----------------------------------------------------------------------------------------
-- What is handed over
-----------------------------------------------------------------------------------------

namespace Finding

theorem deliver_of_no_result (h : finding.result? = none)
    : finding.deliver codeOf options around tree
      = ⟨.ok finding.exitCode, finding.reported codeOf options around, tree⟩ := by
  rw [deliver, h]

theorem deliver_of_output {text name : Text} (hr : finding.result? = some text)
    (ho : options.output = some name)
    : finding.deliver codeOf options around tree
      = (let (written, left) := around.write (Path.ofText name) text tree
         ⟨(written.mapError .file).map fun _ => finding.exitCode,
          finding.reported codeOf options around, left⟩) := by
  rw [deliver, hr, ho]

/-- Without an output nothing is written. -/
theorem tree_deliver_of_no_output (h : options.output = none)
    : (finding.deliver codeOf options around tree).tree = tree := by
  rw [deliver, h]
  split
  · rfl
  · contradiction
  · split
    · rfl
    · split
      · rfl
      · rfl

theorem exitCode_of_deliver (h : (finding.deliver codeOf options around tree).result = .ok code)
    : finding.exitCode = code := by
  unfold deliver at h
  split at h
  · exact Except.ok.inj h
  · rename_i text name _ _
    dsimp only at h
    generalize (around.write (Path.ofText name) text tree).1 = written at h
    cases written with
    | error reason => contradiction
    | ok done => exact Except.ok.inj h
  · split at h
    · exact Except.ok.inj h
    · split at h
      · exact Except.ok.inj h
      · contradiction

/-- A result that is handed over to an output is written there to its end. -/
theorem isWritten_of_deliver {text name : Text} (hr : finding.result? = some text)
    (ho : options.output = some name)
    (h : (finding.deliver codeOf options around tree).result = .ok code)
    : ∃ route,
        (Path.ofText name).route around.standIns = .ok route
        ∧ tree.IsWritten route (Encoding.encodeUtf8 text)
          (finding.deliver codeOf options around tree).tree := by
  rw [deliver_of_output hr ho] at h ⊢
  cases hdone : around.write (Path.ofText name) text tree with
  | mk written left =>
      rw [hdone] at h
      cases written with
      | error reason => contradiction
      | ok done =>
          obtain ⟨route, bytes, hroute, hbytes, hwritten⟩ := Disk.isWritten_writeFile hdone
          obtain rfl := Disk.eq_of_fileBytes_raw hbytes
          exact ⟨route, hroute, hwritten⟩

end Finding

/-- A run comes to an exit code where there is no text to judge, or by what it finds there. -/
theorem performed_cases (h : (Steps.performed codeOf options around tree).result = .ok code)
    : Steps.performed codeOf options around tree = ⟨.ok 2, [], tree⟩
      ∨ ∃ text finding,
          options.Reads around tree text
          ∧ options.Finds text finding
          ∧ Steps.performed codeOf options around tree
            = finding.deliver codeOf options around tree := by
  unfold Steps.performed at h ⊢
  split at h
  · contradiction
  · exact Or.inl rfl
  · rename_i text hread
    unfold Steps.judged at h ⊢
    split at h
    · rename_i finding hfinding
      exact Or.inr ⟨text, finding, sourceText?_eq_ok_some_iff.1 hread,
        Finding.finds_of_inText? hfinding, rfl⟩
    · contradiction

theorem tree_performed_of_ne_zero (hm : options.markdown = false)
    (h : (Steps.performed codeOf options around tree).result = .ok code) (hc : code ≠ 0)
    : (Steps.performed codeOf options around tree).tree = tree := by
  rcases performed_cases h with hmissing | ⟨text, finding, -, hfinds, hdeliver⟩
  · rw [hmissing]
  · rw [hdeliver] at h ⊢
    rw [← Finding.exitCode_of_deliver h] at hc
    rw [Finding.deliver_of_no_result (hfinds.result?_of_ne_zero hm hc)]

theorem tree_performed_of_no_output (ho : options.output = none)
    (h : (Steps.performed codeOf options around tree).result = .ok code)
    : (Steps.performed codeOf options around tree).tree = tree := by
  rcases performed_cases h with hmissing | ⟨text, finding, -, -, hdeliver⟩
  · rw [hmissing]
  · rw [hdeliver]
    exact Finding.tree_deliver_of_no_output ho

theorem isWritten_performed {name : Text} (hm : options.markdown = false)
    (ho : options.output = some name)
    (h : (Steps.performed codeOf options around tree).result = .ok 0)
    : ∃ text resolved route,
        options.Reads around tree text
        ∧ options.Resolves text resolved
        ∧ (Path.ofText name).route around.standIns = .ok route
        ∧ tree.IsWritten route (Encoding.encodeUtf8 resolved)
          (Steps.performed codeOf options around tree).tree := by
  rcases performed_cases h with hmissing | ⟨text, finding, hreads, hfinds, hdeliver⟩
  · rw [hmissing] at h
    exact absurd (Except.ok.inj h) (by decide)
  · rw [hdeliver] at h ⊢
    obtain ⟨result, hresult⟩ := hfinds.exists_result (Finding.exitCode_of_deliver h)
    obtain ⟨route, hroute, hwritten⟩ := Finding.isWritten_of_deliver hresult ho h
    cases hfinds.results hresult with
    | document given => simp [hm] at given
    | diagram given resolves =>
        exact ⟨text, result, route, hreads, resolves, hroute, hwritten⟩

-----------------------------------------------------------------------------------------
-- Runs
-----------------------------------------------------------------------------------------

/-- What a run on the words of a command line leaves in the files of a tree. -/
structure KeepsFiles (words : List RawText) (streams : Streams) (tree : FileTree)
    (outcome : Outcome)
    : Prop where
  /-- A run that fails writes nothing. -/
  failed : outcome.exitCode = .ok 1 ∨ outcome.exitCode = .ok 2 → outcome.tree = tree
  /-- A run that does not fail writes to its output the diagram that it was asked for. -/
  written (options : Options) (name : Text)
    : Options.ofTexts (words.map (standInsFor words streams).text) = .ok options
      → options.output = some name
      → outcome.exitCode = .ok 0
      → ∃ text resolved route,
          options.Reads (surroundings (standInsFor words streams) streams) tree text
          ∧ options.Resolves text resolved
          ∧ (Path.ofText name).route (standInsFor words streams) = .ok route
          ∧ tree.IsWritten route (Encoding.encodeUtf8 resolved) outcome.tree
  printed (options : Options)
    : Options.ofTexts (words.map (standInsFor words streams).text) = .ok options
      → options.output = none
      → outcome.exitCode = .ok 0
      → outcome.tree = tree

end DiagramRepair.CommandLine
