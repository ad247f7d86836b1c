import DiagramRepair.Proofs.Encoding.StandIn
import DiagramRepair.Proofs.Files.Tree

/-! What is done to a tree on the way to a file, and what is left when all of it is done. Making
directories, looking for them and getting over those that are there keeps all files, step by step,
also where it fails; so when a file is written in the end, it is the only one that is another one.
-/

namespace DiagramRepair.Disk

open Encoding (Bytes RawText StandIns)

variable {α β : Type} {tree : FileTree} {standIns : StandIns} {path : Path}

/-- What becomes of a tree, and whether all was done. -/
def runOn (action : Disk α) (tree : FileTree) : Except FileError α × FileTree :=
  action.run.run tree

theorem runOn_bind (action : Disk α) (next : α → Disk β) (tree : FileTree)
    : runOn (action >>= next) tree
      = match runOn action tree with
        | (.ok found, middle) => runOn (next found) middle
        | (.error reason, middle) => (.error reason, middle) := by
  unfold runOn
  rw [ExceptT.run_bind, StateT.run_bind]
  generalize action.run.run tree = made
  obtain ⟨result, middle⟩ := made
  cases result <;> rfl

theorem runOn_bind_eq_ok_iff {action : Disk α} {next : α → Disk β} {result : β}
    {after : FileTree}
    : runOn (action >>= next) tree = (.ok result, after)
      ↔ ∃ found middle,
          runOn action tree = (.ok found, middle)
          ∧ runOn (next found) middle = (.ok result, after) := by
  rw [runOn_bind]
  generalize runOn action tree = made
  obtain ⟨found, middle⟩ := made
  cases found <;> simp

theorem runOn_ofExcept (found : Except FileError α) (tree : FileTree)
    : runOn (ofExcept found) tree = (found, tree) := by
  cases found <;> rfl

theorem runOn_look (find : FileTree → Except FileError α) (tree : FileTree)
    : runOn (look find) tree = (find tree, tree) :=
  runOn_ofExcept (find tree) tree

theorem runOn_tryCatch (action : Disk α) (handle : FileError → Disk α) (tree : FileTree)
    : runOn (tryCatch action handle) tree
      = match runOn action tree with
        | (.ok found, middle) => (.ok found, middle)
        | (.error reason, middle) => runOn (handle reason) middle := by
  have hrun : runOn (tryCatch action handle) tree
      = runOn (ExceptT.tryCatch action handle) tree := rfl
  rw [hrun]
  unfold runOn ExceptT.tryCatch
  rw [ExceptT.run_mk, StateT.run_bind]
  have hsame : StateT.run action tree = action.run.run tree := rfl
  rw [hsame]
  generalize action.run.run tree = made
  obtain ⟨result, middle⟩ := made
  cases result <;> rfl

-----------------------------------------------------------------------------------------
-- Steps that keep all files
-----------------------------------------------------------------------------------------

/-- Whatever comes of these steps, the regular files are the same. -/
def KeepsFiles (action : Disk α) : Prop :=
  ∀ tree, FileTree.SameFiles tree (runOn action tree).2

theorem keepsFiles_look (find : FileTree → Except FileError α) : KeepsFiles (look find) := by
  intro tree
  rw [runOn_look]
  exact .refl tree

theorem KeepsFiles.bind {action : Disk α} {next : α → Disk β} (ha : KeepsFiles action)
    (hn : ∀ found, KeepsFiles (next found))
    : KeepsFiles (action >>= next) := by
  intro tree
  have hfirst := ha tree
  rw [runOn_bind]
  generalize runOn action tree = made at hfirst
  obtain ⟨result, middle⟩ := made
  cases result with
  | error reason => exact hfirst
  | ok found => exact hfirst.trans (hn found middle)

theorem KeepsFiles.tryCatch {action : Disk α} {handle : FileError → Disk α}
    (ha : KeepsFiles action) (hh : ∀ reason, KeepsFiles (handle reason))
    : KeepsFiles (MonadExcept.tryCatch action handle) := by
  intro tree
  have hfirst := ha tree
  have hrun := runOn_tryCatch action handle tree
  rw [show runOn (MonadExcept.tryCatch action handle) tree = _ from hrun]
  generalize runOn action tree = made at hfirst
  obtain ⟨result, middle⟩ := made
  cases result with
  | error reason => exact hfirst.trans (hh reason middle)
  | ok found => exact hfirst

theorem keepsFiles_throw (reason : FileError) : KeepsFiles (throw reason : Disk α) :=
  fun tree => .refl tree

theorem keepsFiles_pure (found : α) : KeepsFiles (pure found : Disk α) :=
  fun tree => .refl tree

variable (standIns path)

theorem keepsFiles_makeDirectory : KeepsFiles (makeDirectory standIns path) := by
  intro tree
  rw [makeDirectory, runOn_bind, runOn_look]
  cases hmade : (do tree.makeDirectory (← path.route standIns) : Except FileError FileTree) with
  | error reason => exact .refl tree
  | ok made =>
      obtain ⟨route, -, hmake⟩ := FileTree.bind_eq_ok_iff.1 hmade
      exact FileTree.sameFiles_makeDirectory hmake

theorem keepsFiles_forgive (reason : FileError) : KeepsFiles (forgive standIns path reason) := by
  unfold forgive
  split
  · exact keepsFiles_throw reason
  · refine (keepsFiles_look _).bind fun found => ?_
    split
    · exact keepsFiles_pure ()
    · exact keepsFiles_throw reason

theorem keepsFiles_ensureDirectory : KeepsFiles (ensureDirectory standIns path) :=
  (keepsFiles_makeDirectory standIns path).tryCatch (keepsFiles_forgive standIns path)

/-- By induction on the names, of which the last ones may be missing. -/
theorem keepsFiles_ensureDirectories (root : Text) (names : List Text)
    : KeepsFiles (ensureDirectories standIns root names) := by
  induction names with
  | nil => exact keepsFiles_ensureDirectory standIns ⟨root, []⟩
  | cons name above ih =>
      refine (keepsFiles_makeDirectory standIns _).tryCatch fun reason => ?_
      split
      · exact ih.bind fun _ => keepsFiles_ensureDirectory standIns _
      · exact keepsFiles_forgive standIns _ reason

variable {standIns path}

-----------------------------------------------------------------------------------------
-- Files
-----------------------------------------------------------------------------------------

theorem openForWriting_eq_ok {target : FileTree.Target} {opened : FileTree}
    (h : runOn (openForWriting standIns path) tree = (.ok target, opened))
    : ∃ route, path.route standIns = .ok route
        ∧ tree.openForWriting route = .ok (target, opened) := by
  obtain ⟨⟨found, made⟩, middle, hlook, h⟩ := runOn_bind_eq_ok_iff.1 h
  rw [runOn_look] at hlook
  obtain ⟨hfound, rfl⟩ := Prod.mk.inj hlook
  change ((Except.ok found : Except FileError FileTree.Target), made) = (.ok target, opened) at h
  obtain ⟨rfl, rfl⟩ : found = target ∧ made = opened := by simpa using h
  exact FileTree.bind_eq_ok_iff.1 hfound

theorem write_eq_ok {target : FileTree.Target} {content : Bytes} {written : FileTree}
    (h : runOn (write target content) tree = (.ok (), written))
    : tree.write target content = (.ok (), written) := by
  have hrun : runOn (write target content) tree
      = runOn (ofExcept (tree.write target content).1) (tree.write target content).2 := rfl
  rw [hrun, runOn_ofExcept] at h
  exact h

/-- A text that can be written holds no half, so it is written with its own characters. -/
theorem eq_of_fileBytes_raw {text : Text} {bytes : Bytes}
    (h : (standIns.raw text).fileBytes = .ok bytes)
    : bytes = Encoding.encodeUtf8 text := by
  unfold RawText.fileBytes at h
  split at h
  · rename_i encoded hencoded
    obtain ⟨chars, hchars, rfl⟩ := Option.map_eq_some_iff.1 hencoded
    obtain rfl := StandIns.eq_of_mapM_character? hchars
    exact (Except.ok.inj h).symm
  · contradiction

/-- A file is written to its end exactly where its path leads, and all others stay as they are. -/
theorem isWritten_writeFile {content : Except FileError Bytes} {written : FileTree}
    (h : runOn (writeFile standIns path content) tree = (.ok (), written))
    : ∃ route bytes,
        path.route standIns = .ok route
        ∧ content = .ok bytes
        ∧ tree.IsWritten route bytes written := by
  obtain ⟨⟨⟩, made, hmade, h⟩ := runOn_bind_eq_ok_iff.1 h
  obtain ⟨target, opened, hopened, h⟩ := runOn_bind_eq_ok_iff.1 h
  obtain ⟨bytes, middle, hbytes, h⟩ := runOn_bind_eq_ok_iff.1 h
  rw [runOn_ofExcept] at hbytes
  obtain ⟨rfl, rfl⟩ := Prod.mk.inj hbytes
  obtain ⟨route, hroute, hopen⟩ := openForWriting_eq_ok hopened
  have hsame := keepsFiles_ensureDirectories standIns path.root path.parent.names.reverse tree
  rw [hmade] at hsame
  exact ⟨route, bytes, hroute, rfl,
    hsame.isWritten (FileTree.isWritten_of_opens hopen (write_eq_ok h))⟩

end DiagramRepair.Disk
