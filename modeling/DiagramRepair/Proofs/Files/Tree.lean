import DiagramRepair.Files.Disk
import Mathlib.Data.List.MinMax

/-! What writing does to the regular files of a tree. Directories that are made on the way stand
where nothing was, so no file is touched by them. Then one file is opened, the one that the path
leads to or a new one there, and it is the only one whose content changes.
-/

namespace DiagramRepair.FileTree

open Encoding (Bytes)

variable {tree made opened written : FileTree} {location : Location} {route : Route}

-----------------------------------------------------------------------------------------
-- Entries
-----------------------------------------------------------------------------------------

/-- An entry that is added stands at its location, and all others stay. -/
theorem entryAt?_add (h : tree.entryAt? location = none) (entry : Entry) (place : Location)
    : (tree.add location entry).entryAt? place
      = if place = location then some entry else tree.entryAt? place := by
  have hne : location ≠ [] := by
    rintro rfl
    contradiction
  rw [entryAt?, if_neg hne] at h
  by_cases hplace : place = location
  · subst hplace
    rw [entryAt?, if_neg hne, if_pos rfl, add]
    simp [List.lookup_append, h]
  · rw [if_neg hplace, entryAt?, entryAt?, add]
    simp [List.lookup_append, List.lookup_cons, beq_false_of_ne hplace]

theorem fileAt?_eq_none_of_entryAt? (h : tree.entryAt? location = none)
    : tree.fileAt? location = none := by
  rw [fileAt?, h]

theorem fileAt?_add_of_ne (h : tree.entryAt? location = none) (entry : Entry) {place : Location}
    (hp : place ≠ location)
    : (tree.add location entry).fileAt? place = tree.fileAt? place := by
  rw [fileAt?, fileAt?, entryAt?_add h, if_neg hp]

theorem lt_freshNumber {place : Location} {number : Nat} (h : tree.fileAt? place = some number)
    : number < tree.freshNumber := by
  unfold fileAt? at h
  split at h
  · rename_i found hentry
    obtain rfl := Option.some.inj h
    unfold entryAt? at hentry
    split at hentry
    · simp at hentry
    · obtain ⟨front, back, hentries, -⟩ := List.lookup_eq_some_iff.1 hentry
      have hmem : (place, Entry.file found) ∈ tree.entries := by simp [hentries]
      refine List.le_max_of_le' 0 (List.mem_map_of_mem hmem) ?_
      exact Nat.le_refl (found + 1)
  · contradiction

/-- The regular files are the same, wherever they are. -/
structure SameFiles (tree other : FileTree) : Prop where
  files (place : Location) : other.fileAt? place = tree.fileAt? place
  content : other.content = tree.content

theorem SameFiles.refl (tree : FileTree) : SameFiles tree tree :=
  ⟨fun _ => rfl, rfl⟩

theorem SameFiles.trans (hf : SameFiles tree made) (hs : SameFiles made opened)
    : SameFiles tree opened :=
  ⟨fun place => (hs.files place).trans (hf.files place), hs.content.trans hf.content⟩

theorem bind_eq_ok_iff {ε α β : Type} {action : Except ε α} {next : α → Except ε β} {result : β}
    : (action >>= next) = .ok result ↔ ∃ found, action = .ok found ∧ next found = .ok result := by
  cases action with
  | error reason => simp [bind, Except.bind]
  | ok found => simp [bind, Except.bind]

/-- A directory is made where nothing is. -/
theorem sameFiles_makeDirectory (h : tree.makeDirectory route = .ok made)
    : SameFiles tree made := by
  obtain ⟨location, -, h⟩ := bind_eq_ok_iff.1 h
  split at h
  · contradiction
  · rename_i hnone
    obtain ⟨-, -, h⟩ := bind_eq_ok_iff.1 h
    obtain rfl := Except.ok.inj h
    refine ⟨fun place => ?_, rfl⟩
    by_cases hplace : place = location
    · subst hplace
      rw [fileAt?_eq_none_of_entryAt? hnone, fileAt?, entryAt?_add hnone, if_pos rfl]
    · exact fileAt?_add_of_ne hnone _ hplace

-----------------------------------------------------------------------------------------
-- Where paths lead
-----------------------------------------------------------------------------------------

/-- A new file is not on the way of a walk that comes to its end, by induction on the names: where
it stands now, nothing led on before. -/
theorem walk_add_file {follows : Bool} {start : Location} {names : List Bytes} {stage : Stage}
    (h : tree.walk follows start names = .ok stage) (hn : tree.entryAt? location = none)
    (number : Nat)
    : (tree.add location (.file number)).walk follows start names = .ok stage := by
  induction names generalizing start with
  | nil => exact h
  | cons name names ih =>
      unfold walk at h ⊢
      split at h
      · contradiction
      · rename_i hdirectory
        have hstart : start ≠ location := by
          rintro rfl
          rw [hn] at hdirectory
          contradiction
        rw [entryAt?_add hn, if_neg hstart, hdirectory]
        obtain ⟨allowed, hallowed, h⟩ := bind_eq_ok_iff.1 h
        refine bind_eq_ok_iff.2 ⟨allowed, hallowed, ?_⟩
        have hlink : (tree.add location (.file number)).linkAt? (start ++ [name])
            = tree.linkAt? (start ++ [name]) := by
          rw [linkAt?, linkAt?, entryAt?_add hn]
          by_cases hnew : start ++ [name] = location
          · rw [if_pos hnew, hnew, hn]
          · rw [if_neg hnew]
        rw [hlink]
        split at h
        · contradiction
        · rename_i hlength
          rw [if_neg hlength]
          split at h
          · rename_i hup
            rw [if_pos hup]
            exact ih h
          · rename_i hdown
            rw [if_neg hdown]
            split at h
            · exact h
            · exact ih h
      · contradiction

/-- By induction on the links that may be followed. -/
theorem locateFrom_add_file {follows : Bool} {links : Nat} {start found : Location}
    {names : List Bytes} (h : tree.locateFrom follows links start names = .ok found)
    (hn : tree.entryAt? location = none) (number : Nat)
    : (tree.add location (.file number)).locateFrom follows links start names = .ok found := by
  induction links generalizing start names with
  | zero =>
      unfold locateFrom at h ⊢
      split at h
      · contradiction
      · rename_i hwalk
        rw [walk_add_file hwalk hn]
        exact h
      · contradiction
  | succ links ih =>
      unfold locateFrom at h ⊢
      split at h
      · contradiction
      · rename_i hwalk
        rw [walk_add_file hwalk hn]
        exact h
      · rename_i hwalk
        rw [walk_add_file hwalk hn]
        exact ih h

theorem locate_add_file {follows : Bool} {found : Location}
    (h : tree.locate follows route = .ok found) (hn : tree.entryAt? location = none)
    (number : Nat)
    : (tree.add location (.file number)).locate follows route = .ok found := by
  unfold locate at h ⊢
  split at h
  · contradiction
  · rename_i hlength
    rw [if_neg hlength]
    exact locateFrom_add_file h hn number

/-- The contents of files do not matter for where paths lead. -/
theorem walk_setContent (number : Nat) (content : Bytes) (follows : Bool) (start : Location)
    (names : List Bytes)
    : (tree.setContent number content).walk follows start names
      = tree.walk follows start names := by
  induction names generalizing start with
  | nil => rfl
  | cons name names ih =>
      rw [walk, walk, ih, ih]
      rfl

theorem locateFrom_setContent (number : Nat) (content : Bytes) (follows : Bool) (links : Nat)
    (start : Location) (names : List Bytes)
    : (tree.setContent number content).locateFrom follows links start names
      = tree.locateFrom follows links start names := by
  induction links generalizing start names with
  | zero =>
      rw [locateFrom, locateFrom, walk_setContent]
  | succ links ih =>
      rw [locateFrom, locateFrom, walk_setContent]
      split
      · rfl
      · rfl
      · exact ih _ _

theorem locate_setContent (number : Nat) (content : Bytes) (follows : Bool) (route : Route)
    : (tree.setContent number content).locate follows route = tree.locate follows route := by
  rw [locate, locate, locateFrom_setContent]
  rfl

-----------------------------------------------------------------------------------------
-- Files
-----------------------------------------------------------------------------------------

/-- What is open once a location is opened: the file that was there, a new one where nothing was,
or a device. -/
inductive Opens (tree : FileTree) (location : Location) : Target → FileTree → Prop
  | known {number : Nat} (there : tree.fileAt? location = some number)
    : Opens tree location (.file number) (tree.setContent number [])
  | new (nothing : tree.entryAt? location = none)
    : Opens tree location (.file tree.freshNumber)
        ((tree.add location (.file tree.freshNumber)).setContent tree.freshNumber [])
  | device {source : Except FileError Bytes} {sink : Except FileError Unit}
      (there : tree.entryAt? location = some (.device source sink))
    : Opens tree location (.device sink) tree

theorem opens_of_openForWriting {target : Target}
    (h : tree.openForWriting route = .ok (target, opened))
    : ∃ location, tree.locate true route = .ok location ∧ Opens tree location target opened := by
  obtain ⟨location, hlocate, h⟩ := bind_eq_ok_iff.1 h
  refine ⟨location, hlocate, ?_⟩
  split at h
  · rename_i number hentry
    obtain ⟨-, -, h⟩ := bind_eq_ok_iff.1 h
    obtain ⟨rfl, rfl⟩ := Prod.mk.inj (Except.ok.inj h)
    exact .known (by rw [fileAt?, hentry])
  · contradiction
  · contradiction
  · rename_i hentry
    obtain ⟨-, -, h⟩ := bind_eq_ok_iff.1 h
    obtain ⟨rfl, rfl⟩ := Prod.mk.inj (Except.ok.inj h)
    exact .device hentry
  · rename_i hnone
    obtain ⟨-, -, h⟩ := bind_eq_ok_iff.1 h
    obtain ⟨rfl, rfl⟩ := Prod.mk.inj (Except.ok.inj h)
    exact .new hnone

/-- Of all regular files only one may be another one than before. It stands at a location, where it
stood before or where no file stood, and it has this content. -/
structure FileReplaced (tree : FileTree) (location : Location) (number : Nat) (content : Bytes)
    (written : FileTree)
    : Prop where
  stands : written.fileAt? location = some number
  holds : written.content number = content
  known
    : tree.fileAt? location = some number
      ∨ tree.fileAt? location = none ∧ ∀ place, tree.fileAt? place ≠ some number
  others (other : Nat) : other ≠ number → written.content other = tree.content other
  frame (place : Location) : place ≠ location → written.fileAt? place = tree.fileAt? place

/-- A path leads to this content: in a regular file, and then no other file is another one than
before, or in a device, and then no file is. -/
inductive IsWritten (tree : FileTree) (route : Route) (content : Bytes) (written : FileTree)
    : Prop
  | file {location : Location} {number : Nat}
      (leads : written.locate true route = .ok location)
      (replaced : FileReplaced tree location number content written)
  | device {location : Location} {source : Except FileError Bytes} {sink : Except FileError Unit}
      (leads : written.locate true route = .ok location)
      (there : written.entryAt? location = some (.device source sink))
      (same : SameFiles tree written)

/-- What is written to what was opened. -/
theorem Opens.fileReplaced {number : Nat} (h : Opens tree location (.file number) opened)
    (content : Bytes)
    : FileReplaced tree location number content (opened.setContent number content) := by
  cases h with
  | known there =>
      refine ⟨there, if_pos rfl, Or.inl there, fun other hne => ?_, fun _ _ => rfl⟩
      exact (if_neg hne).trans (if_neg hne)
  | new nothing =>
      refine ⟨?_, if_pos rfl, Or.inr ⟨fileAt?_eq_none_of_entryAt? nothing, ?_⟩,
        fun other hne => (if_neg hne).trans (if_neg hne), fun place hne => ?_⟩
      · have hentry := entryAt?_add nothing (.file tree.freshNumber) location
        rw [if_pos rfl] at hentry
        have hfile : (tree.add location (.file tree.freshNumber)).fileAt? location
            = some tree.freshNumber := by rw [fileAt?, hentry]
        exact hfile
      · exact fun place hplace => absurd (lt_freshNumber hplace) (Nat.lt_irrefl _)
      · exact fileAt?_add_of_ne nothing _ hne

theorem Opens.locate {target : Target} (h : Opens tree location target opened)
    (hl : tree.locate true route = .ok location)
    : opened.locate true route = .ok location := by
  cases h with
  | known there => rwa [locate_setContent]
  | new nothing =>
      rw [locate_setContent]
      exact locate_add_file hl nothing _
  | device there => exact hl

theorem write_file_eq_ok {number : Nat} {content : Bytes}
    (h : opened.write (.file number) content = (.ok (), written))
    : written = opened.setContent number content := by
  unfold write at h
  dsimp only at h
  split at h
  · exact absurd (Prod.mk.inj h).1 (by simp)
  · exact (Prod.mk.inj h).2.symm

/-- What is written once a path is opened stands where it leads. -/
theorem isWritten_of_opens {target : Target} {content : Bytes}
    (ho : tree.openForWriting route = .ok (target, opened))
    (hw : opened.write target content = (.ok (), written))
    : IsWritten tree route content written := by
  obtain ⟨location, hlocate, hopens⟩ := opens_of_openForWriting ho
  have hleads := hopens.locate hlocate
  cases target with
  | file number =>
      obtain rfl := write_file_eq_ok hw
      refine .file ?_ (hopens.fileReplaced content)
      rwa [locate_setContent]
  | device sink =>
      obtain ⟨-, rfl⟩ := Prod.mk.inj hw
      cases hopens with
      | device there => exact .device hleads there (.refl _)

theorem SameFiles.isWritten {content : Bytes} (hs : SameFiles tree made)
    (hw : IsWritten made route content written)
    : IsWritten tree route content written := by
  cases hw with
  | file leads replaced =>
      have hknown := replaced.known
      simp only [hs.files] at hknown
      refine .file leads ⟨replaced.stands, replaced.holds, hknown, fun other hne => ?_,
        fun place hne => ?_⟩
      · rw [replaced.others other hne, hs.content]
      · rw [replaced.frame place hne, hs.files]
  | device leads there same => exact .device leads there (hs.trans same)

end DiagramRepair.FileTree
