import StateDescription.Files.Tree
import StateDescription.Proofs.Paths

/-!
File systems: what a program may count on where it has access to files. File trees are file
systems.
-/

namespace StateDescription

section Views

variable {σ : Type} [FileAccess (StateM σ)]

def statusOf (files : σ) (path : String) : Except FileError FileStatus :=
  ((FileAccess.status path : StateM σ _).run files).1

def contentOf (files : σ) (path : String) : Except FileError ByteArray :=
  ((FileAccess.read path : StateM σ _).run files).1

/-- The answer to a content for the file at a path, and the files behind it. -/
def written (files : σ) (path : String) (content : ByteArray) : Except FileError Unit × σ :=
  (FileAccess.write path content : StateM σ _).run files

/-- The file at a path can be opened for writing. -/
def Writable (files : σ) (path : String) : Prop :=
  ∃ content, (written files path content).1 = .ok ()

/-- The file at a path can be written, and holds what is written to it. -/
def Keeps (files : σ) (path : String) : Prop :=
  ∀ content, (written files path content).1 = .ok () ∧
    contentOf (written files path content).2 path = .ok content

end Views

/-- Looking at files changes none. What can be read is a file, under its normalised path too. And
whether a file takes a content does not depend on the content. -/
class FileSystem (σ : Type) [FileAccess (StateM σ)] : Prop where
  run_status (files : σ) (path : String) :
    (FileAccess.status path : StateM σ _).run files = (statusOf files path, files)
  run_read (files : σ) (path : String) :
    (FileAccess.read path : StateM σ _).run files = (contentOf files path, files)
  status_of_content {files : σ} {path : String} {bytes : ByteArray} :
    contentOf files path = .ok bytes → statusOf files path = .ok .file
  content_normalised {files : σ} {path : String} {bytes : ByteArray} :
    contentOf files path = .ok bytes → contentOf files (Path.normalised path) = .ok bytes
  written_of_writable {files : σ} {path : String} :
    Writable files path → ∀ content, (written files path content).1 = .ok ()

namespace FileTree

variable {tree : FileTree} {place last : Place}

/-! ### Steps that say nothing -/

theorem entry?_start (tree : FileTree) (path : String) :
    tree.entry? (start path) = some .directory := by
  unfold start
  split <;> rfl

theorem step_eq_of_isIdle {component : String} (idle : Path.isIdle component = true)
    (reached : tree.step place component = .ok last) : last = place := by
  unfold step at reached
  split at reached
  · cases reached
  · split at reached
    · cases reached
      exact if_pos idle
    · cases reached
  · cases reached

theorem step_of_isIdle {component : String} (idle : Path.isIdle component = true)
    (directory : tree.entry? place = some .directory) : tree.step place component = .ok place := by
  have short : component.utf8ByteSize ≤ nameLimit := by
    simp only [Path.isIdle, Bool.or_eq_true, decide_eq_true_eq] at idle
    rcases idle with rfl | rfl <;> decide
  unfold step
  rw [directory]
  dsimp only
  rw [if_pos short, enter, if_pos idle]

theorem foldlM_filter {components : List String}
    (reached : components.foldlM tree.step place = .ok last) :
    (components.filter (!Path.isIdle ·)).foldlM tree.step place = .ok last := by
  induction components generalizing place with
  | nil => exact reached
  | cons component components ih =>
      rw [List.foldlM_cons] at reached
      cases first : tree.step place component with
      | error fault =>
          rw [first] at reached
          cases reached
      | ok next =>
          rw [first] at reached
          have later := ih reached
          by_cases idle : Path.isIdle component = true
          · rw [List.filter_cons_of_neg (by simpa using idle), ← step_eq_of_isIdle idle first]
            exact later
          · rw [List.filter_cons_of_pos (by simpa using idle), List.foldlM_cons, first]
            exact later

theorem foldlM_idle_append {idle : List String} (isIdle : ∀ component ∈ idle, Path.isIdle component)
    (directory : tree.entry? place = some .directory) (components : List String) :
    (idle ++ components).foldlM tree.step place = components.foldlM tree.step place := by
  induction idle with
  | nil => rfl
  | cons component idle ih =>
      obtain ⟨own, later⟩ := List.forall_mem_cons.1 isIdle
      rw [List.cons_append, List.foldlM_cons, step_of_isIdle own directory]
      exact ih later

theorem start_normalised (path : String) : start (Path.normalised path) = start path := by
  unfold start
  by_cases relative : Path.root path = ""
  · rw [if_pos relative, if_pos ((Path.root_normalised_eq_empty_iff path).2 relative)]
  · rw [if_neg relative, if_neg (mt (Path.root_normalised_eq_empty_iff path).1 relative)]

/-- What a path has to be for its components to lead somewhere. -/
def IsProper (path : String) : Prop :=
  path ≠ "" ∧ '\x00' ∉ path.toList ∧ path.utf8ByteSize ≤ pathLimit

theorem place_eq_ok_iff {path : String} :
    tree.place path = .ok place ↔
      IsProper path ∧ (Path.components path).foldlM tree.step (start path) = .ok place := by
  unfold FileTree.place IsProper
  by_cases empty : path = ""
  · simp [empty]
  · by_cases null : '\x00' ∈ path.toList
    · simp [null]
    · by_cases long : pathLimit < path.utf8ByteSize
      · simp [empty, null, long, Nat.not_le.2 long]
      · simp [empty, null, long, Nat.not_lt.1 long]

theorem IsProper.normalised {path : String} (proper : IsProper path) :
    IsProper (Path.normalised path) := by
  obtain ⟨nonempty, noNull, short⟩ := proper
  refine ⟨Path.normalised_ne_empty path, fun null => ?_,
    Nat.le_trans (Path.size_normalised_le nonempty) short⟩
  rcases Path.mem_of_mem_normalised null with null | slash | dot
  · exact noNull null
  · cases slash
  · cases dot

/-- A path and its normalised form lead to the same place. -/
theorem place_normalised {path : String} (reached : tree.place path = .ok place) :
    tree.place (Path.normalised path) = .ok place := by
  rw [place_eq_ok_iff] at reached ⊢
  obtain ⟨proper, reached⟩ := reached
  refine ⟨proper.normalised, ?_⟩
  rw [start_normalised, Path.components_normalised,
    foldlM_idle_append (fun _ => Path.isIdle_of_mem_idleLead) (tree.entry?_start path)]
  exact foldlM_filter reached

/-! ### The laws -/

theorem exists_place_of_read {path : String} {bytes : ByteArray}
    (content : tree.read path = .ok bytes) :
    ∃ place, tree.place path = .ok place ∧
      (tree.entry? place = some (.file bytes) ∨
        tree.entry? place = some .null ∧ bytes = ByteArray.empty) := by
  unfold FileTree.read at content
  split at content
  · cases content
  · rename_i place reached
    refine ⟨place, reached, ?_⟩
    split at content <;> cases content
    · rename_i entry
      exact .inl entry
    · rename_i entry
      exact .inr ⟨entry, rfl⟩

theorem status_of_read {path : String} {bytes : ByteArray} (content : tree.read path = .ok bytes) :
    tree.status path = .ok .file := by
  obtain ⟨place, reached, entry⟩ := exists_place_of_read content
  unfold FileTree.status
  rw [reached]
  dsimp only
  rcases entry with entry | ⟨entry, -⟩ <;> rw [entry]

theorem read_normalised {path : String} {bytes : ByteArray} (content : tree.read path = .ok bytes) :
    tree.read (Path.normalised path) = .ok bytes := by
  obtain ⟨place, reached, entry⟩ := exists_place_of_read content
  unfold FileTree.read
  rw [place_normalised reached]
  dsimp only
  rcases entry with entry | ⟨entry, empty⟩
  · rw [entry]
  · rw [entry, empty]

theorem isOk_write_iff (path : String) (first second : ByteArray) :
    (∃ later, tree.write path first = .ok later) ↔ ∃ later, tree.write path second = .ok later := by
  unfold FileTree.write
  split
  · exact Iff.rfl
  · split
    · exact Iff.rfl
    · exact Iff.rfl
    · exact iff_of_true ⟨_, rfl⟩ ⟨_, rfl⟩

theorem written_eq_ok_iff {path : String} {content : ByteArray} :
    (written tree path content).1 = .ok () ↔ ∃ later, tree.write path content = .ok later := by
  unfold written
  simp only [FileAccess.write, StateT.run_bind, StateT.run_get, pure_bind]
  cases tree.write path content with
  | error error => exact iff_of_false nofun nofun
  | ok later => exact iff_of_true rfl ⟨later, rfl⟩

instance : FileSystem FileTree where
  run_status _ _ := rfl
  run_read _ _ := rfl
  status_of_content := status_of_read
  content_normalised := read_normalised
  written_of_writable := by
    rintro tree path ⟨first, taken⟩ content
    rw [written_eq_ok_iff] at taken ⊢
    exact (isOk_write_iff path first content).1 taken

end FileTree

end StateDescription
