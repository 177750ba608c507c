import StateDescription.Files.Access
import StateDescription.Files.Path

/-!
File trees: files and directories in memory, with the rules of a file system for the paths
that lead to them.
-/

namespace StateDescription

inductive FileTree.Entry
  | file (content : ByteArray)
  | directory
  /-- The null device: always empty, whatever is written to it. -/
  | null

/-- Where a path leads: the names from the working directory on, the last one first. A place
of nothing but `..` lies above the working directory, and `/` stands for the root. -/
abbrev FileTree.Place := List String

/-- Entries by their places, the newest first. -/
structure FileTree where
  entries : List (FileTree.Place × FileTree.Entry)

namespace FileTree

inductive Fault
  | missing
  | notDirectory
  | isDirectory
  | nameTooLong
  deriving DecidableEq

def Fault.at (path : String) : Fault → FileError
  | missing => ⟨2, "No such file or directory", path⟩
  | notDirectory => ⟨20, "Not a directory", path⟩
  | isDirectory => ⟨21, "Is a directory", path⟩
  | nameTooLong => ⟨36, "File name too long", path⟩

/-- The directories that the root has in every tree. -/
def topDirectories : List String :=
  ["bin", "dev", "etc", "home", "lib", "opt", "proc", "root", "sys", "tmp", "usr", "var"]

/-- What is in every tree: the working directory, the directories above it, the root with its
usual directories, and the null device. -/
def given? : Place → Option Entry
  | ["null", "dev", "/"] => some .null
  | [name, "/"] => if topDirectories.contains name then some .directory else none
  | place => if place = ["/"] || place.all (· = "..") then some .directory else none

def entry? (tree : FileTree) (place : Place) : Option Entry :=
  (given? place).or ((tree.entries.find? (·.1 = place)).map Prod.snd)

def parent : Place → Place
  | [] => [".."]
  | ["/"] => ["/"]
  | name :: place => if name = ".." then ".." :: name :: place else place

/-- The place that a step leads to from a directory. -/
def enter (place : Place) (component : String) : Place :=
  if Path.isIdle component then place
  else if component = ".." then parent place
  else component :: place

/-- The most bytes of a name and of a path. -/
def nameLimit : Nat := 255
def pathLimit : Nat := 4095

/-- One step from a place, which has to be a directory. -/
def step (tree : FileTree) (place : Place) (component : String) : Except Fault Place :=
  match tree.entry? place with
  | none => .error .missing
  | some .directory =>
    if component.utf8ByteSize ≤ nameLimit then .ok (enter place component)
    else .error .nameTooLong
  | some _ => .error .notDirectory

def start (path : String) : Place :=
  if Path.root path = "" then [] else ["/"]

/-- The place that a path leads to, whether or not there is an entry. Nothing has an empty path
or one with a null character. -/
def place (tree : FileTree) (path : String) : Except Fault Place :=
  if path = "" || path.toList.contains '\x00' then .error .missing
  else if pathLimit < path.utf8ByteSize then .error .nameTooLong
  else (Path.components path).foldlM tree.step (start path)

def status (tree : FileTree) (path : String) : Except FileError FileStatus :=
  match tree.place path with
  | .error .nameTooLong => .error (Fault.nameTooLong.at path)
  | .error _ => .ok .missing
  | .ok place =>
    match tree.entry? place with
    | none => .ok .missing
    | some .directory => .ok .directory
    | some _ => .ok .file

def read (tree : FileTree) (path : String) : Except FileError ByteArray :=
  match tree.place path with
  | .error fault => .error (fault.at path)
  | .ok place =>
    match tree.entry? place with
    | none => .error (Fault.missing.at path)
    | some (.file content) => .ok content
    | some .directory => .error (Fault.isDirectory.at path)
    | some .null => .ok ByteArray.empty

def write (tree : FileTree) (path : String) (content : ByteArray) : Except FileError FileTree :=
  match tree.place path with
  | .error fault => .error (fault.at path)
  | .ok place =>
    match tree.entry? place with
    | some .directory => .error (Fault.isDirectory.at path)
    | some .null => .ok tree
    | _ => .ok ⟨(place, .file content) :: tree.entries⟩

/-- The places that steps lead to one after the other, the last one first. -/
def along (place : Place) (steps : List String) : List Place :=
  steps.foldl (fun places step => enter (places.headD place) step :: places) []

/-- Adds an entry and all directories on the way to it. -/
def add (path : String) (entry : Entry) (tree : FileTree) : FileTree :=
  match along (start path) (Path.steps path) with
  | [] => tree
  | place :: above =>
    ⟨(place, entry) :: tree.entries ++ above.map fun place => (place, .directory)⟩

def ofEntries (entries : List (String × Entry)) : FileTree :=
  entries.foldl (fun tree (path, entry) => tree.add path entry) ⟨[]⟩

instance : FileAccess (StateM FileTree) where
  status path := do return (← get).status path
  read path := do return (← get).read path
  write path content := do
    match (← get).write path content with
    | .error error => return .error error
    | .ok tree =>
      set tree
      return .ok ()

end FileTree

end StateDescription
