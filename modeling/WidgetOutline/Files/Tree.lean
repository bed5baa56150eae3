import WidgetOutline.Files.Fault
import WidgetOutline.Files.Path

namespace WidgetOutline

inductive FileNode where
  | directory
  | file (content : ByteArray)

instance : DecidableEq FileNode
  | .directory, .directory => isTrue rfl
  | .directory, .file _ => isFalse nofun
  | .file _, .directory => isFalse nofun
  | .file ⟨bytes⟩, .file ⟨bytes'⟩ =>
    decidable_of_iff (bytes = bytes')
      ⟨fun same => same ▸ rfl, fun same => ByteArray.mk.inj (FileNode.file.inj same)⟩

abbrev Location := List String

structure FileTree where
  nodes : List (Location × FileNode)
  workingDirectory : Location

namespace FileTree

def get? (tree : FileTree) (location : Location) : Option FileNode :=
  if location = [] then some .directory else tree.nodes.lookup location

def put (tree : FileTree) (location : Location) (node : FileNode) : FileTree :=
  { tree with nodes := (location, node) :: tree.nodes.filter (·.1 ≠ location) }

def checkDirectory (tree : FileTree) (location : Location) : Except FileFault Unit :=
  match tree.get? location with
  | none => .error .missing
  | some (.file _) => .error .notDirectory
  | some .directory => .ok ()

def walk (tree : FileTree) (location : Location) : List String → Except FileFault Location
  | [] => .ok location
  | name :: later =>
    match tree.checkDirectory location with
    | .error fault => .error fault
    | .ok () =>
      if name = "." then tree.walk location later
      else if name = ".." then tree.walk location.dropLast later
      else if FilePath.nameLimit < name.utf8ByteSize then .error .nameTooLong
      else tree.walk (location ++ [name]) later

def base (tree : FileTree) (path : String) : Location :=
  if FilePath.isAbsolute path then [] else tree.workingDirectory

/-- The names of a path for looking it up: a separator at the end asks for a directory. -/
def lookupParts (path : String) : List String :=
  let ending := if path.toList.getLast? == some FilePath.separator then ["."] else []
  FilePath.parts path ++ ending

def locate (tree : FileTree) (path : String) : Except FileFault Location :=
  if path.isEmpty then .error .missing
  else if FilePath.pathLimit < path.utf8ByteSize then .error .nameTooLong
  else tree.walk (tree.base path) (lookupParts path)

def read (tree : FileTree) (path : String) : Except FileFault ByteArray := do
  match tree.get? (← tree.locate path) with
  | none => throw .missing
  | some .directory => throw .isDirectory
  | some (.file content) => return content

def write (tree : FileTree) (path : String) (content : ByteArray) :
    Except FileFault FileTree := do
  let location ← tree.locate path
  match tree.get? location with
  | some .directory => throw .isDirectory
  | some (.file _) => return tree.put location (.file content)
  | none =>
    tree.checkDirectory location.dropLast
    return tree.put location (.file content)

def leadsToDirectory (tree : FileTree) (base : Location) (names : List String) : Bool :=
  match tree.walk base names with
  | .ok location => tree.get? location == some .directory
  | .error _ => false

def makeDirectory (tree : FileTree) (base : Location) (names : List String) :
    Except FileFault FileTree := do
  let above ← tree.walk base names.dropLast
  tree.checkDirectory above
  match names.getLast? with
  | none => throw .exists
  | some name =>
    let location := above ++ [name]
    if name = "." ∨ name = ".." ∨ (tree.get? location).isSome then throw .exists
    if FilePath.nameLimit < name.utf8ByteSize then throw .nameTooLong
    return tree.put location .directory

def above (names : List String) : List String :=
  (names.filter (· ≠ ".")).dropLast

theorem length_above_lt {names : List String} (h : names ≠ []) :
    (above names).length < names.length := by
  have filtered := List.length_filter_le (· ≠ ".") names
  have positive := List.length_pos_iff.2 h
  simp only [above, List.length_dropLast]
  omega

/-- Makes a directory and, first, those above it that are missing.  The tree is what was reached,
also after a failure. -/
def makeDirectories (tree : FileTree) (base : Location) (names : List String) :
    Except FileFault Unit × FileTree :=
  if _h : names = [] then (.ok (), tree)
  else
    match tree.makeDirectory base names with
    | .ok made => (.ok (), made)
    | .error .missing =>
      match tree.makeDirectories base (above names) with
      | (.error fault, reached) => (.error fault, reached)
      | (.ok (), reached) =>
        match reached.makeDirectory base names with
        | .ok made => (.ok (), made)
        | .error fault =>
          (if reached.leadsToDirectory base names then .ok () else .error fault, reached)
    | .error fault => (if tree.leadsToDirectory base names then .ok () else .error fault, tree)
termination_by names.length
decreasing_by exact length_above_lt _h

def makePath (tree : FileTree) (path : String) : Except FileFault Unit × FileTree :=
  if FilePath.pathLimit < path.utf8ByteSize then (.error .nameTooLong, tree)
  else tree.makeDirectories (tree.base path) (FilePath.parts path)

def entryNames (tree : FileTree) (path : String) : List String :=
  match tree.locate path with
  | .error _ => []
  | .ok directory =>
    tree.nodes.filterMap fun (location, _) =>
      if location.dropLast = directory then location.getLast? else none

def files (tree : FileTree) : List (Location × ByteArray) :=
  tree.nodes.filterMap fun (location, node) =>
    match node with
    | .file content => some (location, content)
    | .directory => none

end FileTree

end WidgetOutline
