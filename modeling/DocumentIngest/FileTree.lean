import DocumentIngest.Keyed
import DocumentIngest.Path

/-!
# File trees

The files that a run can see: folders by name, files with their content and the
time of their last change in milliseconds since the epoch.  The top of the tree is
the root of the system and the place where a run starts: absolute and relative paths
lead on from it, and above it there is only itself.
-/

namespace DocumentIngest

/-- A file or a folder. -/
inductive FileNode where
  | file (content : List UInt8) (modified : Int)
  | folder (entries : List (String × FileNode))
deriving Repr, Inhabited

/-- The entries at the top of a tree. -/
abbrev FileTree := Keyed FileNode

namespace FileNode

/-- The entries of a folder. -/
def entries? : FileNode → Option (Keyed FileNode)
  | folder entries => some entries
  | file _ _ => none

/-- The content of a file. -/
def content? : FileNode → Option (List UInt8)
  | file content _ => some content
  | folder _ => none

end FileNode

namespace FileTree

/-- The longest name that a file can have, in bytes. -/
def longestName : Nat := 255

/-- Whether a file can have a name. -/
def isFileName (name : String) : Bool :=
  name.utf8ByteSize ≤ longestName && !name.toList.contains '\x00'

/-- What stands under a list of names. -/
def nodeAt (tree : FileTree) : List String → Option FileNode
  | [] => some (.folder tree)
  | name :: rest =>
      match Keyed.lookup tree name with
      | none => none
      | some node =>
          match rest with
          | [] => some node
          | _ :: _ =>
              match node with
              | .folder entries => nodeAt entries rest
              | .file _ _ => none

/-- Puts a node under a list of names whose folders all exist. -/
def putAt (tree : FileTree) (node : FileNode) : List String → Option FileTree
  | [] => none
  | [name] => if isFileName name then some (Keyed.insert tree name node) else none
  | name :: rest =>
      match Keyed.lookup tree name with
      | some (.folder entries) =>
          (putAt entries node rest).map fun entries =>
            Keyed.insert tree name (.folder entries)
      | _ => none

/-- Takes away what stands under a list of names. -/
def removeAt (tree : FileTree) : List String → FileTree
  | [] => tree
  | [name] => Keyed.erase tree name
  | name :: rest =>
      match Keyed.lookup tree name with
      | some (.folder entries) => Keyed.insert tree name (.folder (removeAt entries rest))
      | _ => tree

/-- Whether a list of names leads to a folder. -/
def isFolderAt (tree : FileTree) (names : List String) : Bool :=
  ((tree.nodeAt names).bind FileNode.entries?).isSome

/-- One step along a path, which must start from a folder. -/
def follow (tree : FileTree) (names : List String) (part : PathPart) : Option (List String) :=
  if tree.isFolderAt names then
    match part with
    | .root => some []
    | .here => some names
    | .parent => some names.dropLast
    | .name text => some (names ++ [text])
  else none

/-- The names that a path leads through; everything before its last part must be
a folder, the last part need not exist. -/
def locate (tree : FileTree) (path : String) : Option (List String) :=
  (Path.parts path).foldlM (follow tree) []

/-- Whether a path can only mean a folder, because it ends in a slash or a dot. -/
def meansFolder (path : String) : Bool :=
  let characters := path.toList
  ['/'].isSuffixOf characters || ['/', '.'].isSuffixOf characters

/-- What stands at a path. -/
def find? (tree : FileTree) (path : String) : Option FileNode :=
  if path.isEmpty then none
  else
    match (tree.locate path).bind tree.nodeAt with
    | some (.file content modified) =>
        if meansFolder path then none else some (.file content modified)
    | found => found

def exists? (tree : FileTree) (path : String) : Bool :=
  (tree.find? path).isSome

/-- The content of the file at a path. -/
def read? (tree : FileTree) (path : String) : Option (List UInt8) :=
  (tree.find? path).bind FileNode.content?

/-- The entries of the folder at a path. -/
def list? (tree : FileTree) (path : String) : Option (Keyed FileNode) :=
  (tree.find? path).bind FileNode.entries?

/-- Writes a file into a folder that exists.  A folder is not overwritten. -/
def write? (tree : FileTree) (path : String) (content : List UInt8) (modified : Int) :
    Option FileTree :=
  if path.isEmpty || meansFolder path then none
  else
    (tree.locate path).bind fun names =>
      if tree.isFolderAt names then none
      else tree.putAt (.file content modified) names

/-- Goes one step along a path, making a folder where there is nothing. -/
def enterFolder (place : FileTree × List String) (part : PathPart) :
    Option (FileTree × List String) :=
  let (tree, names) := place
  (tree.follow names part).bind fun names =>
    match tree.nodeAt names with
    | some (.folder _) => some (tree, names)
    | some (.file _ _) => none
    | none => (tree.putAt (.folder []) names).map fun tree => (tree, names)

/-- Makes the folder at a path and every folder on the way. -/
def makeFolder? (tree : FileTree) (path : String) : Option FileTree :=
  ((Path.parts path).foldlM enterFolder (tree, [])).map Prod.fst

/-- The path of the folder that a path leads into. -/
def folderOf (path : String) : String :=
  String.ofList (path.toList.reverse.dropWhile (· != '/')).reverse

/-- Writes a file and makes the folders on the way to it. -/
def place? (tree : FileTree) (path : String) (content : List UInt8) (modified : Int) :
    Option FileTree :=
  (tree.makeFolder? (folderOf path)).bind fun tree => tree.write? path content modified

/-- Removes the file at a path. -/
def remove? (tree : FileTree) (path : String) : Option FileTree :=
  match tree.find? path with
  | some (.file _ _) => (tree.locate path).map tree.removeAt
  | _ => none

end FileTree

end DocumentIngest
