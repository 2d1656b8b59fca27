import PipelinedMachine.FileStore

/-!
# File trees

A file system as a value: a tree of directories with a working directory in it, on which a command
can be run, and reasoned about, without touching any file.

* `FileNode` — a file, or a directory with its entries;
* `FileNode.at?`, `FileNode.put` — what stands at a location, and the tree with something put there;
* `FileNode.walk` — the rules by which a path is followed;
* `FileTree` — the tree, with the accesses that make it a `FileStore`.
-/

namespace PipelinedMachine

/-! ## Nodes -/

/-- A file, or a directory with its entries in the order of their creation. -/
inductive FileNode where
  | file (contents : ByteArray)
  | directory (entries : List (String × FileNode))

/-- A place in a tree: the names on the way down from the root. -/
abbrev Location := List String

namespace FileNode

/-- What goes by a name in a directory. -/
def child? (node : FileNode) (name : String) : Option FileNode :=
  match node with
  | file _ => none
  | directory entries => entries.lookup name

/-- What stands at a location. -/
def at? (node : FileNode) : Location → Option FileNode
  | [] => some node
  | name :: rest => (node.child? name).bind fun next => next.at? rest

/-- The entries with one of them replaced, or added at the end. -/
def putEntry (name : String) (node : FileNode) :
    List (String × FileNode) → List (String × FileNode)
  | [] => [(name, node)]
  | entry :: rest =>
    if entry.1 = name then (name, node) :: rest else entry :: putEntry name node rest

/-- The tree with something put at a location, in the place of what stood there.  Nothing changes
if there is no directory to hold it. -/
def put (tree : FileNode) (location : Location) (node : FileNode) : FileNode :=
  match location, tree with
  | [], _ => node
  | _ :: _, file contents => file contents
  | [name], directory entries => directory (putEntry name node entries)
  | name :: rest, directory entries =>
    match entries.lookup name with
    | some next => directory (putEntry name (next.put rest node) entries)
    | none => directory entries

/-! ## Following paths -/

/-- The longest name that a file can have, in bytes. -/
def nameLimit : Nat := 255

/-- Where a path leads. -/
structure Place where
  location : Location
  /-- What stands there; nothing, if only the last name of the path is missing. -/
  node? : Option FileNode

/-- The directory in which a walk has arrived, given the directories that it has come through. -/
def arrived (root : FileNode) : List (String × FileNode) → FileNode
  | [] => root
  | entry :: _ => entry.2

/-- Where a walk has arrived. -/
def whereabouts (trail : List (String × FileNode)) : Location := (trail.map Prod.fst).reverse

/-- Follows `names` on from the directories in `trail`, the innermost first.  A dot stays in place,
and two dots lead back up, at the root to itself.  Every other name must be that of a directory;
only the last one may be that of a file, or name something that does not exist yet. -/
def walk (root : FileNode) (trail : List (String × FileNode)) :
    List String → Except FileError Place
  | [] => .ok ⟨whereabouts trail, some (arrived root trail)⟩
  | name :: rest =>
    if name.utf8ByteSize > nameLimit then .error .nameTooLong
    else if name = "." then walk root trail rest
    else if name = ".." then walk root trail.tail rest
    else
      match (arrived root trail).child? name, rest with
      | some (directory entries), _ => walk root ((name, directory entries) :: trail) rest
      | node?, [] => .ok ⟨whereabouts trail ++ [name], node?⟩
      | some (file _), _ :: _ => .error .notDirectory
      | none, _ :: _ => .error .notFound

/-- The directories from the root down to a location, the innermost first. -/
def trailTo (node : FileNode) (trail : List (String × FileNode)) :
    Location → List (String × FileNode)
  | [] => trail
  | name :: rest =>
    match node.child? name with
    | some next => trailTo next ((name, next) :: trail) rest
    | none => trail

/-! ## Listing -/

mutual

/-- The files of a tree with their locations. -/
def files : FileNode → List (Location × ByteArray)
  | file contents => [([], contents)]
  | directory entries => filesOfEntries entries

/-- The files of a directory's entries. -/
def filesOfEntries : List (String × FileNode) → List (Location × ByteArray)
  | [] => []
  | entry :: rest => filesOfEntry entry ++ filesOfEntries rest

/-- The files of one entry. -/
def filesOfEntry : String × FileNode → List (Location × ByteArray)
  | (name, node) => node.files.map fun file => (name :: file.1, file.2)

end

end FileNode

/-! ## Trees -/

/-- A file system. -/
structure FileTree where
  root : FileNode
  /-- Where relative paths start. -/
  workingDirectory : Location

namespace FileTree

/-- A file system with nothing in it but an empty working directory.  That it is not the root itself
shows only in paths that lead out of it. -/
def empty : FileTree where
  root := (FileNode.directory []).put ["tmp"] (.directory [("work", .directory [])])
  workingDirectory := ["tmp", "work"]

/-- The longest path that can be followed, in bytes. -/
def pathLimit : Nat := 4095

/-- Whether a path ends in a slash, and so can only name a directory. -/
def endsInSlash (path : String) : Bool := path.endsWith "/"

/-- Where a path leads.  The path is looked at as a whole before it is followed. -/
def locate (tree : FileTree) (path : String) : Except FileError FileNode.Place :=
  if path.contains '\x00' then .error .nulInPath
  else if path.isEmpty then .error .notFound
  else if path.utf8ByteSize > pathLimit then .error .nameTooLong
  else
    let start := if path.startsWith "/" then [] else tree.workingDirectory
    tree.root.walk (tree.root.trailTo [] start) (pathNames path)

/-- What a path names, which must exist. -/
def lookup (tree : FileTree) (path : String) : Except FileError FileNode := do
  match (← tree.locate path).node? with
  | none => .error .notFound
  | some (.file contents) =>
    if endsInSlash path then .error .notDirectory else .ok (.file contents)
  | some (.directory entries) => .ok (.directory entries)

/-- The tree with something put at a location. -/
def put (tree : FileTree) (location : Location) (node : FileNode) : FileTree :=
  { tree with root := tree.root.put location node }

/-- The contents of a file. -/
def readFile (tree : FileTree) (path : String) : Except FileError ByteArray := do
  match ← tree.lookup path with
  | .file contents => .ok contents
  | .directory _ => .error .isDirectory

/-- The tree with a file created, or its contents replaced. -/
def writeFile (tree : FileTree) (path : String) (contents : ByteArray) :
    Except FileError FileTree := do
  let place ← tree.locate path
  match place.node? with
  | some (.directory _) => .error .isDirectory
  | some (.file _) | none =>
    if endsInSlash path then .error .isDirectory else .ok (tree.put place.location (.file contents))

/-- The names in a directory, in the order of creation. -/
def listDirectory (tree : FileTree) (path : String) : Except FileError (List String) := do
  match ← tree.lookup path with
  | .file _ => .error .notDirectory
  | .directory entries => .ok (entries.map Prod.fst)

/-- The tree with one more directory. -/
def createDirectory (tree : FileTree) (path : String) : Except FileError FileTree := do
  let place ← tree.locate path
  match place.node? with
  | some _ => .error .alreadyExists
  | none => .ok (tree.put place.location (.directory []))

/-- Whether a path names a directory. -/
def isDirectory (tree : FileTree) (path : String) : Bool :=
  match tree.lookup path with
  | .ok (.directory _) => true
  | _ => false

/-- The files below the working directory, by their paths from there, with their contents. -/
def files (tree : FileTree) : List (String × ByteArray) :=
  match tree.root.at? tree.workingDirectory with
  | some node => node.files.map fun file => ("/".intercalate file.1, file.2)
  | none => []

/-- Replaces the tree by the outcome of a change, or keeps it if the change fails. -/
def update (change : FileTree → Except FileError FileTree) :
    ExceptT FileError (StateM FileTree) Unit :=
  ExceptT.mk fun tree =>
    match change tree with
    | .ok tree => (.ok (), tree)
    | .error error => (.error error, tree)

instance : FileStore (StateM FileTree) where
  readFile path := ExceptT.mk fun tree => (tree.readFile path, tree)
  writeFile path contents := update fun tree => tree.writeFile path contents
  listDirectory path := ExceptT.mk fun tree => (tree.listDirectory path, tree)
  createDirectory path := update fun tree => tree.createDirectory path
  isDirectory path := fun tree => (tree.isDirectory path, tree)

/-! ## Growing trees -/

/-- The tree after an action on it, also if the action fails halfway. -/
def after (tree : FileTree) (action : ExceptT FileError (StateM FileTree) Unit) : FileTree :=
  (action.run.run tree).2

/-- The tree with a directory and those above it. -/
def withDirectory (tree : FileTree) (path : String) : FileTree :=
  tree.after (createDirectories path)

/-- The tree with a file and the directories above it. -/
def withFile (tree : FileTree) (path : String) (contents : ByteArray) : FileTree :=
  let tree := match ancestors path with
    | parent :: _ => tree.withDirectory parent
    | [] => tree
  tree.after (FileStore.writeFile path contents)

end FileTree

end PipelinedMachine
