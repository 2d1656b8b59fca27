/-!
# File stores

Commands reach their files through a `FileStore`, which says what can be done with files and
directories without saying where they are.

* `FileError` — why an access fails, with the wording and number the operating system gives it;
* `FileStore` — the accesses that commands need;
* `pathNames`, `joinPath` — paths taken apart and put together;
* `createDirectories` — a directory with all those above it.
-/

namespace PipelinedMachine

/-! ## Errors -/

/-- Why an access to a file or directory fails. -/
inductive FileError where
  | notFound
  | alreadyExists
  | notDirectory
  | isDirectory
  /-- A name in the path is too long, or the path as a whole. -/
  | nameTooLong
  /-- The path holds the character that marks a path's end for the operating system. -/
  | nulInPath
  /-- Any other reason, in the operating system's words. -/
  | other (details : String)
deriving DecidableEq, Repr

/-- The error in words. -/
def FileError.text : FileError → String
  | notFound => "No such file or directory (os error 2)"
  | alreadyExists => "File exists (os error 17)"
  | notDirectory => "Not a directory (os error 20)"
  | isDirectory => "Is a directory (os error 21)"
  | nameTooLong => "File name too long (os error 36)"
  | nulInPath => "file name contained an unexpected NUL byte"
  | other details => details

/-! ## Access -/

/-- Access to files and directories from within `m`. -/
class FileStore (m : Type → Type) where
  /-- The contents of a file. -/
  readFile : String → ExceptT FileError m ByteArray
  /-- Creates a file, or replaces its contents. -/
  writeFile : String → ByteArray → ExceptT FileError m Unit
  /-- The names in a directory, in an order of the store's choosing. -/
  listDirectory : String → ExceptT FileError m (List String)
  /-- Creates one directory. -/
  createDirectory : String → ExceptT FileError m Unit
  /-- Whether a path names a directory. -/
  isDirectory : String → m Bool

/-! ## Paths -/

/-- The names between the slashes of a path. -/
def pathNames (path : String) : List String :=
  ((path.toList.splitOn '/').map String.ofList).filter fun name => name ≠ ""

/-- The path of a name in a directory. -/
def joinPath (directory name : String) : String :=
  if directory.isEmpty || directory.endsWith "/" then directory ++ name
  else directory ++ "/" ++ name

theorem pathNames_append_slash (front back : String) :
    pathNames (front ++ "/" ++ back) = pathNames front ++ pathNames back := by
  have hsplit : (front ++ "/" ++ back).toList = front.toList ++ '/' :: back.toList := by simp
  simp only [pathNames, hsplit, List.splitOn_append_cons_self, List.map_append, List.filter_append]

theorem pathNames_name {name : String} (hslash : '/' ∉ name.toList) (hname : name ≠ "") :
    pathNames name = [name] := by
  simp [pathNames, List.splitOn_eq_singleton hslash, hname]

theorem endsWith_slash_iff (path : String) :
    path.endsWith "/" = true ↔ ∃ front, path = front ++ "/" := by
  have hsuffix : path.endsWith "/" = true ↔ "/".toList <:+ path.toList := by
    show path.toSlice.endsWith "/" = true ↔ _
    rw [String.Slice.endsWith_string_iff, String.copy_toSlice]
  rw [hsuffix]
  constructor
  · rintro ⟨front, hfront⟩
    exact ⟨String.ofList front, String.toList_inj.mp (by simpa using hfront.symm)⟩
  · rintro ⟨front, rfl⟩
    exact ⟨front.toList, by simp⟩

/-- A name is followed after the names of its directory, whether or not a slash has to be put
between them. -/
theorem pathNames_joinPath {directory name : String} (hslash : '/' ∉ name.toList)
    (hname : name ≠ "") : pathNames (joinPath directory name) = pathNames directory ++ [name] := by
  unfold joinPath
  split
  · rename_i h
    rw [Bool.or_eq_true, String.isEmpty_iff, endsWith_slash_iff] at h
    rcases h with rfl | ⟨front, rfl⟩
    · rw [String.empty_append, pathNames_name hslash hname]
      rfl
    · have hfront := pathNames_append_slash front ""
      rw [String.append_empty] at hfront
      rw [pathNames_append_slash, pathNames_name hslash hname, hfront]
      simp [pathNames]
  · rw [pathNames_append_slash, pathNames_name hslash hname]

/-- The directories above a path, the nearest first, without the one that relative paths start
from. -/
def ancestors (path : String) : List String :=
  let top := if path.startsWith "/" then "/" else ""
  let names := (pathNames path).filter fun name => name ≠ "."
  (List.range (names.length - 1)).reverse.map fun i => top ++ "/".intercalate (names.take (i + 1))

/-! ## Directories -/

section
variable {m : Type → Type} [Monad m] [FileStore m]

/-- Creates a directory, content with one that exists already. -/
def ensureDirectory (path : String) : ExceptT FileError m Unit := ExceptT.mk do
  match ← (FileStore.createDirectory path : ExceptT FileError m Unit).run with
  | .ok () => return .ok ()
  | .error error => return if ← FileStore.isDirectory path then .ok () else .error error

/-- Creates a directory, and those of the `above` that are needed for it. -/
def ensureDirectoryBelow (path : String) : List String → ExceptT FileError m Unit
  | [] => ensureDirectory path
  | parent :: above => ExceptT.mk do
    match ← (ensureDirectory path : ExceptT FileError m Unit).run with
    | .error .notFound =>
      match ← (ensureDirectoryBelow parent above : ExceptT FileError m Unit).run with
      | .ok () => (ensureDirectory path : ExceptT FileError m Unit).run
      | .error error => return .error error
    | outcome => return outcome

/-- Creates a directory and those above it, as far as they do not exist.  The empty path names the
directory that relative paths start from, which always exists. -/
def createDirectories (path : String) : ExceptT FileError m Unit :=
  if path.isEmpty then pure () else ensureDirectoryBelow path (ancestors path)

end

end PipelinedMachine
