import PipelinedMachine.Command

/-!
# The program

Carries out a command line on the host's own files.  All decisions are made by `execute`; this
module only reaches the files, prints, and exits.
-/

namespace PipelinedMachine

/-- The operating system's number of an error, which some accesses report negated. -/
def hostErrorNumber (code : UInt32) : UInt32 := if code < 0x80000000 then code else 0 - code

/-- The reason for a failed access, by the operating system's error number where `FileError` has a
case for it. -/
def FileError.ofHost (error : IO.Error) : FileError :=
  match error with
  | .noFileOrDirectory .. => .notFound
  | .alreadyExists .. => .alreadyExists
  | .permissionDenied .. => .other "Permission denied (os error 13)"
  | .inappropriateType _ code details | .invalidArgument _ code details =>
    match hostErrorNumber code with
    | 20 => .notDirectory
    | 21 => .isDirectory
    | 36 => .nameTooLong
    | number => .other (details ++ " (os error " ++ toString number ++ ")")
  | error => .other (toString error)

/-- An access to the host's files. -/
def onHost {α : Type} (action : IO α) : ExceptT FileError IO α := ExceptT.mk do
  match ← action.toBaseIO with
  | .ok value => return .ok value
  | .error error => return .error (FileError.ofHost error)

instance : FileStore IO where
  readFile path := onHost (IO.FS.readBinFile path)
  writeFile path contents := onHost (IO.FS.writeBinFile path contents)
  listDirectory path := onHost do
    let directory : IO.FS.DirEntry := ⟨path, ""⟩
    let entries ← directory.root.readDir
    return (entries.map fun entry => entry.fileName).toList
  createDirectory path := onHost (IO.FS.createDir path)
  isDirectory path :=
    let directory : IO.FS.DirEntry := ⟨path, ""⟩
    directory.root.isDir

end PipelinedMachine

/-- Carries out the command line that the program was started with. -/
def main (arguments : List String) : IO UInt32 := do
  let outcome ← (PipelinedMachine.execute arguments : IO PipelinedMachine.Outcome)
  (← IO.getStdout).putStr outcome.output
  match outcome.complaint with
  | some complaint => (← IO.getStderr).putStrLn complaint
  | none => pure ()
  return outcome.code.toUInt32
