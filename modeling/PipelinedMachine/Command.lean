import PipelinedMachine.Command.Arguments
import PipelinedMachine.Command.Report
import PipelinedMachine.Disk.Directory

/-!
# Commands

Packing a program onto a disk, running a disk and listing a program.  A command reaches files only
through a `FileStore`, so it can be carried out on the host's files and on a `FileTree` alike.

* `CommandError` — what can go wrong, in the words of the command;
* `Outcome` — what a command prints and how it exits;
* `Command.execute`, `execute` — a command, and a whole command line.
-/

namespace PipelinedMachine

/-! ## Errors -/

/-- Why a command fails. -/
inductive CommandError where
  | unreadable (program : String) (cause : FileError)
  | malformed (program : String) (size : Nat)
  | packing (program : String) (cause : DiskError)
  | writing (disk : String) (cause : DiskError)
  | loading (disk : String) (cause : DiskError)
  | saving (disk : String) (cause : DiskError)
deriving DecidableEq, Repr

/-- A disk error followed by the cause behind it. -/
def DiskError.chain (error : DiskError) : String :=
  match error.cause? with
  | some cause => error.text ++ ": " ++ cause.text
  | none => error.text

/-- The error in words: what was being done, and every cause down to the first. -/
def CommandError.text : CommandError → String
  | unreadable program cause => "could not read `" ++ program ++ "`: " ++ cause.text
  | malformed program size =>
    "malformed program `" ++ program ++ "`: length " ++ toString size ++
      " is not a multiple of 4 bytes"
  | packing program cause => "packing `" ++ program ++ "`: " ++ cause.chain
  | writing disk cause => "writing image to `" ++ disk ++ "`: " ++ cause.chain
  | loading disk cause => "loading image from `" ++ disk ++ "`: " ++ cause.chain
  | saving disk cause => "saving image to `" ++ disk ++ "`: " ++ cause.chain

/-! ## Outcomes -/

/-- What a command prints, its complaint if it has one, and its exit code: zero for success, one for
a failure, two for a fault of the machine and for a command line that makes no sense. -/
structure Outcome where
  output : String := ""
  complaint : Option String := none
  code : UInt8 := 0
deriving DecidableEq

/-- The first line of the complaint, without a carriage return at its end.  There are more lines
only if a path in the complaint has line breaks. -/
def Outcome.complaintLine? (outcome : Outcome) : Option String :=
  outcome.complaint.map fun complaint =>
    let line := complaint.toList.takeWhile fun c => c ≠ '\n'
    String.ofList (if line.getLast? = some '\r' then line.dropLast else line)

/-- The outcome of a command that fails after printing `output`. -/
def Outcome.failure (output : String) (error : CommandError) : Outcome where
  output := output
  complaint := some ("error: " ++ error.text)
  code := 1

/-- How to use the program. -/
def usage : String :=
  "Usage: pipevm [-v]... <COMMAND>\n\n" ++
  "Commands:\n" ++
  "  pack <PROGRAM> --disk <DISK> [--capacity <CAPACITY>]\n" ++
  "  run --disk <DISK> [--fast] [--max-ticks <N>] [--stop-on-break] [--entry <ENTRY>] [--save]\n" ++
  "  disasm <PROGRAM> [--origin <ORIGIN>]\n"

/-- The program's name and version. -/
def version : String := "pipevm 0.1.0\n"

/-! ## Execution -/

section
variable {m : Type → Type} [Monad m] [FileStore m]

/-- The words of a program file. -/
def readProgram (program : String) : ExceptT CommandError m (Array Word) := do
  let contents ← (FileStore.readFile program).adapt (CommandError.unreadable program)
  match Word.ofFile? contents with
  | some words => return words
  | none => throw (.malformed program contents.size)

/-- Packs a program onto a disk, and gives the program's length and the image. -/
def packProgram (program disk : String) (capacity : Nat) :
    ExceptT CommandError m (Nat × DiskImage) := do
  let words ← readProgram program
  match DiskImage.ofProgram? capacity words with
  | .error error => throw (.packing program error)
  | .ok image =>
    (image.save disk).adapt (CommandError.writing disk)
    return (words.size, image)

/-- What `pack` prints. -/
def packReport (disk : String) (words : Nat) (image : DiskImage) : String :=
  "packed " ++ toString words ++ " words into " ++ image.programBlocks.decimal ++ " blocks at " ++
    disk ++ "\n"

/-- The machine's configuration for a run. -/
def RunOptions.config (options : RunOptions) : MachineConfig :=
  let config := if options.fast then MachineConfig.fast else MachineConfig.standard
  { config with entry := options.entry.getD config.entry }

/-- Boots a disk image and runs it. -/
def bootAndRun (image : DiskImage) (options : RunOptions) :
    Machine × Except Fault RunOutcome :=
  (Machine.wire options.config image).run options.maxTicks
    (if options.stopOnBreak then .breakpoint else .tickLimit)

/-- Writes the disk of a machine back to its directory, if that is wanted. -/
def saveAfterRun (machine : Machine) (disk : String) (options : RunOptions) :
    ExceptT CommandError m Unit :=
  if options.save then (machine.diskContents.save disk).adapt (CommandError.saving disk)
  else pure ()

/-- How a run ends that printed `report` and was saved. -/
def runOutcome (report : String) : Except Fault RunOutcome → Outcome
  | .ok outcome => { output := report ++ outcome.report }
  | .error fault => { output := report ++ fault.report, code := 2 }

/-- Runs the disk in a directory.  The machine's state is printed before the disk is saved. -/
def runDisk (disk : String) (options : RunOptions) : m Outcome := do
  let config := options.config
  match ← ((DiskImage.load disk config.diskCapacity).adapt (CommandError.loading disk) :
      ExceptT CommandError m DiskImage).run with
  | .error error => return Outcome.failure "" error
  | .ok image =>
    let (machine, result) := bootAndRun image options
    let report := machine.report
    match ← (saveAfterRun machine disk options : ExceptT CommandError m Unit).run with
    | .error error => return Outcome.failure report error
    | .ok () => return runOutcome report result

/-- Carries out a command. -/
def Command.execute (command : Command) : m Outcome := do
  match command with
  | .pack program disk capacity =>
    match ← (packProgram program disk capacity : ExceptT CommandError m (Nat × DiskImage)).run with
    | .ok (words, image) => return { output := packReport disk words image }
    | .error error => return Outcome.failure "" error
  | .run disk options => runDisk disk options
  | .disassemble program origin =>
    match ← (readProgram program : ExceptT CommandError m (Array Word)).run with
    | .ok words =>
      let lines := (PipelinedMachine.disassemble origin words).toList.map listingLine
      return { output := String.join lines }
    | .error error => return Outcome.failure "" error

/-- Carries out a command line. -/
def execute (arguments : List String) : m Outcome :=
  match parseArguments arguments with
  | .ok (.command command) => command.execute
  | .ok .help => pure { output := usage }
  | .ok .version => pure { output := version }
  | .error error =>
    pure { complaint := some ("error: " ++ error.text ++ "\n\n" ++ usage), code := 2 }

end

end PipelinedMachine
