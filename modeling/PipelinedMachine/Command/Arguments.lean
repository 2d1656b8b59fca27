import PipelinedMachine.AddressMap
import PipelinedMachine.Machine.Config
import PipelinedMachine.Text.Number

/-!
# Command-line arguments

What a command line asks for.  The first argument that is not an option names the command; options
and file names may come in any order after it.

* `Command` — the three commands with their options;
* `OptionSpec`, `Scanned`, `scan` — arguments sorted into options and names, by the options that a
  command knows;
* `Invocation`, `parseArguments` — a whole command line.

The first argument that makes no sense decides the error, and a request for help that comes before
it is honoured.
-/

namespace PipelinedMachine

/-! ## Commands -/

/-- How a disk is run. -/
structure RunOptions where
  /-- Whether the devices are fast. -/
  fast : Bool
  maxTicks : Nat
  /-- Whether the run ends at the first breakpoint. -/
  stopOnBreak : Bool
  /-- Where to start, if not in the ROM. -/
  entry : Option Word
  /-- Whether the disk is written back after the run. -/
  save : Bool
deriving DecidableEq, Repr

/-- A command. -/
inductive Command where
  /-- Puts a program on a disk. -/
  | pack (program disk : String) (capacity : Nat)
  /-- Boots a disk. -/
  | run (disk : String) (options : RunOptions)
  /-- Lists a program. -/
  | disassemble (program : String) (origin : Word)
deriving DecidableEq, Repr

/-- What a command line asks for. -/
inductive Invocation where
  | command (command : Command)
  | help
  | version
deriving DecidableEq, Repr

/-- Why a command line cannot be carried out. -/
inductive UsageError where
  | noCommand
  | unknownCommand (name : String)
  | unknownArgument (argument : String)
  | missingValue (option : String)
  | invalidValue (option value : String)
  | unexpectedValue (option : String)
  | repeated (option : String)
  | missingArgument (name : String)
deriving DecidableEq, Repr

/-- The error in words. -/
def UsageError.text : UsageError → String
  | noCommand => "a command is required"
  | unknownCommand name => "unrecognized command '" ++ name ++ "'"
  | unknownArgument argument => "unexpected argument '" ++ argument ++ "'"
  | missingValue option => "a value is required for '--" ++ option ++ "'"
  | invalidValue option value => "invalid value '" ++ value ++ "' for '" ++ option ++ "'"
  | unexpectedValue option => "'--" ++ option ++ "' takes no value"
  | repeated option => "'--" ++ option ++ "' cannot be used more than once"
  | missingArgument name => "'" ++ name ++ "' is required"

/-! ## Scanning -/

/-- An option that a command knows. -/
structure OptionSpec where
  name : String
  /-- The values that the option takes; none for an option that stands alone. -/
  accepts : Option (String → Bool)

/-- Arguments sorted into options and names. -/
structure Scanned where
  /-- Options with a value, in order. -/
  values : List (String × String) := []
  /-- Options that stand alone. -/
  flags : List String := []
  /-- Names, in order. -/
  names : List String := []

namespace Scanned

/-- The value of an option. -/
def value? (scanned : Scanned) (name : String) : Option String :=
  (scanned.values.find? fun entry => entry.1 = name).map Prod.snd

/-- Whether an option that stands alone is there. -/
def has (scanned : Scanned) (name : String) : Bool := scanned.flags.contains name

/-- Whether an option of either kind is there. -/
def mentions (scanned : Scanned) (name : String) : Bool :=
  scanned.has name || (scanned.value? name).isSome

end Scanned

/-- An argument by its form. -/
inductive Argument where
  /-- Two dashes: everything after them is a name. -/
  | terminator
  | long (name : String) (value : Option String)
  | short (letters : List Char)
  | name (name : String)
deriving DecidableEq, Repr

/-- The form of an argument.  A single dash is a name. -/
def Argument.ofString (argument : String) : Argument :=
  match argument.toList with
  | ['-', '-'] => terminator
  | '-' :: '-' :: rest =>
    let name := String.ofList (rest.takeWhile fun c => c ≠ '=')
    match rest.dropWhile fun c => c ≠ '=' with
    | _ :: value => long name (some (String.ofList value))
    | [] => long name none
  | '-' :: c :: rest => short (c :: rest)
  | _ => name argument

/-- A request that ends the scan: an error, or a call for help. -/
inductive ScanStop where
  | error (error : UsageError)
  | help
deriving DecidableEq, Repr

/-- The option that raises the amount of logging, which any command takes any number of times. -/
def verboseOption : String := "verbose"

/-- Reads a cluster of one-letter options. -/
def scanLetters (argument : String) : List Char → Except ScanStop Unit
  | [] => .ok ()
  | 'v' :: rest => scanLetters argument rest
  | 'h' :: _ => .error .help
  | _ :: _ => .error (.error (.unknownArgument argument))

/-- Takes up an option with its value. -/
def setValue (scanned : Scanned) (name value : String) (accepts : String → Bool) :
    Except ScanStop Scanned :=
  if scanned.mentions name then .error (.error (.repeated name))
  else if accepts value then .ok { scanned with values := scanned.values ++ [(name, value)] }
  else .error (.error (.invalidValue name value))

/-- Takes up an option that stands alone. -/
def setFlag (scanned : Scanned) (name : String) : Except ScanStop Scanned :=
  if name = verboseOption then .ok scanned
  else if scanned.mentions name then .error (.error (.repeated name))
  else .ok { scanned with flags := scanned.flags ++ [name] }

/-- Takes up a name, of which a command takes at most `limit`, none of them empty. -/
def addName (limit : Nat) (scanned : Scanned) (name : String) : Except ScanStop Scanned :=
  if scanned.names.length ≥ limit then .error (.error (.unknownArgument name))
  else if name.isEmpty then .error (.error (.invalidValue "name" name))
  else .ok { scanned with names := scanned.names ++ [name] }

/-- Takes up names until the end. -/
def addNames (limit : Nat) (scanned : Scanned) (names : List String) : Except ScanStop Scanned :=
  names.foldlM (addName limit) scanned

/-- An option that waits for its value. -/
structure AwaitedValue where
  option : String
  accepts : String → Bool

/-- Sorts arguments, given the options that are known and how many names there may be.  The value of
an option is the argument after it, unless that looks like an option itself. -/
def scan (known : List OptionSpec) (limit : Nat) :
    Option AwaitedValue → Scanned → List String → Except ScanStop Scanned
  | none, scanned, [] => .ok scanned
  | some awaited, _, [] => .error (.error (.missingValue awaited.option))
  | some awaited, scanned, argument :: rest =>
    match Argument.ofString argument with
    | .name value => do
      let scanned ← setValue scanned awaited.option value awaited.accepts
      scan known limit none scanned rest
    | _ => .error (.error (.missingValue awaited.option))
  | none, scanned, argument :: rest =>
    match Argument.ofString argument with
    | .terminator => addNames limit scanned rest
    | .name name => do
      let scanned ← addName limit scanned name
      scan known limit none scanned rest
    | .short letters => do
      scanLetters argument letters
      scan known limit none scanned rest
    | .long "help" none => .error .help
    | .long name value =>
      match known.find? fun spec => spec.name = name, value with
      | none, _ => .error (.error (.unknownArgument argument))
      | some ⟨_, none⟩, some _ => .error (.error (.unexpectedValue name))
      | some ⟨_, none⟩, none => do
        let scanned ← setFlag scanned name
        scan known limit none scanned rest
      | some ⟨_, some accepts⟩, some value => do
        let scanned ← setValue scanned name value accepts
        scan known limit none scanned rest
      | some ⟨_, some accepts⟩, none => scan known limit (some ⟨name, accepts⟩) scanned rest

/-- Sorts all the arguments of a command. -/
def scanAll (known : List OptionSpec) (limit : Nat) (arguments : List String) :
    Except ScanStop Scanned :=
  scan known limit none {} arguments

/-! ## The commands' options -/

/-- An option that stands alone. -/
def flagSpec (name : String) : OptionSpec := ⟨name, none⟩

/-- An option whose value is a path. -/
def pathSpec (name : String) : OptionSpec := ⟨name, some fun value => !value.isEmpty⟩

/-- An option whose value can be read by `read`. -/
def readSpec {α : Type} (name : String) (read : String → Option α) : OptionSpec :=
  ⟨name, some fun value => (read value).isSome⟩

/-- A count of up to 64 bits. -/
def readCount (text : String) : Option Nat := readUnsigned? maxUnsigned64 text

/-- A word in decimal. -/
def readWord (text : String) : Option Word :=
  (readSigned? Int32.minValue.toInt Int32.maxValue.toInt text).map Int32.ofInt

/-- The ticks that a run may take, if nothing else is said. -/
def defaultMaxTicks : Nat := 10000000

/-- The argument at the front of a list, which has to be there. -/
def require {α : Type} (name : String) : Option α → Except ScanStop α
  | some value => .ok value
  | none => .error (.error (.missingArgument name))

/-- The arguments of `pack`. -/
def parsePack (arguments : List String) : Except ScanStop Command := do
  let known := [pathSpec "disk", readSpec "capacity" readCount, flagSpec verboseOption]
  let scanned ← scanAll known 1 arguments
  let program ← require "program" scanned.names.head?
  let disk ← require "disk" (scanned.value? "disk")
  let capacity := ((scanned.value? "capacity").bind readCount).getD
    MachineConfig.defaultDiskCapacity
  return .pack program disk capacity

/-- The arguments of `run`. -/
def parseRun (arguments : List String) : Except ScanStop Command := do
  let known :=
    [pathSpec "disk", flagSpec "fast", readSpec "max-ticks" readCount, flagSpec "stop-on-break",
      readSpec "entry" readWord, flagSpec "save", flagSpec verboseOption]
  let scanned ← scanAll known 0 arguments
  let disk ← require "disk" (scanned.value? "disk")
  return .run disk
    { fast := scanned.has "fast"
      maxTicks := ((scanned.value? "max-ticks").bind readCount).getD defaultMaxTicks
      stopOnBreak := scanned.has "stop-on-break"
      entry := (scanned.value? "entry").bind readWord
      save := scanned.has "save" }

/-- The arguments of `disasm`. -/
def parseDisassemble (arguments : List String) : Except ScanStop Command := do
  let scanned ← scanAll [readSpec "origin" readWord, flagSpec verboseOption] 1 arguments
  let program ← require "program" scanned.names.head?
  let origin := ((scanned.value? "origin").bind readWord).getD AddressMap.ramStart
  return .disassemble program origin

/-! ## Command lines -/

/-- Whether a name is that of a command. -/
def isCommandName (name : String) : Bool := ["pack", "run", "disasm", "help"].contains name

/-- The arguments of `help`: nothing, or one command to explain.  No command has commands of its
own, so whatever follows its name is taken for a command that does not exist. -/
def parseHelp (arguments : List String) : Except ScanStop Command :=
  match arguments with
  | [] => .error .help
  | command :: rest =>
    if isCommandName command then
      match rest with
      | [] => .error .help
      | unknown :: _ => .error (.error (.unknownCommand unknown))
    else .error (.error (.unknownCommand command))

/-- The arguments after a command's name. -/
def parseCommand (name : String) (arguments : List String) : Except ScanStop Command :=
  if name = "pack" then parsePack arguments
  else if name = "run" then parseRun arguments
  else if name = "disasm" then parseDisassemble arguments
  else if name = "help" then parseHelp arguments
  else .error (.error (.unknownCommand name))

/-- What a scan that ended early comes to. -/
def Invocation.ofStop : Except ScanStop Command → Except UsageError Invocation
  | .ok parsed => .ok (.command parsed)
  | .error .help => .ok .help
  | .error (.error error) => .error error

/-- A whole command line.  In front of the command's name only the options that concern no
particular command may stand. -/
def parseArguments : List String → Except UsageError Invocation
  | [] => .error .noCommand
  | argument :: rest =>
    match Argument.ofString argument with
    | .name name => Invocation.ofStop (parseCommand name rest)
    | .long "help" none => .ok .help
    | .long "version" none => .ok .version
    | .long "verbose" none => parseArguments rest
    | .short letters =>
      match letters.dropWhile fun c => c = 'v' with
      | [] => parseArguments rest
      | 'h' :: _ => .ok .help
      | 'V' :: _ => .ok .version
      | _ => .error (.unknownArgument argument)
    | .long _ _ => .error (.unknownArgument argument)
    | .terminator =>
      match rest with
      | [] => .error .noCommand
      | name :: _ => .error (.unknownArgument name)

end PipelinedMachine
