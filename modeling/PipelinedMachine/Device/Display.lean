import PipelinedMachine.AddressMap
import PipelinedMachine.Device.Basic
import PipelinedMachine.Text.Blank

/-!
# The display

A screen of 80 columns and 25 rows.  Writing a cell's address puts a character there in the current
colours; three registers hold the colours and take commands.

* `Display.read`, `Display.write` — the addresses of the display;
* `Display.cell?`, `Display.text` — the screen as the host sees it;
* `Display.tick` — one tick.
-/

namespace PipelinedMachine

/-- A character on the screen and the colours it was written with. -/
structure Cell where
  /-- Character code. -/
  character : Word
  foreground : Word
  background : Word
deriving DecidableEq, Repr

/-- What a write to the command register asks for. -/
inductive DisplayCommand where
  | refresh
  | clear
deriving DecidableEq, Repr

/-- The command with the given number. -/
def DisplayCommand.ofNumber? : Word → Option DisplayCommand
  | 0 => some refresh
  | 1 => some clear
  | _ => none

namespace Display

/-- Visible columns. -/
abbrev columns : Nat := 80

/-- Visible rows. -/
abbrev rows : Nat := 25

/-- Cells on the screen. -/
abbrev cellCount : Nat := columns * rows

end Display

/-- The display. -/
structure Display where
  terminal : Terminal
  /-- The cells, row by row. -/
  cells : Vector Cell Display.cellCount
  /-- The colours for cells to come. -/
  foreground : Word
  background : Word
  lastCommand : Word := 0
  /-- How often the screen has been refreshed or cleared. -/
  frames : Nat := 0
deriving DecidableEq

namespace Display

open AddressMap

/-- An empty cell in the given colours. -/
def blank (foreground background : Word) : Cell := ⟨0, foreground, background⟩

/-- A blank screen, white on black. -/
def reset (terminal : Terminal) : Display where
  terminal := terminal
  cells := Vector.replicate cellCount (blank 15 0)
  foreground := 15
  background := 0

/-! ## Addresses -/

/-- The cell at `address`. -/
def cellAt? (display : Display) (address : Word) : Option Cell :=
  (Word.offset? displayStart address).bind fun index => display.cells[index]?

/-- The word at `address`: a register, a cell's character, or zero. -/
def read (display : Display) (address : Word) : Word :=
  if address = displayCommand then display.lastCommand
  else if address = displayForeground then display.foreground
  else if address = displayBackground then display.background
  else
    match display.cellAt? address with
    | some cell => cell.character
    | none => 0

/-- Carries out a command.  Both count as a frame; unknown commands do nothing. -/
def command (display : Display) (number : Word) : Display :=
  match DisplayCommand.ofNumber? number with
  | some .refresh => { display with lastCommand := number, frames := display.frames + 1 }
  | some .clear =>
    { display with
      lastCommand := number
      frames := display.frames + 1
      cells := Vector.replicate cellCount (blank display.foreground display.background) }
  | none => { display with lastCommand := number }

/-- The display after `value` has been written to `address`. -/
def write (display : Display) (address value : Word) : Display :=
  if address = displayCommand then display.command value
  else if address = displayForeground then { display with foreground := value }
  else if address = displayBackground then { display with background := value }
  else
    match Word.offset? displayStart address with
    | some index =>
      let cell : Cell := ⟨value, display.foreground, display.background⟩
      { display with cells := display.cells.setIfInBounds index cell }
    | none => display

/-! ## The screen -/

/-- The cell in a column and a row. -/
def cell? (display : Display) (column row : Nat) : Option Cell :=
  if column < columns then display.cells[row * columns + column]? else none

/-- The character that a code shows as: a blank for control characters and for codes that are no
characters. -/
def shown (code : Word) : Char :=
  if h : code.toUInt32.isValidChar then
    let c : Char := ⟨code.toUInt32, h⟩
    if isControl c then ' ' else c
  else ' '

/-- One row of the screen without the blanks at its end. -/
def rowText (display : Display) (row : Nat) : String :=
  let cells := (display.cells.toList.drop (row * columns)).take columns
  String.ofList <| trimEnd <| cells.map fun cell => shown cell.character

/-- The screen, row by row. -/
def text (display : Display) : String :=
  "\n".intercalate <| (List.range rows).map display.rowText

/-! ## Ticks -/

/-- One tick: takes a write at once, and a read once its answer can be sent; drops anything else. -/
def tick (display : Display) (bus : Interconnect) : Display × Interconnect :=
  match bus.message? display.terminal with
  | none => (display, bus)
  | some message =>
    match message.kind? with
    | some .write => (display.write message.address message.value, bus.clear display.terminal)
    | some .read =>
      let answer := Message.response message.address [display.read message.address]
      match bus.send? display.terminal answer with
      | some bus => (display, bus.clear display.terminal)
      | none => (display, bus)
    | some .response | some .command | some .interrupt | none =>
      (display, bus.clear display.terminal)

instance : Device Display where
  name := "display"
  base _ := displayStart
  tick := Display.tick

end Display

end PipelinedMachine
