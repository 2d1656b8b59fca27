import PipelinedMachine.Machine
import PipelinedMachine.Text.Number

/-!
# Reports

What the commands print.

* `listingLine` — one instruction of a listing;
* `Snapshot.report`, `Machine.report` — the state of a machine after a run;
* `RunOutcome.report` — how the run ended.
-/

namespace PipelinedMachine

/-- One instruction of a listing: its address, its two words and its text. -/
def listingLine (entry : Fetched) : String :=
  padLeft 10 entry.address.decimal ++ "  " ++ entry.code.first.hex ++ " " ++
    entry.code.second.hex ++ "  " ++ entry.code.text ++ "\n"

/-- A register with its value.  Four registers make a line. -/
def registerField (registers : RegisterFile) (r : Register) : String :=
  "r" ++ padRight 2 (toString r.index.val) ++ " " ++ padLeft 11 (registers.get r).decimal ++
    (if r.index.val % 4 = 3 then "\n" else "  ")

/-- The state of a core: where it is, what it is doing, and its registers. -/
def Snapshot.report (snapshot : Snapshot) : String :=
  let place := "ip " ++ snapshot.registers.ip.decimal ++ "  sp " ++
    snapshot.registers.sp.decimal ++ "  stage " ++ snapshot.stage.text ++ "\n"
  let active := match snapshot.active with
    | some entry => "active " ++ entry.address.decimal ++ ": " ++ entry.code.text ++ "\n"
    | none => ""
  place ++ active ++ String.join (Register.all.map (registerField snapshot.registers))

/-- The screen, unless it is blank. -/
def Display.report (display : Display) : String :=
  let shown := String.ofList (trimEnd display.text.toList)
  if shown.isEmpty then "" else "--- display ---\n" ++ shown ++ "\n"

/-- The state of a machine: its boot core, its counters and its screen. -/
def Machine.report (machine : Machine) : String :=
  machine.snapshot.report ++ machine.counters.text ++ "\n" ++ machine.display.report

/-- How a run ended. -/
def RunOutcome.report (outcome : RunOutcome) : String :=
  match outcome.last with
  | .breakpoint address =>
    "breakpoint at " ++ address.decimal ++ " after " ++ toString outcome.ticks ++ " ticks\n"
  | .running => "stopped after " ++ toString outcome.ticks ++ " ticks\n"

/-- What a run that ended in a fault prints last. -/
def Fault.report (fault : Fault) : String := "fault: " ++ fault.text ++ "\n"

end PipelinedMachine
