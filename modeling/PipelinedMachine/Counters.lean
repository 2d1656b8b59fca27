/-!
# Counters

What the machine counts while it runs.  Every counter saturates: it stays at the largest 64-bit
number rather than starting over.

* `Counter` — what can be counted;
* `Counters` — the counts, with `Counters.get` and `Counters.record`;
* `Counters.text` — the counts as a report, one line each.
-/

namespace PipelinedMachine

/-- An event worth counting. -/
inductive Counter where
  /-- An execution unit completed an instruction. -/
  | instructionsExecuted
  /-- A load waited for its link or its answer. -/
  | loadWaits
  /-- A store waited for its link. -/
  | storeWaits
  /-- Fetch or dispatch waited for instructions. -/
  | fetchWaits
  /-- An interrupt request or the search for a handler waited for its link or its answer. -/
  | interruptWaits
  /-- Dispatch found the instruction it wanted. -/
  | cacheHits
  /-- Dispatch did not find the instruction it wanted. -/
  | cacheMisses
  /-- Fetch asked for a block of instructions. -/
  | fetchRequests
  /-- The handler of an interrupt was found. -/
  | interruptsServiced
deriving DecidableEq, Repr

/-- Every counter, in the order in which they are reported. -/
def Counter.all : List Counter :=
  [.instructionsExecuted, .loadWaits, .storeWaits, .fetchWaits, .interruptWaits, .cacheHits,
    .cacheMisses, .fetchRequests, .interruptsServiced]

/-- The label of the counter in a report, padded to a common width. -/
def Counter.label : Counter → String
  | instructionsExecuted => "instructions executed: "
  | loadWaits => "load waits:            "
  | storeWaits => "store waits:           "
  | fetchWaits => "fetch waits:           "
  | interruptWaits => "interrupt waits:       "
  | cacheHits => "icache hits:           "
  | cacheMisses => "icache misses:         "
  | fetchRequests => "fetch requests:        "
  | interruptsServiced => "interrupts serviced:   "

/-- The counts so far. -/
structure Counters where
  instructionsExecuted : UInt64 := 0
  loadWaits : UInt64 := 0
  storeWaits : UInt64 := 0
  fetchWaits : UInt64 := 0
  interruptWaits : UInt64 := 0
  cacheHits : UInt64 := 0
  cacheMisses : UInt64 := 0
  fetchRequests : UInt64 := 0
  interruptsServiced : UInt64 := 0
deriving DecidableEq, Repr

/-- One more, unless the count is already the largest there is. -/
def saturatingSucc (count : UInt64) : UInt64 :=
  if count + 1 = 0 then count else count + 1

/-- Below the largest count the successor is exact. -/
theorem toNat_saturatingSucc (count : UInt64) :
    (saturatingSucc count).toNat = min (count.toNat + 1) (UInt64.size - 1) := by
  have bound := count.toNat_lt_size
  rw [saturatingSucc, UInt64.size] at *
  split
  · next wraps =>
    have := congrArg UInt64.toNat wraps
    simp only [UInt64.toNat_add, UInt64.toNat_one, UInt64.toNat_zero] at this
    omega
  · next fits =>
    have : (count + 1).toNat ≠ 0 := fun h => fits (UInt64.toNat.inj h)
    simp only [UInt64.toNat_add, UInt64.toNat_one] at this ⊢
    omega

namespace Counters

/-- The count of one event. -/
def get (counters : Counters) : Counter → UInt64
  | .instructionsExecuted => counters.instructionsExecuted
  | .loadWaits => counters.loadWaits
  | .storeWaits => counters.storeWaits
  | .fetchWaits => counters.fetchWaits
  | .interruptWaits => counters.interruptWaits
  | .cacheHits => counters.cacheHits
  | .cacheMisses => counters.cacheMisses
  | .fetchRequests => counters.fetchRequests
  | .interruptsServiced => counters.interruptsServiced

/-- Counts one event. -/
def record (counters : Counters) : Counter → Counters
  | .instructionsExecuted =>
    { counters with instructionsExecuted := saturatingSucc counters.instructionsExecuted }
  | .loadWaits => { counters with loadWaits := saturatingSucc counters.loadWaits }
  | .storeWaits => { counters with storeWaits := saturatingSucc counters.storeWaits }
  | .fetchWaits => { counters with fetchWaits := saturatingSucc counters.fetchWaits }
  | .interruptWaits => { counters with interruptWaits := saturatingSucc counters.interruptWaits }
  | .cacheHits => { counters with cacheHits := saturatingSucc counters.cacheHits }
  | .cacheMisses => { counters with cacheMisses := saturatingSucc counters.cacheMisses }
  | .fetchRequests => { counters with fetchRequests := saturatingSucc counters.fetchRequests }
  | .interruptsServiced =>
    { counters with interruptsServiced := saturatingSucc counters.interruptsServiced }

/-- Recording an event adds one to its own count and leaves every other alone. -/
theorem get_record (counters : Counters) (event other : Counter) :
    (counters.record event).get other =
      if event = other then saturatingSucc (counters.get other) else counters.get other := by
  cases event <;> cases other <;> rfl

/-- The counts as a report, one line for each counter and no line break at the end. -/
def text (counters : Counters) : String :=
  "\n".intercalate <| Counter.all.map fun counter =>
    counter.label ++ toString (counters.get counter).toNat

end Counters

end PipelinedMachine
