import PipelinedMachine.Proofs.Link.Delivery
import PipelinedMachine.Proofs.Link.Passing

/-!
# Links with checked accesses

A machine's steps are total functions: a look-up beyond the end gives nothing, and counts have no
bound.  Buffers of a fixed length and numbers of a fixed width are less patient.  An index beyond
the buffer, or a result beyond the width, is a panic, and there is no machine after it.  The modules
of this group give each step a second time, with every such check made where the access is, and
prove that none of the checks fails.

This one has the checks and the links.  Each terminal has a port with two buffers, for the message
that it sends and for the one that it receives, and both are as long as the longest message.

* `Panic`, `Checked` — why a checked step stops, and what it gives otherwise;
* `Checked.place`, `Checked.slice`, `Checked.element`, `Checked.remove` — checked accesses;
* `Checked.add`, `Checked.sub` — checked arithmetic;
* `Interconnect.messageChecked`, `Interconnect.sendChecked`, `Interconnect.clearChecked`,
  `Interconnect.forwardChecked`, `Interconnect.tickChecked` — the operations of the links;
* **`Interconnect.Sturdy`** — the invariant that keeps all of them inside the buffers.
-/

namespace PipelinedMachine

/-! ## Checks -/

/-- Why a checked step stops. -/
inductive Panic where
  /-- An index or a slice goes beyond a buffer. -/
  | outOfBounds
  /-- A result is too large or too small for the width of its numbers. -/
  | overflow
deriving DecidableEq, Repr

/-- What a checked step gives. -/
abbrev Checked (α : Type) := Except Panic α

namespace Checked

variable {α : Type}

/-- An access to a place of a buffer of `size` elements. -/
def place (size index : Nat) : Checked Unit :=
  if index < size then pure () else throw .outOfBounds

/-- An access to the first `length` elements of a buffer of `size` elements. -/
def slice (size length : Nat) : Checked Unit :=
  if length ≤ size then pure () else throw .outOfBounds

/-- The element at a place of a buffer. -/
def element (values : Array α) (index : Nat) : Checked α :=
  match values[index]? with
  | some value => pure value
  | none => throw .outOfBounds

/-- A row of elements without the one at a place. -/
def remove (values : List α) (index : Nat) : Checked (List α) :=
  if index < values.length then pure (values.eraseIdx index) else throw .outOfBounds

/-- The sum of two numbers of 64 bits. -/
def add (a b : Nat) : Checked Nat :=
  if a + b < UInt64.size then pure (a + b) else throw .overflow

/-- The difference of two numbers of 32 bits. -/
def sub (a b : UInt32) : Checked UInt32 :=
  if b ≤ a then pure (a - b) else throw .overflow

lemma place_eq {size index : Nat} (inside : index < size) : place size index = pure () :=
  if_pos inside

lemma slice_eq {size length : Nat} (inside : length ≤ size) : slice size length = pure () :=
  if_pos inside

lemma element_eq {values : Array α} {index : Nat} {value : α}
    (found : values[index]? = some value) : element values index = pure value := by
  rw [element, found]

lemma remove_eq {values : List α} {index : Nat} (inside : index < values.length) :
    remove values index = pure (values.eraseIdx index) :=
  if_pos inside

lemma add_eq {a b : Nat} (inside : a + b < UInt64.size) : add a b = pure (a + b) :=
  if_pos inside

lemma sub_eq {a b : UInt32} (inside : b ≤ a) : sub a b = pure (a - b) := if_pos inside

lemma sub_one_eq {a : UInt32} (positive : a > 0) : sub a 1 = pure (a - 1) :=
  sub_eq (UInt32.le_iff_toNat_le.mpr (UInt32.lt_iff_toNat_lt.mp positive))

/-- Some checked steps after each other, none of which stops. -/
lemma mapM_eq {β : Type} {step : α → Checked β} {result : α → β} {values : List α}
    (each : ∀ value ∈ values, step value = pure (result value)) :
    values.mapM step = pure (values.map result) := by
  induction values with
  | nil => rfl
  | cons value rest ih =>
    rw [List.mapM_cons, each value List.mem_cons_self, pure_bind,
      ih fun value member => each value (List.mem_cons_of_mem _ member), pure_bind, List.map_cons]

end Checked

/-- Links have two ends. -/
lemma Terminal.index_peer_lt {a : Terminal} {terminals : Nat} (even : terminals % 2 = 0)
    (inside : a.index < terminals) : a.peer.index < terminals := by
  rw [peer]
  split <;> simp only <;> omega

namespace Interconnect

/-! ## Checked links -/

/-- The port of a terminal: its buffers have the capacity of the channel that it sends into. -/
def portChecked (bus : Interconnect) (terminal : Terminal) : Checked Channel :=
  Checked.element bus.channels terminal.index

/-- The longest message that a terminal takes. -/
def capacityChecked (bus : Interconnect) (terminal : Terminal) : Checked Nat := do
  let port ← bus.portChecked terminal
  pure port.capacity

/-- Whether a message waits at a terminal. -/
def hasMessageChecked (bus : Interconnect) (terminal : Terminal) : Checked Bool := do
  let _ ← bus.portChecked terminal
  pure (bus.hasMessage terminal)

/-- The message waiting at a terminal: so much of the receive buffer as has been filled. -/
def messageChecked (bus : Interconnect) (terminal : Terminal) : Checked (Option Message) := do
  let port ← bus.portChecked terminal
  match bus.message? terminal with
  | some message => do
    Checked.slice port.capacity message.length
    pure (some message)
  | none => pure none

/-- Starts a message from a terminal: both ports are looked at, and a message that is not refused is
copied to the front of the send buffer. -/
def sendChecked (bus : Interconnect) (terminal : Terminal) (message : Message) :
    Checked (Option Interconnect) := do
  let port ← bus.portChecked terminal
  let _ ← bus.portChecked terminal.peer
  match bus.send? terminal message with
  | some after => do
    Checked.slice port.capacity message.length
    pure (some after)
  | none => pure none

/-- Takes the waiting message away from a terminal. -/
def clearChecked (bus : Interconnect) (terminal : Terminal) : Checked Interconnect := do
  let _ ← bus.portChecked terminal
  pure (bus.clear terminal)

/-- Passes the message waiting at `source` on through `target`. -/
def forwardChecked (bus : Interconnect) (source target : Terminal) :
    Checked (Option Interconnect) := do
  match ← bus.messageChecked source with
  | some message => do
    match ← bus.sendChecked target message with
    | some after => do
      let cleared ← after.clearChecked source
      pure (some cleared)
    | none => pure none
  | none => pure none

/-- One tick of the terminal with the given index.  The word that crosses is read from the place of
the send buffer that follows those words that have arrived, and goes to the same place of the
receive buffer at the other end. -/
def tickPort (bus : Interconnect) (index : Nat) : Checked Channel := do
  let port ← Checked.element bus.channels index
  match port.transfer with
  | .underway arrived _ _ =>
    if Channel.tickElapsed port.elapsed < port.period then pure port.tick
    else do
      Checked.place port.capacity arrived.size
      let _ ← Checked.add arrived.size 1
      let peer ← bus.portChecked (Terminal.mk index).peer
      Checked.place peer.capacity arrived.size
      pure port.tick
  | .free | .delivered _ => pure port.tick

/-- One tick of every terminal. -/
def tickChecked (bus : Interconnect) : Checked Interconnect := do
  let channels ← (List.finRange bus.size).mapM fun index => bus.tickPort index.val
  pure ⟨channels.toArray⟩

/-! ## The invariant -/

/-- The links of a machine with the given number of terminals.  Every terminal has a peer, both have
buffers of the same size, and no message is longer than these. -/
structure Sturdy (bus : Interconnect) (terminals : Nat) : Prop where
  size : bus.size = terminals
  even : terminals % 2 = 0
  small : ∀ a, bus.capacity a < UInt64.size
  alike : ∀ a : Terminal, a.index < terminals → bus.capacity a.peer = bus.capacity a
  fits : ∀ a, bus.Fits a

variable {bus after : Interconnect} {terminals : Nat} {near source target : Terminal}
  {message : Message}

lemma size_eq_of_isSome (same : ∀ a, (after.outgoing? a).isSome = (bus.outgoing? a).isSome) :
    after.size = bus.size := by
  have first := same ⟨bus.size⟩
  have second := same ⟨after.size⟩
  rw [Bool.eq_iff_iff, isSome_outgoing?_iff, isSome_outgoing?_iff] at first second
  simp only [Nat.lt_irrefl, iff_false, false_iff, Nat.not_lt] at first second
  exact Nat.le_antisymm first second

namespace Sturdy

/-- No turn changes what the invariant says. -/
lemma kept (terminals : Nat) : Kept fun bus => bus.Sturdy terminals := by
  intro near bus after taken sent handled sturdy
  have capacity := handled.capacity_eq
  exact {
    size := (size_eq_of_isSome handled.isSome_outgoing?).trans sturdy.size
    even := sturdy.even
    small := fun a => by
      rw [capacity]
      exact sturdy.small a
    alike := fun a inside => by
      rw [capacity, capacity]
      exact sturdy.alike a inside
    fits := fun a message carried => by
      rw [capacity]
      by_cases here : a = near
      · subst here
        rw [handled.carried?_near] at carried
        cases sent with
        | none => exact sturdy.fits a message carried
        | some other =>
          obtain rfl := Option.some.inj carried
          exact handled.carried?_of_sent.2.2
      · by_cases there : a = near.peer
        · subst there
          rw [handled.carried?_peer] at carried
          split at carried
          · contradiction
          · exact sturdy.fits _ message carried
        · rw [handled.carried?_apart here there] at carried
          exact sturdy.fits a message carried }

lemma tick (sturdy : bus.Sturdy terminals) : bus.tick.Sturdy terminals := by
  have capacity (a : Terminal) : bus.tick.capacity a = bus.capacity a := by
    rw [capacity_eq, capacity_eq, outgoing?_tick]
    cases bus.outgoing? a <;> simp
  exact {
    size := (size_eq_of_isSome fun a => by simp).trans sturdy.size
    even := sturdy.even
    small := fun a => by
      rw [capacity]
      exact sturdy.small a
    alike := fun a inside => by
      rw [capacity, capacity]
      exact sturdy.alike a inside
    fits := fun a => (sturdy.fits a).apply .tick }

/-! ## No check fails -/

variable (sturdy : bus.Sturdy terminals) (inside : near.index < terminals)
include sturdy inside

lemma peer_inside : near.peer.index < terminals := Terminal.index_peer_lt sturdy.even inside

lemma port : ∃ channel, bus.portChecked near = pure channel
    ∧ channel.capacity = bus.capacity near := by
  have found : (bus.outgoing? near).isSome := by
    rwa [isSome_outgoing?_iff, sturdy.size]
  obtain ⟨channel, found⟩ := Option.isSome_iff_exists.mp found
  exact ⟨channel, Checked.element_eq found, by simp [capacity_eq, found]⟩

lemma capacityChecked_eq : bus.capacityChecked near = pure (bus.capacity near) := by
  obtain ⟨channel, port, capacity⟩ := sturdy.port inside
  rw [capacityChecked, port, pure_bind, capacity]

lemma hasMessageChecked_eq : bus.hasMessageChecked near = pure (bus.hasMessage near) := by
  obtain ⟨channel, port, -⟩ := sturdy.port inside
  rw [hasMessageChecked, port, pure_bind]

/-- What has been received is no longer than the receive buffer. -/
lemma messageChecked_eq : bus.messageChecked near = pure (bus.message? near) := by
  obtain ⟨channel, port, capacity⟩ := sturdy.port inside
  rw [messageChecked, port, pure_bind, capacity]
  cases waiting : bus.message? near with
  | none => rfl
  | some message =>
    have fits := (sturdy.fits near.peer message (carried?_of_message? waiting)).2
    rw [sturdy.alike near inside] at fits
    simp only [Checked.slice_eq fits, pure_bind]

/-- What is sent is no longer than the send buffer. -/
lemma sendChecked_eq (message : Message) :
    bus.sendChecked near message = pure (bus.send? near message) := by
  obtain ⟨channel, port, capacity⟩ := sturdy.port inside
  obtain ⟨peer, far, -⟩ := sturdy.port (sturdy.peer_inside inside)
  rw [sendChecked, port, pure_bind, far, pure_bind, capacity]
  cases sent : bus.send? near message with
  | none => rfl
  | some after =>
    have fits := ((isSome_send?_iff bus near message).mp (Option.isSome_of_eq_some sent)).2.2.2
    simp only [Checked.slice_eq fits, pure_bind]

lemma clearChecked_eq : bus.clearChecked near = pure (bus.clear near) := by
  obtain ⟨channel, port, -⟩ := sturdy.port inside
  rw [clearChecked, port, pure_bind]

lemma forwardChecked_eq (far : target.index < terminals) :
    bus.forwardChecked near target = pure (bus.forward? near target) := by
  rw [forwardChecked, sturdy.messageChecked_eq inside, pure_bind, forward?]
  cases bus.message? near with
  | none => rfl
  | some message =>
    simp only [sturdy.sendChecked_eq far, pure_bind]
    cases sent : bus.send? target message with
    | none => rfl
    | some after =>
      simp only [((kept terminals).send sent sturdy).clearChecked_eq inside, pure_bind,
        Option.map_some]

omit inside in
/-- The word that crosses has its place in both buffers. -/
lemma tickPort_eq {index : Nat} {channel : Channel} (found : bus.channels[index]? = some channel) :
    bus.tickPort index = pure channel.tick := by
  rw [tickPort, Checked.element_eq found, pure_bind]
  cases transfer : channel.transfer with
  | free | delivered message => rfl
  | underway arrived next rest =>
    let near : Terminal := ⟨index⟩
    have found : bus.outgoing? near = some channel := found
    have inside : near.index < terminals := by
      have here := isSome_outgoing?_iff.mp (Option.isSome_of_eq_some found)
      rwa [sturdy.size] at here
    have capacity : bus.capacity near = channel.capacity := by rw [capacity_eq, found]; rfl
    have place : arrived.size < channel.capacity := by
      have carried : bus.carried? near = some (arrived.toList ++ next :: rest) := by
        simp [carried?, found, Channel.carried?, Channel.inTransit?, transfer]
      have fits := (sturdy.fits near _ carried).2
      simp only [List.length_append, List.length_cons, Array.length_toList] at fits
      omega
    have small := sturdy.small near
    obtain ⟨peer, port, same⟩ := sturdy.port (sturdy.peer_inside inside)
    rw [sturdy.alike near inside, capacity] at same
    change (if _ then _ else _) = _
    split
    · rfl
    · rw [Checked.place_eq place, pure_bind, Checked.add_eq (by omega), pure_bind, port, pure_bind,
        Checked.place_eq (by rwa [same]), pure_bind]

omit inside in
lemma tickChecked_eq : bus.tickChecked = pure bus.tick := by
  rw [tickChecked, Checked.mapM_eq fun index _ => sturdy.tickPort_eq
    (Array.getElem?_eq_getElem index.isLt), pure_bind, Interconnect.tick]
  congr 2
  apply Array.ext
  · simp [Interconnect.size]
  · intro i first second
    simp

end Sturdy

end Interconnect

end PipelinedMachine
