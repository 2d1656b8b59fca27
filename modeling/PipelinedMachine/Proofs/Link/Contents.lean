import Mathlib.Logic.Function.Iterate
import Mathlib.Tactic.Common
import PipelinedMachine.Link.Interconnect

/-!
# What a link carries

A channel holds its message in pieces while it is on its way.  Everything proved about links is
easier to say of the whole message, so this file gives each channel one: `Channel.inTransit?` while
it is under way, `Channel.waiting?` once it has arrived, `Channel.carried?` for both together.

**One channel.**  Ticks never change `carried?` (`carried?_tick`), a message is accepted exactly by
a channel that carries nothing (`send?_eq_some_iff`), and a message in transit arrives after some
number of ticks (`exists_iterate_tick_waiting?`).

**All channels.**  `Interconnect.outgoing?` is the channel out of a terminal.  Each operation of the
interconnect acts on it alone: `outgoing?_of_send?`, `outgoing?_clear`, `outgoing?_of_forward?`,
`outgoing?_tick`.  What a component sees at its terminal is then read off that channel.
-/

namespace PipelinedMachine

/-- A message that is seen now where none was seen before. -/
def Message.newly? (before now : Option Message) : Option Message :=
  match before with
  | none => now
  | some _ => none

@[simp] lemma Message.newly?_none (now : Option Message) : newly? none now = now := rfl

@[simp] lemma Message.newly?_some (message : Message) (now : Option Message) :
    newly? (some message) now = none := rfl

@[simp] lemma Message.newly?_self (seen : Option Message) : newly? seen seen = none := by
  cases seen <;> rfl

namespace Channel

/-! ## The message of a channel -/

/-- The message on its way through the channel, whole. -/
def inTransit? (channel : Channel) : Option Message :=
  match channel.transfer with
  | .underway arrived next rest => some (arrived.toList ++ next :: rest)
  | _ => none

/-- The message that the channel holds, on its way or arrived. -/
def carried? (channel : Channel) : Option Message :=
  channel.inTransit?.or channel.waiting?

lemma isSome_inTransit? (channel : Channel) : channel.inTransit?.isSome = channel.isSending := by
  rw [inTransit?, isSending]
  cases channel.transfer <;> rfl

/-- A message is never both on its way and arrived. -/
lemma waiting?_of_inTransit? {channel : Channel} {message : Message}
    (h : channel.inTransit? = some message) : channel.waiting? = none := by
  rw [inTransit?] at h
  rw [waiting?]
  cases ht : channel.transfer <;> simp_all

lemma inTransit?_of_waiting? {channel : Channel} {message : Message}
    (h : channel.waiting? = some message) : channel.inTransit? = none := by
  rw [waiting?] at h
  rw [inTransit?]
  cases ht : channel.transfer <;> simp_all

lemma carried?_of_inTransit? {channel : Channel} {message : Message}
    (h : channel.inTransit? = some message) : channel.carried? = some message := by
  simp [carried?, h]

lemma carried?_of_waiting? {channel : Channel} {message : Message}
    (h : channel.waiting? = some message) : channel.carried? = some message := by
  simp [carried?, h, inTransit?_of_waiting? h]

@[simp] lemma inTransit?_opened (period : UInt32) (capacity : Nat) :
    (opened period capacity).inTransit? = none := rfl

@[simp] lemma waiting?_opened (period : UInt32) (capacity : Nat) :
    (opened period capacity).waiting? = none := rfl

@[simp] lemma carried?_opened (period : UInt32) (capacity : Nat) :
    (opened period capacity).carried? = none := rfl

/-! ## Sending -/

/-- A message is accepted exactly when the channel carries nothing and the message has a length that
fits. -/
lemma isSome_send?_iff (channel : Channel) (message : Message) :
    (channel.send? message).isSome ↔
      channel.carried? = none ∧ message ≠ [] ∧ message.length ≤ channel.capacity := by
  simp only [send?, carried?, inTransit?, waiting?]
  cases channel.transfer with
  | free => cases message <;> simp
  | underway | delivered => cases message <;> simp

lemma send?_eq_some {channel after : Channel} {message : Message}
    (h : channel.send? message = some after) :
    channel.carried? = none ∧ after.inTransit? = some message ∧ after.capacity = channel.capacity
      ∧ message ≠ [] ∧ message.length ≤ channel.capacity := by
  simp only [send?] at h
  cases ht : channel.transfer <;> cases message <;> simp only [ht] at h <;>
    first | contradiction | skip
  split at h
  · next fits =>
    obtain rfl := Option.some.inj h
    refine ⟨?_, ?_, rfl, List.cons_ne_nil _ _, fits⟩
    · simp [carried?, inTransit?, waiting?, ht]
    · simp [inTransit?]
  · contradiction

/-! ## The clock -/

/-- The words that have crossed, the one that crosses and those to come are the same message before
and after. -/
lemma carried?_cross (channel : Channel) :
    ({ channel with transfer := cross channel.transfer } : Channel).carried?
      = channel.carried? := by
  simp only [carried?, inTransit?, waiting?]
  cases channel.transfer with
  | free | delivered => rfl
  | underway arrived next rest => cases rest <;> simp [cross]

@[simp] lemma carried?_tick (channel : Channel) : channel.tick.carried? = channel.carried? := by
  unfold tick
  split
  · next arrived next rest ht =>
    dsimp only
    split
    · rfl
    · rw [← carried?_cross channel, ht]
      rfl
  · rfl

@[simp] lemma capacity_tick (channel : Channel) : channel.tick.capacity = channel.capacity := by
  unfold tick
  split
  · dsimp only
    split <;> rfl
  · rfl

lemma waiting?_tick_of_waiting? {channel : Channel} {message : Message}
    (h : channel.waiting? = some message) : channel.tick.waiting? = some message := by
  rw [waiting?] at h
  rw [tick]
  cases ht : channel.transfer <;> simp_all [waiting?]

lemma tick_of_carried?_eq_none {channel : Channel} (h : channel.carried? = none) :
    channel.tick.inTransit? = none ∧ channel.tick.waiting? = none := by
  have after : channel.tick.carried? = none := by rw [carried?_tick, h]
  exact Option.or_eq_none_iff.mp after

/-- A message under way either is still under way after a tick or has arrived. -/
lemma tick_of_inTransit? {channel : Channel} {message : Message}
    (h : channel.inTransit? = some message) :
    channel.tick.inTransit? = some message ∧ channel.tick.waiting? = none
      ∨ channel.tick.inTransit? = none ∧ channel.tick.waiting? = some message := by
  have after : channel.tick.carried? = some message := by
    rw [carried?_tick, carried?_of_inTransit? h]
  rcases Option.or_eq_some_iff.mp after with transit | ⟨idle, arrived⟩
  · exact Or.inl ⟨transit, waiting?_of_inTransit? transit⟩
  · exact Or.inr ⟨idle, arrived⟩

/-- What is under way before a tick is what the tick shows, or else is under way after it. -/
lemma inTransit?_toList_eq (channel : Channel) :
    channel.inTransit?.toList
      = (Message.newly? channel.waiting? channel.tick.waiting?).toList
        ++ channel.tick.inTransit?.toList := by
  cases transit : channel.inTransit? with
  | some message =>
    rw [waiting?_of_inTransit? transit]
    rcases tick_of_inTransit? transit with ⟨still, unseen⟩ | ⟨arrived, seen⟩
    · simp [still, unseen]
    · simp [arrived, seen]
  | none =>
    cases waiting : channel.waiting? with
    | none =>
      have nothing : channel.carried? = none := by simp [carried?, transit, waiting]
      have idle := tick_of_carried?_eq_none nothing
      simp [idle.1, idle.2]
    | some message =>
      have idle := inTransit?_of_waiting? (waiting?_tick_of_waiting? waiting)
      simp [idle]

/-! ## Arrival -/

/-- The next word crosses after finitely many ticks.  The induction is on how far the clock is from
the period, which it reaches because it only stops at the largest number there is. -/
lemma exists_iterate_tick_cross {channel : Channel} {arrived : Array Word} {next : Word}
    {rest : List Word} (h : channel.transfer = .underway arrived next rest) :
    ∃ n, (tick^[n] channel).transfer = cross channel.transfer := by
  generalize distance : channel.period.toNat - channel.elapsed.toNat = d
  induction d using Nat.strongRecOn generalizing channel with
  | ind d ih =>
    by_cases due : tickElapsed channel.elapsed < channel.period
    · have bound := channel.period.toNat_lt_size
      have exact := toNat_tickElapsed channel.elapsed
      have below := UInt32.lt_iff_toNat_lt.mp due
      have stay : channel.tick = { channel with elapsed := tickElapsed channel.elapsed } := by
        simp [tick, h, due]
      obtain ⟨n, crossed⟩ := ih (channel.tick.period.toNat - channel.tick.elapsed.toNat)
        (by rw [stay]; dsimp only; omega) (by rw [stay]; exact h) rfl
      refine ⟨n + 1, ?_⟩
      rw [Function.iterate_succ_apply, crossed, stay]
    · refine ⟨1, ?_⟩
      simp [tick, h, due]

lemma exists_iterate_tick_waiting? {channel : Channel} {message : Message}
    (h : channel.inTransit? = some message) : ∃ n, (tick^[n] channel).waiting? = some message := by
  rw [inTransit?] at h
  split at h
  · next arrived next rest ht =>
    obtain rfl := Option.some.inj h
    clear h
    -- each crossing takes one word off the rest, and the last one completes the message
    induction rest generalizing channel arrived next with
    | nil =>
      obtain ⟨n, crossed⟩ := exists_iterate_tick_cross ht
      refine ⟨n, ?_⟩
      simp [waiting?, crossed, ht, cross]
    | cons word rest ih =>
      obtain ⟨n, crossed⟩ := exists_iterate_tick_cross ht
      rw [ht] at crossed
      obtain ⟨m, arrives⟩ := ih _ _ crossed
      refine ⟨m + n, ?_⟩
      rw [Function.iterate_add_apply, arrives]
      simp
  · contradiction

/-! ## Clearing -/

/-- Clearing takes away what has arrived and nothing else. -/
@[simp] lemma inTransit?_clear (channel : Channel) :
    channel.clear.inTransit? = channel.inTransit? := by
  simp only [clear, inTransit?]
  cases ht : channel.transfer <;> simp [ht]

@[simp] lemma capacity_clear (channel : Channel) : channel.clear.capacity = channel.capacity := by
  rw [clear]
  split <;> rfl

@[simp] lemma carried?_clear (channel : Channel) : channel.clear.carried? = channel.inTransit? := by
  simp [carried?]

end Channel

/-! ## Terminals -/

lemma Terminal.peer_ne (terminal : Terminal) : terminal.peer ≠ terminal := by
  obtain ⟨i⟩ := terminal
  intro h
  have index := congrArg Terminal.index h
  rw [peer] at index
  split at index
  · exact absurd index (Nat.succ_ne_self i)
  · next odd =>
    simp only at odd index
    omega

lemma Terminal.peer_inj {a b : Terminal} : a.peer = b.peer ↔ a = b :=
  ⟨fun same => by rw [← a.peer_peer, same, b.peer_peer], congrArg peer⟩

namespace Interconnect

/-! ## The channel out of a terminal -/

/-- The channel that a terminal sends into, which its peer receives from. -/
def outgoing? (bus : Interconnect) (terminal : Terminal) : Option Channel :=
  bus.channels[terminal.index]?

/-- The message on its way from a terminal, whole. -/
def inTransit? (bus : Interconnect) (terminal : Terminal) : Option Message :=
  (bus.outgoing? terminal).bind Channel.inTransit?

/-- The message sent from a terminal and not yet taken by its peer. -/
def carried? (bus : Interconnect) (terminal : Terminal) : Option Message :=
  (bus.outgoing? terminal).bind Channel.carried?

lemma isSome_outgoing?_iff {bus : Interconnect} {terminal : Terminal} :
    (bus.outgoing? terminal).isSome ↔ terminal.index < bus.size := by
  simp [outgoing?, size]

lemma message?_eq (bus : Interconnect) (terminal : Terminal) :
    bus.message? terminal = (bus.outgoing? terminal.peer).bind Channel.waiting? := by
  rw [message?, outgoing?]
  cases bus.channels[terminal.peer.index]? <;> rfl

lemma message?_peer (bus : Interconnect) (terminal : Terminal) :
    bus.message? terminal.peer = (bus.outgoing? terminal).bind Channel.waiting? := by
  rw [message?_eq, Terminal.peer_peer]

lemma isSending_eq (bus : Interconnect) (terminal : Terminal) :
    bus.isSending terminal = (bus.inTransit? terminal).isSome := by
  rw [isSending, inTransit?, outgoing?]
  cases bus.channels[terminal.index]? with
  | none => rfl
  | some channel => exact (Channel.isSome_inTransit? channel).symm

lemma capacity_eq (bus : Interconnect) (terminal : Terminal) :
    bus.capacity terminal = ((bus.outgoing? terminal).map Channel.capacity).getD 0 := by
  rw [capacity, outgoing?]
  cases bus.channels[terminal.index]? <;> rfl

/-- What is carried is either on its way or waiting at the other end. -/
lemma carried?_eq (bus : Interconnect) (terminal : Terminal) :
    bus.carried? terminal = (bus.inTransit? terminal).or (bus.message? terminal.peer) := by
  rw [message?_peer]
  rw [carried?, inTransit?]
  cases bus.outgoing? terminal <;> rfl

lemma carried?_of_message? {bus : Interconnect} {terminal : Terminal} {message : Message}
    (h : bus.message? terminal = some message) : bus.carried? terminal.peer = some message := by
  rw [message?_eq, Option.bind_eq_some_iff] at h
  obtain ⟨channel, found, arrived⟩ := h
  simp [carried?, found, Channel.carried?_of_waiting? arrived]

/-! ## What the operations do to it -/

/-- A message is accepted exactly when it fits and nothing sent before it is still on its way or
unread. -/
lemma isSome_send?_iff (bus : Interconnect) (terminal : Terminal) (message : Message) :
    (bus.send? terminal message).isSome ↔
      terminal.index < bus.size ∧ bus.carried? terminal = none ∧ message ≠ []
        ∧ message.length ≤ bus.capacity terminal := by
  rw [send?, size]
  split
  · next inside =>
    have found : bus.outgoing? terminal = some bus.channels[terminal.index] := by
      simp [outgoing?, inside]
    rw [Option.isSome_map, Channel.isSome_send?_iff, carried?, capacity_eq, found]
    simp [inside]
  · next outside => simp [outside]

/-- Sending replaces the channel out of the terminal and no other. -/
lemma outgoing?_of_send? {bus after : Interconnect} {terminal : Terminal} {message : Message}
    (h : bus.send? terminal message = some after) :
    ∃ channel accepted, bus.outgoing? terminal = some channel
      ∧ channel.send? message = some accepted
      ∧ ∀ a, after.outgoing? a = if a = terminal then some accepted else bus.outgoing? a := by
  rw [send?] at h
  split at h
  · next inside =>
    obtain ⟨accepted, sent, rfl⟩ := Option.map_eq_some_iff.mp h
    refine ⟨_, accepted, by simp [outgoing?, inside], sent, fun a => ?_⟩
    simp only [outgoing?]
    by_cases same : a = terminal
    · simp [same, inside]
    · have apart : terminal.index ≠ a.index := fun i => same (by cases a; cases terminal; simp_all)
      simp [same, apart]
  · contradiction

lemma outgoing?_clear (bus : Interconnect) (terminal a : Terminal) :
    (bus.clear terminal).outgoing? a
      = if a = terminal.peer then (bus.outgoing? a).map Channel.clear else bus.outgoing? a := by
  simp only [clear, outgoing?]
  by_cases same : a = terminal.peer
  · simp [same, Array.getElem?_modify]
  · have apart : terminal.peer.index ≠ a.index := fun i =>
      same (by cases a; generalize terminal.peer = b at *; cases b; simp_all)
    simp [same, Array.getElem?_modify, apart]

@[simp] lemma outgoing?_tick (bus : Interconnect) (a : Terminal) :
    bus.tick.outgoing? a = (bus.outgoing? a).map Channel.tick := by
  simp [tick, outgoing?]

lemma outgoing?_link (bus : Interconnect) (period : UInt32) (capacity : Nat) (a : Terminal) :
    (bus.link period capacity).1.outgoing? a
      = if a.index < bus.size then bus.outgoing? a
        else if a.index < bus.size + 2 then some (Channel.opened period capacity) else none := by
  rw [link, outgoing?, size]
  simp only [Array.getElem?_push, Array.size_push]
  split_ifs <;> first | rfl | omega | simp_all

/-! ## Sending and clearing, as a component sees them -/

section Seen

variable {bus after : Interconnect} {terminal : Terminal} {message : Message}

/-- What has been sent was not sendable before and is in transit afterwards. -/
lemma inTransit?_of_send? (h : bus.send? terminal message = some after) :
    bus.carried? terminal = none ∧ after.inTransit? terminal = some message := by
  obtain ⟨channel, accepted, found, sent, replaced⟩ := outgoing?_of_send? h
  obtain ⟨free, transit, _⟩ := Channel.send?_eq_some sent
  have here := replaced terminal
  rw [if_pos rfl] at here
  simp [carried?, inTransit?, found, here, free, transit]

/-- What has been sent has words, and no more of them than the channel takes. -/
lemma length_of_send? (h : bus.send? terminal message = some after) :
    message ≠ [] ∧ message.length ≤ after.capacity terminal := by
  obtain ⟨channel, accepted, found, sent, replaced⟩ := outgoing?_of_send? h
  obtain ⟨_, _, same, nonempty, fits⟩ := Channel.send?_eq_some sent
  refine ⟨nonempty, ?_⟩
  rw [capacity_eq, replaced terminal, if_pos rfl]
  simpa [same] using fits

/-- While a message is on its way, the other end sees nothing. -/
lemma message?_peer_of_inTransit? (h : bus.inTransit? terminal = some message) :
    bus.message? terminal.peer = none := by
  rw [message?_peer]
  rw [inTransit?, Option.bind_eq_some_iff] at h
  obtain ⟨channel, found, transit⟩ := h
  rw [found, Option.bind_some, Channel.waiting?_of_inTransit? transit]

/-- Sending concerns only the channel out of the terminal. -/
lemma outgoing?_of_send?_of_ne (h : bus.send? terminal message = some after) {a : Terminal}
    (apart : a ≠ terminal) : after.outgoing? a = bus.outgoing? a := by
  obtain ⟨_, _, _, _, replaced⟩ := outgoing?_of_send? h
  rw [replaced a, if_neg apart]

lemma carried?_of_send? (h : bus.send? terminal message = some after) :
    after.carried? terminal = some message := by
  rw [carried?_eq, (inTransit?_of_send? h).2, Option.some_or]

lemma carried?_of_send?_of_ne (h : bus.send? terminal message = some after) {a : Terminal}
    (apart : a ≠ terminal) : after.carried? a = bus.carried? a := by
  rw [carried?, carried?, outgoing?_of_send?_of_ne h apart]

lemma message?_of_send?_of_ne (h : bus.send? terminal message = some after) {a : Terminal}
    (apart : a.peer ≠ terminal) : after.message? a = bus.message? a := by
  rw [message?_eq, message?_eq, outgoing?_of_send?_of_ne h apart]

/-- What waits at a terminal does not change when something is sent from there. -/
lemma message?_of_send? (h : bus.send? terminal message = some after) :
    after.message? terminal = bus.message? terminal :=
  message?_of_send?_of_ne h (Terminal.peer_ne terminal)

/-- Clearing concerns only the channel into the terminal. -/
lemma outgoing?_clear_of_ne {a : Terminal} (apart : a ≠ terminal.peer) :
    (bus.clear terminal).outgoing? a = bus.outgoing? a := by
  rw [outgoing?_clear, if_neg apart]

lemma carried?_clear_of_ne {a : Terminal} (apart : a ≠ terminal.peer) :
    (bus.clear terminal).carried? a = bus.carried? a := by
  rw [carried?, carried?, outgoing?_clear_of_ne apart]

@[simp] lemma message?_clear : (bus.clear terminal).message? terminal = none := by
  rw [message?_eq, outgoing?_clear, if_pos rfl]
  cases bus.outgoing? terminal.peer <;> simp

@[simp] lemma inTransit?_clear (a : Terminal) :
    (bus.clear terminal).inTransit? a = bus.inTransit? a := by
  simp only [inTransit?]
  rw [outgoing?_clear]
  split
  · cases bus.outgoing? a <;> simp
  · rfl

/-- Once the waiting message has been taken, nothing is left on its channel. -/
lemma carried?_clear_of_message? (h : bus.message? terminal = some message) :
    (bus.clear terminal).carried? terminal.peer = none := by
  have idle : bus.inTransit? terminal.peer = none := by
    by_contra busy
    obtain ⟨other, busy⟩ := Option.ne_none_iff_exists'.mp busy
    have hidden := message?_peer_of_inTransit? busy
    rw [Terminal.peer_peer, h] at hidden
    contradiction
  rw [carried?_eq, inTransit?_clear, idle, Terminal.peer_peer, message?_clear]
  rfl

/-- Clearing puts nothing on any channel. -/
@[simp] lemma newly?_carried?_clear (a : Terminal) :
    Message.newly? (bus.carried? a) ((bus.clear terminal).carried? a) = none := by
  cases before : bus.carried? a with
  | some message => rfl
  | none =>
    rw [Message.newly?_none, carried?, outgoing?_clear]
    split
    · rw [carried?] at before
      cases found : bus.outgoing? a with
      | none => rfl
      | some channel =>
        rw [found, Option.bind_some, Channel.carried?, Option.or_eq_none_iff] at before
        simp [before.1]
    · exact before

@[simp] lemma capacity_clear (a : Terminal) :
    (bus.clear terminal).capacity a = bus.capacity a := by
  rw [capacity_eq, capacity_eq, outgoing?_clear]
  split
  · cases bus.outgoing? a <;> simp
  · rfl

@[simp] lemma carried?_tick (a : Terminal) : bus.tick.carried? a = bus.carried? a := by
  simp only [carried?]
  rw [outgoing?_tick]
  cases bus.outgoing? a <;> simp

end Seen

end Interconnect

end PipelinedMachine
