import PipelinedMachine.Proofs.Link.Delivery
import PipelinedMachine.Proofs.Link.Rounds

/-!
# How long a message takes

The word clock of a channel runs from the moment the link is made, whether words cross or not, and
starts again whenever one does.  So the first word of a message crosses as soon as the clock has
run for a period since the word before it, which may have been long ago, and each later one a
period after the last.

* `Interconnect.wordsLeft` — the words of a message that have still to cross;
* `Interconnect.ticksSince` — for how many ticks no word has left a terminal, read off its words
  alone;
* `Channel.Rests` — nothing moves on a channel while no tick passes;
* `Channel.Paced` — the clock of a channel shows the ticks since a word last crossed;
* `Interconnect.Delivers` — the message arrives with one particular tick;
* **`Interconnect.delivers_of_send?`** — which tick that is, for every accepted message on every
  link, whatever is done on the interconnect meanwhile.
-/

namespace PipelinedMachine

namespace Channel

variable {channel between later accepted : Channel} {message : Message}

/-- The words of the message on its way that have still to cross. -/
def wordsLeft (channel : Channel) : Nat :=
  match channel.transfer with
  | .underway _ _ rest => rest.length + 1
  | .free | .delivered _ => 0

/-! ## Without a tick -/

/-- What is on its way has come no further, and neither has the clock. -/
structure Rests (channel later : Channel) : Prop where
  period : later.period = channel.period
  elapsed : later.elapsed = channel.elapsed
  underway : channel.isSending = true → later.transfer = channel.transfer

lemma rests_self (channel : Channel) : channel.Rests channel := ⟨rfl, rfl, fun _ => rfl⟩

lemma Rests.trans (first : channel.Rests between) (second : between.Rests later) :
    channel.Rests later where
  period := second.period.trans first.period
  elapsed := second.elapsed.trans first.elapsed
  underway sending := by
    have same := first.underway sending
    have still : between.isSending = true := by rwa [isSending, same, ← isSending]
    exact (second.underway still).trans same

lemma rests_clear (channel : Channel) : channel.Rests channel.clear := by
  cases held : channel.transfer with
  | free | underway => simpa [clear, held] using channel.rests_self
  | delivered message =>
    refine ⟨by simp [clear, held], by simp [clear, held], fun sending => ?_⟩
    simp [isSending, held] at sending

lemma rests_of_send? (sent : channel.send? message = some accepted) : channel.Rests accepted := by
  have idle : channel.isSending = false := by
    have free := (send?_eq_some sent).1
    rw [carried?, Option.or_eq_none_iff] at free
    simp [← isSome_inTransit?, free.1]
  obtain ⟨next, rest, -, rfl⟩ := eq_of_send? sent
  exact ⟨rfl, rfl, fun sending => by simp [idle] at sending⟩

lemma Rests.pace_eq (rests : channel.Rests later) : later.pace = channel.pace := by
  rw [pace, pace, rests.period]

/-- A message on its way is as far from its end as before. -/
lemma Rests.ticksLeft_eq (rests : channel.Rests later) (transit : channel.inTransit? = some message) :
    later.inTransit? = some message ∧ later.ticksLeft = channel.ticksLeft := by
  have same := rests.underway (by rw [← isSome_inTransit?, transit]; rfl)
  constructor
  · rw [← transit, inTransit?, inTransit?, same]
  · rw [ticksLeft, ticksLeft, same, rests.pace_eq, rests.elapsed]

/-! ## The clock -/

/-- A tick starts the clock again if a word crosses with it, and otherwise the clock goes on, as far
as it counts. -/
lemma toNat_elapsed_tick (channel : Channel) :
    channel.tick.elapsed.toNat
      = if channel.tick.wordsLeft < channel.wordsLeft then 0
        else min (channel.elapsed.toNat + 1) (UInt32.size - 1) := by
  cases held : channel.transfer with
  | free | delivered => simp [tick, wordsLeft, held, toNat_tickElapsed]
  | underway arrived next rest =>
    by_cases early : tickElapsed channel.elapsed < channel.period
    · simp [tick, wordsLeft, held, early, toNat_tickElapsed]
    · cases rest <;> simp [tick, wordsLeft, held, early, cross]

/-- The channel has a word cross every `period` ticks, and its clock shows that none has crossed for
`since` ticks, as far as it counts. -/
structure Paced (period : UInt32) (since : Nat) (channel : Channel) : Prop where
  pace : channel.pace = max period.toNat 1
  elapsed : channel.elapsed.toNat = min since (UInt32.size - 1)

variable {period : UInt32} {since : Nat}

lemma paced_opened (period : UInt32) (capacity : Nat) : (opened period capacity).Paced period 0 where
  pace := by
    rw [Channel.pace, opened, toNat_max_one, Nat.max_assoc, Nat.max_self]
  elapsed := rfl

lemma Paced.rests (paced : channel.Paced period since) (rests : channel.Rests later) :
    later.Paced period since where
  pace := rests.pace_eq.trans paced.pace
  elapsed := rests.elapsed ▸ paced.elapsed

lemma Paced.tick (paced : channel.Paced period since) :
    channel.tick.Paced period
      (if channel.tick.wordsLeft < channel.wordsLeft then 0 else since + 1) where
  pace := channel.pace_tick.trans paced.pace
  elapsed := by
    rw [toNat_elapsed_tick, paced.elapsed]
    split <;> omega

/-! ## A new message -/

/-- A message that has just been accepted takes a period for each word after the first, and what is
left of the period for that. -/
lemma Paced.ticksLeft_of_send? (paced : channel.Paced period since)
    (sent : channel.send? message = some accepted) :
    accepted.ticksLeft = (message.length - 1) * max period.toNat 1
      + max 1 (max period.toNat 1 - min since (UInt32.size - 1)) := by
  rw [← paced.pace, ← paced.elapsed, Nat.max_comm 1]
  obtain ⟨next, rest, rfl, rfl⟩ := eq_of_send? sent
  rfl

end Channel

namespace Interconnect

variable {bus after : Interconnect} {a : Terminal} {message : Message}

/-! ## The words of a message -/

/-- The words of the message on its way from a terminal that have still to cross. -/
def wordsLeft (bus : Interconnect) (a : Terminal) : Nat :=
  ((bus.outgoing? a).map Channel.wordsLeft).getD 0

/-- For how many ticks no word has left terminal `a` after some operations, if none had left it for
`since` ticks before.  A word has left with a tick if fewer are left after it. -/
def ticksSince (bus : Interconnect) (a : Terminal) (since : Nat) : List Operation → Nat
  | [] => since
  | .tick :: later =>
    bus.tick.ticksSince a (if bus.tick.wordsLeft a < bus.wordsLeft a then 0 else since + 1) later
  | operation :: later => (bus.apply operation).ticksSince a since later

/-- How many ticks are among some operations. -/
def tickCount : List Operation → Nat
  | [] => 0
  | .tick :: later => tickCount later + 1
  | _ :: later => tickCount later

/-- The message on its way from terminal `a` becomes visible at the other end with the tick of this
number, and the terminal stops sending with the same tick, whatever else is done in between. -/
structure Delivers (bus : Interconnect) (a : Terminal) (message : Message) (ticks : Nat) :
    Prop where
  early : ∀ operations, tickCount operations < ticks →
    (bus.run operations).message? a.peer = none ∧ (bus.run operations).isSending a = true
  arrives : ∀ operations, tickCount operations + 1 = ticks →
    (bus.run operations).tick.message? a.peer = some message
      ∧ (bus.run operations).tick.isSending a = false

/-! ## Operations other than ticks -/

/-- Whatever is done to the interconnect without a tick, a channel rests. -/
lemma rests_apply {channel : Channel} (found : bus.outgoing? a = some channel)
    {operation : Operation} (still : operation ≠ .tick) :
    ∃ later, (bus.apply operation).outgoing? a = some later ∧ channel.Rests later := by
  have sends {terminal : Terminal} {message : Message} {between : Interconnect}
      (sent : bus.send? terminal message = some between) :
      ∃ later, between.outgoing? a = some later ∧ channel.Rests later := by
    by_cases here : a = terminal
    · subst here
      obtain ⟨held, accepted, held_eq, taken, replaced⟩ := outgoing?_of_send? sent
      obtain rfl := Option.some.inj (found.symm.trans held_eq)
      exact ⟨accepted, by rw [replaced, if_pos rfl], Channel.rests_of_send? taken⟩
    · exact ⟨channel, (outgoing?_of_send?_of_ne sent here).trans found, channel.rests_self⟩
  have clears {between : Interconnect} {held : Channel} (here : between.outgoing? a = some held)
      (terminal : Terminal) :
      ∃ later, (between.clear terminal).outgoing? a = some later ∧ held.Rests later := by
    rw [outgoing?_clear, here]
    split
    · exact ⟨_, rfl, held.rests_clear⟩
    · exact ⟨_, rfl, held.rests_self⟩
  cases operation with
  | link period capacity =>
    have inside : a.index < bus.size := isSome_outgoing?_iff.mp (by rw [found]; rfl)
    refine ⟨channel, ?_, channel.rests_self⟩
    rw [apply, outgoing?_link, if_pos inside, found]
  | send terminal message =>
    cases sent : bus.send? terminal message with
    | none => exact ⟨channel, by rw [apply_send_of_refused sent, found], channel.rests_self⟩
    | some between => rw [apply_send_of_accepted sent]; exact sends sent
  | clear terminal => exact clears found terminal
  | forward source target =>
    cases passed : bus.forward? source target with
    | none => exact ⟨channel, by rw [apply_forward_of_refused passed, found], channel.rests_self⟩
    | some final =>
      rw [apply_forward_of_accepted passed]
      obtain ⟨message, between, -, sent, rfl⟩ := forward?_eq_some passed
      obtain ⟨held, here, first⟩ := sends sent
      obtain ⟨later, there, second⟩ := clears here source
      exact ⟨later, there, first.trans second⟩
  | tick => exact absurd rfl still

/-! ## The clock of a terminal -/

lemma wordsLeft_of_outgoing? {channel : Channel} (found : bus.outgoing? a = some channel) :
    bus.wordsLeft a = channel.wordsLeft := by
  rw [wordsLeft, found]
  rfl

lemma outgoing?_tick_of_outgoing? {channel : Channel} (found : bus.outgoing? a = some channel) :
    bus.tick.outgoing? a = some channel.tick := by
  rw [outgoing?_tick, found]
  rfl

/-- Over a run the clock keeps showing for how long no word has crossed. -/
lemma paced_run {channel : Channel} {period : UInt32} {since : Nat}
    (found : bus.outgoing? a = some channel) (paced : channel.Paced period since)
    (operations : List Operation) :
    ∃ later, (bus.run operations).outgoing? a = some later
      ∧ later.Paced period (bus.ticksSince a since operations) := by
  induction operations generalizing bus channel since with
  | nil => exact ⟨channel, found, paced⟩
  | cons operation rest ih =>
    by_cases ticks : operation = .tick
    · subst ticks
      have next := outgoing?_tick_of_outgoing? found
      rw [ticksSince, wordsLeft_of_outgoing? found, wordsLeft_of_outgoing? next]
      exact ih next paced.tick
    · obtain ⟨later, next, rests⟩ := rests_apply found ticks
      have same : bus.ticksSince a since (operation :: rest)
          = (bus.apply operation).ticksSince a since rest := by
        cases operation <;> first | rfl | contradiction
      rw [same]
      exact ih next (paced.rests rests)

/-! ## On the way -/

/-- A message on its way stays there for as many ticks as it needs, and every tick brings it one
tick nearer. -/
lemma inTransit?_run {channel : Channel} (found : bus.outgoing? a = some channel)
    (transit : channel.inTransit? = some message) {operations : List Operation}
    (early : tickCount operations < channel.ticksLeft) :
    ∃ later, (bus.run operations).outgoing? a = some later ∧ later.inTransit? = some message
      ∧ later.ticksLeft + tickCount operations = channel.ticksLeft := by
  induction operations generalizing bus channel with
  | nil => exact ⟨channel, found, transit, rfl⟩
  | cons operation rest ih =>
    by_cases ticks : operation = .tick
    · subst ticks
      have count : tickCount (.tick :: rest) = tickCount rest + 1 := rfl
      have nearer := channel.ticksLeft_tick
      have busy : channel.tick.inTransit? ≠ none := by
        rw [ne_eq, ← Channel.ticksLeft_eq_zero_iff]
        omega
      have still : channel.tick.inTransit? = some message :=
        ((Channel.tick_of_inTransit? transit).resolve_right fun arrived => busy arrived.1).1
      obtain ⟨later, there, underway, left⟩ :=
        ih (outgoing?_tick_of_outgoing? found) still (by omega)
      exact ⟨later, there, underway, by omega⟩
    · obtain ⟨next, there, rests⟩ := rests_apply found ticks
      obtain ⟨still, left⟩ := rests.ticksLeft_eq transit
      have count : tickCount (operation :: rest) = tickCount rest := by
        cases operation <;> first | rfl | contradiction
      rw [count, ← left] at early ⊢
      exact ih there still early

/-- A message on its way arrives with the tick that its channel says. -/
lemma delivers_of_inTransit? {channel : Channel} (found : bus.outgoing? a = some channel)
    (transit : channel.inTransit? = some message) :
    bus.Delivers a message channel.ticksLeft where
  early operations early := by
    obtain ⟨later, there, underway, -⟩ := inTransit?_run found transit early
    have sending : (bus.run operations).inTransit? a = some message := by
      rw [inTransit?, there, Option.bind_some, underway]
    exact ⟨message?_peer_of_inTransit? sending, by rw [isSending_eq, sending]; rfl⟩
  arrives operations last := by
    obtain ⟨later, there, underway, left⟩ :=
      inTransit?_run found transit (show tickCount operations < channel.ticksLeft by omega)
    have ended : later.tick.inTransit? = none := by
      rw [← Channel.ticksLeft_eq_zero_iff, Channel.ticksLeft_tick]
      omega
    have arrived : later.tick.waiting? = some message :=
      ((Channel.tick_of_inTransit? underway).resolve_left fun still => by
        rw [ended] at still
        exact absurd still.1 (by simp)).2
    have next := outgoing?_tick_of_outgoing? there
    constructor
    · rw [message?_peer, next, Option.bind_some, arrived]
    · rw [isSending_eq, inTransit?, next, Option.bind_some, ended]
      rfl

/-! ## The time of delivery -/

/-- The terminals of a new link have channels of their own. -/
lemma outgoing?_link_of_end (bus : Interconnect) (period : UInt32) (capacity : Nat)
    (side : a = (bus.link period capacity).2.1 ∨ a = (bus.link period capacity).2.2) :
    (bus.link period capacity).1.outgoing? a = some (Channel.opened period capacity) := by
  rw [outgoing?_link]
  have index : a.index = bus.size ∨ a.index = bus.size + 1 := by
    rcases side with rfl | rfl
    · exact Or.inl rfl
    · exact Or.inr rfl
  rw [if_neg (by omega), if_pos (by omega)]

/-- **A message arrives after a period for each word but the first, and for that after what is left
of the period since a word last crossed, one tick at least.**  The link may have been made at any
time and used in any way, and whatever is done until the message has arrived changes nothing about
that. -/
theorem delivers_of_send? (before between : List Operation) (period : UInt32) (capacity : Nat)
    (side : a = ((empty.run before).link period capacity).2.1
      ∨ a = ((empty.run before).link period capacity).2.2)
    (sent : (((empty.run before).link period capacity).1.run between).send? a message
      = some after) :
    let pace := max period.toNat 1
    let since := min (((empty.run before).link period capacity).1.ticksSince a 0 between)
      (UInt32.size - 1)
    let ticks := (message.length - 1) * pace + max 1 (pace - since)
    ((((empty.run before).link period capacity).1.run between).outgoing? a).map
          (fun channel => channel.elapsed.toNat) = some since
      ∧ after.Delivers a message ticks
      ∧ (message.length - 1) * pace + 1 ≤ ticks ∧ ticks ≤ message.length * pace
      ∧ (since = 0 → ticks = message.length * pace) := by
  intro pace since ticks
  have opened := outgoing?_link_of_end (empty.run before) period capacity side
  obtain ⟨channel, found, paced⟩ := paced_run opened (Channel.paced_opened period capacity) between
  obtain ⟨held, accepted, held_eq, taken, replaced⟩ := outgoing?_of_send? sent
  obtain rfl := Option.some.inj (found.symm.trans held_eq)
  obtain ⟨-, transit, -, words, -⟩ := Channel.send?_eq_some taken
  have here : after.outgoing? a = some accepted := by rw [replaced, if_pos rfl]
  have duration : accepted.ticksLeft = ticks := paced.ticksLeft_of_send? taken
  have whole : message.length * pace = (message.length - 1) * pace + pace := by
    rw [← Nat.succ_mul, Nat.succ_eq_add_one, Nat.sub_add_cancel (List.length_pos_iff.mpr words)]
  have positive : 1 ≤ pace := Nat.le_max_right _ _
  refine ⟨?_, duration ▸ delivers_of_inTransit? here transit, by omega, by omega, by omega⟩
  rw [found, Option.map_some, paced.elapsed]

/-- The second link of two, with a period of three ticks.  A word has crossed with the third tick,
and the clock has run for one tick since when two more words are sent, so these take five ticks. -/
theorem delivers_pair :
    ∃ after, (((empty.run [.link 2 4]).link 3 10).1.run
          [.tick, .send ⟨2⟩ [1], .tick, .send ⟨0⟩ [4], .tick, .tick, .clear ⟨3⟩]).send? ⟨2⟩ [7, 8]
        = some after
      ∧ after.Delivers ⟨2⟩ [7, 8] 5 := by
  obtain ⟨after, sent⟩ := Option.isSome_iff_exists.mp
    (show ((((empty.run [.link 2 4]).link 3 10).1.run
      [.tick, .send ⟨2⟩ [1], .tick, .send ⟨0⟩ [4], .tick, .tick, .clear ⟨3⟩]).send? ⟨2⟩
        [7, 8]).isSome by decide +kernel)
  have since : ((empty.run [.link 2 4]).link 3 10).1.ticksSince ⟨2⟩ 0
      [.tick, .send ⟨2⟩ [1], .tick, .send ⟨0⟩ [4], .tick, .tick, .clear ⟨3⟩] = 1 := by
    decide +kernel
  have side : (⟨2⟩ : Terminal) = ((empty.run [.link 2 4]).link 3 10).2.1 := by decide +kernel
  have delivers := (delivers_of_send? _ _ 3 10 (Or.inl side) sent).2.1
  rw [since] at delivers
  exact ⟨after, sent, delivers⟩

end Interconnect

end PipelinedMachine
