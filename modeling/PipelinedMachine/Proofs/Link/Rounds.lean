import PipelinedMachine.Proofs.Link.Endpoint

/-!
# Rounds of a link

A component gets its messages off only if the other end takes what has arrived.  A round is the
least that a link needs to go on: the other end takes what waits there, the component has its turn,
and the link ticks.  In between the other end may send, and the component's host may act.

* `Channel.ticksLeft` — in how many ticks the message on a channel arrives;
* `Attended.round`, `Attended.rounds` — the actions of one round, and of several;
* `Attended.Approaches`, `Attended.Approaches.round` — a component that waits to send a message, and
  what one round does for it;
* **`Attended.exists_rounds_sent`** — a component that comes nearer to sending a message in every
  round sends it.
-/

namespace PipelinedMachine

/-! ## How long a message takes -/

/-- A period of zero counts as one. -/
lemma toNat_max_one (count : UInt32) : (max count 1).toNat = max count.toNat 1 := by
  show (if count ≤ 1 then 1 else count).toNat = _
  split <;> rename_i low <;>
    simp only [UInt32.le_iff_toNat_le, UInt32.toNat_one] at low ⊢ <;> omega

namespace Channel

/-- Ticks from one word to the next. -/
def pace (channel : Channel) : Nat := max channel.period.toNat 1

/-- Ticks until the message on its way has arrived: a period for each word after the next one, and
what is left of the period for that. -/
def ticksLeft (channel : Channel) : Nat :=
  match channel.transfer with
  | .underway _ _ rest =>
    rest.length * channel.pace + max (channel.pace - channel.elapsed.toNat) 1
  | .free | .delivered _ => 0

variable {channel accepted : Channel} {message : Message}

lemma ticksLeft_eq_zero_iff : channel.ticksLeft = 0 ↔ channel.inTransit? = none := by
  rw [ticksLeft, inTransit?]
  cases channel.transfer with
  | free | delivered => simp
  | underway arrived next rest =>
    simp only [reduceCtorEq, iff_false]
    omega

@[simp] lemma ticksLeft_clear (channel : Channel) :
    channel.clear.ticksLeft = channel.ticksLeft := by
  cases held : channel.transfer <;> simp [clear, ticksLeft, held]

@[simp] lemma pace_clear (channel : Channel) : channel.clear.pace = channel.pace := by
  rw [clear]
  split <;> rfl

@[simp] lemma pace_tick (channel : Channel) : channel.tick.pace = channel.pace := by
  rw [tick]
  split
  · split <;> rfl
  · rfl

/-- Every tick brings the message one tick nearer. -/
lemma ticksLeft_tick (channel : Channel) : channel.tick.ticksLeft = channel.ticksLeft - 1 := by
  have exact := toNat_tickElapsed channel.elapsed
  have bound := channel.period.toNat_lt_size
  have due : tickElapsed channel.elapsed < channel.period
      ↔ (tickElapsed channel.elapsed).toNat < channel.period.toNat := UInt32.lt_iff_toNat_lt
  have pace : channel.pace = max channel.period.toNat 1 := rfl
  cases held : channel.transfer with
  | free | delivered => simp [tick, ticksLeft, held]
  | underway arrived next rest =>
    have before : channel.ticksLeft
        = rest.length * channel.pace + max (channel.pace - channel.elapsed.toNat) 1 := by
      simp [ticksLeft, held]
    by_cases early : tickElapsed channel.elapsed < channel.period
    · have after : channel.tick.ticksLeft = rest.length * channel.pace
          + max (channel.pace - (tickElapsed channel.elapsed).toNat) 1 := by
        simp [tick, ticksLeft, held, early, Channel.pace]
      have := due.mp early
      omega
    · have late := mt due.mpr early
      cases rest with
      | nil =>
        have after : channel.tick.ticksLeft = 0 := by simp [tick, ticksLeft, held, early, cross]
        simp only [List.length_nil, Nat.zero_mul] at before
        omega
      | cons word rest =>
        have after : channel.tick.ticksLeft = rest.length * channel.pace + max channel.pace 1 := by
          simp [tick, ticksLeft, held, early, cross, Channel.pace]
        rw [List.length_cons, Nat.succ_mul] at before
        omega

lemma eq_of_send? (sent : channel.send? message = some accepted) :
    ∃ next rest, message = next :: rest
      ∧ accepted = { channel with transfer := .underway #[] next rest } := by
  cases held : channel.transfer <;> cases message <;> simp only [send?, held] at sent <;>
    first | contradiction | skip
  split at sent
  · exact ⟨_, _, rfl, (Option.some.inj sent).symm⟩
  · contradiction

lemma pace_of_send? (sent : channel.send? message = some accepted) :
    accepted.pace = channel.pace := by
  obtain ⟨next, rest, -, rfl⟩ := eq_of_send? sent
  rfl

/-- A message takes no longer than a period for each of its words. -/
lemma ticksLeft_of_send? (sent : channel.send? message = some accepted) :
    accepted.ticksLeft ≤ message.length * channel.pace := by
  obtain ⟨next, rest, rfl, rfl⟩ := eq_of_send? sent
  have positive : 1 ≤ channel.pace := Nat.le_max_right _ _
  simp only [ticksLeft, pace, List.length_cons, Nat.succ_mul] at positive ⊢
  omega

end Channel

namespace Interconnect

/-- Ticks until the message on its way from a terminal has arrived. -/
def ticksLeft (bus : Interconnect) (a : Terminal) : Nat :=
  ((bus.outgoing? a).map Channel.ticksLeft).getD 0

/-- Ticks from one word to the next on the way from a terminal. -/
def pace (bus : Interconnect) (a : Terminal) : Nat :=
  ((bus.outgoing? a).map Channel.pace).getD 1

variable {bus after : Interconnect} {near a : Terminal} {taken sent : Option Message}

lemma ticksLeft_eq_zero_iff : bus.ticksLeft a = 0 ↔ bus.inTransit? a = none := by
  rw [ticksLeft, inTransit?]
  cases bus.outgoing? a with
  | none => simp
  | some channel => simpa using Channel.ticksLeft_eq_zero_iff

@[simp] lemma ticksLeft_tick (bus : Interconnect) (a : Terminal) :
    bus.tick.ticksLeft a = bus.ticksLeft a - 1 := by
  rw [ticksLeft, ticksLeft, outgoing?_tick]
  cases bus.outgoing? a with
  | none => rfl
  | some channel => exact channel.ticksLeft_tick

lemma pace_pos (bus : Interconnect) (a : Terminal) : 0 < bus.pace a := by
  rw [pace]
  cases bus.outgoing? a with
  | none => exact Nat.one_pos
  | some channel => exact Nat.le_max_right _ _

@[simp] lemma pace_tick (bus : Interconnect) (a : Terminal) : bus.tick.pace a = bus.pace a := by
  rw [pace, pace, outgoing?_tick]
  cases bus.outgoing? a <;> simp

lemma isSome_outgoing? (wide : 0 < bus.capacity a) : (bus.outgoing? a).isSome := by
  rw [capacity_eq] at wide
  cases channel : bus.outgoing? a with
  | none => simp [channel] at wide
  | some channel => rfl

/-! ### A way that has been freed of what has arrived -/

section Cleared

variable (cleared : after.outgoing? a = (bus.outgoing? a).map Channel.clear)

include cleared

lemma map_outgoing?_of_cleared {β : Type} {f : Channel → β}
    (same : ∀ channel : Channel, f channel.clear = f channel) :
    (after.outgoing? a).map f = (bus.outgoing? a).map f := by
  rw [cleared, Option.map_map]
  exact congrArg (fun f => (bus.outgoing? a).map f) (funext same)

lemma ticksLeft_of_cleared : after.ticksLeft a = bus.ticksLeft a := by
  rw [ticksLeft, ticksLeft, map_outgoing?_of_cleared cleared Channel.ticksLeft_clear]

/-- If nothing is on its way there, it is free. -/
lemma carried?_of_cleared (arrived : after.ticksLeft a = 0) : after.carried? a = none := by
  rw [carried?_eq, ticksLeft_eq_zero_iff.mp arrived, Option.none_or, message?_eq,
    Terminal.peer_peer, cleared]
  cases bus.outgoing? a <;> simp

end Cleared

/-- The way out of a terminal is a link of the given capacity and pace. -/
structure Leads (bus : Interconnect) (a : Terminal) (capacity speed : Nat) : Prop where
  capacity : bus.capacity a = capacity
  pace : bus.pace a = speed
  linked : (bus.outgoing? a).isSome

variable {capacity speed : Nat}

lemma Leads.of_cleared (leads : bus.Leads a capacity speed)
    (cleared : after.outgoing? a = (bus.outgoing? a).map Channel.clear) :
    after.Leads a capacity speed where
  capacity := by
    rw [← leads.capacity, capacity_eq, capacity_eq,
      map_outgoing?_of_cleared cleared Channel.capacity_clear]
  pace := by
    rw [← leads.pace, Interconnect.pace, Interconnect.pace,
      map_outgoing?_of_cleared cleared Channel.pace_clear]
  linked := by
    rw [cleared, Option.isSome_map]
    exact leads.linked

lemma Leads.tick (leads : bus.Leads a capacity speed) : bus.tick.Leads a capacity speed where
  capacity := by
    rw [← leads.capacity, capacity_eq, capacity_eq, outgoing?_tick, Option.map_map]
    congr 2
    exact funext Channel.capacity_tick
  pace := by rw [pace_tick, leads.pace]
  linked := by
    rw [outgoing?_tick, Option.isSome_map]
    exact leads.linked

namespace Handled

lemma pace_eq (handled : Handled near bus after taken sent) : after.pace near = bus.pace near := by
  rw [pace, pace]
  cases sent with
  | none => rw [handled.silent rfl]
  | some message =>
    obtain ⟨channel, accepted, before, taken, now⟩ := handled.spoken message rfl
    simp [before, now, Channel.pace_of_send? taken]

/-- A turn in which nothing is sent brings nothing nearer. -/
lemma ticksLeft_of_silent (handled : Handled near bus after taken none) :
    after.ticksLeft near = bus.ticksLeft near := by
  rw [ticksLeft, ticksLeft, handled.silent rfl]

lemma ticksLeft_of_sent {message : Message}
    (handled : Handled near bus after taken (some message)) :
    after.ticksLeft near ≤ message.length * bus.pace near := by
  obtain ⟨channel, accepted, before, taken, now⟩ := handled.spoken message rfl
  rw [ticksLeft, pace, before, now]
  exact Channel.ticksLeft_of_send? taken

/-- Nothing is sent while the way out is busy. -/
lemma eq_none_of_busy (handled : Handled near bus after taken sent)
    (busy : 0 < bus.ticksLeft near) : sent = none := by
  by_contra speaks
  obtain ⟨message, rfl⟩ := Option.ne_none_iff_exists'.mp speaks
  have free := handled.carried?_of_sent.1
  rw [carried?_eq, Option.or_eq_none_iff] at free
  exact Nat.ne_of_gt busy (ticksLeft_eq_zero_iff.mpr free.1)

lemma leads (handled : Handled near bus after taken sent)
    (leads : bus.Leads near capacity speed) : after.Leads near capacity speed where
  capacity := (handled.capacity_eq near).trans leads.capacity
  pace := handled.pace_eq.trans leads.pace
  linked := by rw [handled.isSome_outgoing?, leads.linked]

end Handled

end Interconnect

/-! ## Rounds -/

namespace Attended

open Endpoint Interconnect

variable {α Event : Type} [Endpoint α Event]

/-- What the other end and the host can do between two turns besides taking what has arrived. -/
inductive Outside : LinkAction Event → Prop where
  | offer (message : Message) : Outside (.offer message)
  | host (event : Event) : Outside (.host event)

/-- A round: the other end takes what waits there, it and the host do as they like, the component
has its turn, and the link ticks. -/
def round (between : List (LinkAction Event)) : List (LinkAction Event) :=
  .receive :: (between ++ [.turn, .tick])

/-- The first so many rounds. -/
def rounds (between : Nat → List (LinkAction Event)) : Nat → List (LinkAction Event)
  | 0 => []
  | count + 1 => round (between 0) ++ rounds (fun index => between (index + 1)) count

/-- What the other end and the host do leaves the way out of the component alone, and what the host
keeps of the component. -/
lemma outside_run (holds : α → Prop)
    (of_host : ∀ component event, holds component → holds (host component event))
    {actions : List (LinkAction Event)} (outside : ∀ action ∈ actions, Outside action)
    (attended : Attended α) (now : holds attended.component) :
    holds (attended.run actions).component
      ∧ (attended.run actions).near = attended.near
      ∧ (attended.run actions).bus.outgoing? attended.near
        = attended.bus.outgoing? attended.near
      ∧ (attended.run actions).sent = attended.sent := by
  induction actions generalizing attended with
  | nil => exact ⟨now, rfl, rfl, rfl⟩
  | cons action later ih =>
    have next : holds (attended.step action).component := by
      cases outside action (by simp) with
      | offer message =>
        rw [step]
        split <;> exact now
      | host event => exact of_host _ _ now
    obtain ⟨kept, near, channel, sent⟩ :=
      ih (fun other member => outside other (by simp [member])) _ next
    rw [near_step] at near channel
    rw [run_cons]
    refine ⟨kept, near, channel.trans ?_, sent.trans ?_⟩
    · cases outside action (by simp) with
      | offer message =>
        rw [step]
        split
        · next sent => exact outgoing?_of_send?_of_ne sent attended.near.peer_ne.symm
        · rfl
      | host event => rfl
    · cases outside action (by simp) with
      | offer message =>
        rw [step]
        split <;> rfl
      | host event => rfl

/-- What a round comes to: the way out of the component is freed of what has arrived, the component
has its turn, and the link ticks. -/
lemma exists_run_round (holds : α → Prop)
    (of_host : ∀ component event, holds component → holds (host component event))
    {between : List (LinkAction Event)} (outside : ∀ action ∈ between, Outside action)
    {attended : Attended α} (now : holds attended.component) :
    ∃ ready : Attended α, holds ready.component ∧ ready.near = attended.near
      ∧ ready.sent = attended.sent
      ∧ ready.bus.outgoing? attended.near
        = (attended.bus.outgoing? attended.near).map Channel.clear
      ∧ attended.run (round between) = (ready.step .turn).step .tick := by
  obtain ⟨kept, near, channel, sent⟩ :=
    outside_run holds of_host outside (attended.step .receive) now
  rw [near_step] at near channel
  refine ⟨_, kept, near, sent, ?_, ?_⟩
  · rw [channel, step]
    simp [outgoing?_clear]
  · rw [round, run_cons, run_append]
    rfl

variable {message : Message} {capacity speed : Nat}

/-- In every turn a component comes nearer to sending a message.  `waits` says of a component, and
of the ticks for which the way out is still busy, how far it is from that. -/
structure Approaches (message : Message) (capacity speed : Nat) (waits : α → Nat → Nat → Prop) :
    Prop where
  host : ∀ component (event : Event) left rank, waits component left rank →
    waits (host component event) left rank
  busy : ∀ component bus rank, bus.Leads (terminal component) capacity speed →
    0 < bus.ticksLeft (terminal component) →
    waits component (bus.ticksLeft (terminal component)) rank →
    ∃ less < rank, waits (turn component bus).1 (bus.ticksLeft (terminal component) - 1) less
  free : ∀ component bus rank, bus.Leads (terminal component) capacity speed →
    bus.carried? (terminal component) = none → waits component 0 rank →
    (turn component bus).2.carried? (terminal component) = some message
      ∨ ∃ less < rank,
        waits (turn component bus).1
          ((turn component bus).2.ticksLeft (terminal component) - 1) less

variable {waits : α → Nat → Nat → Prop} {rank : Nat}

/-- A component that waits to send a message over its link. -/
structure Awaits (capacity speed : Nat) (waits : α → Nat → Nat → Prop) (attended : Attended α)
    (rank : Nat) : Prop where
  leads : attended.bus.Leads attended.near capacity speed
  waits : waits attended.component (attended.bus.ticksLeft attended.near) rank

/-- The turn of a component that waits sends the message, or the component comes nearer to it. -/
lemma Approaches.turn (approaches : Approaches message capacity speed waits)
    {ready : Attended α} (awaits : ready.Awaits capacity speed waits rank)
    (cleared : ready.bus.ticksLeft ready.near = 0 → ready.bus.carried? ready.near = none)
    {taken sent : Option Message}
    (handled : Handled ready.near ready.bus (turn ready.component ready.bus).2 taken sent) :
    sent = some message ∨ ∃ less < rank, waits (turn ready.component ready.bus).1
      ((turn ready.component ready.bus).2.ticksLeft ready.near - 1) less := by
  obtain ⟨leads, waiting⟩ := awaits
  rcases Nat.eq_zero_or_pos (ready.bus.ticksLeft ready.near) with arrived | busy
  · have free := cleared arrived
    rw [arrived] at waiting
    refine (approaches.free ready.component ready.bus rank leads free waiting).imp
      (fun goes => ?_) id
    rw [← handled.newly?_carried?, free]
    exact goes
  · obtain rfl := handled.eq_none_of_busy busy
    rw [handled.ticksLeft_of_silent]
    exact Or.inr (approaches.busy ready.component ready.bus rank leads busy waiting)

/-- So a round sends the message, or the component comes nearer to sending it. -/
lemma Approaches.round (approaches : Approaches message capacity speed waits)
    {between : List (LinkAction Event)} (outside : ∀ action ∈ between, Outside action)
    {attended : Attended α} (awaits : attended.Awaits capacity speed waits rank) :
    ∃ sent : Option Message,
      (attended.run (Attended.round between)).sent = attended.sent ++ sent.toList
        ∧ (sent = some message ∨ ∃ less < rank,
          (attended.run (Attended.round between)).Awaits capacity speed waits less) := by
  obtain ⟨ready, waiting, near, silent, cleared, same⟩ :=
    exists_run_round (fun component =>
      waits component (attended.bus.ticksLeft attended.near) rank)
      (fun component event => approaches.host component event _ _) outside awaits.waits
  have leads := awaits.leads.of_cleared cleared
  have arrived := carried?_of_cleared cleared
  rw [← ticksLeft_of_cleared cleared] at waiting
  rw [← near] at leads arrived waiting
  obtain ⟨taken, sent, handled⟩ := ready.exists_handled
  rw [ready.step_turn handled] at same
  rw [same]
  refine ⟨sent, by simp only [step, silent], ?_⟩
  refine (approaches.turn ⟨leads, waiting⟩ arrived handled).imp id ?_
  rintro ⟨less, nearer, waiting⟩
  have stays : terminal (Endpoint.turn ready.component ready.bus).1 = ready.near :=
    Endpoint.terminal_turn ready.component ready.bus
  refine ⟨less, nearer, ?_, ?_⟩ <;> simp only [step, Attended.near, stays]
  · exact (handled.leads leads).tick
  · rw [ticksLeft_tick]
    exact waiting

/-- **A component that comes nearer to sending a message in every round sends it.** -/
theorem exists_rounds_sent (approaches : Approaches message capacity speed waits)
    (between : Nat → List (LinkAction Event))
    (outside : ∀ index, ∀ action ∈ between index, Outside action) (attended : Attended α)
    (awaits : attended.Awaits capacity speed waits rank) :
    ∃ count earlier,
      (attended.run (rounds between count)).sent = attended.sent ++ earlier ++ [message] := by
  induction rank using Nat.strongRecOn generalizing attended between with
  | ind rank ih =>
    obtain ⟨sent, sends, rfl | ⟨less, nearer, awaits⟩⟩ := approaches.round (outside 0) awaits
    · refine ⟨1, [], ?_⟩
      rw [rounds, rounds, List.append_nil, sends, List.append_nil]
      rfl
    · obtain ⟨count, earlier, later⟩ := ih less nearer (fun index => between (index + 1))
        (fun index => outside (index + 1)) _ awaits
      refine ⟨count + 1, sent.toList ++ earlier, ?_⟩
      rw [rounds, run_append, later, sends]
      simp only [List.append_assoc]

end Attended

end PipelinedMachine
