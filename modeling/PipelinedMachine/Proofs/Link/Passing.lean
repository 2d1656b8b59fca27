import PipelinedMachine.Proofs.Link.Endpoint

/-!
# Many links

A machine has many links, and a turn concerns one or two of them.  This file says which links a turn
leaves alone, and what passing a message on from one link to another does to both.

* `Terminal.link` — the link that a terminal is an end of;
* `Interconnect.Still` — a link carries what it carried, in both directions;
* `Interconnect.Handled.still` — a turn at one link leaves the others still;
* `Interconnect.Passed` — a message has been passed on;
* `Interconnect.Kept` — what no turn at the end of a link changes, passing on does not either.
-/

namespace PipelinedMachine

open Interconnect

/-! ## The two ends of a link -/

/-- The link that a terminal is an end of. -/
def Terminal.link (terminal : Terminal) : Nat := terminal.index / 2

@[simp] lemma Terminal.link_peer (terminal : Terminal) : terminal.peer.link = terminal.link := by
  simp only [link, peer]
  split <;> simp only <;> omega

lemma Terminal.ne_of_link {a b : Terminal} (apart : a.link ≠ b.link) : a ≠ b :=
  fun same => apart (congrArg link same)

lemma Terminal.ne_peer_of_link {a b : Terminal} (apart : a.link ≠ b.link) : a ≠ b.peer :=
  ne_of_link (by rwa [link_peer])

/-! ## Links that are left alone -/

namespace Interconnect

/-- The link at `a` carries what it carried. -/
def Still (bus after : Interconnect) (a : Terminal) : Prop :=
  after.carried? a = bus.carried? a ∧ after.carried? a.peer = bus.carried? a.peer

variable {bus after : Interconnect} {a near source target : Terminal} {message : Message}
  {taken sent : Option Message}

lemma still_self (bus : Interconnect) (a : Terminal) : bus.Still bus a := ⟨rfl, rfl⟩

lemma still_tick (bus : Interconnect) (a : Terminal) : bus.Still bus.tick a :=
  ⟨carried?_tick a, carried?_tick a.peer⟩

lemma Still.peer (still : bus.Still after a) : bus.Still after a.peer :=
  ⟨still.2, by rw [Terminal.peer_peer, still.1]⟩

lemma Handled.still (handled : Handled near bus after taken sent) (away : a.link ≠ near.link) :
    bus.Still after a :=
  ⟨handled.carried?_apart (Terminal.ne_of_link away) (Terminal.ne_peer_of_link away),
    handled.carried?_apart (Terminal.ne_of_link (by rwa [Terminal.link_peer]))
      (Terminal.ne_peer_of_link (by rwa [Terminal.link_peer]))⟩

/-! ## Passing a message on -/

/-- A message has been passed on from `source` through `target`. -/
structure Passed (source target : Terminal) (message : Message) (bus after : Interconnect) :
    Prop where
  waiting : bus.message? source = some message
  free : bus.carried? target = none
  left : after.carried? source.peer = none
  sent : after.carried? target = some message
  apart : ∀ a, a ≠ target → a ≠ source.peer → after.carried? a = bus.carried? a

lemma passed_of_forward? (forwarded : bus.forward? source target = some after)
    (apart : source.link ≠ target.link) : ∃ message, Passed source target message bus after := by
  rw [forward?] at forwarded
  split at forwarded
  · next message waiting =>
    obtain ⟨between, sent, rfl⟩ := Option.map_eq_some_iff.mp forwarded
    have away : source.peer ≠ target := Terminal.ne_of_link (by rwa [Terminal.link_peer])
    have still : between.message? source = some message :=
      (message?_of_send?_of_ne sent away).trans waiting
    exact ⟨message, {
      waiting := waiting
      free := (inTransit?_of_send? sent).1
      left := carried?_clear_of_message? still
      sent := by rw [carried?_clear_of_ne away.symm, carried?_of_send? sent]
      apart := fun a first second => by
        rw [carried?_clear_of_ne second, carried?_of_send?_of_ne sent first] }⟩
  · contradiction

lemma Passed.carried? (passed : Passed source target message bus after) :
    bus.carried? source.peer = some message := carried?_of_message? passed.waiting

lemma Passed.still (passed : Passed source target message bus after)
    (first : a.link ≠ source.link) (second : a.link ≠ target.link) : bus.Still after a :=
  ⟨passed.apart a (Terminal.ne_of_link second) (Terminal.ne_peer_of_link first),
    passed.apart a.peer (Terminal.ne_of_link (by rwa [Terminal.link_peer]))
      (Terminal.ne_peer_of_link (by rwa [Terminal.link_peer]))⟩

/-- Nothing else changes at the end that the message has left. -/
lemma Passed.carried?_source (passed : Passed source target message bus after)
    (apart : source.link ≠ target.link) : after.carried? source = bus.carried? source :=
  passed.apart _ (Terminal.ne_of_link apart) (Terminal.peer_ne _).symm

/-- Nothing else changes on the link that the message is now on. -/
lemma Passed.carried?_peer_target (passed : Passed source target message bus after)
    (apart : source.link ≠ target.link) :
    after.carried? target.peer = bus.carried? target.peer :=
  passed.apart _ (Terminal.peer_ne _)
    (Terminal.ne_of_link (by simpa using apart.symm))

/-! ## What every turn keeps -/

/-- A turn at one end of a link keeps the property, whatever it takes and sends. -/
def Kept (P : Interconnect → Prop) : Prop :=
  ∀ ⦃near : Terminal⦄ ⦃bus after : Interconnect⦄ ⦃taken sent : Option Message⦄,
    Handled near bus after taken sent → P bus → P after

namespace Kept

variable {P : Interconnect → Prop}

lemma send (kept : Kept P) (sent : bus.send? near message = some after) (before : P bus) :
    P after :=
  kept (.of_send? sent) before

lemma clear (kept : Kept P) (waiting : bus.message? near = some message) (before : P bus) :
    P (bus.clear near) :=
  kept (.of_clear waiting) before

lemma forward (kept : Kept P) (forwarded : bus.forward? source target = some after)
    (before : P bus) : P after := by
  rw [forward?] at forwarded
  split at forwarded
  · next message waiting =>
    obtain ⟨between, sent, rfl⟩ := Option.map_eq_some_iff.mp forwarded
    -- the way back is not free while the message waits
    have apart : source.peer ≠ target := by
      rintro rfl
      have free := (inTransit?_of_send? sent).1
      rw [carried?_of_message? waiting] at free
      contradiction
    exact kept.clear ((message?_of_send?_of_ne sent apart).trans waiting) (kept.send sent before)
  · contradiction

end Kept

/-- No turn makes a link wider or narrower. -/
lemma kept_capacity (a : Terminal) (capacity : Nat) :
    Kept fun bus => bus.capacity a = capacity :=
  fun _ _ _ _ _ handled before => (handled.capacity_eq a).trans before

lemma capacity_of_tick (bus : Interconnect) (a : Terminal) :
    bus.tick.capacity a = bus.capacity a := by
  rw [capacity_eq, capacity_eq, outgoing?_tick, Option.map_map,
    show Channel.capacity ∘ Channel.tick = Channel.capacity from funext Channel.capacity_tick]

end Interconnect

end PipelinedMachine
