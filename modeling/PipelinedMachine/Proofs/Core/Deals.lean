import Mathlib.Logic.Relation
import PipelinedMachine.Proofs.Core.Turn
import PipelinedMachine.Proofs.Link.Passing
import PipelinedMachine.Proofs.Served.Questions

/-!
# What a core does at its end of the link

A core sends messages and takes those that wait.  Every turn of its units comes down to these two
steps, so what holds of the links and is kept by each of them is kept by a whole tick.

* `Interconnect.Deals` — one such step after the other;
* `Message.Inquiry` — a read of no more than a block, which is all that fetch sends;
* `Fetch.Turn.deals`, `Occupancy.Work.deals`, `Standing.Turn.deals` — the turns.
-/

namespace PipelinedMachine

namespace Interconnect

/-- One step at the end `near` of a link: a message is sent, or the one that waits is taken. -/
inductive Deal (near : Terminal) (fine : Message → Prop) (bus : Interconnect) :
    Interconnect → Prop where
  | sends {message : Message} {after : Interconnect} (allowed : fine message)
      (sent : bus.send? near message = some after) : Deal near fine bus after
  | takes {message : Message} (waiting : bus.message? near = some message) :
      Deal near fine bus (bus.clear near)

/-- One such step after the other. -/
abbrev Deals (near : Terminal) (fine : Message → Prop) : Interconnect → Interconnect → Prop :=
  Relation.ReflTransGen (Deal near fine)

variable {near : Terminal} {fine wider : Message → Prop} {bus after : Interconnect}

lemma Deal.mono (deal : Deal near fine bus after) (more : ∀ message, fine message → wider message) :
    Deal near wider bus after := by
  cases deal with
  | sends allowed sent => exact .sends (more _ allowed) sent
  | takes waiting => exact .takes waiting

lemma Deals.mono (deals : Deals near fine bus after)
    (more : ∀ message, fine message → wider message) : Deals near wider bus after :=
  deals.lift id fun _ _ deal => deal.mono more

lemma Deals.answer {address : Word} {message : Message}
    (came : bus.answer? near address = some message) : Deals near fine bus (bus.clear near) :=
  .single (.takes (answer?_eq_some came).1)

lemma Deals.send {message : Message} (sent : bus.send? near message = some after)
    (allowed : fine message) : Deals near fine bus after :=
  .single (.sends allowed sent)

/-- Whatever is sent and taken, the links stay as wide as they are. -/
lemma capacity_deals (deals : Deals near fine bus after) (a : Terminal) :
    after.capacity a = bus.capacity a := by
  induction deals with
  | refl => rfl
  | tail _ deal before =>
    cases deal with
    | sends sound sent => exact (kept_capacity a _).send sent before
    | takes waiting => exact (kept_capacity a _).clear waiting before

end Interconnect

open Interconnect

/-- A read of no more words than a block has. -/
def Message.Inquiry (message : Message) : Prop :=
  ∃ address count, message = Message.read address count ∧ count.toNatClampNeg ≤ 8

lemma Message.inquiry_word (address : Word) : (Message.read address 1).Inquiry :=
  ⟨address, 1, rfl, by decide⟩

lemma Message.inquiry_block (address : Word) : (Message.read address Fetch.blockWords).Inquiry :=
  ⟨address, Fetch.blockWords, rfl, by decide⟩

variable {near : Terminal} {path after : Datapath}

lemma Fetch.SearchTurn.deals {fetch later : Fetch} {phase : HandlerSearch}
    (step : SearchTurn near path fetch phase later after) :
    Deals near Message.Inquiry path.bus after.bus := by
  cases step with
  | askedId bus sent => exact .send sent (Message.inquiry_word _)
  | gotId answer came => exact .answer came
  | askedHandler id bus sent => exact .send sent (Message.inquiry_word _)
  | gotHandler id answer came => exact .answer came
  | waited => exact .refl

/-- Fetch sends nothing but reads. -/
lemma Fetch.Turn.deals {fetch later : Fetch} (turn : Turn near path fetch later after) :
    Deals near Message.Inquiry path.bus after.bus := by
  cases turn with
  | received address answer reading asked came => exact .answer came
  | awaited | refused | satisfied => exact .refl
  | asked address bus reading free wanted sent => exact .send sent (Message.inquiry_block _)
  | searched phase _ _ searching fresh step => exact step.deals
  | dropped phase address answer _ _ searching asked came step =>
    exact (Deals.answer came).trans step.deals

/-- What the unit in execution may send besides reads. -/
def Occupancy.Sends (registers : RegisterFile) (message : Message) : Occupancy → Prop
  | store held => message = Message.write (held.instruction.address.resolve registers)
      (registers.get held.instruction.source)
  | request held => message = held.instruction.message registers
  | idle | done | branch _ | alu _ | load _ | stack _ => False

/-- The unit in execution sends a read, or what it is there to send. -/
lemma Occupancy.Work.deals {occupancy later : Occupancy}
    (work : Work near path occupancy later after) :
    Deals near (fun message => message.Inquiry ∨ occupancy.Sends path.registers message) path.bus
      after.bus := by
  cases work with
  | computed | computedNothing | loadedNothing | loadWaits | storeWaits | pushed | popped | pushing
  | popping | requestWaits => exact .refl
  | asked pending target operand bus form fresh sent =>
    exact .send sent (Or.inl (Message.inquiry_word _))
  | loaded pending target operand address answer form waiting came => exact .answer came
  | stored held bus sent => exact .send sent (Or.inr rfl)
  | requested held bus sent => exact .send sent (Or.inr rfl)

/-- In a tick, a core sends reads and what the unit in execution is there to send. -/
theorem Standing.Turn.deals {standing later : Standing} {issue : Option Dispatch}
    {outcome : CoreOutcome} (turn : Turn near path standing later after issue outcome) :
    Deals near (fun message => message.Inquiry ∨ standing.occupancy.Sends path.registers message)
      path.bus after.bus := by
  cases turn with
  | stalled fetch between here supply | returned fetch between entry here supply
  | undecodable fetch between entry cause here supply | stray fetch between entry here supply
  | issued fetch between entry instruction occupancy here supply
  | trapped fetch between held cause here supply =>
    exact supply.deals.mono fun _ => Or.inl
  | resolved fetch between here supply =>
    have deals := supply.deals
    rw [Occupancy.resolve_bus] at deals
    exact deals.mono fun _ => Or.inl
  | worked fetch between final occupancy here supply work =>
    have works := work.deals
    rw [supply.registers_eq] at works
    exact (supply.deals.mono fun _ => Or.inl).trans works

end PipelinedMachine
