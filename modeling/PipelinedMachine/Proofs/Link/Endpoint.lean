import PipelinedMachine.Proofs.Link.Contents

/-!
# Components at the end of a link

A component serves its end of a link in turns.  In a turn it takes the message that waits there, or
leaves it, and it sends one message, or none; between two turns the component at the other end and
the link itself go on.  This file says what a turn leaves behind on the link, and keeps a record of
everything that passes.

* `Message.asked?`, `Message.answered?` — which address a message reads, and which it answers for;
* `Interconnect.Handled` — what a turn has taken and sent, with what that does to every channel;
* `Interconnect.Handled.trans` — two parts of a turn make one;
* `Endpoint` — a component with its terminal, its turn and its host's actions;
* `Attended`, `LinkAction` — an endpoint on its link with a record, and all that can happen there;
* **`Attended.Conserved.run`** — whatever happens, each message that the link accepts in one
  direction has been taken at the other end, in the same order, or is still on the link.
-/

namespace PipelinedMachine

/-! ## Reads and answers -/

namespace Message

/-- Whether the message is the answer to a read. -/
def isResponse (message : Message) : Bool := message.kind? = some .response

/-- The address that the message reads, if it is a read. -/
def asked? (message : Message) : Option Word :=
  if message.kind? = some .read then message.address? else none

/-- The address under which the message answers a read, if it does. -/
def answered? (message : Message) : Option Word :=
  if message.isResponse then message.address? else none

@[simp] lemma asked?_read (address count : Word) : (read address count).asked? = some address := rfl

@[simp] lemma answered?_response (address : Word) (values : List Word) :
    (response address values).answered? = some address := rfl

/-- The address that is read by what a way carries, if it is a read. -/
def askedBy (message? : Option Message) : List Word := (message?.bind asked?).toList

/-- The address under which what a way carries answers a read, if it does. -/
def answeredBy (message? : Option Message) : List Word := (message?.bind answered?).toList

lemma answered?_of_interrupt {message : Message} (interrupt : message.kind? = some .interrupt) :
    message.answered? = none := by
  simp [answered?, isResponse, interrupt]

end Message

namespace Interconnect

/-! ## One turn -/

/-- What a component at `near` has done in a turn: it has taken the message that waited there, if
`taken` is one, and it has sent one, if `sent` is one. -/
structure Handled (near : Terminal) (bus after : Interconnect) (taken sent : Option Message) :
    Prop where
  waiting : ∀ message, taken = some message → bus.message? near = some message
  inbound : after.outgoing? near.peer
    = if taken.isSome then (bus.outgoing? near.peer).map Channel.clear
      else bus.outgoing? near.peer
  silent : sent = none → after.outgoing? near = bus.outgoing? near
  spoken : ∀ message, sent = some message → ∃ channel accepted,
    bus.outgoing? near = some channel ∧ channel.send? message = some accepted
      ∧ after.outgoing? near = some accepted
  apart : ∀ a, a ≠ near → a ≠ near.peer → after.outgoing? a = bus.outgoing? a

namespace Handled

variable {near : Terminal} {bus between after : Interconnect}
  {taken taken' sent sent' : Option Message} {message : Message}

lemma nothing (near : Terminal) (bus : Interconnect) : Handled near bus bus none none where
  waiting := by simp
  inbound := rfl
  silent := fun _ => rfl
  spoken := by simp
  apart := fun _ _ _ => rfl

lemma of_send? (h : bus.send? near message = some after) :
    Handled near bus after none (some message) where
  waiting := by simp
  inbound := outgoing?_of_send?_of_ne h near.peer_ne
  silent := by simp
  spoken := by
    rintro _ ⟨rfl⟩
    obtain ⟨channel, accepted, found, taken, replaced⟩ := outgoing?_of_send? h
    exact ⟨channel, accepted, found, taken, by rw [replaced near, if_pos rfl]⟩
  apart := fun _ away _ => outgoing?_of_send?_of_ne h away

lemma of_clear (h : bus.message? near = some message) :
    Handled near bus (bus.clear near) (some message) none where
  waiting := by
    rintro _ ⟨rfl⟩
    exact h
  inbound := by rw [outgoing?_clear, if_pos rfl]; rfl
  silent := fun _ => outgoing?_clear_of_ne near.peer_ne.symm
  spoken := by simp
  apart := fun _ _ away => outgoing?_clear_of_ne away

/-! ### What it leaves on the link -/

/-- What waits at the component afterwards. -/
lemma message?_eq (handled : Handled near bus after taken sent) :
    after.message? near = if taken.isSome then none else bus.message? near := by
  rw [Interconnect.message?_eq, Interconnect.message?_eq, handled.inbound]
  split
  · cases bus.outgoing? near.peer <;> simp
  · rfl

/-- The direction towards the component. -/
lemma carried?_peer (handled : Handled near bus after taken sent) :
    after.carried? near.peer = if taken.isSome then none else bus.carried? near.peer := by
  cases taken with
  | none => simp [carried?, handled.inbound]
  | some message =>
    have cleared := carried?_clear_of_message? (handled.waiting message rfl)
    rw [carried?, outgoing?_clear, if_pos rfl] at cleared
    rw [carried?, handled.inbound]
    simpa using cleared

/-- What is taken was on the direction towards the component. -/
lemma carried?_of_taken (handled : Handled near bus after (some message) sent) :
    bus.carried? near.peer = some message :=
  carried?_of_message? (handled.waiting message rfl)

lemma carried?_of_sent (handled : Handled near bus after taken (some message)) :
    bus.carried? near = none ∧ after.carried? near = some message
      ∧ message ≠ [] ∧ message.length ≤ bus.capacity near := by
  obtain ⟨channel, accepted, before, taken, now⟩ := handled.spoken message rfl
  obtain ⟨free, transit, -, nonempty, fits⟩ := Channel.send?_eq_some taken
  refine ⟨by simp [carried?, before, free], ?_, nonempty, by simpa [capacity_eq, before]⟩
  simp [carried?, now, Channel.carried?_of_inTransit? transit]

/-- The direction away from the component. -/
lemma carried?_near (handled : Handled near bus after taken sent) :
    after.carried? near = sent.or (bus.carried? near) := by
  cases sent with
  | none => rw [carried?, handled.silent rfl]; rfl
  | some message => exact handled.carried?_of_sent.2.1

/-- What is on its way from the component stays there. -/
lemma carried?_of_carried? (handled : Handled near bus after taken sent)
    (carried : bus.carried? near = some message) : after.carried? near = some message := by
  cases sent with
  | none => rw [handled.carried?_near, carried, Option.none_or]
  | some other =>
    have free := handled.carried?_of_sent.1
    rw [carried] at free
    contradiction

/-- What is sent can be told from the link alone. -/
lemma newly?_carried? (handled : Handled near bus after taken sent) :
    Message.newly? (bus.carried? near) (after.carried? near) = sent := by
  rw [handled.carried?_near]
  cases sent with
  | none => simp
  | some message => simp [handled.carried?_of_sent.1]

/-- The other links are left alone. -/
lemma carried?_apart (handled : Handled near bus after taken sent) {a : Terminal} (away : a ≠ near)
    (across : a ≠ near.peer) : after.carried? a = bus.carried? a := by
  rw [carried?, carried?, handled.apart a away across]

lemma message?_apart (handled : Handled near bus after taken sent) {a : Terminal} (away : a ≠ near)
    (across : a ≠ near.peer) : after.message? a = bus.message? a := by
  rw [Interconnect.message?_eq, Interconnect.message?_eq, handled.apart]
  · exact fun same => across (by rw [← same, Terminal.peer_peer])
  · exact fun same => away (Terminal.peer_inj.mp same)

lemma capacity_eq (handled : Handled near bus after taken sent) (a : Terminal) :
    after.capacity a = bus.capacity a := by
  rw [Interconnect.capacity_eq, Interconnect.capacity_eq]
  by_cases here : a = near
  · subst here
    cases sent with
    | none => rw [handled.silent rfl]
    | some message =>
      obtain ⟨channel, accepted, before, taken, now⟩ := handled.spoken message rfl
      simp [before, now, (Channel.send?_eq_some taken).2.2.1]
  · by_cases there : a = near.peer
    · subst there
      rw [handled.inbound]
      split
      · cases bus.outgoing? near.peer <;> simp
      · rfl
    · rw [handled.apart a here there]

lemma isSome_outgoing? (handled : Handled near bus after taken sent) (a : Terminal) :
    (after.outgoing? a).isSome = (bus.outgoing? a).isSome := by
  by_cases here : a = near
  · subst here
    cases sent with
    | none => rw [handled.silent rfl]
    | some message =>
      obtain ⟨channel, accepted, before, -, now⟩ := handled.spoken message rfl
      simp [before, now]
  · by_cases there : a = near.peer
    · subst there
      rw [handled.inbound]
      split <;> simp
    · rw [handled.apart a here there]

/-! ### Parts of a turn -/

/-- After the first part of a turn has taken a message, none waits for the second. -/
lemma taken_once (first : Handled near bus between taken sent)
    (second : Handled near between after taken' sent') : taken = none ∨ taken' = none := by
  by_contra both
  obtain ⟨some, some'⟩ := not_or.mp both
  obtain ⟨message, rfl⟩ := Option.ne_none_iff_exists'.mp some
  obtain ⟨other, rfl⟩ := Option.ne_none_iff_exists'.mp some'
  have waits := second.waiting other rfl
  rw [first.message?_eq] at waits
  simp at waits

/-- After the first part of a turn has sent a message, the way is not free for the second. -/
lemma sent_once (first : Handled near bus between taken sent)
    (second : Handled near between after taken' sent') : sent = none ∨ sent' = none := by
  by_contra both
  obtain ⟨some, some'⟩ := not_or.mp both
  obtain ⟨message, rfl⟩ := Option.ne_none_iff_exists'.mp some
  obtain ⟨other, rfl⟩ := Option.ne_none_iff_exists'.mp some'
  have free := second.carried?_of_sent.1
  rw [first.carried?_near] at free
  simp at free

/-- The two parts of a turn together are one. -/
lemma trans (first : Handled near bus between taken sent)
    (second : Handled near between after taken' sent') :
    Handled near bus after (taken.or taken') (sent.or sent') := by
  have once_taken := first.taken_once second
  have once_sent := first.sent_once second
  exact {
    waiting := fun message h => by
      cases taken with
      | some first' => exact first.waiting message h
      | none =>
        have waits := second.waiting message h
        rwa [first.message?_eq] at waits
    inbound := by
      cases taken with
      | some message =>
        obtain rfl := once_taken.resolve_left (by simp)
        rw [second.inbound, first.inbound]
        rfl
      | none => rw [second.inbound, first.inbound]; rfl
    silent := fun h => by
      obtain ⟨none, none'⟩ := Option.or_eq_none_iff.mp h
      rw [second.silent none', first.silent none]
    spoken := fun message h => by
      cases sent with
      | some first' =>
        obtain ⟨channel, accepted, before, taken, now⟩ := first.spoken message h
        exact ⟨channel, accepted, before, taken,
          (second.silent (once_sent.resolve_left (by simp))).trans now⟩
      | none =>
        obtain ⟨channel, accepted, before, taken, now⟩ := second.spoken message h
        exact ⟨channel, accepted, (first.silent rfl).symm.trans before, taken, now⟩
    apart := fun a away across => (second.apart a away across).trans (first.apart a away across) }

end Handled

/-- The message that waited at `near` before and does not any more. -/
def taken? (near : Terminal) (bus after : Interconnect) : Option Message :=
  if (after.message? near).isNone then bus.message? near else none

/-- What is taken can be told from the link alone. -/
lemma Handled.taken?_eq {near : Terminal} {bus after : Interconnect} {taken sent : Option Message}
    (handled : Handled near bus after taken sent) : taken? near bus after = taken := by
  rw [taken?, handled.message?_eq]
  cases taken with
  | some message => simp [handled.waiting message rfl]
  | none => cases waiting : bus.message? near <;> simp

end Interconnect

/-! ## Endpoints -/

/-- A component at one end of a link, and what its host can do with it between two turns.  In a
turn it keeps to its end of the link, and it never moves to another one. -/
class Endpoint (α : Type) (Event : outParam Type) where
  terminal : α → Terminal
  turn : α → Interconnect → α × Interconnect
  host : α → Event → α
  handled : ∀ component bus, ∃ taken sent,
    Interconnect.Handled (terminal component) bus (turn component bus).2 taken sent
  terminal_turn : ∀ component bus, terminal (turn component bus).1 = terminal component
  terminal_host : ∀ component event, terminal (host component event) = terminal component

/-- A component on its link, with a record of what has passed. -/
structure Attended (α : Type) where
  component : α
  bus : Interconnect
  /-- What the link has accepted from the other end, oldest first. -/
  offered : List Message := []
  /-- What the component has taken. -/
  taken : List Message := []
  /-- What the link has accepted from the component. -/
  sent : List Message := []
  /-- What has been taken at the other end. -/
  received : List Message := []

/-- Something that happens on the link of a component. -/
inductive LinkAction (Event : Type) where
  /-- The component has its turn. -/
  | turn
  /-- Every channel ticks. -/
  | tick
  /-- The other end sends a message. -/
  | offer (message : Message)
  /-- The other end takes what waits there. -/
  | receive
  /-- The component's host does something. -/
  | host (event : Event)
deriving DecidableEq, Repr

namespace Attended

open Endpoint

variable {α Event : Type} [Endpoint α Event]

/-- The component's end of the link. -/
def near (attended : Attended α) : Terminal := terminal attended.component

/-- One action.  The record is read off the link. -/
def step (attended : Attended α) : LinkAction Event → Attended α
  | .turn =>
    let (component, bus) := turn attended.component attended.bus
    { attended with
      component := component
      bus := bus
      taken := attended.taken ++ (Interconnect.taken? attended.near attended.bus bus).toList
      sent := attended.sent ++
        (Message.newly? (attended.bus.carried? attended.near)
          (bus.carried? attended.near)).toList }
  | .tick => { attended with bus := attended.bus.tick }
  | .offer message =>
    match attended.bus.send? attended.near.peer message with
    | some bus => { attended with bus := bus, offered := attended.offered ++ [message] }
    | none => attended
  | .receive =>
    { attended with
      bus := attended.bus.clear attended.near.peer
      received := attended.received ++ (attended.bus.message? attended.near.peer).toList }
  | .host event => { attended with component := host attended.component event }

/-- The actions of a run in order. -/
def run (attended : Attended α) (actions : List (LinkAction Event)) : Attended α :=
  actions.foldl step attended

lemma run_cons (attended : Attended α) (action : LinkAction Event)
    (actions : List (LinkAction Event)) :
    attended.run (action :: actions) = (attended.step action).run actions := rfl

lemma run_append (attended : Attended α) (first second : List (LinkAction Event)) :
    attended.run (first ++ second) = (attended.run first).run second :=
  List.foldl_append

/-- Nothing is on the link, and nothing has been. -/
structure Fresh (attended : Attended α) : Prop where
  offered : attended.offered = []
  taken : attended.taken = []
  sent : attended.sent = []
  received : attended.received = []
  inbound : attended.bus.carried? attended.near.peer = none
  outbound : attended.bus.carried? attended.near = none

/-- Nothing is lost, made up or put out of order in either direction. -/
structure Conserved (attended : Attended α) : Prop where
  inbound : attended.offered
    = attended.taken ++ (attended.bus.carried? attended.near.peer).toList
  outbound : attended.sent
    = attended.received ++ (attended.bus.carried? attended.near).toList

lemma Fresh.conserved {attended : Attended α} (fresh : attended.Fresh) :
    attended.Conserved where
  inbound := by rw [fresh.offered, fresh.taken, fresh.inbound]; rfl
  outbound := by rw [fresh.sent, fresh.received, fresh.outbound]; rfl

variable {attended : Attended α}

/-- What a turn takes and sends is what the record says. -/
lemma step_turn (attended : Attended α) {taken sent : Option Message}
    (handled : Interconnect.Handled attended.near attended.bus
      (turn attended.component attended.bus).2 taken sent) :
    attended.step .turn
      = { attended with
          component := (turn attended.component attended.bus).1
          bus := (turn attended.component attended.bus).2
          taken := attended.taken ++ taken.toList
          sent := attended.sent ++ sent.toList } := by
  have took := handled.taken?_eq
  have said := handled.newly?_carried?
  simp only [step, took, said]

lemma exists_handled (attended : Attended α) :
    ∃ taken sent, Interconnect.Handled attended.near attended.bus
      (turn attended.component attended.bus).2 taken sent :=
  Endpoint.handled attended.component attended.bus

lemma near_step (attended : Attended α) (action : LinkAction Event) :
    (attended.step action).near = attended.near := by
  cases action with
  | turn => exact Endpoint.terminal_turn attended.component attended.bus
  | tick | receive => rfl
  | offer message =>
    rw [step]
    split <;> rfl
  | host event => exact Endpoint.terminal_host attended.component event

lemma near_run (attended : Attended α) (actions : List (LinkAction Event)) :
    (attended.run actions).near = attended.near := by
  induction actions generalizing attended with
  | nil => rfl
  | cons action later ih => rw [run_cons, ih, near_step]

/-- Nothing that happens on the link changes what it takes. -/
lemma capacity_step (attended : Attended α) (action : LinkAction Event) (a : Terminal) :
    (attended.step action).bus.capacity a = attended.bus.capacity a := by
  cases action with
  | turn =>
    obtain ⟨taken, sent, handled⟩ := attended.exists_handled
    rw [attended.step_turn handled]
    exact handled.capacity_eq a
  | tick =>
    rw [step, Interconnect.capacity_eq, Interconnect.capacity_eq, Interconnect.outgoing?_tick]
    cases attended.bus.outgoing? a <;> simp
  | offer message =>
    rw [step]
    split
    · next sent => exact (Interconnect.Handled.of_send? sent).capacity_eq a
    · rfl
  | receive => exact Interconnect.capacity_clear a
  | host event => rfl

lemma capacity_run (attended : Attended α) (actions : List (LinkAction Event)) (a : Terminal) :
    (attended.run actions).bus.capacity a = attended.bus.capacity a := by
  induction actions generalizing attended with
  | nil => rfl
  | cons action later ih => rw [run_cons, ih, capacity_step]

/-- What has been taken stays on the record. -/
lemma taken_prefix_run (attended : Attended α) (actions : List (LinkAction Event)) :
    attended.taken <+: (attended.run actions).taken := by
  induction actions generalizing attended with
  | nil => exact List.prefix_rfl
  | cons action later ih =>
    refine List.IsPrefix.trans ?_ (ih (attended.step action))
    cases action with
    | turn => exact List.prefix_append _ _
    | offer message =>
      rw [step]
      split <;> exact List.prefix_rfl
    | tick | receive | host => exact List.prefix_rfl

lemma Conserved.step (conserved : attended.Conserved) (action : LinkAction Event) :
    (attended.step action).Conserved := by
  obtain ⟨inbound, outbound⟩ := conserved
  constructor <;> rw [near_step]
  · cases action with
    | turn =>
      obtain ⟨taken, sent, handled⟩ := attended.exists_handled
      rw [attended.step_turn handled]
      simp only [handled.carried?_peer, inbound]
      cases taken with
      | none => simp
      | some message => simp [handled.carried?_of_taken]
    | tick => simpa [Attended.step] using inbound
    | offer message =>
      rw [Attended.step]
      split
      · next sent =>
        have free := (Interconnect.inTransit?_of_send? sent).1
        simp [Interconnect.carried?_of_send? sent, inbound, free]
      · exact inbound
    | receive =>
      simpa [Attended.step, Interconnect.carried?_clear_of_ne
        (Terminal.peer_ne attended.near.peer).symm] using inbound
    | host event => exact inbound
  · cases action with
    | turn =>
      obtain ⟨taken, sent, handled⟩ := attended.exists_handled
      rw [attended.step_turn handled]
      simp only [handled.carried?_near, outbound]
      cases sent with
      | none => simp
      | some message => simp [handled.carried?_of_sent.1]
    | tick => simpa [Attended.step] using outbound
    | offer message =>
      rw [Attended.step]
      split
      · next sent =>
        simpa [Interconnect.carried?_of_send?_of_ne sent attended.near.peer_ne.symm]
          using outbound
      · exact outbound
    | receive =>
      simp only [Attended.step]
      cases waiting : attended.bus.message? attended.near.peer with
      | none =>
        have same : (attended.bus.clear attended.near.peer).carried? attended.near
            = attended.bus.carried? attended.near := by
          rw [Interconnect.carried?_eq, Interconnect.carried?_eq, waiting,
            Interconnect.inTransit?_clear, Interconnect.message?_clear]
        simpa [same] using outbound
      | some message =>
        have gone := Interconnect.carried?_clear_of_message? waiting
        have here := Interconnect.carried?_of_message? waiting
        rw [Terminal.peer_peer] at gone here
        simpa [gone, here] using outbound
    | host event => exact outbound

/-- **Nothing is lost on the way**: what one end has sent is what the other end has taken, in the
same order, and then what the link still carries. -/
theorem Conserved.run (conserved : attended.Conserved) (actions : List (LinkAction Event)) :
    (attended.run actions).Conserved := by
  induction actions generalizing attended with
  | nil => exact conserved
  | cons action later ih => exact ih (conserved.step action)

/-- What holds of a component and the record of its turns holds of a run if every turn and every
action of the host keep it. -/
lemma invariant_run (holds : α → List Message → List Message → Prop) {capacity : Nat}
    (of_turn : ∀ component bus taken sent, bus.capacity (terminal component) = capacity →
      holds component taken sent →
      ∃ taken' sent',
        Interconnect.Handled (terminal component) bus (turn component bus).2 taken' sent'
        ∧ holds (turn component bus).1 (taken ++ taken'.toList) (sent ++ sent'.toList))
    (of_host : ∀ component event taken sent, holds component taken sent →
      holds (host component event) taken sent)
    (now : holds attended.component attended.taken attended.sent)
    (wide : attended.bus.capacity attended.near = capacity)
    (actions : List (LinkAction Event)) :
    holds (attended.run actions).component (attended.run actions).taken
      (attended.run actions).sent := by
  induction actions generalizing attended with
  | nil => exact now
  | cons action later ih =>
    refine ih ?_ (by rw [near_step, capacity_step, wide])
    cases action with
    | turn =>
      obtain ⟨taken, sent, handled, kept⟩ := of_turn _ _ _ _ wide now
      rw [attended.step_turn handled]
      exact kept
    | tick | receive => exact now
    | offer message =>
      rw [Attended.step]
      split <;> exact now
    | host event => exact of_host _ _ _ _ now

end Attended

end PipelinedMachine
