import PipelinedMachine.Proofs.Link.Contents

/-!
# Links deliver in order

A link is a reliable channel with one slot in each direction.  Whatever the components at the
terminals do and in whatever order, the messages that become visible at one end are those that were
accepted at the other, in the same order and word for word, except for at most one that is still on
its way.

* `Interconnect.Operation` — what can happen to an interconnect, links being added included;
* `Interconnect.accepted?`, `Interconnect.sentFrom` — the messages that a terminal has sent, passing
  on a message counted;
* `Interconnect.shown?`, `Interconnect.shownAt` — the messages that have become visible at a
  terminal;
* `Interconnect.DirectionStep` — everything that one operation can do to one direction of a link;
* **`Interconnect.directions_reliable`** — the contract of a link, for every direction of every
  link.

The two histories are read off the interconnect from outside: a message counts as sent when the
operation that sends it succeeds, and as shown when the receiver sees a message where there was
none.
-/

namespace PipelinedMachine

namespace Interconnect

/-! ## Operations and histories -/

/-- What can happen to an interconnect. -/
inductive Operation where
  | link (period : UInt32) (capacity : Nat)
  | send (terminal : Terminal) (message : Message)
  | clear (terminal : Terminal)
  | forward (source target : Terminal)
  | tick

/-- The interconnect after an operation.  One that is refused leaves it as it is. -/
def apply (bus : Interconnect) : Operation → Interconnect
  | .link period capacity => (bus.link period capacity).1
  | .send terminal message => (bus.send? terminal message).getD bus
  | .clear terminal => bus.clear terminal
  | .forward source target => (bus.forward? source target).getD bus
  | .tick => bus.tick

/-- The interconnect after some operations. -/
def run (bus : Interconnect) (operations : List Operation) : Interconnect :=
  operations.foldl apply bus

/-- The message that an operation starts from terminal `a`. -/
def accepted? (bus : Interconnect) (a : Terminal) : Operation → Option Message
  | .send terminal message =>
    if terminal = a ∧ (bus.send? terminal message).isSome then some message else none
  | .forward source target =>
    if target = a ∧ (bus.forward? source target).isSome then bus.message? source else none
  | .link .. | .clear _ | .tick => none

/-- The message that an operation makes visible at terminal `b`. -/
def shown? (bus : Interconnect) (b : Terminal) (operation : Operation) : Option Message :=
  Message.newly? (bus.message? b) ((bus.apply operation).message? b)

/-- The messages sent from terminal `a`, oldest first. -/
def sentFrom (bus : Interconnect) (a : Terminal) : List Operation → List Message
  | [] => []
  | operation :: later =>
    (bus.accepted? a operation).toList ++ (bus.apply operation).sentFrom a later

/-- The messages that have become visible at terminal `b`, oldest first. -/
def shownAt (bus : Interconnect) (b : Terminal) : List Operation → List Message
  | [] => []
  | operation :: later =>
    (bus.shown? b operation).toList ++ (bus.apply operation).shownAt b later

/-- Whether an operation takes the message waiting at terminal `b` away. -/
def Operation.takes (bus : Interconnect) (b : Terminal) : Operation → Prop
  | .clear terminal => terminal = b
  | .forward source target => source = b ∧ (bus.forward? source target).isSome
  | .link .. | .send .. | .tick => False

/-- Whether an operation names an end of the direction out of terminal `a`, or is a tick, which
concerns all. -/
def Operation.concerns (a : Terminal) : Operation → Prop
  | .send terminal _ => terminal = a
  | .clear terminal => terminal = a.peer
  | .forward source target => target = a ∨ source = a.peer
  | .tick => True
  | .link .. => False

/-! ## One operation, one direction -/

/-- Everything that an operation can do to the channel out of terminal `a`. -/
inductive DirectionStep (bus : Interconnect) (operation : Operation) (a : Terminal) : Prop where
  /-- It leaves the channel alone. -/
  | same (channel : (bus.apply operation).outgoing? a = bus.outgoing? a)
      (silent : bus.accepted? a operation = none)
  /-- It adds the channel. -/
  | added (period : UInt32) (capacity : Nat) (before : bus.outgoing? a = none)
      (channel : (bus.apply operation).outgoing? a = some (Channel.opened period capacity))
      (silent : bus.accepted? a operation = none)
  /-- It hands the channel a message. -/
  | sent (message : Message) (before : bus.carried? a = none)
      (transit : (bus.apply operation).inTransit? a = some message)
      (fits : message ≠ [] ∧ message.length ≤ (bus.apply operation).capacity a)
      (told : bus.accepted? a operation = some message) (concerns : operation.concerns a)
  /-- It takes what has arrived. -/
  | cleared (channel : (bus.apply operation).outgoing? a = (bus.outgoing? a).map Channel.clear)
      (silent : bus.accepted? a operation = none) (takes : operation.takes bus a.peer)
      (concerns : operation.concerns a)
  /-- It lets a tick pass. -/
  | ticked (channel : (bus.apply operation).outgoing? a = (bus.outgoing? a).map Channel.tick)
      (silent : bus.accepted? a operation = none) (concerns : operation.concerns a)

lemma apply_send_of_refused {bus : Interconnect} {terminal : Terminal} {message : Message}
    (h : bus.send? terminal message = none) : bus.apply (.send terminal message) = bus := by
  simp [apply, h]

lemma apply_send_of_accepted {bus after : Interconnect} {terminal : Terminal} {message : Message}
    (h : bus.send? terminal message = some after) :
    bus.apply (.send terminal message) = after := by
  simp [apply, h]

lemma apply_forward_of_refused {bus : Interconnect} {source target : Terminal}
    (h : bus.forward? source target = none) : bus.apply (.forward source target) = bus := by
  simp [apply, h]

lemma apply_forward_of_accepted {bus after : Interconnect} {source target : Terminal}
    (h : bus.forward? source target = some after) :
    bus.apply (.forward source target) = after := by
  simp [apply, h]

lemma directionStep_send (bus : Interconnect) (terminal : Terminal) (message : Message)
    (a : Terminal) : DirectionStep bus (.send terminal message) a := by
  cases sent : bus.send? terminal message with
  | none =>
    refine .same ?_ (by simp [accepted?, sent])
    rw [apply_send_of_refused sent]
  | some after =>
    have result := apply_send_of_accepted sent
    by_cases here : terminal = a
    · subst here
      obtain ⟨free, transit⟩ := inTransit?_of_send? sent
      exact .sent message free (by rw [result, transit])
        (by rw [result]; exact length_of_send? sent)
        (by simp [accepted?, sent]) rfl
    · refine .same ?_ (by simp [accepted?, here])
      rw [result, outgoing?_of_send?_of_ne sent (Ne.symm here)]

lemma directionStep_clear (bus : Interconnect) (terminal a : Terminal) :
    DirectionStep bus (.clear terminal) a := by
  by_cases here : a = terminal.peer
  · subst here
    exact .cleared ((outgoing?_clear _ _ _).trans (if_pos rfl)) rfl terminal.peer_peer.symm
      terminal.peer_peer.symm
  · exact .same (outgoing?_clear_of_ne here) rfl

/-- Passing a message on is sending it and then clearing it away. -/
lemma forward?_eq_some {bus after : Interconnect} {source target : Terminal}
    (h : bus.forward? source target = some after) :
    ∃ message between, bus.message? source = some message
      ∧ bus.send? target message = some between ∧ after = between.clear source := by
  rw [forward?] at h
  split at h
  · next message waiting =>
    obtain ⟨between, sent, rfl⟩ := Option.map_eq_some_iff.mp h
    exact ⟨message, between, waiting, sent, rfl⟩
  · contradiction

lemma directionStep_forward (bus : Interconnect) (source target a : Terminal) :
    DirectionStep bus (.forward source target) a := by
  cases passed : bus.forward? source target with
  | none =>
    refine .same ?_ (by simp [accepted?, passed])
    rw [apply_forward_of_refused passed]
  | some after =>
    have result := apply_forward_of_accepted passed
    obtain ⟨message, between, waiting, sent, rfl⟩ := forward?_eq_some passed
    by_cases here : target = a
    · subst here
      obtain ⟨free, transit⟩ := inTransit?_of_send? sent
      exact .sent message free (by rw [result, inTransit?_clear, transit])
        (by rw [result, capacity_clear]; exact length_of_send? sent)
        (by simp [accepted?, passed, waiting]) (Or.inl rfl)
    · have silent : bus.accepted? a (.forward source target) = none := by simp [accepted?, here]
      have unsent := outgoing?_of_send?_of_ne sent (Ne.symm here)
      by_cases taken : a = source.peer
      · have back : source = a.peer := by rw [taken, Terminal.peer_peer]
        refine .cleared ?_ silent ⟨back, by simp [passed]⟩ (Or.inr back)
        rw [result, outgoing?_clear, if_pos taken, unsent]
      · refine .same ?_ silent
        rw [result, outgoing?_clear_of_ne taken, unsent]

lemma directionStep_link (bus : Interconnect) (period : UInt32) (capacity : Nat) (a : Terminal) :
    DirectionStep bus (.link period capacity) a := by
  have channel := outgoing?_link bus period capacity a
  by_cases old : a.index < bus.size
  · rw [if_pos old] at channel
    exact .same channel rfl
  · have missing : bus.outgoing? a = none := by
      rw [← Option.not_isSome_iff_eq_none, isSome_outgoing?_iff]
      exact old
    rw [if_neg old] at channel
    by_cases new : a.index < bus.size + 2
    · rw [if_pos new] at channel
      exact .added period capacity missing channel rfl
    · rw [if_neg new, ← missing] at channel
      exact .same channel rfl

/-- The inventory is complete. -/
lemma directionStep (bus : Interconnect) (operation : Operation) (a : Terminal) :
    DirectionStep bus operation a := by
  cases operation with
  | link period capacity => exact directionStep_link bus period capacity a
  | send terminal message => exact directionStep_send bus terminal message a
  | clear terminal => exact directionStep_clear bus terminal a
  | forward source target => exact directionStep_forward bus source target a
  | tick => exact .ticked (outgoing?_tick bus a) rfl trivial

/-! ## What one operation does to the histories -/

/-- What was in transit before, followed by what is sent, is what becomes visible, followed by what
is in transit after. -/
lemma inTransit?_append_accepted? (bus : Interconnect) (operation : Operation) (a : Terminal) :
    (bus.inTransit? a).toList ++ (bus.accepted? a operation).toList
      = (bus.shown? a.peer operation).toList
        ++ ((bus.apply operation).inTransit? a).toList := by
  rw [shown?]
  cases directionStep bus operation a with
  | same channel silent =>
    rw [silent, message?_peer, message?_peer, inTransit?, inTransit?, channel]
    simp
  | added period capacity before channel silent =>
    rw [silent, message?_peer, message?_peer, inTransit?, inTransit?, channel, before]
    rfl
  | sent message before transit _ told _ =>
    have unseen := message?_peer_of_inTransit? transit
    rw [carried?_eq, Option.or_eq_none_iff] at before
    rw [told, before.1, before.2, transit, unseen]
    rfl
  | cleared channel silent _ _ =>
    rw [silent, message?_peer, message?_peer, inTransit?, inTransit?, channel]
    cases bus.outgoing? a with
    | none => rfl
    | some held => cases waiting : held.waiting? <;> simp [waiting]
  | ticked channel silent _ =>
    rw [silent, message?_peer, message?_peer, inTransit?, inTransit?, channel]
    cases bus.outgoing? a with
    | none => rfl
    | some held => simpa using Channel.inTransit?_toList_eq held

/-- A visible message stays as it is until an operation takes it. -/
lemma message?_apply_of_message? {bus : Interconnect} {b : Terminal} {message : Message}
    (waiting : bus.message? b = some message) (operation : Operation) :
    (bus.apply operation).message? b = some message
      ∨ operation.takes bus b ∧ (bus.apply operation).message? b = none := by
  obtain ⟨a, rfl⟩ : ∃ a : Terminal, b = a.peer := ⟨b.peer, b.peer_peer.symm⟩
  have full : bus.carried? a = some message := by
    rw [← a.peer_peer]
    exact carried?_of_message? waiting
  rw [message?_peer] at waiting ⊢
  obtain ⟨held, found, arrived⟩ := Option.bind_eq_some_iff.mp waiting
  cases directionStep bus operation a with
  | same channel _ => exact Or.inl (channel ▸ waiting)
  | added _ _ before _ _ => rw [before] at found; contradiction
  | sent _ before _ _ _ _ => rw [before] at full; contradiction
  | cleared channel _ takes _ => exact Or.inr ⟨takes, by simp [channel, found]⟩
  | ticked channel _ _ =>
    left
    rw [channel, found]
    exact Channel.waiting?_tick_of_waiting? arrived

/-! ## What a run does to them -/

@[simp] lemma inTransit?_empty (a : Terminal) : empty.inTransit? a = none := by
  simp [inTransit?, outgoing?, empty]

@[simp] lemma message?_empty (b : Terminal) : empty.message? b = none := by
  simp [message?_eq, outgoing?, empty]

/-- Over a run, what was in transit at its start, followed by all that is sent, is all that becomes
visible, followed by what is in transit at its end. -/
lemma inTransit?_append_sentFrom (bus : Interconnect) (operations : List Operation)
    (a : Terminal) :
    (bus.inTransit? a).toList ++ bus.sentFrom a operations
      = bus.shownAt a.peer operations ++ ((bus.run operations).inTransit? a).toList := by
  induction operations generalizing bus with
  | nil => simp [sentFrom, shownAt, run]
  | cons operation later ih =>
    calc (bus.inTransit? a).toList ++ bus.sentFrom a (operation :: later)
        = ((bus.inTransit? a).toList ++ (bus.accepted? a operation).toList)
            ++ (bus.apply operation).sentFrom a later := (List.append_assoc _ _ _).symm
      _ = (bus.shown? a.peer operation).toList
            ++ (((bus.apply operation).inTransit? a).toList
              ++ (bus.apply operation).sentFrom a later) := by
          rw [inTransit?_append_accepted?, List.append_assoc]
      _ = (bus.shown? a.peer operation).toList
            ++ ((bus.apply operation).shownAt a.peer later
              ++ (((bus.apply operation).run later).inTransit? a).toList) := by rw [ih]
      _ = bus.shownAt a.peer (operation :: later)
            ++ ((bus.run (operation :: later)).inTransit? a).toList :=
          (List.append_assoc _ _ _).symm

/-- Over a run, a message that is visible at its end is the last one to have become visible, or has
been there from the start. -/
lemma getLast?_shownAt {bus : Interconnect} {operations : List Operation} {b : Terminal}
    {message : Message} (waiting : (bus.run operations).message? b = some message) :
    ((bus.message? b).toList ++ bus.shownAt b operations).getLast? = some message := by
  induction operations generalizing bus with
  | nil =>
    have here : bus.message? b = some message := waiting
    simp [shownAt, here]
  | cons operation later ih =>
    have last := ih waiting
    rw [shownAt, shown?]
    cases before : bus.message? b with
    | none => simpa using last
    | some first =>
      rcases message?_apply_of_message? before operation with kept | ⟨_, gone⟩
      · simpa [kept] using last
      · rw [gone] at last
        simp only [Option.toList_none, List.nil_append] at last
        simp [List.getLast?_cons, last]

/-- Whether the message that a channel carries, if any, has words and no more than the channel
takes. -/
def Fits (bus : Interconnect) (a : Terminal) : Prop :=
  ∀ message, bus.carried? a = some message → message ≠ [] ∧ message.length ≤ bus.capacity a

lemma Fits.apply {bus : Interconnect} {a : Terminal} (h : bus.Fits a) (operation : Operation) :
    (bus.apply operation).Fits a := by
  intro message carried
  cases directionStep bus operation a with
  | same channel _ =>
    rw [carried?, channel] at carried
    rw [capacity_eq, channel, ← capacity_eq]
    exact h message carried
  | added _ _ _ channel _ =>
    rw [carried?, channel] at carried
    contradiction
  | sent _ _ transit fits _ _ =>
    rw [carried?_eq, transit, Option.some_or] at carried
    exact Option.some.inj carried ▸ fits
  | cleared channel _ _ _ =>
    rw [carried?, channel] at carried
    rw [capacity_eq, channel]
    cases found : bus.outgoing? a with
    | none => rw [found] at carried; contradiction
    | some held =>
      rw [found, Option.map_some, Option.bind_some, Channel.carried?_clear] at carried
      simpa [capacity_eq, found] using
        h message (by rw [carried?, found]; exact Channel.carried?_of_inTransit? carried)
  | ticked channel _ _ =>
    rw [carried?, channel] at carried
    rw [capacity_eq, channel]
    cases found : bus.outgoing? a with
    | none => rw [found] at carried; contradiction
    | some held =>
      rw [found, Option.map_some, Option.bind_some, Channel.carried?_tick] at carried
      simpa [capacity_eq, found] using h message (by rw [carried?, found]; exact carried)

lemma Fits.run {bus : Interconnect} {a : Terminal} (h : bus.Fits a)
    (operations : List Operation) : (bus.run operations).Fits a := by
  induction operations generalizing bus with
  | nil => exact h
  | cons operation later ih => exact ih (h.apply operation)

lemma fits_empty (a : Terminal) : empty.Fits a := by
  intro message carried
  rw [carried?_eq, inTransit?_empty, message?_empty] at carried
  contradiction

/-- A message in transit arrives, whatever the other links carry. -/
lemma exists_iterate_tick_message? {bus : Interconnect} {a : Terminal} {message : Message}
    (transit : bus.inTransit? a = some message) :
    ∃ ticks, (tick^[ticks] bus).message? a.peer = some message := by
  have alone (ticks : ℕ) :
      (tick^[ticks] bus).outgoing? a = (bus.outgoing? a).map Channel.tick^[ticks] := by
    induction ticks with
    | zero => simp
    | succ ticks ih => rw [Function.iterate_succ_apply', outgoing?_tick, ih, Option.map_map,
        Function.iterate_succ']
  obtain ⟨channel, found, underway⟩ := Option.bind_eq_some_iff.mp transit
  obtain ⟨ticks, arrived⟩ := Channel.exists_iterate_tick_waiting? underway
  refine ⟨ticks, ?_⟩
  rw [message?_peer, alone, found]
  exact arrived

/-! ## The contract of a link -/

/-- What the two ends of the direction from `a` to `a.peer` can rely on, after the given operations
on an interconnect that started without links. -/
structure Reliable (operations : List Operation) (a : Terminal) : Prop where
  /-- What has been sent is what has become visible, in the same order and word for word, and then
  the one message still in transit, if there is one. -/
  fifo : empty.sentFrom a operations
    = empty.shownAt a.peer operations ++ ((empty.run operations).inTransit? a).toList
  /-- What is visible is a whole message, the latest to have become visible. -/
  whole : ∀ message, (empty.run operations).message? a.peer = some message →
    (empty.shownAt a.peer operations).getLast? = some message
  /-- A message on its way or waiting has words, and no more of them than the link takes. -/
  fits : (empty.run operations).Fits a
  /-- While a terminal is sending, the slot at the other end is empty. -/
  exclusive : (empty.run operations).isSending a →
    (empty.run operations).message? a.peer = none
  /-- A visible message stays until it is taken. -/
  stable : ∀ operation message, (empty.run operations).message? a.peer = some message →
    ¬operation.takes (empty.run operations) a.peer →
    ((empty.run operations).apply operation).message? a.peer = some message
  /-- A message that fits is accepted exactly when the direction is idle and its slot empty. -/
  accepts : ∀ message, ((empty.run operations).send? a message).isSome ↔
    a.index < (empty.run operations).size ∧ (empty.run operations).isSending a = false
      ∧ (empty.run operations).message? a.peer = none ∧ message ≠ []
      ∧ message.length ≤ (empty.run operations).capacity a
  /-- A refused message changes nothing. -/
  refused : ∀ message, (empty.run operations).send? a message = none →
    (empty.run operations).apply (.send a message) = empty.run operations
  /-- Operations on other links and on the opposite direction do not touch this one. -/
  separate : ∀ operation, a.index < (empty.run operations).size → ¬operation.concerns a →
    ((empty.run operations).apply operation).outgoing? a = (empty.run operations).outgoing? a
  /-- A tick does to this direction what it would do to it alone. -/
  clocked : (empty.run operations).tick.outgoing? a
    = ((empty.run operations).outgoing? a).map Channel.tick
  /-- A message in transit arrives. -/
  arrives : ∀ message, (empty.run operations).inTransit? a = some message →
    ∃ ticks, (tick^[ticks] (empty.run operations)).message? a.peer = some message

/-- **Every direction of every link is a reliable channel**, whatever is done to the
interconnect. -/
theorem directions_reliable (operations : List Operation) (a : Terminal) :
    Reliable operations a where
  fifo := by simpa using inTransit?_append_sentFrom empty operations a
  whole := fun message waiting => by simpa using getLast?_shownAt waiting
  fits := (fits_empty a).run operations
  exclusive := fun sending => by
    rw [isSending_eq] at sending
    obtain ⟨message, transit⟩ := Option.isSome_iff_exists.mp sending
    exact message?_peer_of_inTransit? transit
  stable := fun operation message waiting kept =>
    (message?_apply_of_message? waiting operation).resolve_right fun taken => kept taken.1
  accepts := fun message => by
    rw [isSome_send?_iff, carried?_eq, Option.or_eq_none_iff, isSending_eq,
      Option.isSome_eq_false_iff, Option.isNone_iff_eq_none, and_assoc]
  refused := fun _ => apply_send_of_refused
  separate := fun operation inside apart => by
    cases directionStep (empty.run operations) operation a with
    | same channel _ => exact channel
    | added _ _ before _ _ =>
      rw [← isSome_outgoing?_iff, before] at inside
      contradiction
    | sent _ _ _ _ _ concerns | cleared _ _ _ concerns | ticked _ _ concerns =>
      exact absurd concerns apart
  clocked := outgoing?_tick _ a
  arrives := fun message transit => exists_iterate_tick_message? transit

end Interconnect

end PipelinedMachine
