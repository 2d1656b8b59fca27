import PipelinedMachine.Proofs.Link.Contents

/-!
# A sweep over terminals

A hub goes over its terminals one after the other, and each has one turn: the message that waits
there is passed on through another terminal, dropped, or left waiting.  The turns are not
independent, for a message that is passed on may take the way of one that comes later.  Still
nothing is lost or made up on the whole, and a message that is left waiting has been refused for a
reason.

* `Interconnect.sender?` — the channel out of a terminal, as far as it is that terminal's own;
* `Route` — what is to become of a message;
* `Interconnect.Shift`, `Interconnect.Sweep` — the turn of one terminal, and those of several;
* `Interconnect.Conserves` — what has become of every message, and of every terminal;
* **`Interconnect.Sweep.conserves`** — a sweep over different terminals conserves messages.
-/

namespace PipelinedMachine

/-- What is to become of a message that waits at a terminal. -/
inductive Route where
  /-- It is to be passed on through another terminal. -/
  | through (target : Terminal)
  | dropped
  | kept
deriving DecidableEq, Repr

@[simp] lemma Channel.clear_clear (channel : Channel) : channel.clear.clear = channel.clear := by
  cases held : channel.transfer <;> simp [clear, held]

namespace Interconnect

/-! ## What belongs to a terminal -/

/-- The channel out of a terminal without what has arrived, which belongs to the other end. -/
def sender? (bus : Interconnect) (a : Terminal) : Option Channel :=
  (bus.outgoing? a).map Channel.clear

/-- The message that a terminal has begun to send. -/
def started? (bus after : Interconnect) (a : Terminal) : Option Message :=
  Message.newly? (bus.inTransit? a) (after.inTransit? a)

variable {bus between after : Interconnect} {a b target : Terminal} {message other : Message}

lemma inTransit?_eq_sender? (bus : Interconnect) (a : Terminal) :
    bus.inTransit? a = (bus.sender? a).bind Channel.inTransit? := by
  rw [inTransit?, sender?]
  cases bus.outgoing? a <;> simp

lemma started?_eq_some : started? bus after a = some message
    ↔ bus.inTransit? a = none ∧ after.inTransit? a = some message := by
  rw [started?]
  cases bus.inTransit? a <;> simp

lemma started?_of_sender? (same : after.sender? a = bus.sender? a) : started? bus after a = none := by
  rw [started?, inTransit?_eq_sender?, inTransit?_eq_sender?, same, Message.newly?_self]

@[simp] lemma sender?_clear (bus : Interconnect) (a b : Terminal) :
    (bus.clear a).sender? b = bus.sender? b := by
  rw [sender?, sender?, outgoing?_clear]
  split
  · cases bus.outgoing? b <;> simp
  · rfl

lemma sender?_of_send?_of_ne (sent : bus.send? target message = some after) (away : a ≠ target) :
    after.sender? a = bus.sender? a := by
  rw [sender?, sender?, outgoing?_of_send?_of_ne sent away]

/-- Sending changes nothing of what waits anywhere. -/
lemma message?_of_send?_any (sent : bus.send? target message = some after) (a : Terminal) :
    after.message? a = bus.message? a := by
  by_cases across : a.peer = target
  · obtain rfl : a = target.peer := by rw [← across, Terminal.peer_peer]
    obtain ⟨free, transit⟩ := inTransit?_of_send? sent
    rw [carried?_eq, Option.or_eq_none_iff] at free
    rw [message?_peer_of_inTransit? transit, free.2]
  · exact message?_of_send?_of_ne sent across

lemma message?_clear_of_ne (away : b ≠ a) : (bus.clear a).message? b = bus.message? b := by
  rw [message?_eq, message?_eq,
    outgoing?_clear_of_ne fun same => away (Terminal.peer_inj.mp same)]

/-- Whether a message is taken depends on the terminal that it is sent from, and on whether
anything waits at the other end. -/
lemma isSome_send?_iff_sender? : (bus.send? a message).isSome ↔
    ∃ channel, bus.sender? a = some channel ∧ channel.inTransit? = none
      ∧ bus.message? a.peer = none ∧ message ≠ [] ∧ message.length ≤ channel.capacity := by
  rw [isSome_send?_iff, ← isSome_outgoing?_iff, carried?_eq, Option.or_eq_none_iff, capacity_eq,
    inTransit?, sender?]
  cases bus.outgoing? a <;> simp [and_assoc]

/-! ## Turns -/

variable {route : Terminal → Message → Route} {sources : List Terminal}

/-- The message that waited at a terminal is gone, and had another one as its route. -/
def Taken (route : Terminal → Message → Route) (bus after : Interconnect) (target a : Terminal) :
    Prop :=
  ∃ message, bus.message? a = some message ∧ after.message? a = none
    ∧ route a message = .through target

lemma Taken.of_message? {bus' after' : Interconnect} (taken : Taken route bus after target a)
    (first : bus'.message? a = bus.message? a) (last : after'.message? a = after.message? a) :
    Taken route bus' after' target a := by
  rw [Taken, first, last]
  exact taken

/-- The turn of one terminal. -/
inductive Shift (route : Terminal → Message → Route) (a : Terminal) (bus : Interconnect) :
    Interconnect → Prop where
  | quiet (nothing : bus.message? a = none) : Shift route a bus bus
  | kept (message : Message) (waiting : bus.message? a = some message)
      (stays : route a message = .kept) : Shift route a bus bus
  | blocked (message : Message) (target : Terminal) (waiting : bus.message? a = some message)
      (goes : route a message = .through target) (refused : bus.send? target message = none) :
      Shift route a bus bus
  | dropped (message : Message) (waiting : bus.message? a = some message)
      (lost : route a message = .dropped) : Shift route a bus (bus.clear a)
  | passed (message : Message) (target : Terminal) (between : Interconnect)
      (waiting : bus.message? a = some message) (goes : route a message = .through target)
      (sent : bus.send? target message = some between) : Shift route a bus (between.clear a)

/-- The turns of some terminals, in order. -/
inductive Sweep (route : Terminal → Message → Route) :
    List Terminal → Interconnect → Interconnect → Prop where
  | nil (bus : Interconnect) : Sweep route [] bus bus
  | cons {a : Terminal} {sources : List Terminal} {bus between after : Interconnect}
      (first : Shift route a bus between) (rest : Sweep route sources between after) :
      Sweep route (a :: sources) bus after

lemma Sweep.append {later : List Terminal} (first : Sweep route sources bus between)
    (second : Sweep route later between after) : Sweep route (sources ++ later) bus after := by
  induction first with
  | nil => exact second
  | cons turn _ ih => exact .cons turn (ih second)

/-- Where every message is to be kept, nothing happens. -/
lemma Sweep.idle (kept : ∀ a ∈ sources, ∀ message, bus.message? a = some message →
    route a message = .kept) : Sweep route sources bus bus := by
  induction sources with
  | nil => exact .nil bus
  | cons a sources ih =>
    refine .cons ?_ (ih fun b member => kept b (List.mem_cons_of_mem _ member))
    cases waiting : bus.message? a with
    | none => exact .quiet waiting
    | some message => exact .kept message waiting (kept a List.mem_cons_self message waiting)

namespace Shift

lemma of_forward? (waiting : bus.message? a = some message)
    (goes : route a message = .through target) :
    Shift route a bus ((bus.forward? a target).getD bus) := by
  rw [forward?, waiting]
  simp only
  cases sent : bus.send? target message with
  | none => exact .blocked message target waiting goes sent
  | some between => exact .passed message target between waiting goes sent

variable (shift : Shift route a bus after)
include shift

lemma message?_of_ne (away : b ≠ a) : after.message? b = bus.message? b := by
  cases shift with
  | quiet | kept | blocked => rfl
  | dropped => exact message?_clear_of_ne away
  | passed _ _ _ _ _ sent => rw [message?_clear_of_ne away, message?_of_send?_any sent]

/-- A terminal sends what it sent before, unless it has been free and now sends what waited. -/
lemma sender_cases (b : Terminal) :
    after.sender? b = bus.sender? b
      ∨ ∃ message, bus.message? a = some message ∧ route a message = .through b
        ∧ after.message? a = none ∧ started? bus after b = some message := by
  cases shift with
  | quiet | kept | blocked => exact Or.inl rfl
  | dropped => exact Or.inl (sender?_clear bus a b)
  | passed message target between waiting goes sent =>
    by_cases here : b = target
    · subst here
      obtain ⟨free, transit⟩ := inTransit?_of_send? sent
      rw [carried?_eq, Option.or_eq_none_iff] at free
      exact Or.inr ⟨message, waiting, goes, message?_clear,
        started?_eq_some.mpr ⟨free.1, by rw [inTransit?_clear, transit]⟩⟩
    · exact Or.inl (by rw [sender?_clear, sender?_of_send?_of_ne sent here])

/-- Nothing comes to wait anywhere. -/
lemma message?_of_none (nothing : bus.message? b = none) : after.message? b = none := by
  by_cases here : b = a
  · subst here
    cases shift with
    | quiet | kept | blocked => exact nothing
    | dropped | passed => exact message?_clear
  · rw [shift.message?_of_ne here, nothing]

/-- What waits at the terminal is left there, because it is to be kept or is refused, or it is taken
away, because it is to be dropped or is passed on. -/
lemma fate (waiting : bus.message? a = some message) :
    after.message? a = some message
        ∧ (route a message = .kept
          ∨ ∃ target, route a message = .through target ∧ bus.send? target message = none)
      ∨ after.message? a = none
        ∧ (route a message = .dropped
          ∨ ∃ target, route a message = .through target
            ∧ started? bus after target = some message) := by
  cases shift with
  | quiet nothing =>
    rw [nothing] at waiting
    contradiction
  | kept other found stays =>
    obtain rfl := Option.some.inj (waiting.symm.trans found)
    exact Or.inl ⟨waiting, Or.inl stays⟩
  | blocked other target found goes refused =>
    obtain rfl := Option.some.inj (waiting.symm.trans found)
    exact Or.inl ⟨waiting, Or.inr ⟨target, goes, refused⟩⟩
  | dropped other found lost =>
    obtain rfl := Option.some.inj (waiting.symm.trans found)
    exact Or.inr ⟨message?_clear, Or.inl lost⟩
  | passed other target between found goes sent =>
    obtain rfl := Option.some.inj (waiting.symm.trans found)
    obtain ⟨free, transit⟩ := inTransit?_of_send? sent
    rw [carried?_eq, Option.or_eq_none_iff] at free
    exact Or.inr ⟨message?_clear, Or.inr ⟨target, goes,
      started?_eq_some.mpr ⟨free.1, by rw [inTransit?_clear, transit]⟩⟩⟩

/-- What is on its way stays on its way. -/
lemma inTransit?_of_inTransit? (transit : bus.inTransit? b = some message) :
    after.inTransit? b = some message := by
  rcases shift.sender_cases b with same | ⟨other, -, -, -, started⟩
  · rw [inTransit?_eq_sender?, same, ← inTransit?_eq_sender?, transit]
  · rw [(started?_eq_some.mp started).1] at transit
    contradiction

/-- A way that was free is free afterwards, unless a message has been sent there. -/
lemma send?_cases (refused : after.send? target message = none) :
    bus.send? target message = none ∨ ∃ other, started? bus after target = some other := by
  rcases shift.sender_cases target with same | ⟨other, -, -, -, started⟩
  · refine Or.inl (by_contra fun accepted => ?_)
    rw [← ne_eq, ← Option.isSome_iff_ne_none, isSome_send?_iff_sender?] at accepted
    obtain ⟨channel, own, free, unread, words, fits⟩ := accepted
    have still : (after.send? target message).isSome :=
      isSome_send?_iff_sender?.mpr
        ⟨channel, same.trans own, free, shift.message?_of_none unread, words, fits⟩
    rw [refused] at still
    contradiction
  · exact Or.inr ⟨other, started⟩

end Shift

/-- What has been started in two parts. -/
lemma started?_trans (first : ∀ message, bus.inTransit? a = some message →
      between.inTransit? a = some message)
    (second : ∀ message, between.inTransit? a = some message →
      after.inTransit? a = some message) :
    started? bus after a = (started? bus between a).or (started? between after a) := by
  simp only [started?]
  cases before : bus.inTransit? a with
  | some message => simp [first message before]
  | none =>
    cases middle : between.inTransit? a with
    | some message => simp [second message middle]
    | none => simp

namespace Sweep

lemma message?_of_notMem (sweep : Sweep route sources bus after) (away : b ∉ sources) :
    after.message? b = bus.message? b := by
  induction sweep with
  | nil => rfl
  | cons first _ ih =>
    obtain ⟨apart, away⟩ := not_or.mp (mt List.mem_cons.mpr away)
    rw [ih away, first.message?_of_ne apart]

lemma message?_of_none (sweep : Sweep route sources bus after) (nothing : bus.message? b = none) :
    after.message? b = none := by
  induction sweep with
  | nil => exact nothing
  | cons first _ ih => exact ih (first.message?_of_none nothing)

lemma inTransit?_of_inTransit? (sweep : Sweep route sources bus after)
    (transit : bus.inTransit? b = some message) : after.inTransit? b = some message := by
  induction sweep with
  | nil => exact transit
  | cons first _ ih => exact ih (first.inTransit?_of_inTransit? transit)

lemma started?_cons (first : Shift route a bus between) (rest : Sweep route sources between after)
    (b : Terminal) :
    started? bus after b = (started? bus between b).or (started? between after b) :=
  started?_trans (fun _ => first.inTransit?_of_inTransit?) fun _ => rest.inTransit?_of_inTransit?

/-- A terminal that has begun to send nothing is as it was. -/
lemma sender?_of_silent (sweep : Sweep route sources bus after)
    (silent : started? bus after b = none) : after.sender? b = bus.sender? b := by
  induction sweep with
  | nil => rfl
  | cons first rest ih =>
    rw [started?_cons first rest, Option.or_eq_none_iff] at silent
    rw [ih silent.2]
    rcases first.sender_cases b with same | ⟨message, -, -, -, started⟩
    · exact same
    · rw [silent.1] at started
      contradiction

/-- What a terminal begins to send has waited at another one, and is gone there. -/
lemma origin (sweep : Sweep route sources bus after) (different : sources.Nodup)
    (started : started? bus after target = some message) :
    ∃ a ∈ sources, bus.message? a = some message ∧ after.message? a = none
      ∧ route a message = .through target := by
  induction sweep with
  | nil => simp [started?] at started
  | @cons a sources bus between after first rest ih =>
    obtain ⟨apart, different⟩ := List.nodup_cons.mp different
    rw [started?_cons first rest, Option.or_eq_some_iff] at started
    rcases started with now | ⟨-, later⟩
    · rcases first.sender_cases target with same | ⟨other, waiting, goes, gone, started⟩
      · rw [started?_of_sender? same] at now
        contradiction
      · obtain rfl := Option.some.inj (started.symm.trans now)
        exact ⟨a, List.mem_cons_self, waiting, rest.message?_of_none gone, goes⟩
    · obtain ⟨b, member, waiting, gone, goes⟩ := ih different later
      have away : b ≠ a := fun same => apart (same ▸ member)
      exact ⟨b, List.mem_cons_of_mem _ member, (first.message?_of_ne away).symm.trans waiting,
        gone, goes⟩

/-- What becomes of a message, and why. -/
lemma fate (sweep : Sweep route sources bus after) (different : sources.Nodup)
    (member : a ∈ sources) (waiting : bus.message? a = some message) :
    after.message? a = some message
        ∧ (route a message = .kept
          ∨ ∃ target, route a message = .through target ∧ (bus.send? target message = none
            ∨ ∃ other, started? bus after target = some other))
      ∨ after.message? a = none
        ∧ (route a message = .dropped
          ∨ ∃ target, route a message = .through target
            ∧ started? bus after target = some message) := by
  induction sweep with
  | nil => contradiction
  | @cons b sources bus between after first rest ih =>
    obtain ⟨apart, different⟩ := List.nodup_cons.mp different
    rcases List.mem_cons.mp member with rfl | later
    · rw [rest.message?_of_notMem apart]
      refine (first.fate waiting).imp (fun left => ⟨left.1, left.2.imp_right ?_⟩)
        fun gone => ⟨gone.1, gone.2.imp_right ?_⟩
      · rintro ⟨target, goes, refused⟩
        exact ⟨target, goes, Or.inl refused⟩
      · rintro ⟨target, goes, started⟩
        exact ⟨target, goes, by rw [started?_cons first rest, started, Option.some_or]⟩
    · have away : a ≠ b := fun same => apart (same ▸ later)
      refine (ih different later ((first.message?_of_ne away).trans waiting)).imp
        (fun left => ⟨left.1, left.2.imp_right ?_⟩) fun gone => ⟨gone.1, gone.2.imp_right ?_⟩
      · rintro ⟨target, goes, refused | ⟨other, started⟩⟩
        · refine ⟨target, goes, (first.send?_cases refused).imp_right ?_⟩
          rintro ⟨other, started⟩
          exact ⟨other, by rw [started?_cons first rest, started, Option.some_or]⟩
        · refine ⟨target, goes, Or.inr ?_⟩
          rw [started?_cons first rest, started]
          cases started? bus between target with
          | none => exact ⟨other, rfl⟩
          | some earlier => exact ⟨earlier, rfl⟩
      · rintro ⟨target, goes, started⟩
        refine ⟨target, goes, ?_⟩
        -- nothing is on its way there yet when it is passed on
        have free := (started?_eq_some.mp started).1
        have silent : started? bus between target = none := by
          rw [started?, free]
          cases bus.inTransit? target <;> rfl
        rw [started?_cons first rest, silent, Option.none_or, started]

/-- A message that is gone was to be dropped, or it has been passed on. -/
lemma fate_of_gone (sweep : Sweep route sources bus after) (different : sources.Nodup)
    (member : a ∈ sources) (waiting : bus.message? a = some message)
    (gone : after.message? a = none) :
    route a message = .dropped
      ∨ ∃ target, route a message = .through target
        ∧ started? bus after target = some message := by
  rcases sweep.fate different member waiting with ⟨left, -⟩ | ⟨-, reason⟩
  · rw [gone] at left
    contradiction
  · exact reason

/-- A message that is gone and was to be passed on has been passed on. -/
lemma started_of_gone (sweep : Sweep route sources bus after) (different : sources.Nodup)
    (member : a ∈ sources) (taken : Taken route bus after target a) :
    ∃ message, started? bus after target = some message := by
  obtain ⟨message, waiting, gone, goes⟩ := taken
  rcases sweep.fate_of_gone different member waiting gone with lost | ⟨other, goes', started⟩
  · rw [goes] at lost
    contradiction
  · obtain rfl := Route.through.inj (goes.symm.trans goes')
    exact ⟨message, started⟩

/-- The way that one message has taken is not free for a later one. -/
lemma not_taken_twice (first : Shift route a bus between) (rest : Sweep route sources between after)
    (apart : a ∉ sources) (different : sources.Nodup) (member : b ∈ sources)
    (now : Taken route bus after target a) (later : Taken route bus after target b) : False := by
  have away : b ≠ a := fun same => apart (same ▸ member)
  have earlier : ∃ message, started? bus between target = some message :=
    (Sweep.cons first (.nil between)).started_of_gone (by simp)
      (List.mem_singleton_self a) (now.of_message? rfl (rest.message?_of_notMem apart).symm)
  obtain ⟨message, started⟩ := earlier
  obtain ⟨other, started'⟩ := rest.started_of_gone different member
    (later.of_message? (first.message?_of_ne away) rfl)
  have free := (started?_eq_some.mp started').1
  rw [(started?_eq_some.mp started).2] at free
  contradiction

/-- No two messages take the same way. -/
lemma apart (sweep : Sweep route sources bus after) (different : sources.Nodup)
    (first : a ∈ sources) (second : b ∈ sources) (taken : Taken route bus after target a)
    (taken' : Taken route bus after target b) : a = b := by
  induction sweep with
  | nil => contradiction
  | @cons c sources bus between after turn rest ih =>
    obtain ⟨apart, others⟩ := List.nodup_cons.mp different
    rcases List.mem_cons.mp first with rfl | later <;>
      rcases List.mem_cons.mp second with rfl | later'
    · rfl
    · exact (not_taken_twice turn rest apart others later' taken taken').elim
    · exact (not_taken_twice turn rest apart others later taken' taken).elim
    · have away {d : Terminal} (member : d ∈ sources) : d ≠ c := fun same => apart (same ▸ member)
      exact ih others later later' (taken.of_message? (turn.message?_of_ne (away later)) rfl)
        (taken'.of_message? (turn.message?_of_ne (away later')) rfl)

end Sweep

/-! ## What a sweep conserves -/

/-- What a tick of a hub with these ends has done, if each of its messages has a route. -/
structure Conserves (ends : List Terminal) (route : Terminal → Message → Route)
    (bus after : Interconnect) : Prop where
  /-- A message that waits at one of the ends still waits there, or it has been dropped, or it has
  been passed on, word for word, through the end that its route names.  It is left waiting if its
  route says so, if the way is refused, which then is as it was, or if another message has taken the
  way in the same tick. -/
  fate : ∀ a ∈ ends, ∀ message, bus.message? a = some message →
    after.message? a = some message
        ∧ (route a message = .kept
          ∨ ∃ target ∈ ends, route a message = .through target
            ∧ (bus.send? target message = none ∧ after.sender? target = bus.sender? target
              ∨ ∃ other ∈ ends, other ≠ a ∧ Taken route bus after target other))
      ∨ after.message? a = none
        ∧ (route a message = .dropped
          ∨ ∃ target ∈ ends, route a message = .through target
            ∧ started? bus after target = some message)
  /-- Nothing else is sent: whatever any terminal begins to send has waited at one of the ends, is
  gone there, and had that terminal as its route. -/
  origin : ∀ target message, started? bus after target = some message →
    ∃ a ∈ ends, bus.message? a = some message ∧ after.message? a = none
      ∧ route a message = .through target
  /-- No two messages are passed on through one terminal. -/
  apart : ∀ target, ∀ a ∈ ends, ∀ b ∈ ends, Taken route bus after target a →
    Taken route bus after target b → a = b
  /-- Nothing comes to wait anywhere, so that at most one message is taken from each end. -/
  nothing : ∀ a, bus.message? a = none → after.message? a = none
  /-- A terminal that has begun to send nothing sends what it sent before. -/
  silent : ∀ a, started? bus after a = none → after.sender? a = bus.sender? a
  /-- All other terminals are as they were. -/
  outside : ∀ a, a ∉ ends → after.message? a = bus.message? a ∧ after.sender? a = bus.sender? a

/-- A sweep over different terminals conserves messages. -/
lemma Sweep.conserves {ends : List Terminal} (sweep : Sweep route sources bus after)
    (different : sources.Nodup) (same : ∀ a, a ∈ ends ↔ a ∈ sources)
    (inside : ∀ a ∈ ends, ∀ message target, bus.message? a = some message →
      route a message = .through target → target ∈ ends) :
    Conserves ends route bus after where
  fate a member message waiting := by
    refine (sweep.fate different ((same a).mp member) waiting).imp
      (fun left => ⟨left.1, left.2.imp_right ?_⟩) fun gone => ⟨gone.1, gone.2.imp_right ?_⟩
    · rintro ⟨target, goes, reason⟩
      refine ⟨target, inside a member message target waiting goes, goes, ?_⟩
      cases started : started? bus after target with
      | none =>
        refine Or.inl ⟨reason.resolve_right ?_, sweep.sender?_of_silent started⟩
        rintro ⟨other, started'⟩
        rw [started] at started'
        contradiction
      | some other =>
        obtain ⟨b, member', taken⟩ := sweep.origin different started
        refine Or.inr ⟨b, (same b).mpr member', ?_, other, taken⟩
        rintro rfl
        rw [left.1] at taken
        exact Option.some_ne_none _ taken.2.1
    · rintro ⟨target, goes, started⟩
      exact ⟨target, inside a member message target waiting goes, goes, started⟩
  origin target message started := by
    obtain ⟨a, member, taken⟩ := sweep.origin different started
    exact ⟨a, (same a).mpr member, taken⟩
  apart target a first b second taken taken' :=
    sweep.apart different ((same a).mp first) ((same b).mp second) taken taken'
  nothing a nothing := sweep.message?_of_none nothing
  silent a silent := sweep.sender?_of_silent silent
  outside a away := by
    refine ⟨sweep.message?_of_notMem (mt (same a).mpr away), sweep.sender?_of_silent ?_⟩
    by_contra begun
    obtain ⟨message, started⟩ := Option.ne_none_iff_exists'.mp begun
    obtain ⟨b, member, waiting, -, goes⟩ := sweep.origin different started
    exact away (inside b ((same b).mpr member) message a waiting goes)

end Interconnect

end PipelinedMachine
