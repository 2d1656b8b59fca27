import PipelinedMachine.Proofs.Machine.Layout
import PipelinedMachine.Proofs.Router.Answers

/-!
# The balance of reads and answers

Every read that a core has open is somewhere in the machine: on its way to the router, among those
that the router remembers, or on its way back as an answer.  A read that the router remembers is in
turn on its way to its target, in the target's hands, or on its way back, unless a device behind the
hub has ignored it.  So whatever comes back is the answer to a read that somebody has open.

* `Router.owedTo`, `Router.sentTo` — what the router remembers for a core, and of a target;
* `Core.Lane` — the balance of a core;
* `Peripheral.Keeps` — the balance of main memory and of the interrupt controller;
* `HubLane` — the balance of the device hub;
* `Traffic.Sound` — **all balances together**, and `Traffic.Sound.move`, which says that every move
  keeps them.
-/

namespace PipelinedMachine

open Interconnect

/-! ## What the router remembers -/

namespace Router

/-- The addresses of the reads remembered for a core, oldest first. -/
def owedTo (pending : List PendingRead) (core : Terminal) : List Word :=
  (pending.filter fun read => read.core = core).map PendingRead.address

/-- The addresses of the reads remembered of a target, oldest first. -/
def sentTo (pending : List PendingRead) (target : Terminal) : List Word :=
  (pending.filter fun read => read.target = target).map PendingRead.address

variable {pending : List PendingRead} {read : PendingRead} {core target : Terminal}

@[simp] lemma owedTo_append (pending more : List PendingRead) (core : Terminal) :
    owedTo (pending ++ more) core = owedTo pending core ++ owedTo more core := by
  simp [owedTo]

@[simp] lemma sentTo_append (pending more : List PendingRead) (target : Terminal) :
    sentTo (pending ++ more) target = sentTo pending target ++ sentTo more target := by
  simp [sentTo]

lemma owedTo_cons (read : PendingRead) (pending : List PendingRead) (core : Terminal) :
    owedTo (read :: pending) core
      = if read.core = core then read.address :: owedTo pending core else owedTo pending core := by
  rw [owedTo, List.filter_cons]
  split_ifs <;> simp_all [owedTo]

lemma sentTo_cons (read : PendingRead) (pending : List PendingRead) (target : Terminal) :
    sentTo (read :: pending) target
      = if read.target = target then read.address :: sentTo pending target
        else sentTo pending target := by
  rw [sentTo, List.filter_cons]
  split_ifs <;> simp_all [sentTo]

@[simp] lemma owedTo_nil (core : Terminal) : owedTo [] core = [] := rfl

@[simp] lemma sentTo_nil (target : Terminal) : sentTo [] target = [] := rfl

/-- If the oldest read of a target has the address of an entry, and the target's earlier entries
have others, there are none of them. -/
lemma sentTo_eq_nil_of_head {before later : List PendingRead} {rest : List Word}
    (unfit : ∀ other ∈ before, other.target = target → other.address ≠ read.address)
    (head : sentTo (before ++ read :: later) target = read.address :: rest) :
    sentTo before target = [] := by
  cases earlier : sentTo before target with
  | nil => rfl
  | cons address others =>
    obtain ⟨other, member, same⟩ : ∃ other ∈ before.filter fun read => read.target = target,
        other.address = address := List.mem_map.mp (by
      rw [← sentTo, earlier]
      exact List.mem_cons_self)
    obtain ⟨inside, goes⟩ := List.mem_filter.mp member
    rw [sentTo_append, earlier, List.cons_append] at head
    exact absurd (same.trans (List.cons.inj head).1) (unfit other inside (by simpa using goes))

/-- The read of the oldest entry of a target is the first that was sent to it. -/
lemma eq_sentTo_of_head {before later : List PendingRead} {rest : List Word}
    (source : read.target = target)
    (unfit : ∀ other ∈ before, other.target = target → other.address ≠ read.address)
    (head : sentTo (before ++ read :: later) target = read.address :: rest) :
    rest = sentTo (before ++ later) target := by
  have none := sentTo_eq_nil_of_head unfit head
  rw [sentTo_append, sentTo_cons, if_pos source, none, List.nil_append] at head
  rw [sentTo_append, none, List.nil_append]
  exact (List.cons.inj head).2.symm

/-- With a few reads remembered for each core, there are not many altogether. -/
lemma length_le_of_owedTo (pending : List PendingRead) (cores : List Terminal) (n : Nat)
    (attached : ∀ read ∈ pending, read.core ∈ cores)
    (few : ∀ core ∈ cores, (owedTo pending core).length ≤ n) :
    pending.length ≤ n * cores.length := by
  induction cores generalizing pending with
  | nil =>
    cases pending with
    | nil => simp
    | cons read rest => simpa using attached read (by simp)
  | cons core cores ih =>
    have others := ih (pending.filter fun read => !decide (read.core = core))
      (fun read member => by
        obtain ⟨member, apart⟩ := List.mem_filter.mp member
        exact (List.mem_cons.mp (attached read member)).resolve_left (by simpa using apart))
      (fun other member => by
        refine (List.Sublist.length_le ?_).trans (few other (List.mem_cons_of_mem core member))
        exact (List.filter_sublist.filter _).map _)
    have own := few core List.mem_cons_self
    rw [owedTo, List.length_map] at own
    have split := List.length_eq_length_filter_add (l := pending)
      fun read => decide (read.core = core)
    rw [List.length_cons, Nat.mul_succ]
    omega

/-- The oldest read of its target and address is found and forgotten. -/
lemma exists_of_count_pos {address : Word} (asked : address ∈ sentTo pending target) :
    ∃ before read after, pending = before ++ read :: after ∧ read.target = target
      ∧ read.address = address
      ∧ (pending.find? fun other => other.fits target (some address)) = some read
      ∧ (pending.eraseP fun other => other.fits target (some address)) = before ++ after
      ∧ ∀ other ∈ before, other.target = target → other.address ≠ address := by
  obtain ⟨candidate, member, rfl⟩ := List.mem_map.mp asked
  obtain ⟨inside, same⟩ := List.mem_filter.mp member
  have fits : candidate.fits target (some candidate.address) = true := by
    simpa [PendingRead.fits] using same
  obtain ⟨read, found⟩ : ∃ read, (pending.find? fun other =>
      other.fits target (some candidate.address)) = some read :=
    Option.isSome_iff_exists.mp (List.find?_isSome.mpr ⟨candidate, inside, fits⟩)
  obtain ⟨here, before, after, rfl, earlier⟩ := List.find?_eq_some_iff_append.mp found
  have unfit : ∀ other ∈ before, ¬ other.fits target (some candidate.address) = true :=
    fun other member => by simpa using earlier other member
  simp only [PendingRead.fits, Bool.and_eq_true, decide_eq_true_eq, Option.some.injEq] at here
  refine ⟨before, read, after, rfl, here.1, here.2, found, ?_, fun other member same equal => ?_⟩
  · rw [List.eraseP_append_right _ unfit,
      List.eraseP_cons_of_pos (by simp [PendingRead.fits, here])]
  · exact unfit other member (by simp [PendingRead.fits, same, equal])

/-! ## The turns of the router -/

/-- Where reads and writes of an address go. -/
def targetOf (address : Word) : Target :=
  if address < AddressMap.hubStart then .controller
  else if isRam address then .memory else .devices

lemma isRam_of_targetOf {address : Word} (goes : targetOf address = .devices) :
    isRam address = false := by
  rw [targetOf] at goes
  split_ifs at goes with below ram
  simpa using ram

/-- A read goes where its address says, and the hub gets no message with an address in main
memory. -/
structure Goes (message : Message) (target : Target) : Prop where
  asked : ∀ address, message.asked? = some address → target = targetOf address
  beyond : target = .devices → ∀ address, message.address? = some address → isRam address = false

/-- Everything that a core sends goes somewhere. -/
lemma exists_goes (router : Router) {message : Message} (request : message.Request) :
    ∃ target, router.destination? message = some (router.terminal target)
      ∧ Goes message target := by
  obtain ⟨address, named⟩ := Option.ne_none_iff_exists'.mp request.address
  have goes (access : message.kind? = some .read ∨ message.kind? = some .write) :
      router.destination? message = some (router.terminal (targetOf address)) := by
    have here : router.destination? message = message.address?.map fun address =>
        if address < AddressMap.hubStart then router.controller
        else if isRam address then router.memory else router.devices := by
      rcases access with kind | kind <;> rw [destination?, kind]
    rw [here, named, Option.map_some, targetOf]
    split_ifs <;> rfl
  rcases request.kind with kind | kind | kind
  · refine ⟨targetOf address, goes (Or.inl kind), fun a asked => ?_, fun devices a same => ?_⟩
    · rw [Message.asked?, if_pos kind, named] at asked
      rw [Option.some.inj asked]
    · rw [named] at same
      rw [← Option.some.inj same]
      exact isRam_of_targetOf devices
  · refine ⟨targetOf address, goes (Or.inr kind), fun a asked => ?_, fun devices a same => ?_⟩
    · simp [Message.asked?, kind] at asked
    · rw [named] at same
      rw [← Option.some.inj same]
      exact isRam_of_targetOf devices
  · refine ⟨.controller, by rw [destination?, kind]; rfl, fun a asked => ?_, by simp⟩
    simp [Message.asked?, kind] at asked

/-- The entry for a message that is forwarded, if it is a read. -/
def noted? (core target : Terminal) (message : Message) : Option PendingRead :=
  message.asked?.map fun address => ⟨target, address, core⟩

lemma owedTo_noted? (core target other : Terminal) (message : Message) :
    owedTo (noted? core target message).toList other
      = if core = other then message.asked?.toList else [] := by
  rw [noted?]
  cases message.asked? with
  | none => simp
  | some address => simp [owedTo_cons]

lemma sentTo_noted? (core target other : Terminal) (message : Message) :
    sentTo (noted? core target message).toList other
      = if target = other then message.asked?.toList else [] := by
  rw [noted?]
  cases message.asked? with
  | none => simp
  | some address => simp [sentTo_cons]

lemma noteForwarded_eq {router : Router} {core target : Terminal} {message : Message}
    (room : message.asked? ≠ none → router.pending.length ≠ pendingLimit) :
    router.noteForwarded core target message
      = { router with pending := router.pending ++ (noted? core target message).toList } := by
  rw [noteForwarded]
  split
  · next address kind named =>
    have asked : message.asked? = some address := by simp [Message.asked?, kind, named]
    have room := room (by simp [asked])
    simp [noted?, asked, remember, room]
  · next other =>
    have unasked : message.asked? = none := by
      rw [Message.asked?]
      split_ifs with kind
      · by_contra named
        obtain ⟨address, named⟩ := Option.ne_none_iff_exists'.mp named
        exact other address kind named
      · rfl
    simp [noted?, unasked]

/-- What the turn of a core's link does. -/
lemma request_cases (router : Router) (bus : Interconnect) (core : Terminal)
    (request : ∀ message, bus.carried? core.peer = some message → message.Request)
    (room : ∀ message, bus.carried? core.peer = some message → message.asked? ≠ none →
      router.pending.length ≠ pendingLimit)
    (apart : ∀ target, core.link ≠ (router.terminal target).link) :
    router.request bus core = (router, bus)
      ∨ ∃ target message after, Passed core (router.terminal target) message bus after
        ∧ Goes message target
        ∧ router.request bus core
          = ({ router with
              pending := router.pending
                ++ (noted? core (router.terminal target) message).toList }, after) := by
  cases waiting : bus.message? core with
  | none => exact Or.inl (by simp only [Router.request, waiting])
  | some message =>
    have carried := carried?_of_message? waiting
    obtain ⟨target, destination, goes⟩ := router.exists_goes (request message carried)
    cases forwarded : bus.forward? core (router.terminal target) with
    | none => exact Or.inl (by simp only [Router.request, waiting, destination, forwarded])
    | some after =>
      obtain ⟨other, passed⟩ := passed_of_forward? forwarded (apart target)
      obtain rfl : message = other := Option.some.inj (waiting.symm.trans passed.waiting)
      refine Or.inr ⟨target, message, after, passed, goes, ?_⟩
      simp only [Router.request, waiting, destination, forwarded]
      rw [noteForwarded_eq (room message carried)]

/-- What the turn of a link that answers come from does. -/
lemma replyFrom_cases (router : Router) (bus : Interconnect) {target : Target}
    (answers : ∀ message, bus.carried? (router.terminal target).peer = some message →
      (∃ address ∈ sentTo router.pending (router.terminal target),
          message.answered? = some address)
        ∨ target = .devices ∧ message.kind? = some .interrupt)
    (apart : ∀ read ∈ router.pending, (router.terminal target).link ≠ read.core.link)
    (away : target ≠ .controller →
      (router.terminal target).link ≠ (router.terminal .controller).link) :
    router.replyFrom bus target = (router, bus)
      ∨ (∃ message after, target = .devices ∧ message.kind? = some .interrupt
        ∧ Passed (router.terminal target) (router.terminal .controller) message bus after
        ∧ router.replyFrom bus target = (router, after))
      ∨ ∃ before read later message after,
          Passed (router.terminal target) read.core message bus after
          ∧ message.answered? = some read.address
          ∧ router.pending = before ++ read :: later
          ∧ read.target = router.terminal target
          ∧ (∀ other ∈ before, other.target = router.terminal target →
            other.address ≠ read.address)
          ∧ router.replyFrom bus target
            = ({ router with pending := before ++ later }, after) := by
  cases waiting : bus.message? (router.terminal target) with
  | none =>
    have reply : router.replyFrom bus target = router.reply bus (router.terminal target) :=
      replyFrom_eq_reply (by simp [waiting])
    exact Or.inl (by simp only [reply, Router.reply, waiting])
  | some message =>
    rcases answers message (carried?_of_message? waiting) with
      ⟨address, asked, answered⟩ | ⟨rfl, interrupt⟩
    · have response : message.kind? = some .response := by
        by_contra other
        simp [Message.answered?, Message.isResponse, other] at answered
      have named : message.address? = some address := by
        simpa [Message.answered?, Message.isResponse, response] using answered
      have reply : router.replyFrom bus target = router.reply bus (router.terminal target) :=
        replyFrom_eq_reply fun other same interrupt => by
          rw [waiting, Option.some.injEq] at same
          rw [← same, response] at interrupt
          contradiction
      obtain ⟨before, read, later, split, source, rfl, found, erased, unfit⟩ :=
        exists_of_count_pos asked
      have recipient : router.recipient? (router.terminal target) message.address?
          = some read.core := by
        simp only [recipient?, named, found]
      rw [named] at recipient
      rw [reply]
      cases forwarded : bus.forward? (router.terminal target) read.core with
      | none => exact Or.inl (by simp only [Router.reply, waiting, named, recipient, forwarded])
      | some after =>
        obtain ⟨other, passed⟩ := passed_of_forward? forwarded
          (apart read (by simp [split]))
        obtain rfl : message = other := Option.some.inj (waiting.symm.trans passed.waiting)
        refine Or.inr (Or.inr ⟨before, read, later, message, after, passed, answered, split,
          source, unfit, ?_⟩)
        simp only [Router.reply, waiting, named, recipient, forwarded, erased]
    · have interrupts : (bus.message? router.devices).bind Message.kind? = some .interrupt := by
        have waiting : bus.message? router.devices = some message := waiting
        rw [waiting]
        exact interrupt
      cases forwarded : bus.forward? router.devices router.controller with
      | none =>
        exact Or.inl (by simp only [replyFrom, replyDevices, interrupts, if_true, forwarded])
      | some after =>
        obtain ⟨other, passed⟩ := passed_of_forward? forwarded (away (by simp))
        obtain rfl : message = other := Option.some.inj (waiting.symm.trans passed.waiting)
        refine Or.inr (Or.inl ⟨message, after, rfl, interrupt, passed, ?_⟩)
        simp only [replyFrom, replyDevices, interrupts, if_true, forwarded]

end Router

/-! ## The balance of a core -/

/-- Each open read of the core is on its way to the router, among the reads remembered for the core,
or on its way back as an answer. -/
structure Core.Lane (core : Core) (bus : Interconnect) (pending : List PendingRead) : Prop where
  steady : core.Steady
  up : ∀ message, bus.carried? core.terminal = some message → message.Request
  down : ∀ message, bus.carried? core.terminal.peer = some message → message.answered? ≠ none
  balance : ∀ address, core.asked.count address
    = (Message.askedBy (bus.carried? core.terminal)).count address
      + (Router.owedTo pending core.terminal.peer).count address
      + (Message.answeredBy (bus.carried? core.terminal.peer)).count address

namespace Core.Lane

variable {core : Core} {bus after : Interconnect} {pending later before : List PendingRead}
  {source target : Terminal} {message : Message}

lemma of_still (lane : core.Lane bus pending) (still : bus.Still after core.terminal)
    (owed : Router.owedTo later core.terminal.peer = Router.owedTo pending core.terminal.peer) :
    core.Lane after later where
  steady := lane.steady
  up := by rw [still.1]; exact lane.up
  down := by rw [still.2]; exact lane.down
  balance := by rw [still.1, still.2, owed]; exact lane.balance

/-- The core's own turn. -/
lemma tick {core' : Core} {env rest : Environment} {breakpoint : Option Word}
    (lane : core.Lane env.bus pending) (ticked : core.tick env = (core', rest, .ok breakpoint)) :
    core'.Lane rest.bus pending
      ∧ ∃ taken sent, Handled core.terminal env.bus rest.bus taken sent := by
  obtain ⟨steady, terminal, taken, sent, talk⟩ := lane.steady.talk ticked
  have up := talk.handled.carried?_near
  have down := talk.handled.carried?_peer
  refine ⟨⟨steady, fun message carried => ?_, fun message carried => ?_, fun address => ?_⟩,
    taken, sent, talk.handled⟩
  · rw [terminal, up, Option.or_eq_some_iff] at carried
    rcases carried with sends | ⟨-, before⟩
    · exact talk.request message sends
    · exact lane.up message before
  · rw [terminal, down] at carried
    split at carried
    · contradiction
    · exact lane.down message carried
  · have balance := lane.balance address
    have talked := talk.balance address
    rw [terminal, up, down]
    -- the way out was free if something was sent, and what was taken was on the way in
    have out : (Message.askedBy (sent.or (env.bus.carried? core.terminal))).count address
        = (Message.askedBy (env.bus.carried? core.terminal)).count address
          + (Message.askedBy sent).count address := by
      cases sent with
      | none => simp [Message.askedBy]
      | some message =>
        rw [talk.handled.carried?_of_sent.1]
        simp [Message.askedBy]
    have back : (Message.answeredBy (env.bus.carried? core.terminal.peer)).count address
        = (Message.answeredBy taken).count address
          + (Message.answeredBy (if taken.isSome then none
            else env.bus.carried? core.terminal.peer)).count address := by
      cases taken with
      | none => simp [Message.answeredBy]
      | some message =>
        rw [talk.handled.carried?_of_taken]
        simp [Message.answeredBy]
    omega

/-- What the core has sent is passed on, and remembered if it is a read. -/
lemma request (lane : core.Lane bus pending)
    (passed : Passed core.terminal.peer target message bus after)
    (apart : core.terminal.link ≠ target.link) :
    core.Lane after (pending ++ (Router.noted? core.terminal.peer target message).toList) := by
  have carried := passed.carried?
  have left := passed.left
  rw [Terminal.peer_peer] at carried left
  have down : after.carried? core.terminal.peer = bus.carried? core.terminal.peer :=
    passed.carried?_source (by rwa [Terminal.link_peer])
  refine ⟨lane.steady, by simp [left], by rw [down]; exact lane.down, fun address => ?_⟩
  have balance := lane.balance address
  rw [carried] at balance
  rw [left, down, Router.owedTo_append, Router.owedTo_noted?, if_pos rfl, List.count_append]
  simp only [Message.askedBy, Option.bind_none, Option.bind_some, Option.toList_none,
    List.count_nil] at balance ⊢
  omega

/-- An answer comes back to the core whose read it fits. -/
lemma reply {read : PendingRead} (lane : core.Lane bus (before ++ read :: later))
    (passed : Passed source read.core message bus after)
    (answered : message.answered? = some read.address) (own : read.core = core.terminal.peer)
    (apart : source.link ≠ core.terminal.link) : core.Lane after (before ++ later) := by
  rw [own] at passed
  have up : after.carried? core.terminal = bus.carried? core.terminal := by
    simpa using passed.carried?_peer_target (by rwa [Terminal.link_peer])
  refine ⟨lane.steady, by rw [up]; exact lane.up, fun other carried => ?_, fun address => ?_⟩
  · rw [passed.sent, Option.some.injEq] at carried
    rw [← carried, answered]
    simp
  · have balance := lane.balance address
    rw [passed.free, Router.owedTo_append, Router.owedTo_cons, if_pos own] at balance
    rw [up, passed.sent, Router.owedTo_append]
    simp only [Message.answeredBy, Option.bind_none, Option.bind_some, answered,
      Option.toList_none, Option.toList_some, List.count_nil, List.count_append,
      List.count_cons] at balance ⊢
    omega

/-- A message that waits for the core answers one of its open reads. -/
lemma mem_asked (lane : core.Lane bus pending)
    (waiting : bus.message? core.terminal = some message) :
    ∃ address ∈ core.asked, message.answered? = some address := by
  have carried := carried?_of_message? waiting
  obtain ⟨address, answered⟩ := Option.ne_none_iff_exists'.mp (lane.down message carried)
  refine ⟨address, ?_, answered⟩
  have balance := lane.balance address
  rw [carried] at balance
  rw [← List.count_pos_iff, balance]
  simp [Message.answeredBy, answered]

/-- No more reads are remembered for the core than it has open. -/
lemma length_le (lane : core.Lane bus pending) :
    (Message.askedBy (bus.carried? core.terminal)).length
      + (Router.owedTo pending core.terminal.peer).length ≤ 2 := by
  have same : core.asked.Perm (Message.askedBy (bus.carried? core.terminal)
      ++ (Router.owedTo pending core.terminal.peer
        ++ Message.answeredBy (bus.carried? core.terminal.peer))) :=
    List.perm_iff_count.mpr fun address => by
      rw [lane.balance address, List.count_append, List.count_append, Nat.add_assoc]
  have length := same.length_eq
  have few := lane.steady.length_asked
  simp only [List.length_append] at length
  omega

end Core.Lane

/-! ## The balance of main memory and of the controller -/

/-- The reads of a plain device that are remembered are those that it is engaged in, in the same
order. -/
structure Peripheral.Keeps (device : Peripheral) (bus : Interconnect) (reads : List Word) :
    Prop where
  plain : device.Plain
  orderly : device.Orderly bus
  balance : reads = device.engaged bus

namespace Peripheral

variable {device : Peripheral} {bus after : Interconnect} {source core : Terminal}
  {message : Message} {reads : List Word} {address : Word}

lemma Plain.due?_eq (plain : device.Plain)
    (named : message.kind? = some .read → message.address? ≠ none) :
    device.due? message = message.asked? := by
  rw [due?, Message.asked?]
  split_ifs with kind
  · obtain ⟨address, named⟩ := Option.ne_none_iff_exists'.mp (named kind)
    rw [plain.dueFor?, named, Message.address, named]
    rfl
  · rfl

/-- Which lines the controller raises does not matter. -/
lemma Keeps.lines {controller : InterruptController} {lines : InterruptLines}
    (keeps : (Peripheral.controller controller lines).Keeps bus reads) (later : InterruptLines) :
    (Peripheral.controller controller later).Keeps bus reads :=
  ⟨keeps.plain, ⟨keeps.orderly.owed, keeps.orderly.sent⟩, keeps.balance⟩

namespace Keeps

lemma of_still (keeps : device.Keeps bus reads) (still : bus.Still after device.terminal) :
    device.Keeps after reads :=
  ⟨keeps.plain, keeps.orderly.of_still still, by rw [engaged_of_still still, keeps.balance]⟩

lemma tick (keeps : device.Keeps bus reads) :
    (device.tick bus).1.Keeps (device.tick bus).2 reads :=
  ⟨by rw [plain_tick]; exact keeps.plain, keeps.orderly.tick, by
    rw [engaged_tick, keeps.balance]⟩

lemma host (keeps : device.Keeps bus reads) (action : HostAction) :
    (device.host action).Keeps bus reads :=
  ⟨by rw [plain_host]; exact keeps.plain, keeps.orderly.host action, by
    rw [engaged_host, keeps.balance]⟩

/-- A message is passed on to the device. -/
lemma forward (keeps : device.Keeps bus reads)
    (passed : Passed source device.terminal.peer message bus after)
    (apart : source.link ≠ device.terminal.link)
    (named : message.kind? = some .read → message.address? ≠ none) :
    device.Keeps after (reads ++ message.asked?.toList) := by
  have back : after.carried? device.terminal = bus.carried? device.terminal := by
    simpa using passed.carried?_peer_target (by rwa [Terminal.link_peer])
  refine ⟨keeps.plain, ⟨keeps.orderly.owed, by rw [back]; exact keeps.orderly.sent⟩, ?_⟩
  rw [keeps.balance, engaged, engaged, back, passed.sent, passed.free, Option.bind_some,
    keeps.plain.due?_eq named]
  simp

/-- What the device has sent is passed on. -/
lemma reply (keeps : device.Keeps bus (address :: reads))
    (passed : Passed device.terminal.peer core message bus after)
    (answered : message.answered? = some address) (apart : core.link ≠ device.terminal.link) :
    device.Keeps after reads := by
  have carried := passed.carried?
  have left := passed.left
  rw [Terminal.peer_peer] at carried left
  have forth : after.carried? device.terminal.peer = bus.carried? device.terminal.peer :=
    passed.carried?_source (by rw [Terminal.link_peer]; exact apart.symm)
  refine ⟨keeps.plain, ⟨keeps.orderly.owed, by simp [left]⟩, ?_⟩
  have balance := keeps.balance
  rw [engaged, carried, Message.answeredBy, Option.bind_some, answered] at balance
  rw [engaged, left, forth]
  exact (List.cons.inj balance).2

/-- What is on its way from the device is the answer to the oldest of its reads. -/
lemma exists_of_carried? (keeps : device.Keeps bus reads)
    (carried : bus.carried? device.terminal = some message) :
    ∃ address rest, message.answered? = some address ∧ reads = address :: rest := by
  obtain ⟨address, answered⟩ := Option.ne_none_iff_exists'.mp
    ((keeps.orderly.sent message carried).resolve_right fun both => both.2 keeps.plain)
  have balance := keeps.balance
  rw [engaged, carried, Message.answeredBy, Option.bind_some, answered] at balance
  exact ⟨address, _, answered, balance⟩

end Keeps

end Peripheral

/-! ## The balance of the device hub -/

/-- The answers to come from the devices. -/
def engagements (devices : List Peripheral) (bus : Interconnect) : List Word :=
  devices.flatMap fun device => device.engaged bus

/-- Every answer that comes back from the hub at `terminal` is to a read that is remembered.  A read
that a device ignores stays remembered. -/
structure HubLane (bus : Interconnect) (terminal : Terminal) (devices : List Peripheral)
    (reads : List Word) : Prop where
  beyond : ∀ message, bus.carried? terminal = some message →
    ∀ address, message.address? = some address → isRam address = false
  returning : ∀ message, bus.carried? terminal.peer = some message →
    message.answered? ≠ none ∨ message.kind? = some .interrupt
  orderly : ∀ device ∈ devices, device.Orderly bus
  balance : ∀ address, (Message.answeredBy (bus.carried? terminal.peer)).count address
    + (engagements devices bus).count address
    + (Message.askedBy (bus.carried? terminal)).count address ≤ reads.count address

namespace HubLane

variable {bus after : Interconnect} {terminal source target : Terminal} {device : Peripheral}
  {devices left right : List Peripheral} {message : Message} {reads : List Word} {address : Word}

lemma engagements_of_still (still : ∀ device ∈ devices, bus.Still after device.terminal) :
    engagements devices after = engagements devices bus :=
  List.flatMap_congr fun device member => Peripheral.engaged_of_still (still device member)

lemma of_still (lane : HubLane bus terminal devices reads) (here : bus.Still after terminal)
    (still : ∀ device ∈ devices, bus.Still after device.terminal) :
    HubLane after terminal devices reads where
  beyond := by rw [here.1]; exact lane.beyond
  returning := by rw [here.2]; exact lane.returning
  orderly := fun device member => (lane.orderly device member).of_still (still device member)
  balance := by rw [here.1, here.2, engagements_of_still still]; exact lane.balance

/-- A message is passed on to the hub. -/
lemma forward (lane : HubLane bus terminal devices reads)
    (passed : Passed source terminal message bus after) (apart : source.link ≠ terminal.link)
    (beyond : ∀ address, message.address? = some address → isRam address = false)
    (still : ∀ device ∈ devices, bus.Still after device.terminal) :
    HubLane after terminal devices (reads ++ message.asked?.toList) := by
  have back : after.carried? terminal.peer = bus.carried? terminal.peer :=
    passed.apart _ (Terminal.peer_ne _)
      (Terminal.ne_of_link (by rw [Terminal.link_peer, Terminal.link_peer]; exact apart.symm))
  refine ⟨fun other carried => ?_, by rw [back]; exact lane.returning,
    fun device member => (lane.orderly device member).of_still (still device member),
    fun address => ?_⟩
  · rw [passed.sent, Option.some.injEq] at carried
    rw [← carried]
    exact beyond
  · have balance := lane.balance address
    rw [passed.free] at balance
    rw [back, engagements_of_still still, passed.sent, List.count_append]
    simp only [Message.askedBy, Option.bind_none, Option.bind_some, Option.toList_none,
      List.count_nil] at balance ⊢
    omega

/-- What the hub has sent is passed on; if it is an answer, its read is forgotten. -/
lemma reply (lane : HubLane bus terminal devices reads)
    (passed : Passed terminal target message bus after) (apart : target.link ≠ terminal.link)
    (still : ∀ device ∈ devices, bus.Still after device.terminal) {rest : List Word}
    (settled : ∀ address, reads.count address
      = (Message.answeredBy (some message)).count address + rest.count address) :
    HubLane after terminal devices rest := by
  have forth : after.carried? terminal = bus.carried? terminal :=
    passed.carried?_source apart.symm
  refine ⟨by rw [forth]; exact lane.beyond, by simp [passed.left],
    fun device member => (lane.orderly device member).of_still (still device member),
    fun address => ?_⟩
  have balance := lane.balance address
  have settled := settled address
  rw [passed.carried?] at balance
  rw [passed.left, forth, engagements_of_still still]
  simp only [Message.answeredBy, Option.bind_none, Option.toList_none, List.count_nil] at *
  omega

/-- An answer that comes back from the hub is to a read that is remembered. -/
lemma mem_reads (lane : HubLane bus terminal devices reads)
    (carried : bus.carried? terminal.peer = some message)
    (answered : message.answered? = some address) : address ∈ reads := by
  have balance := lane.balance address
  rw [carried, Message.answeredBy, Option.bind_some, answered, Option.toList_some,
    List.count_singleton_self] at balance
  rw [← List.count_pos_iff]
  omega

lemma count_engagements (left right : List Peripheral) (device : Peripheral) (bus : Interconnect)
    (address : Word) :
    (engagements (left ++ device :: right) bus).count address
      = (engagements (left ++ right) bus).count address + (device.engaged bus).count address := by
  simp only [engagements, List.flatMap_append, List.flatMap_cons, List.count_append]
  omega

/-- A device has its turn, or its host does something to it. -/
lemma turn {later : Peripheral} (lane : HubLane bus terminal (left ++ device :: right) reads)
    (here : bus.Still after terminal)
    (around : ∀ other ∈ left ++ right, bus.Still after other.terminal)
    (orderly : later.Orderly after) (engaged : later.engaged after = device.engaged bus) :
    HubLane after terminal (left ++ later :: right) reads := by
  refine ⟨by rw [here.1]; exact lane.beyond, by rw [here.2]; exact lane.returning,
    fun other member => ?_, fun address => ?_⟩
  · rw [List.mem_append, List.mem_cons, or_left_comm, ← List.mem_append] at member
    rcases member with rfl | member
    · exact orderly
    · exact (lane.orderly other (by
        rw [List.mem_append, List.mem_cons, or_left_comm, ← List.mem_append]
        exact Or.inr member)).of_still (around other member)
  · have balance := lane.balance address
    rw [count_engagements] at balance ⊢
    rw [here.1, here.2, engaged, engagements_of_still around]
    exact balance

/-- The hub passes a request on to a device, which answers it under its own address or not at
all. -/
lemma passRequest (lane : HubLane bus terminal (left ++ device :: right) reads)
    (passed : Passed terminal.peer device.terminal.peer message bus after)
    (apart : terminal.link ≠ device.terminal.link)
    (around : ∀ other ∈ left ++ right, bus.Still after other.terminal)
    (heeds : ∀ a ∈ device.due? message, message.asked? = some a) :
    HubLane after terminal (left ++ device :: right) reads := by
  have carried := passed.carried?
  have taken := passed.left
  rw [Terminal.peer_peer] at carried taken
  have back : after.carried? terminal.peer = bus.carried? terminal.peer :=
    passed.carried?_source (by simpa using apart)
  have sent : after.carried? device.terminal = bus.carried? device.terminal := by
    simpa using passed.carried?_peer_target (by simpa using apart)
  have orderly (other : Peripheral) (member : other ∈ left ++ device :: right) :
      other.Orderly after := by
    have before := lane.orderly other member
    rw [List.mem_append, List.mem_cons, or_left_comm, ← List.mem_append] at member
    rcases member with rfl | member
    · exact ⟨before.owed, by rw [sent]; exact before.sent⟩
    · exact before.of_still (around other member)
  refine ⟨by simp [taken], by rw [back]; exact lane.returning, orderly, fun address => ?_⟩
  have balance := lane.balance address
  rw [count_engagements, carried] at balance
  rw [count_engagements, back, taken, engagements_of_still around]
  have due : (device.due? message).toList.count address
      ≤ message.asked?.toList.count address := by
    cases calls : device.due? message with
    | none => simp
    | some a => rw [heeds a calls]
  rw [Peripheral.engaged, passed.free] at balance
  rw [Peripheral.engaged, sent, passed.sent]
  simp only [Message.askedBy, Option.bind_none, Option.bind_some, Option.toList_none,
    List.count_append, List.count_nil] at balance ⊢
  omega

/-- The hub passes on what a device has sent. -/
lemma passReply (lane : HubLane bus terminal (left ++ device :: right) reads)
    (passed : Passed device.terminal.peer terminal.peer message bus after)
    (apart : terminal.link ≠ device.terminal.link)
    (around : ∀ other ∈ left ++ right, bus.Still after other.terminal) :
    HubLane after terminal (left ++ device :: right) reads := by
  have carried := passed.carried?
  have taken := passed.left
  rw [Terminal.peer_peer] at carried taken
  have forth : after.carried? terminal = bus.carried? terminal := by
    simpa using passed.carried?_peer_target (by simpa using apart.symm)
  have call : after.carried? device.terminal.peer = bus.carried? device.terminal.peer :=
    passed.carried?_source (by simpa using apart.symm)
  have own := lane.orderly device (by simp)
  have orderly (other : Peripheral) (member : other ∈ left ++ device :: right) :
      other.Orderly after := by
    have before := lane.orderly other member
    rw [List.mem_append, List.mem_cons, or_left_comm, ← List.mem_append] at member
    rcases member with rfl | member
    · exact ⟨before.owed, by simp [taken]⟩
    · exact before.of_still (around other member)
  refine ⟨by rw [forth]; exact lane.beyond, fun other returned => ?_, orderly, fun address => ?_⟩
  · rw [passed.sent, Option.some.injEq] at returned
    rw [← returned]
    exact (own.sent message carried).imp id And.left
  · have balance := lane.balance address
    rw [count_engagements, passed.free, Peripheral.engaged, carried] at balance
    rw [count_engagements, forth, engagements_of_still around, passed.sent, Peripheral.engaged,
      taken, call]
    simp only [Message.answeredBy, Option.bind_none, Option.bind_some, Option.toList_none,
      List.count_append, List.count_nil] at balance ⊢
    omega

/-- The hub drops a request that no device owns. -/
lemma drop (lane : HubLane bus terminal devices reads)
    (waiting : bus.message? terminal.peer = some message)
    (apart : ∀ device ∈ devices, device.terminal.link ≠ terminal.link) :
    HubLane (bus.clear terminal.peer) terminal devices reads := by
  have taken := carried?_clear_of_message? waiting
  rw [Terminal.peer_peer] at taken
  have elsewhere {a : Terminal} (away : a ≠ terminal) :
      (bus.clear terminal.peer).carried? a = bus.carried? a :=
    carried?_clear_of_ne (by rwa [Terminal.peer_peer])
  have still (device : Peripheral) (member : device ∈ devices) :
      bus.Still (bus.clear terminal.peer) device.terminal :=
    ⟨elsewhere (Terminal.ne_of_link (apart device member)),
      elsewhere (Terminal.ne_of_link (by rw [Terminal.link_peer]; exact apart device member))⟩
  refine ⟨by simp [taken], by rw [elsewhere (Terminal.peer_ne _)]; exact lane.returning,
    fun device member => (lane.orderly device member).of_still (still device member),
    fun address => ?_⟩
  have balance := lane.balance address
  rw [taken, elsewhere (Terminal.peer_ne _), engagements_of_still still]
  simp only [Message.askedBy, Option.bind_none, Option.toList_none, List.count_nil]
  omega

end HubLane

end PipelinedMachine
