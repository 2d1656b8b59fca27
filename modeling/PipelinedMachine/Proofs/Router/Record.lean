import PipelinedMachine.Router
import PipelinedMachine.Proofs.Link.Delivery

/-!
# A record of the router's work

The router works on the links of the cores and of the three targets, one after the other, while the
components at the other ends go on with theirs.  This file takes a tick of the router apart into
the turns of the single links, lets anything happen between two turns, and keeps a record: which
reads have been forwarded, what their targets have answered, and what has gone to the cores.

* `Target`, `Router.replyFrom` — the three targets, and the turns of their links;
* `Router.Wired` — the links are all different;
* `Forwarded`, `Routed` — a read that has been forwarded, and the router with its record;
* `RouterAction`, `Routed.step` — everything that can happen: a turn of the router, a tick of the
  links, and whatever the other components do;
* **`Routed.run_turns`** — a tick of the router is one turn after the other.

The record is read off the links, except for one thing that no link tells: which of several reads of
one address a target answers.  A target answers them in the order in which they were forwarded.
-/

namespace PipelinedMachine

/-! ## The targets -/

/-- Where requests go and answers come from. -/
inductive Target where
  | memory
  | devices
  | controller
deriving DecidableEq, Repr

namespace Router

/-- The router's end of the link to a target. -/
def terminal (router : Router) : Target → Terminal
  | .memory => router.memory
  | .devices => router.devices
  | .controller => router.controller

/-- The turn of the link to a target. -/
def replyFrom (router : Router) (bus : Interconnect) : Target → Router × Interconnect
  | .memory => router.reply bus router.memory
  | .devices => router.replyDevices bus
  | .controller => router.reply bus router.controller

/-- The router's ends of all links. -/
def ends (router : Router) : List Terminal :=
  [router.memory, router.devices, router.controller] ++ router.cores

/-- Every link is a link of its own, with the router at one end only. -/
structure Wired (router : Router) : Prop where
  nodup : router.ends.Nodup
  facing : ∀ a ∈ router.ends, a.peer ∉ router.ends

@[simp] lemma terminal_pending (router : Router) (pending : List PendingRead) (target : Target) :
    ({ router with pending := pending } : Router).terminal target = router.terminal target := by
  cases target <;> rfl

lemma terminal_mem_ends (router : Router) (target : Target) :
    router.terminal target ∈ router.ends := by
  cases target <;> simp [terminal, ends]

lemma Wired.peer_ne {router : Router} (wired : router.Wired) {a b : Terminal}
    (left : a ∈ router.ends) (right : b ∈ router.ends) : a.peer ≠ b :=
  fun same => wired.facing a left (same ▸ right)

lemma core_ne_terminal {router : Router} (nodup : router.ends.Nodup) {core : Terminal}
    (attached : core ∈ router.cores) (target : Target) : core ≠ router.terminal target := by
  have apart := (List.nodup_append.mp nodup).2.2
  exact fun same => apart (router.terminal target) (by cases target <;> simp [terminal]) core
    attached same.symm

lemma terminal_ne {router : Router} (nodup : router.ends.Nodup) {target other : Target}
    (apart : target ≠ other) : router.terminal target ≠ router.terminal other := by
  have nodup := (List.nodup_append.mp nodup).1
  simp only [List.nodup_cons, List.mem_cons, List.not_mem_nil, or_false, not_or] at nodup
  cases target <;> cases other <;> simp_all [terminal, eq_comm]

lemma Wired.core_ne_terminal {router : Router} (wired : router.Wired) {core : Terminal}
    (attached : core ∈ router.cores) (target : Target) : core ≠ router.terminal target :=
  Router.core_ne_terminal wired.nodup attached target

lemma Wired.terminal_ne {router : Router} (wired : router.Wired) {target other : Target}
    (apart : target ≠ other) : router.terminal target ≠ router.terminal other :=
  Router.terminal_ne wired.nodup apart

/-- What passing on a message from a target's link does to the other links of the router. -/
lemma Wired.carried?_forward {router : Router} (wired : router.Wired) {bus between : Interconnect}
    {target : Target} {terminal : Terminal} {message : Message}
    (inside : terminal ∈ router.ends)
    (waiting : bus.message? (router.terminal target) = some message)
    (sent : bus.send? terminal message = some between) :
    (between.clear (router.terminal target)).carried? (router.terminal target).peer = none
      ∧ (∀ other, other ≠ target →
        (between.clear (router.terminal target)).carried? (router.terminal other).peer
          = bus.carried? (router.terminal other).peer)
      ∧ (between.clear (router.terminal target)).carried? terminal = some message
      ∧ ∀ other ∈ router.ends, other ≠ terminal →
        (between.clear (router.terminal target)).carried? other = bus.carried? other := by
  have source := router.terminal_mem_ends target
  refine ⟨?_, fun other different => ?_, ?_, fun other member different => ?_⟩
  · have still : between.message? (router.terminal target) = some message := by
      rw [Interconnect.message?_of_send?_of_ne sent (wired.peer_ne source inside), waiting]
    exact Interconnect.carried?_clear_of_message? still
  · rw [Interconnect.carried?_clear_of_ne fun same =>
        wired.terminal_ne different (Terminal.peer_inj.mp same),
      Interconnect.carried?_of_send?_of_ne sent
        (wired.peer_ne (router.terminal_mem_ends other) inside)]
  · rw [Interconnect.carried?_clear_of_ne (wired.peer_ne source inside).symm,
      Interconnect.carried?_of_send? sent]
  · rw [Interconnect.carried?_clear_of_ne (wired.peer_ne source member).symm,
      Interconnect.carried?_of_send?_of_ne sent different]

lemma mem_ends_of_mem_cores {router : Router} {core : Terminal} (attached : core ∈ router.cores) :
    core ∈ router.ends := by
  simp [ends, attached]

end Router

/-! ## The record -/

/-- A read that has been forwarded. -/
structure Forwarded extends PendingRead where
  /-- How many reads had been forwarded before. -/
  number : Nat
  /-- The core's message. -/
  request : Message
  /-- What the target has answered. -/
  answer : Option Message := none
deriving DecidableEq, Repr

namespace Forwarded

/-- The entry is for a read of its address. -/
def Asks (read : Forwarded) : Prop :=
  read.request.kind? = some .read ∧ read.request.address? = some read.address

/-- The entry once the read with this number has been answered. -/
def noteAnswer (number : Nat) (message : Message) (read : Forwarded) : Forwarded :=
  if read.number = number then { read with answer := some message } else read

@[simp] lemma toPendingRead_noteAnswer (number : Nat) (message : Message) (read : Forwarded) :
    (read.noteAnswer number message).toPendingRead = read.toPendingRead := by
  rw [noteAnswer]
  split <;> rfl

@[simp] lemma number_noteAnswer (number : Nat) (message : Message) (read : Forwarded) :
    (read.noteAnswer number message).number = read.number := by
  rw [noteAnswer]
  split <;> rfl

@[simp] lemma request_noteAnswer (number : Nat) (message : Message) (read : Forwarded) :
    (read.noteAnswer number message).request = read.request := by
  rw [noteAnswer]
  split <;> rfl

lemma noteAnswer_of_ne {number : Nat} {message : Message} {read : Forwarded}
    (other : read.number ≠ number) : read.noteAnswer number message = read := by
  rw [noteAnswer, if_neg other]

end Forwarded

/-- The router and its links, with a record of the reads that it has forwarded. -/
structure Routed where
  router : Router
  bus : Interconnect
  /-- The reads whose answers have not been passed on, oldest first. -/
  unanswered : List Forwarded := []
  /-- The reads whose answers have been passed on, in that order. -/
  returned : List Forwarded := []
  /-- What has been put on the links to the cores, oldest first. -/
  received : List (Terminal × Message) := []
  /-- How many reads have been forwarded. -/
  count : Nat := 0

/-- Something that happens to the router or to its links. -/
inductive RouterAction where
  /-- The turn of a core's link. -/
  | request (core : Terminal)
  /-- The turn of a target's link. -/
  | reply (target : Target)
  /-- Every channel ticks. -/
  | link
  /-- A core sends a message of any kind. -/
  | send (core : Terminal) (message : Message)
  /-- A device raises an interrupt. -/
  | interrupt (words : List Word)
  /-- A target answers the oldest read of an address. -/
  | answer (target : Target) (address : Word) (values : List Word)
  /-- The component at the other end of a link takes what waits there. -/
  | take (terminal : Terminal)
deriving DecidableEq, Repr

namespace Routed

/-- The entry for a message forwarded to `target`, if it is a read. -/
def recorded? (routed : Routed) (core target : Terminal) (message : Message) : Option Forwarded :=
  match message.kind?, message.address? with
  | some .read, some address => some ⟨⟨target, address, core⟩, routed.count, message, none⟩
  | _, _ => none

/-- The read that the turn of a core's link forwards. -/
def forwards? (routed : Routed) (core : Terminal) : Option Forwarded :=
  match routed.bus.message? core with
  | none => none
  | some message =>
    match routed.router.destination? message with
    | none => none
    | some target =>
      match routed.bus.forward? core target with
      | none => none
      | some _ => routed.recorded? core target message

/-- The turn of a core's link, with a new entry for a read that is forwarded. -/
def request (routed : Routed) (core : Terminal) : Routed :=
  let (router, bus) := routed.router.request routed.bus core
  { routed with
    router := router
    bus := bus
    unanswered := routed.unanswered ++ (routed.forwards? core).toList
    count := routed.count + (routed.forwards? core).toList.length }

/-- Whether the read has been answered by `source`, and the answer has not been passed on. -/
def isAnsweredBy (source : Terminal) (read : Forwarded) : Bool :=
  read.target = source && read.answer.isSome

/-- The turn of a target's link.  If the message that waits there is taken, and the target has
answered a read, then this is the answer. -/
def reply (routed : Routed) (target : Target) : Routed :=
  let source := routed.router.terminal target
  let (router, bus) := routed.router.replyFrom routed.bus target
  let after := { routed with router := router, bus := bus }
  if (routed.bus.message? source).isSome ∧ bus.message? source = none then
    match routed.unanswered.find? (isAnsweredBy source) with
    | some read =>
      { after with
        unanswered := routed.unanswered.eraseP (isAnsweredBy source)
        returned := routed.returned ++ [read] }
    | none => after
  else after

/-- A target answers the oldest read of an address that it has not answered, if its link takes the
answer.  It may do so as soon as the read has been forwarded, and with any words. -/
def answer (routed : Routed) (target : Target) (address : Word) (values : List Word) : Routed :=
  let source := routed.router.terminal target
  let message := Message.response address values
  match routed.unanswered.find? fun read =>
      read.target = source && read.address = address && read.answer.isNone,
    routed.bus.send? source.peer message with
  | some oldest, some bus =>
    { routed with
      bus := bus
      unanswered := routed.unanswered.map (Forwarded.noteAnswer oldest.number message) }
  | _, _ => routed

/-- What an action does, but for the record of what goes to the cores. -/
def act (routed : Routed) : RouterAction → Routed
  | .request core => if core ∈ routed.router.cores then routed.request core else routed
  | .reply target => routed.reply target
  | .link => { routed with bus := routed.bus.tick }
  | .send core message =>
    if core ∈ routed.router.cores then
      { routed with bus := (routed.bus.send? core.peer message).getD routed.bus }
    else routed
  | .interrupt words =>
    { routed with
      bus := (routed.bus.send? routed.router.devices.peer
        (MessageKind.interrupt.number :: words)).getD routed.bus }
  | .answer target address values => routed.answer target address values
  | .take terminal =>
    if terminal ∈ routed.router.ends then
      { routed with bus := routed.bus.clear terminal.peer }
    else routed

/-- What is on the links to the cores and has not been there before. -/
def put (cores : List Terminal) (bus after : Interconnect) : List (Terminal × Message) :=
  cores.filterMap fun core =>
    (Message.newly? (bus.carried? core) (after.carried? core)).map (core, ·)

/-- One action. -/
def step (routed : Routed) (action : RouterAction) : Routed :=
  { routed.act action with
    received := routed.received ++ put routed.router.cores routed.bus (routed.act action).bus }

/-- The actions of a run in order. -/
def run (routed : Routed) (actions : List RouterAction) : Routed := actions.foldl step routed

/-- The turns of one tick of the router. -/
def turns (router : Router) : List RouterAction :=
  router.cores.map .request ++ [.reply .memory, .reply .devices, .reply .controller]

end Routed

/-! ## A tick is one turn after the other -/

namespace Router

lemma cores_request (router : Router) (bus : Interconnect) (core : Terminal) :
    (router.request bus core).1.cores = router.cores := by
  rw [request]
  split
  · rfl
  · split
    · rfl
    · split
      · rw [noteForwarded]
        split <;> rfl
      · rfl

/-! ### What a turn changes -/

/-- All that the router ever changes about itself are the reads that it remembers. -/
lemma exists_request_eq (router : Router) (bus : Interconnect) (core : Terminal) :
    ∃ pending, (router.request bus core).1 = { router with pending := pending } := by
  rw [request]
  split
  · exact ⟨router.pending, rfl⟩
  · split
    · exact ⟨router.pending, rfl⟩
    · split
      · rw [noteForwarded]
        split <;> exact ⟨_, rfl⟩
      · exact ⟨router.pending, rfl⟩

lemma exists_reply_eq (router : Router) (bus : Interconnect) (source : Terminal) :
    ∃ pending, (router.reply bus source).1 = { router with pending := pending } := by
  rw [reply]
  split
  · exact ⟨router.pending, rfl⟩
  · split
    · exact ⟨router.pending, rfl⟩
    · split <;> exact ⟨_, rfl⟩

lemma exists_replyFrom_eq (router : Router) (bus : Interconnect) (target : Target) :
    ∃ pending, (router.replyFrom bus target).1 = { router with pending := pending } := by
  cases target with
  | memory | controller => exact exists_reply_eq _ _ _
  | devices =>
    rw [replyFrom, replyDevices]
    split
    · split <;> exact ⟨router.pending, rfl⟩
    · exact exists_reply_eq _ _ _

/-! ### What is remembered -/

section Remembered

variable {router : Router} {core : Terminal} (holds : Terminal → Prop)
  (before : ∀ read ∈ router.pending, holds read.core)
include before

/-- What is remembered after a core's turn is a read of that core, or was remembered before. -/
lemma forall_pending_request (own : holds core) (bus : Interconnect) :
    ∀ read ∈ (router.request bus core).1.pending, holds read.core := by
  have noted (target : Terminal) (message : Message) :
      ∀ read ∈ (router.noteForwarded core target message).pending, holds read.core := by
    intro read member
    rw [noteForwarded] at member
    split at member
    · rcases List.mem_append.mp member with earlier | here
      · refine before read ?_
        split_ifs at earlier
        · exact List.mem_of_mem_drop earlier
        · exact earlier
      · obtain rfl := List.mem_singleton.mp here
        exact own
    · exact before read member
  rw [request]
  split
  · exact before
  · split
    · exact before
    · split
      · exact noted _ _
      · exact before

lemma forall_pending_reply (bus : Interconnect) (source : Terminal) :
    ∀ read ∈ (router.reply bus source).1.pending, holds read.core := by
  rw [reply]
  split
  · exact before
  · split
    · exact before
    · split
      · exact fun read member => before read (List.mem_of_mem_eraseP member)
      · exact before

lemma forall_pending_replyFrom (bus : Interconnect) (target : Target) :
    ∀ read ∈ (router.replyFrom bus target).1.pending, holds read.core := by
  cases target with
  | memory | controller => exact forall_pending_reply holds before _ _
  | devices =>
    rw [replyFrom, replyDevices]
    split
    · split <;> exact before
    · exact forall_pending_reply holds before _ _

/-- An answer goes to a core that has a read, or to the boot core. -/
lemma of_recipient? (attached : ∀ core ∈ router.cores, holds core) {source : Terminal}
    {address? : Option Word} (found : router.recipient? source address? = some core) :
    holds core := by
  rw [recipient?] at found
  split at found
  · next read fits =>
    obtain rfl := Option.some.inj found
    exact before read (List.mem_of_find?_eq_some fits)
  · exact attached core (List.mem_of_mem_head? found)

end Remembered

lemma destination?_eq_terminal {router : Router} {message : Message} {terminal : Terminal}
    (goes : router.destination? message = some terminal) :
    ∃ target, terminal = router.terminal target := by
  cases kind : message.kind? with
  | none => simp [destination?, kind] at goes
  | some kind' =>
    cases kind' with
    | response | command => simp [destination?, kind] at goes
    | interrupt =>
      simp only [destination?, kind, Option.some.injEq] at goes
      exact ⟨.controller, goes.symm⟩
    | read | write =>
      simp only [destination?, kind] at goes
      obtain ⟨address, _, goes⟩ := Option.map_eq_some_iff.mp goes
      split_ifs at goes
      · exact ⟨.controller, goes.symm⟩
      · exact ⟨.memory, goes.symm⟩
      · exact ⟨.devices, goes.symm⟩

/-- Everything that waits at the link of a target and is no interrupt is passed on as an answer. -/
lemma replyFrom_eq_reply {router : Router} {bus : Interconnect} {target : Target}
    (other : ∀ message, bus.message? (router.terminal target) = some message →
      message.kind? ≠ some .interrupt) :
    router.replyFrom bus target = router.reply bus (router.terminal target) := by
  cases target with
  | memory | controller => rfl
  | devices =>
    rw [replyFrom, replyDevices, if_neg]
    · rfl
    · intro interrupt
      obtain ⟨message, waiting, kind⟩ := Option.bind_eq_some_iff.mp interrupt
      exact other message waiting kind

end Router

namespace Routed

lemma run_append (routed : Routed) (first second : List RouterAction) :
    routed.run (first ++ second) = (routed.run first).run second :=
  List.foldl_append

/-- The turns of some cores' links. -/
lemma run_requests {routed : Routed} {cores : List Terminal}
    (attached : ∀ core ∈ cores, core ∈ routed.router.cores) :
    ((routed.run (cores.map .request)).router, (routed.run (cores.map .request)).bus)
      = cores.foldl (fun state core => state.1.request state.2 core)
        (routed.router, routed.bus) := by
  induction cores generalizing routed with
  | nil => rfl
  | cons core rest ih =>
    have here : core ∈ routed.router.cores := attached core (by simp)
    have turn : ((routed.step (.request core)).router, (routed.step (.request core)).bus)
        = routed.router.request routed.bus core := by
      simp only [step, act, here, if_true, request]
    have others : ∀ other ∈ rest, other ∈ (routed.step (.request core)).router.cores := by
      intro other member
      have kept : (routed.step (.request core)).router
          = (routed.router.request routed.bus core).1 := congrArg Prod.fst turn
      rw [kept, Router.cores_request]
      exact attached other (by simp [member])
    rw [List.map_cons, List.foldl_cons, ← turn]
    exact ih others

lemma step_reply (routed : Routed) (target : Target) :
    ((routed.step (.reply target)).router, (routed.step (.reply target)).bus)
      = routed.router.replyFrom routed.bus target := by
  simp only [step, act, reply]
  split
  · split <;> rfl
  · rfl

/-- A tick of the router is the turns of its links, one after the other. -/
lemma run_turns (routed : Routed) :
    ((routed.run (turns routed.router)).router, (routed.run (turns routed.router)).bus)
      = routed.router.tick routed.bus := by
  have requests := @run_requests routed routed.router.cores fun _ => id
  rw [turns, run_append]
  generalize routed.run (routed.router.cores.map .request) = first at requests
  have memory := first.step_reply .memory
  have devices := (first.step (.reply .memory)).step_reply .devices
  have controller := ((first.step (.reply .memory)).step (.reply .devices)).step_reply .controller
  rw [Router.tick, Router.requests, ← requests]
  change (((first.run _).router), (first.run _).bus) = _
  refine controller.trans ?_
  simp only [Router.replyFrom] at memory devices ⊢
  simp only [← memory, ← devices]

end Routed

end PipelinedMachine
