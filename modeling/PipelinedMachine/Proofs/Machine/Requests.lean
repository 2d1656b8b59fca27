import PipelinedMachine.Proofs.Machine.Wiring

/-!
# The way of requests

A request goes from a core to the router, from there to a target, and from the hub to a device.
What lies on these ways is all that a component ever gets to see, so it is worth knowing how little
can happen to it: a message moves on to the way that its address leads to, it is taken, or nothing
happens to it at all.

* `Traffic.ways` — the ways that lead away from the cores;
* `Traffic.Leads`, `Traffic.Ends` — the next way of a message, and why there may be none;
* `Traffic.Descent` — **everything that a turn can do to the ways**, apart from a core's own turn;
* `Traffic.Regular` — what the turns rely on, and that every move keeps it;
* `Traffic.Falls`, `Traffic.Regular.move_cases` — a move is a descent, or a core's turn.
-/

namespace PipelinedMachine

open Interconnect

/-- The address that a message reads or writes, if it does. -/
def Message.access? (message : Message) : Option Word :=
  if message.kind? = some .read ∨ message.kind? = some .write then message.address? else none

/-- What reads or writes an address has it as its address. -/
lemma Message.address?_of_access {message : Message} {address : Word}
    (access : message.access? = some address) : message.address? = some address := by
  rw [access?] at access
  split_ifs at access
  exact access

lemma Message.access?_of_interrupt {message : Message}
    (interrupt : message.kind? = some .interrupt) : message.access? = none := by
  simp [access?, interrupt]

namespace Router

/-- Reads and writes go where their address says. -/
lemma destination?_of_access {message : Message} {address : Word}
    (access : message.access? = some address) (router : Router) :
    router.destination? message = some (router.terminal (targetOf address)) := by
  have named := message.address?_of_access access
  rw [Message.access?] at access
  split_ifs at access with kind
  rw [targetOf, destination?]
  rcases kind with kind | kind <;> rw [kind, named, Option.map_some] <;> split_ifs <;> rfl

lemma access?_of_nowhere {message : Message} (router : Router)
    (nowhere : router.destination? message = none) : message.access? = none := by
  cases access : message.access? with
  | none => rfl
  | some address => simp [destination?_of_access access] at nowhere

end Router

namespace Traffic

/-! ## Ways -/

/-- The ways that lead away from the cores, each by the terminal that it begins at: those of the
router to its targets, of the cores to the router, and of the hub to the devices. -/
def ways (traffic : Traffic) : List Terminal :=
  [traffic.router.terminal .memory, traffic.router.terminal .devices,
      traffic.router.terminal .controller]
    ++ traffic.cores.map Core.terminal ++ traffic.hub.devices.map Attachment.terminal

variable {traffic later : Traffic} {way other source target : Terminal} {bus after : Interconnect}
  {message : Message} {core : Core}

lemma target_mem_ways (traffic : Traffic) (target : Target) :
    traffic.router.terminal target ∈ traffic.ways := by
  cases target <;> simp [ways]

lemma core_mem_ways (member : core ∈ traffic.cores) : core.terminal ∈ traffic.ways := by
  simp only [ways, List.mem_append]
  exact Or.inl (Or.inr (List.mem_map_of_mem member))

lemma port_mem_ways (attached : way ∈ traffic.hub.devices.map Attachment.terminal) :
    way ∈ traffic.ways :=
  List.mem_append_right _ attached

lemma Layout.ways_eq (layout : traffic.Layout later) : later.ways = traffic.ways := by
  obtain ⟨⟨pending, router⟩, cores, -, -, hub, -⟩ := layout
  simp only [ways, router, Router.terminal_pending, cores, hub]

lemma Moves.layout (moves : Moves traffic later) : traffic.Layout later := by
  induction moves with
  | refl => exact ⟨⟨traffic.router.pending, rfl⟩, rfl, rfl, rfl, rfl, rfl⟩
  | tail _ move before =>
    obtain ⟨⟨_, router⟩, cores, ram, controller, hub, seats⟩ := before
    obtain ⟨⟨pending, router'⟩, cores', ram', controller', hub', seats'⟩ := move.layout
    exact ⟨⟨pending, by rw [router', router]⟩, cores'.trans cores, ram'.trans ram,
      controller'.trans controller, hub'.trans hub, seats'.trans seats⟩

namespace Wired

/-- Every way is on a link of its own. -/
lemma links_ways (wired : traffic.Wired) :
    traffic.ways.map Terminal.link = traffic.ends.map Terminal.link := by
  have peers (terminals : List Terminal) :
      (terminals.map Terminal.peer).map Terminal.link = terminals.map Terminal.link := by
    rw [List.map_map]
    exact List.map_congr_left fun terminal _ => terminal.link_peer
  have seats : traffic.seats.map (fun seat => seat.1.peer)
      = (traffic.seats.map Prod.fst).map Terminal.peer := by
    rw [List.map_map]
    rfl
  rw [ways, ends, Router.ends, wired.cores, wired.hub, seats, List.map_append, List.map_append,
    List.map_append, List.map_append, peers, peers]
  rfl

lemma nodup_ways (wired : traffic.Wired) : traffic.ways.Nodup :=
  List.Nodup.of_map Terminal.link (wired.links_ways ▸ wired.links)

lemma way_link_ne (wired : traffic.Wired) (on : way ∈ traffic.ways) (out : other ∈ traffic.ways)
    (apart : other ≠ way) : other.link ≠ way.link :=
  fun same => apart (List.inj_on_of_nodup_map (wired.links_ways ▸ wired.links) out on same)

/-- A way leads in one direction only. -/
lemma way_ne_peer (wired : traffic.Wired) (on : way ∈ traffic.ways) (out : other ∈ traffic.ways) :
    other ≠ way.peer := by
  intro same
  have link : other.link = way.link := by rw [same, Terminal.link_peer]
  by_cases here : other = way
  · rw [here] at same
    exact way.peer_ne same.symm
  · exact wired.way_link_ne on out here link

/-- A turn at the end of a way changes no other. -/
lemma carried?_of_handled {taken sent : Option Message} (wired : traffic.Wired)
    (on : way ∈ traffic.ways) (handled : Handled way.peer bus after taken sent)
    (out : other ∈ traffic.ways) (away : other ≠ way) :
    after.carried? other = bus.carried? other := by
  refine (handled.still ?_).1
  rw [Terminal.link_peer]
  exact wired.way_link_ne on out away

end Wired

/-! ## What happens on the ways -/

/-- The next way of a message that has come to the end of a way. -/
inductive Leads (traffic : Traffic) (message : Message) : Terminal → Terminal → Prop
  where
  | route (core : Core) (member : core ∈ traffic.cores) (target : Terminal)
      (goes : traffic.router.destination? message = some target) :
      Leads traffic message core.terminal target
  | spread (target : Terminal)
      (owned : message.address?.bind traffic.hub.deviceFor? = some target) :
      Leads traffic message (traffic.router.terminal .devices) target

/-- Why a message that has come to the end of a way goes no further. -/
inductive Ends (traffic : Traffic) (message : Message) (way : Terminal) : Prop where
  /-- The component there takes it. -/
  | taken (home : way.peer = traffic.ram.terminal ∨ way.peer = traffic.controller.terminal
      ∨ way ∈ traffic.hub.devices.map Attachment.terminal)
  /-- It neither reads nor writes. -/
  | refused (plain : message.access? = none)
  /-- It is at the hub, and no device owns its address. -/
  | unowned (last : way = traffic.router.terminal .devices)
      (none : message.address?.bind traffic.hub.deviceFor? = none)

/-- Everything that a turn can do to the ways, other than a core's own. -/
inductive Descent (traffic : Traffic) (after : Interconnect) : Prop where
  /-- Nothing happens. -/
  | still (same : ∀ way ∈ traffic.ways, after.carried? way = traffic.bus.carried? way)
  /-- A message has come to the end of a way and is taken, or dropped. -/
  | left (way : Terminal) (message : Message) (on : way ∈ traffic.ways)
      (ends : traffic.Ends message way) (before : traffic.bus.carried? way = some message)
      (gone : after.carried? way = none)
      (apart : ∀ other ∈ traffic.ways, other ≠ way →
        after.carried? other = traffic.bus.carried? other)
  /-- A message goes on to its next way. -/
  | passed (source target : Terminal) (message : Message) (on : source ∈ traffic.ways)
      (out : target ∈ traffic.ways) (distinct : source ≠ target)
      (leads : traffic.Leads message source target)
      (before : traffic.bus.carried? source = some message) (gone : after.carried? source = none)
      (free : traffic.bus.carried? target = none) (came : after.carried? target = some message)
      (apart : ∀ other ∈ traffic.ways, other ≠ source → other ≠ target →
        after.carried? other = traffic.bus.carried? other)
  /-- An interrupt of the devices goes to the controller. -/
  | signalled (message : Message) (interrupt : message.kind? = some .interrupt)
      (free : traffic.bus.carried? (traffic.router.terminal .controller) = none)
      (came : after.carried? (traffic.router.terminal .controller) = some message)
      (apart : ∀ other ∈ traffic.ways, other ≠ traffic.router.terminal .controller →
        after.carried? other = traffic.bus.carried? other)

namespace Descent

/-- A component at the end of a way has had its turn. -/
lemma of_handled {taken sent : Option Message} (wired : traffic.Wired) (on : way ∈ traffic.ways)
    (ends : ∀ message ∈ taken, traffic.Ends message way)
    (handled : Handled way.peer traffic.bus after taken sent) : traffic.Descent after := by
  have apart (other : Terminal) (out : other ∈ traffic.ways) (away : other ≠ way) :=
    wired.carried?_of_handled on handled out away
  have here := handled.carried?_peer
  rw [Terminal.peer_peer] at here
  cases taken with
  | some message =>
    have before := handled.carried?_of_taken
    rw [Terminal.peer_peer] at before
    exact .left way message on (ends message rfl) before here apart
  | none =>
    refine .still fun other out => ?_
    by_cases same : other = way
    · rw [same]
      exact here
    · exact apart other out same

/-- A message at the end of a way is dropped. -/
lemma of_clear (wired : traffic.Wired) (on : way ∈ traffic.ways)
    (ends : traffic.Ends message way)
    (waiting : traffic.bus.message? way.peer = some message) :
    traffic.Descent (traffic.bus.clear way.peer) :=
  of_handled wired on (by simpa using ends) (.of_clear waiting)

/-- A message is passed on from the end of a way to the beginning of the next. -/
lemma of_passed (on : source ∈ traffic.ways) (out : target ∈ traffic.ways)
    (distinct : source ≠ target) (leads : traffic.Leads message source target)
    (passed : Passed source.peer target message traffic.bus after) : traffic.Descent after := by
  have before := passed.carried?
  have gone := passed.left
  rw [Terminal.peer_peer] at before gone
  refine .passed source target message on out distinct leads before gone passed.free passed.sent
    fun other _ first second => passed.apart other second ?_
  rwa [Terminal.peer_peer]

/-- A message is passed on against the ways. -/
lemma of_returned (wired : traffic.Wired) (on : source ∈ traffic.ways)
    (out : target ∈ traffic.ways) (passed : Passed source target.peer message traffic.bus after) :
    traffic.Descent after :=
  .still fun way member =>
    passed.apart way (wired.way_ne_peer out member) (wired.way_ne_peer on member)

lemma of_signalled (wired : traffic.Wired) (interrupt : message.kind? = some .interrupt)
    (passed : Passed (traffic.router.terminal .devices) (traffic.router.terminal .controller)
      message traffic.bus after) : traffic.Descent after :=
  .signalled message interrupt passed.free passed.sent fun way member away =>
    passed.apart way away (wired.way_ne_peer (traffic.target_mem_ways .devices) member)

end Descent

/-! ## The turns -/

/-- What the turns rely on. -/
structure Regular (traffic : Traffic) : Prop where
  wired : traffic.Wired
  steady : ∀ core ∈ traffic.cores, core.Steady
  /-- The router remembers reads of its own cores only. -/
  entries : ∀ read ∈ traffic.router.pending, read.core ∈ traffic.router.cores

namespace Regular

/-- The turn of the link to a core. -/
lemma request (regular : traffic.Regular) {terminal : Terminal}
    (attached : terminal ∈ traffic.router.cores) :
    traffic.Descent (traffic.router.request traffic.bus terminal).2 := by
  obtain ⟨core, member, rfl⟩ := regular.wired.exists_core attached
  have on := core_mem_ways member
  rw [Router.request]
  split
  · exact .still fun _ _ => rfl
  · next message waiting =>
    split
    · next nowhere =>
      have plain := traffic.router.access?_of_nowhere nowhere
      exact .of_clear regular.wired on (.refused plain) waiting
    · next terminal goes =>
      split
      · next after forwarded =>
        obtain ⟨target, rfl⟩ := Router.destination?_eq_terminal goes
        have distinct := regular.wired.core_link_ne_target member target
        obtain ⟨other, passed⟩ := passed_of_forward? forwarded (by rwa [Terminal.link_peer])
        obtain rfl : message = other := Option.some.inj (waiting.symm.trans passed.waiting)
        exact .of_passed on (traffic.target_mem_ways target)
          (Terminal.ne_of_link distinct) (.route core member _ goes) passed
      · exact .still fun _ _ => rfl

/-- The turn of the link that answers come from. -/
lemma reply (regular : traffic.Regular) (target : Target) :
    traffic.Descent
      (traffic.router.reply traffic.bus (traffic.router.terminal target)).2 := by
  rw [Router.reply]
  split
  · exact .still fun _ _ => rfl
  · split
    · exact .still fun _ _ => rfl
    · next terminal found =>
      split
      · next after forwarded =>
        obtain ⟨core, member, rfl⟩ := regular.wired.exists_core
          (Router.of_recipient? (· ∈ traffic.router.cores) regular.entries (fun _ => id) found)
        obtain ⟨message, passed⟩ := passed_of_forward? forwarded (by
          rw [Terminal.link_peer]
          exact (regular.wired.core_link_ne_target member target).symm)
        exact .of_returned regular.wired (traffic.target_mem_ways target) (core_mem_ways member)
          passed
      · exact .still fun _ _ => rfl

lemma replyFrom (regular : traffic.Regular) (target : Target) :
    traffic.Descent (traffic.router.replyFrom traffic.bus target).2 := by
  cases target with
  | memory => exact regular.reply .memory
  | controller => exact regular.reply .controller
  | devices =>
    rw [Router.replyFrom, Router.replyDevices]
    split
    · next interrupt =>
      split
      · next after forwarded =>
        obtain ⟨message, passed⟩ := passed_of_forward? forwarded
          (regular.wired.target_link_ne (show Target.devices ≠ .controller by simp))
        rw [passed.waiting] at interrupt
        exact .of_signalled regular.wired interrupt passed
      · exact .still fun _ _ => rfl
    · exact regular.reply .devices

/-- The turn of a component at the end of a way. -/
lemma device (regular : traffic.Regular) (device : Peripheral)
    (on : device.terminal.peer ∈ traffic.ways)
    (home : device.terminal = traffic.ram.terminal ∨ device.terminal = traffic.controller.terminal
      ∨ device.terminal.peer ∈ traffic.hub.devices.map Attachment.terminal) :
    traffic.Descent (device.tick traffic.bus).2 := by
  obtain ⟨taken, announced, answered, visit⟩ := device.visit traffic.bus
  have handled := visit.handled
  rw [← Terminal.peer_peer device.terminal] at handled
  exact .of_handled regular.wired on (fun message _ => .taken (by rwa [Terminal.peer_peer])) handled

lemma device_mem_ports (regular : traffic.Regular) {device : Peripheral}
    (inside : device ∈ traffic.devices) :
    device.terminal.peer ∈ traffic.hub.devices.map Attachment.terminal := by
  rw [regular.wired.hub, seats, List.map_map]
  exact List.mem_map_of_mem (f := (fun seat : Terminal × (Word → Option Word) => seat.1.peer) ∘
    Peripheral.seat) inside

/-- The hub's turn for requests. -/
lemma hubRequest (regular : traffic.Regular) :
    traffic.Descent (traffic.hub.request traffic.bus) := by
  have uplink := regular.wired.uplink
  have on := traffic.target_mem_ways .devices
  rw [DeviceHub.request]
  split
  · exact .still fun _ _ => rfl
  · next message waiting =>
    split
    · next terminal owned =>
      obtain ⟨address, named, found⟩ := Option.bind_eq_some_iff.mp owned
      obtain ⟨attachment, here, rfl⟩ := Option.map_eq_some_iff.mp found
      have inside : attachment.terminal ∈ traffic.hub.devices.map Attachment.terminal :=
        List.mem_map_of_mem (List.mem_reverse.mp (List.mem_of_find?_eq_some here))
      cases forwarded : traffic.bus.forward? traffic.hub.uplink attachment.terminal with
      | none => exact .still fun _ _ => rfl
      | some after =>
        obtain ⟨device, member, same⟩ := regular.wired.exists_device inside
        have distinct : (traffic.router.terminal .devices).link ≠ attachment.terminal.link := by
          rw [same, Terminal.link_peer]
          exact (regular.wired.device_link_ne member
            (traffic.router.terminal_mem_ends .devices)).symm
        rw [uplink] at forwarded waiting
        obtain ⟨other, passed⟩ := passed_of_forward? forwarded (by rwa [Terminal.link_peer])
        obtain rfl : message = other := Option.some.inj (waiting.symm.trans passed.waiting)
        exact .of_passed on (port_mem_ways inside) (Terminal.ne_of_link distinct)
          (.spread _ owned) passed
    · next unowned =>
      rw [uplink] at waiting ⊢
      exact .of_clear regular.wired on (.unowned rfl unowned) waiting

/-- The hub's turn for what the devices send. -/
lemma hubReply (regular : traffic.Regular) : traffic.Descent (traffic.hub.reply traffic.bus) := by
  rw [DeviceHub.reply]
  split
  · next attachment found =>
    cases forwarded : traffic.bus.forward? attachment.terminal traffic.hub.uplink with
    | none => exact .still fun _ _ => rfl
    | some after =>
      have inside : attachment.terminal ∈ traffic.hub.devices.map Attachment.terminal :=
        List.mem_map_of_mem (List.mem_of_find?_eq_some found)
      obtain ⟨device, member, same⟩ := regular.wired.exists_device inside
      rw [regular.wired.uplink] at forwarded
      obtain ⟨message, passed⟩ := passed_of_forward? forwarded (by
        rw [Terminal.link_peer, same, Terminal.link_peer]
        exact regular.wired.device_link_ne member (traffic.router.terminal_mem_ends .devices))
      exact .of_returned regular.wired (port_mem_ways inside) (traffic.target_mem_ways .devices)
        passed
  · exact .still fun _ _ => rfl

/-! ### Every move -/

/-- A move keeps what the turns rely on. -/
lemma move (regular : traffic.Regular) (move : Move traffic later) : later.Regular := by
  have wired := regular.wired.of_layout move.layout
  cases move with
  | core left right core after counters rest breakpoint place ticked =>
    refine ⟨wired, fun other member => ?_, regular.entries⟩
    have inside : ∀ other ∈ left ++ core :: right, other.Steady := place ▸ regular.steady
    rw [List.mem_append, List.mem_cons, or_left_comm, ← List.mem_append] at member
    rcases member with rfl | around
    · exact ((inside core (by simp)).talk ticked).1
    · refine inside other ?_
      rw [List.mem_append, List.mem_cons, or_left_comm, ← List.mem_append]
      exact Or.inr around
  | request terminal attached =>
    refine ⟨wired, regular.steady, fun read member => ?_⟩
    rw [Router.cores_request]
    exact Router.forall_pending_request _ regular.entries attached traffic.bus read member
  | reply target =>
    obtain ⟨pending, same⟩ := Router.exists_replyFrom_eq traffic.router traffic.bus target
    have cores : (traffic.router.replyFrom traffic.bus target).1.cores = traffic.router.cores := by
      rw [same]
    refine ⟨wired, regular.steady, fun read member => ?_⟩
    rw [cores]
    exact Router.forall_pending_replyFrom _ regular.entries traffic.bus target read member
  | controller | ram | hubRequest | hubReply | device | links | load | host | raise =>
    exact ⟨wired, regular.steady, regular.entries⟩

lemma moves (regular : traffic.Regular) (moves : Moves traffic later) : later.Regular := by
  induction moves with
  | refl => exact regular
  | tail _ move before => exact before.move move

/-- A core's turn changes no way but its own. -/
lemma core_turn {left right : List Core} {later : Core} {counters : Counters} {rest : Environment}
    {breakpoint : Option Word} (regular : traffic.Regular)
    (place : traffic.cores = left ++ core :: right)
    (ticked : core.tick ⟨traffic.bus, traffic.lines, counters⟩ = (later, rest, .ok breakpoint)) :
    ∃ taken sent, Handled core.terminal traffic.bus rest.bus taken sent
      ∧ ∀ way ∈ traffic.ways, way ≠ core.terminal →
        rest.bus.carried? way = traffic.bus.carried? way := by
  have member : core ∈ traffic.cores := by simp [place]
  obtain ⟨-, -, taken, sent, talk⟩ := (regular.steady core member).talk ticked
  refine ⟨taken, sent, talk.handled, fun way on away => (talk.handled.still ?_).1⟩
  exact regular.wired.way_link_ne (core_mem_ways member) on away

end Regular

/-- A move other than a core's turn. -/
structure Falls (traffic later : Traffic) : Prop where
  move : Move traffic later
  descent : traffic.Regular → traffic.Descent later.bus

namespace Falls

lemma request {terminal : Terminal} (attached : terminal ∈ traffic.router.cores) :
    Falls traffic
      { traffic with
        router := (traffic.router.request traffic.bus terminal).1
        bus := (traffic.router.request traffic.bus terminal).2 } :=
  ⟨.request terminal attached, fun regular => regular.request attached⟩

lemma reply (traffic : Traffic) (target : Target) :
    Falls traffic
      { traffic with
        router := (traffic.router.replyFrom traffic.bus target).1
        bus := (traffic.router.replyFrom traffic.bus target).2 } :=
  ⟨.reply target, fun regular => regular.replyFrom target⟩

lemma controller (traffic : Traffic) : Falls traffic traffic.controlled := by
  refine ⟨.controller, fun regular => ?_⟩
  refine regular.device (.controller traffic.controller traffic.lines) ?_ (Or.inr (Or.inl rfl))
  change traffic.controller.terminal.peer ∈ traffic.ways
  rw [regular.wired.controller, Terminal.peer_peer]
  exact traffic.target_mem_ways .controller

lemma ram (traffic : Traffic) :
    Falls traffic
      { traffic with ram := (traffic.ram.tick traffic.bus).1
                     bus := (traffic.ram.tick traffic.bus).2 } := by
  refine ⟨.ram, fun regular => regular.device (.ram traffic.ram) ?_ (Or.inl rfl)⟩
  change traffic.ram.terminal.peer ∈ traffic.ways
  rw [regular.wired.ram, Terminal.peer_peer]
  exact traffic.target_mem_ways .memory

lemma hubRequest (traffic : Traffic) :
    Falls traffic { traffic with bus := traffic.hub.request traffic.bus } :=
  ⟨.hubRequest, Regular.hubRequest⟩

lemma hubReply (traffic : Traffic) :
    Falls traffic { traffic with bus := traffic.hub.reply traffic.bus } :=
  ⟨.hubReply, Regular.hubReply⟩

lemma device {left right : List Peripheral} {device : Peripheral}
    (place : traffic.devices = left ++ device :: right) :
    Falls traffic
      { traffic with
        devices := left ++ (device.tick traffic.bus).1 :: right
        bus := (device.tick traffic.bus).2 } := by
  refine ⟨.device left right device place, fun regular => ?_⟩
  have attached := regular.device_mem_ports (show device ∈ traffic.devices by simp [place])
  exact regular.device device (port_mem_ways attached) (Or.inr (Or.inr attached))

lemma links (traffic : Traffic) : Falls traffic { traffic with bus := traffic.bus.tick } :=
  ⟨.links, fun _ => .still fun way _ => carried?_tick way⟩

end Falls

/-- A move is a descent, or it is a core's turn, which may put something on the core's own way. -/
lemma Regular.move_cases (regular : traffic.Regular) (move : Move traffic later) :
    traffic.Descent later.bus ∨ ∃ core ∈ traffic.cores,
      (∀ message, traffic.bus.carried? core.terminal = some message →
        later.bus.carried? core.terminal = some message)
      ∧ ∀ way ∈ traffic.ways, way ≠ core.terminal →
        later.bus.carried? way = traffic.bus.carried? way := by
  cases move with
  | core left right core after counters rest breakpoint place ticked =>
    obtain ⟨taken, sent, handled, apart⟩ := regular.core_turn place ticked
    exact Or.inr ⟨core, by simp [place], fun message => handled.carried?_of_carried?, apart⟩
  | request terminal attached => exact Or.inl ((Falls.request attached).descent regular)
  | reply target => exact Or.inl ((Falls.reply _ target).descent regular)
  | controller => exact Or.inl ((Falls.controller _).descent regular)
  | ram => exact Or.inl ((Falls.ram _).descent regular)
  | hubRequest => exact Or.inl ((Falls.hubRequest _).descent regular)
  | hubReply => exact Or.inl ((Falls.hubReply _).descent regular)
  | device left right device place => exact Or.inl ((Falls.device place).descent regular)
  | links => exact Or.inl ((Falls.links _).descent regular)
  | load | host | raise => exact Or.inl (.still fun _ _ => rfl)

end Traffic

namespace Traffic

lemma AtRest.regular {traffic : Traffic} (rest : traffic.AtRest) : traffic.Regular where
  wired := rest.wired
  steady := fun core member => (rest.cores core member).1
  entries := by simp [rest.pending]

end Traffic

namespace Machine

/-- The turns of a machine can rely on this in every state that it can reach. -/
theorem Reachable.regular {machine : Machine} (reachable : machine.Reachable) :
    machine.traffic.Regular := by
  induction reachable with
  | wire config image => exact (atRest_wire config image).regular
  | act before action survives regular => exact regular.moves (moves_act survives)

end Machine

end PipelinedMachine
