import PipelinedMachine.Proofs.Link.Along
import PipelinedMachine.Proofs.Machine.Homeward
import PipelinedMachine.Proofs.Machine.Relay

/-!
# Lanes

In a machine with one core there is a single path from the core to each component, and the same path
leads back.  Requests and answers wait on its links in the order in which they were sent, and
whoever has a turn, a component sees its requests one by one and the core sees its answers one by
one.

* `Machine.outward` — the path from the core to a component;
* `Machine.requests`, `Machine.answers` — what is on the path to a component, and what comes back
  from it, the oldest first;
* `Machine.InOrder` — what the turns rely on;
* **`Machine.InOrder.requests_around`, `Machine.InOrder.answers_around`** — the turns of the router,
  the hub, the links and the other components change neither;
* **`Machine.InOrder.requests_own`, `Machine.InOrder.answers_own`** — the component's own turn takes
  the first request and puts the answer behind the other answers;
* `Machine.InOrder.requests_send`, `Machine.InOrder.answers_message?` and others — what the core
  does.
-/

namespace PipelinedMachine

open Interconnect

namespace Message

/-- The message reads or writes an address of the component. -/
def asks (component : Component) (message : Message) : Bool :=
  message.access?.any fun address => Component.ofAddress address = component

/-- The message answers a read of an address of the component. -/
def tells (component : Component) (message : Message) : Bool :=
  message.answered?.any fun address => Component.ofAddress address = component

variable {component : Component} {message : Message}

lemma asks_eq_true : message.asks component = true
    ↔ ∃ address, message.access? = some address ∧ Component.ofAddress address = component := by
  simp [asks, Option.any_eq_true]

lemma tells_eq_true : message.tells component = true
    ↔ ∃ address, message.answered? = some address ∧ Component.ofAddress address = component := by
  simp [tells, Option.any_eq_true]

lemma asks_of_plain (plain : message.access? = none) (component : Component) :
    message.asks component = false := by
  simp [asks, plain]

lemma tells_of_interrupt (interrupt : message.kind? = some .interrupt) (component : Component) :
    message.tells component = false := by
  simp [tells, Message.answered?_of_interrupt interrupt]

end Message

namespace Machine

variable {machine later : Machine} {actor : Option Component} {component : Component}

/-! ## The paths -/

/-- The path from the core to a component, its last link first. -/
def outward (machine : Machine) (component : Component) : List Terminal :=
  (machine.terminalOf component).peer
    :: ((if component.target = .devices then [machine.processor.router.terminal .devices] else [])
      ++ [machine.processor.boot.terminal])

/-- The path from a component to the core, its last link first. -/
def homeward (machine : Machine) (component : Component) : List Terminal :=
  (machine.outward component).reverse.map Terminal.peer

/-- The component as a device at its link. -/
def part (machine : Machine) : Component → Peripheral
  | .controller => .controller machine.processor.controller machine.processor.lines
  | .ram => .ram machine.ram
  | .rom => .rom machine.rom
  | .display => .display machine.display
  | .keyboard => .keyboard machine.keyboard
  | .disk => .disk machine.disk

/-- The reads and writes on their way to a component, the oldest first. -/
def requests (machine : Machine) (component : Component) : List Message :=
  machine.bus.along (Message.asks component) (machine.outward component)

/-- The answers of a component on their way to the core, and those that it has still to send, the
oldest first. -/
def answers (machine : Machine) (component : Component) : List Message :=
  machine.bus.along (Message.tells component) (machine.homeward component)
    ++ (machine.part component).owed.filter (Message.tells component)

/-- A machine with one core, whose traffic can be relied on. -/
structure InOrder (machine : Machine) : Prop where
  alone : machine.processor.others = []
  sound : machine.traffic.Sound
  regular : machine.traffic.Regular
  directed : machine.traffic.Directed
  homeward : machine.traffic.Homeward
  seated : machine.traffic.Seated machine.terminalOf

lemma InOrder.of_move (inOrder : machine.InOrder)
    (move : Traffic.Move machine.traffic later.traffic)
    (alone : later.processor.others = []) : later.InOrder where
  alone := alone
  sound := inOrder.sound.move move
  regular := inOrder.regular.move move
  directed := inOrder.directed.move inOrder.regular move
  homeward := inOrder.homeward.move inOrder.sound inOrder.regular inOrder.directed move
  seated := by
    rw [terminalOf_eq_of_layout move.layout]
    exact inOrder.seated.of_layout move.layout

lemma InOrder.relay (inOrder : machine.InOrder) (relay : Relay machine actor later) :
    later.InOrder :=
  inOrder.of_move relay.falls.move (relay.cores.2.1.trans inOrder.alone)

lemma part_terminal (machine : Machine) (component : Component) :
    (machine.part component).terminal = machine.terminalOf component := by
  cases component <;> rfl

/-- No turn changes the paths. -/
lemma Relay.outward_eq (relay : Relay machine actor later) (component : Component) :
    later.outward component = machine.outward component := by
  have layout := relay.falls.move.layout
  obtain ⟨pending, router⟩ := layout.router
  have terminal (target : Target) :
      later.processor.router.terminal target = machine.processor.router.terminal target := by
    have := congrArg (fun router : Router => router.terminal target) router
    exact this.trans (Router.terminal_pending _ _ _)
  rw [outward, outward, terminalOf_eq_of_layout layout, terminal, relay.cores.1]

lemma Relay.homeward_eq (relay : Relay machine actor later) (component : Component) :
    later.homeward component = machine.homeward component := by
  rw [homeward, homeward, relay.outward_eq]

/-- Another component's turn, and the turns between components, leave a component as it is. -/
lemma Relay.part_eq (relay : Relay machine actor later) (away : actor ≠ some component) :
    later.part component = machine.part component := by
  cases relay <;> cases component <;> first | rfl | contradiction

/-- A component's own turn. -/
lemma Relay.own (relay : Relay machine (some component) later) :
    later.part component = ((machine.part component).tick machine.bus).1
      ∧ later.bus = ((machine.part component).tick machine.bus).2 := by
  cases relay <;> exact ⟨rfl, rfl⟩

/-- It changes the component's own link only. -/
lemma Relay.handled (relay : Relay machine (some component) later) :
    ∃ taken sent, Handled (machine.terminalOf component) machine.bus later.bus taken sent := by
  obtain ⟨taken, announced, answered, visit⟩ := (machine.part component).visit machine.bus
  rw [relay.own.2, ← part_terminal]
  exact ⟨_, _, visit.handled⟩

namespace InOrder

lemma boot_mem (machine : Machine) : machine.processor.boot ∈ machine.traffic.cores :=
  List.mem_cons_self

lemma cores_eq (inOrder : machine.InOrder) : machine.traffic.cores = [machine.processor.boot] := by
  change machine.processor.boot :: machine.processor.others = _
  rw [inOrder.alone]

lemma outward_mem (inOrder : machine.InOrder) {way : Terminal}
    (member : way ∈ machine.outward component) : way ∈ machine.traffic.ways := by
  rw [outward, List.mem_cons, List.mem_append, List.mem_singleton] at member
  rcases member with rfl | devices | rfl
  · exact inOrder.seated.mem_ways inOrder.sound.wired component
  · split_ifs at devices
    · rw [List.mem_singleton.mp devices]
      exact machine.traffic.target_mem_ways .devices
    · contradiction
  · exact Traffic.core_mem_ways (boot_mem machine)

/-- The router's way towards a component is the last link, or leads to it by way of the hub. -/
lemma outward_eq (inOrder : machine.InOrder) (component : Component) :
    ∃ left, machine.outward component
      = left ++ [machine.processor.router.terminal component.target,
          machine.processor.boot.terminal]
        ∧ (left = [] ∧ component.target ≠ .devices
            ∧ (machine.terminalOf component).peer
              = machine.processor.router.terminal component.target
          ∨ left = [(machine.terminalOf component).peer] ∧ component.target = .devices) := by
  by_cases devices : component.target = .devices
  · exact ⟨[(machine.terminalOf component).peer], by rw [outward, if_pos devices, devices]; rfl,
      Or.inr ⟨rfl, devices⟩⟩
  · have sits : (machine.terminalOf component).peer
        = machine.processor.router.terminal component.target := by
      cases component with
      | controller =>
        have place := inOrder.sound.wired.controller
        exact (congrArg Terminal.peer place).trans (Terminal.peer_peer _)
      | ram =>
        have place := inOrder.sound.wired.ram
        exact (congrArg Terminal.peer place).trans (Terminal.peer_peer _)
      | rom | display | keyboard | disk => exact absurd rfl devices
    exact ⟨[], by rw [outward, if_neg devices, sits]; rfl, Or.inl ⟨rfl, devices, sits⟩⟩

lemma links_outward (inOrder : machine.InOrder) (component : Component) :
    ((machine.outward component).map Terminal.link).Nodup := by
  have wired := inOrder.sound.wired
  have core := wired.core_link_ne_target (boot_mem machine)
  obtain ⟨left, path, ⟨rfl, -⟩ | ⟨rfl, devices⟩⟩ := inOrder.outward_eq component
  · rw [path]
    have apart := (core component.target).symm
    change (machine.processor.router.terminal component.target).link ≠ _ at apart
    simpa using apart
  · rw [path]
    have port := inOrder.seated.home component
    rw [Terminal.peer_peer] at port
    have behind : (machine.terminalOf component).peer
        ∈ machine.traffic.hub.devices.map Attachment.terminal := by
      rcases port with ram | controller | port
      · have here := inOrder.seated.ram.trans ram.symm
        obtain rfl := (inOrder.seated.seat_inj wired here)
        contradiction
      · have here := inOrder.seated.controller.trans controller.symm
        obtain rfl := (inOrder.seated.seat_inj wired here)
        contradiction
      · exact port
    obtain ⟨device, member, same⟩ := wired.exists_device behind
    rw [devices]
    have target := wired.device_link_ne member (machine.traffic.router.terminal_mem_ends .devices)
    have boot := wired.device_link_ne_core member (boot_mem machine)
    rw [same]
    simp only [List.cons_append, List.nil_append, List.map_cons, List.map_nil, List.nodup_cons,
      List.mem_cons, List.not_mem_nil, or_false, not_or, not_false_eq_true, List.nodup_nil,
      and_true, Terminal.link_peer]
    exact ⟨⟨target, boot⟩, (core .devices).symm⟩

lemma nodup_outward (inOrder : machine.InOrder) (component : Component) :
    (machine.outward component).Nodup :=
  (inOrder.links_outward component).of_map

lemma nodup_homeward (inOrder : machine.InOrder) (component : Component) :
    (machine.homeward component).Nodup := by
  refine List.Nodup.map (fun a b same => Terminal.peer_inj.mp same) ?_
  exact List.nodup_reverse.mpr (inOrder.nodup_outward component)

lemma homeward_mem {way : Terminal} (member : way ∈ machine.homeward component) :
    ∃ out ∈ machine.outward component, way = out.peer := by
  obtain ⟨out, inside, rfl⟩ := List.mem_map.mp member
  exact ⟨out, List.mem_reverse.mp inside, rfl⟩

/-- The path to a component leads past no other. -/
lemma seat_notMem (inOrder : machine.InOrder) {other : Component} (apart : other ≠ component) :
    (machine.terminalOf other).peer ∉ machine.outward component := by
  have wired := inOrder.sound.wired
  have nodup := inOrder.nodup_outward other
  rw [outward, List.nodup_cons, List.mem_append, List.mem_singleton, not_or] at nodup
  obtain ⟨⟨hub, boot⟩, -⟩ := nodup
  rw [outward, List.mem_cons, List.mem_append, List.mem_singleton]
  rintro (same | devices | core)
  · exact apart (inOrder.seated.seat_inj wired (Terminal.peer_inj.mp same))
  · split_ifs at devices with behind
    · by_cases also : other.target = .devices
      · rw [if_pos also] at hub
        exact hub devices
      · obtain ⟨left, -, ⟨-, -, place⟩ | ⟨-, there⟩⟩ := inOrder.outward_eq other
        · rw [place, List.mem_singleton] at devices
          exact wired.router.terminal_ne also devices
        · contradiction
    · contradiction
  · exact boot core

/-- A read or a write that is at the end of a way, where it is taken, has come to its component. -/
lemma way_of_ends (inOrder : machine.InOrder) {way : Terminal} {message : Message}
    (on : way ∈ machine.traffic.ways) (carried : machine.bus.carried? way = some message)
    (ends : machine.traffic.Ends message way) (asks : message.asks component = true) :
    way = (machine.terminalOf component).peer := by
  obtain ⟨address, access, rfl⟩ := Message.asks_eq_true.mp asks
  have course := inOrder.directed way on message address carried access
  cases ends with
  | taken home => exact inOrder.seated.way_eq inOrder.regular course home
  | refused plain => simp [plain] at access
  | unowned last none =>
    rw [last] at course
    rw [message.address?_of_access access, Option.bind_some,
      inOrder.seated.deviceFor?_eq (inOrder.regular.targetOf_eq course)] at none
    contradiction

/-- A read or a write that goes on follows the path to its component. -/
lemma outward_of_leads (inOrder : machine.InOrder) {source target : Terminal} {message : Message}
    (on : source ∈ machine.traffic.ways) (carried : machine.bus.carried? source = some message)
    (leads : machine.traffic.Leads message source target)
    (asks : message.asks component = true) :
    ∃ left right, machine.outward component = left ++ target :: source :: right := by
  obtain ⟨address, access, rfl⟩ := Message.asks_eq_true.mp asks
  obtain ⟨left, path, place⟩ := inOrder.outward_eq (Component.ofAddress address)
  cases leads with
  | route core member _ goes =>
    rw [inOrder.cores_eq, List.mem_singleton] at member
    rw [Router.destination?_of_access access, Component.targetOf_eq, Option.some.injEq] at goes
    exact ⟨left, [], by rw [path, member, ← goes]; rfl⟩
  | spread _ owned =>
    have course := inOrder.directed _ on message address carried access
    have goes := inOrder.regular.targetOf_eq course
    rw [message.address?_of_access access, Option.bind_some, inOrder.seated.deviceFor?_eq goes,
      Option.some.injEq] at owned
    rw [Component.targetOf_eq] at goes
    rcases place with ⟨-, other, -⟩ | ⟨rfl, -⟩
    · contradiction
    · exact ⟨[], [machine.processor.boot.terminal], by rw [path, goes, ← owned]; rfl⟩

/-- A read or a write that has come to a component is for it. -/
lemma arrives (inOrder : machine.InOrder) (component : Component) {message : Message}
    {address : Word} (waiting : machine.bus.message? (machine.terminalOf component) = some message)
    (access : message.access? = some address) : Component.ofAddress address = component :=
  (inOrder.seated.routesByMap inOrder.regular inOrder.directed).arrives component message address
    waiting access

/-! ## Turns of others -/

/-- The message at a component's end of its link stays there until the component takes it. -/
lemma stays (inOrder : machine.InOrder) (relay : Relay machine actor later)
    (away : actor ≠ some component) {message : Message}
    (carried : machine.bus.carried? (machine.terminalOf component).peer = some message) :
    later.bus.carried? (machine.terminalOf component).peer = some message := by
  have wired := inOrder.sound.wired
  have on := inOrder.seated.mem_ways wired component
  have off {way : Terminal} (inside : way ∈ machine.traffic.ways) :
      (machine.terminalOf component).peer ≠ way.peer := wired.way_ne_peer inside on
  cases actor with
  | some other =>
    obtain ⟨taken, sent, handled⟩ := relay.handled
    refine spares_of_handled handled _ _ (fun same => away ?_) carried
    rw [inOrder.seated.seat_inj wired (Terminal.peer_inj.mp same)]
  | none =>
    cases relay with
    | request core attached =>
      obtain ⟨boot, member, rfl⟩ := wired.exists_core attached
      refine Router.spares_request _ _ _ _ _ ?_ carried
      rw [Terminal.peer_peer, ← Terminal.peer_peer boot.terminal]
      intro same
      obtain ⟨left, path, -⟩ := inOrder.outward_eq component
      have nodup := inOrder.nodup_outward component
      rw [inOrder.cores_eq, List.mem_singleton] at member
      rw [outward, List.nodup_cons] at nodup
      exact nodup.1 (by simp [same, member])
    | reply target =>
      have spares : Spares (machine.processor.router.terminal target) machine.bus
          (machine.processor.router.replyFrom machine.bus target).2 := by
        cases target with
        | memory | controller => exact Router.spares_reply _ _ _
        | devices =>
          rw [Router.replyFrom, Router.replyDevices]
          split
          · split
            · next forwarded => exact spares_of_forward? forwarded
            · exact spares_self _ _
          · exact Router.spares_reply _ _ _
      exact spares _ _ (off (machine.traffic.target_mem_ways target)) carried
    | hubRequest =>
      refine DeviceHub.spares_request _ _ _ _ ?_ carried
      have uplink : machine.hub.uplink.peer = machine.processor.router.terminal .devices :=
        (congrArg Terminal.peer wired.uplink).trans (Terminal.peer_peer _)
      rw [uplink]
      intro same
      have nodup := inOrder.nodup_outward component
      by_cases devices : component.target = .devices
      · rw [outward, if_pos devices, List.nodup_cons] at nodup
        exact nodup.1 (by simp [same])
      · obtain ⟨left, -, ⟨-, -, place⟩ | ⟨-, other⟩⟩ := inOrder.outward_eq component
        · rw [place] at same
          exact wired.router.terminal_ne devices same
        · contradiction
    | hubReply =>
      rcases inOrder.sound.hubReply_cases with same | ⟨device, inside, other, passed⟩
      · exact (congrArg (fun bus : Interconnect => bus.carried? _) same).trans carried
      · have port := wired.hub
        have member := inOrder.regular.device_mem_ports inside
        refine (passed.apart _ (off (machine.traffic.target_mem_ways .devices)) ?_).trans carried
        exact off (Traffic.port_mem_ways member)
    | links => exact (carried?_tick _).trans carried

/-- **Nobody but the component itself changes what is on the way to it.** -/
theorem requests_around (inOrder : machine.InOrder) (relay : Relay machine actor later)
    (away : actor ≠ some component) : later.requests component = machine.requests component := by
  have descent := relay.falls.descent inOrder.regular
  rw [requests, requests, relay.outward_eq]
  cases descent with
  | still same => exact along_congr fun way member => same way (inOrder.outward_mem member)
  | left way message on ends before gone apart =>
    cases kept : message.asks component with
    | false =>
      exact along_dropped kept before gone fun other member =>
        apart other (inOrder.outward_mem member)
    | true =>
      have here := inOrder.way_of_ends on before ends kept
      rw [here] at before gone
      have still := inOrder.stays relay away before
      exact absurd (still.symm.trans gone) (by simp)
  | passed source target message on out distinct leads before gone free came apart =>
    exact along_moved (inOrder.nodup_outward component) before gone free came
      (fun way member => apart way (inOrder.outward_mem member))
      (inOrder.outward_of_leads on before leads)
  | signalled message interrupt free came apart =>
    refine List.filterMap_congr fun way member => ?_
    by_cases here : way = machine.traffic.router.terminal .controller
    · have free' : machine.bus.carried? way = none := here ▸ free
      have came' : later.bus.carried? way = some message := here ▸ came
      rw [free', came']
      simp [Option.filter, Message.asks_of_plain (Message.access?_of_interrupt interrupt)]
    · have same : later.bus.carried? way = machine.bus.carried? way :=
        apart way (inOrder.outward_mem member) here
      rw [same]

/-- What moves on the ways from the core does not concern the answers. -/
lemma answers_of_outward (inOrder : machine.InOrder) {after : Interconnect}
    (same : ∀ way ∈ machine.traffic.ways, after.carried? way.peer = machine.bus.carried? way.peer) :
    after.along (Message.tells component) (machine.homeward component)
      = machine.bus.along (Message.tells component) (machine.homeward component) := by
  refine along_congr fun way member => ?_
  obtain ⟨out, inside, rfl⟩ := homeward_mem member
  exact same out (inOrder.outward_mem inside)

/-- The core's end of the path back. -/
lemma homeward_eq (inOrder : machine.InOrder) (component : Component) :
    ∃ right, machine.homeward component
      = machine.processor.boot.terminal.peer
        :: (machine.processor.router.terminal component.target).peer :: right := by
  obtain ⟨left, path, -⟩ := inOrder.outward_eq component
  exact ⟨left.reverse.map Terminal.peer, by rw [Machine.homeward, path]; simp⟩

/-- The answers that a target of the router sends back go on along the path to the core. -/
lemma answers_reply (inOrder : machine.InOrder) (target : Target) (component : Component) :
    (machine.processor.router.replyFrom machine.bus target).2.along (Message.tells component)
        (machine.homeward component)
      = machine.bus.along (Message.tells component) (machine.homeward component) := by
  have sound := inOrder.sound
  change (machine.traffic.router.replyFrom machine.traffic.bus target).2.along _ _
    = machine.traffic.bus.along _ _
  rcases sound.replyFrom_cases target with
    same | ⟨message, after, rfl, interrupt, passed, result⟩
      | ⟨before, read, rest, message, after, passed, answered, split, source, unfit, result⟩
  · rw [same]
  · rw [result]
    exact along_moved (inOrder.nodup_homeward component) passed.carried? passed.left passed.free
      passed.sent (fun way _ off out => passed.apart way out off)
      (fun kept => by simp [Message.tells_of_interrupt interrupt] at kept)
  · rw [result]
    have member : read ∈ machine.traffic.router.pending := by simp [split]
    obtain ⟨attached, goes⟩ := sound.entries read member
    obtain ⟨core, inside, own⟩ := sound.wired.exists_core attached
    rw [inOrder.cores_eq, List.mem_singleton] at inside
    refine along_moved (inOrder.nodup_homeward component) passed.carried? passed.left passed.free
      passed.sent (fun way _ off out => passed.apart way out off) fun kept => ?_
    obtain ⟨address, told, rfl⟩ := Message.tells_eq_true.mp kept
    obtain rfl : read.address = address := Option.some.inj (answered.symm.trans told)
    obtain ⟨right, path⟩ := inOrder.homeward_eq (Component.ofAddress read.address)
    rw [source, Component.targetOf_eq] at goes
    exact ⟨[], right, by rw [path, own, inside, goes]; rfl⟩

/-- So do the answers that the hub passes on. -/
lemma answers_hubReply (inOrder : machine.InOrder) (component : Component) :
    (machine.hub.reply machine.bus).along (Message.tells component) (machine.homeward component)
      = machine.bus.along (Message.tells component) (machine.homeward component) := by
  rcases inOrder.sound.hubReply_cases with same | ⟨device, inside, message, passed⟩
  · exact congrArg (fun bus : Interconnect => bus.along _ _) same
  · have left := passed.left
    have carried := passed.carried?
    rw [Terminal.peer_peer] at left carried
    refine along_moved (inOrder.nodup_homeward component) carried left passed.free passed.sent
      (fun way _ off out => passed.apart way out (by rwa [Terminal.peer_peer])) fun kept => ?_
    obtain ⟨address, told, rfl⟩ := Message.tells_eq_true.mp kept
    have owns := inOrder.homeward.devices device inside address
      (List.mem_append_left _ (by rw [carried, Message.answeredBy, Option.bind_some, told]; simp))
    have here := owns.here
    rw [inOrder.seated.deviceFor?_eq owns.goes, Option.some.injEq, Terminal.peer_inj] at here
    have goes := owns.goes
    rw [Component.targetOf_eq] at goes
    refine ⟨[machine.processor.boot.terminal.peer], [], ?_⟩
    rw [Machine.homeward, outward, if_pos goes, here]
    simp only [List.reverse_cons, List.reverse_append, List.map_append, List.map_cons,
      List.map_nil, List.reverse_nil, Peripheral.seat, Terminal.peer_peer]
    rfl

/-- **Nobody but the component itself and the core changes what comes back from it.** -/
theorem answers_around (inOrder : machine.InOrder) (relay : Relay machine actor later)
    (away : actor ≠ some component) : later.answers component = machine.answers component := by
  have wired := inOrder.sound.wired
  rw [answers, answers, relay.homeward_eq, relay.part_eq away]
  congr 1
  cases actor with
  | some other =>
    -- another component's turn concerns its own link, which is not on the path
    obtain ⟨taken, sent, handled⟩ := relay.handled
    refine along_congr fun way member => ?_
    obtain ⟨out, inside, rfl⟩ := homeward_mem member
    have on := inOrder.seated.mem_ways wired other
    have apart : out ≠ (machine.terminalOf other).peer := fun same =>
      inOrder.seat_notMem (fun equal => away (congrArg some equal)) (same ▸ inside)
    have link : out.link ≠ (machine.terminalOf other).link := by
      rw [← Terminal.link_peer (machine.terminalOf other)]
      exact wired.way_link_ne on (inOrder.outward_mem inside) apart
    exact (handled.still link).2
  | none =>
    cases relay with
    | request core attached =>
      refine inOrder.answers_of_outward fun way member => ?_
      obtain ⟨boot, member', rfl⟩ := wired.exists_core attached
      change (machine.traffic.router.request machine.traffic.bus boot.terminal.peer).2.carried?
        way.peer = machine.traffic.bus.carried? way.peer
      rcases inOrder.sound.request_cases member' with
        same | ⟨target, message, after, passed, goes, result⟩
      · rw [same]
      · rw [result]
        refine passed.apart _
          (wired.way_ne_peer member (machine.traffic.target_mem_ways target)).symm ?_
        rw [Terminal.peer_peer]
        exact (wired.way_ne_peer member (Traffic.core_mem_ways member')).symm
    | reply target => exact inOrder.answers_reply target component
    | hubRequest =>
      refine inOrder.answers_of_outward fun way member => ?_
      rcases inOrder.sound.hubRequest_cases with
        same | ⟨-, drops⟩ | ⟨device, inside, message, address, named, owned, passed⟩
      · exact congrArg (fun bus : Interconnect => bus.carried? way.peer) same
      · refine (congrArg (fun bus : Interconnect => bus.carried? way.peer) drops).trans ?_
        refine carried?_clear_of_ne ?_
        rw [Terminal.peer_peer]
        exact (wired.way_ne_peer member (machine.traffic.target_mem_ways .devices)).symm
      · refine passed.apart _ ?_ ?_
        · exact (wired.way_ne_peer member
            (Traffic.port_mem_ways (inOrder.regular.device_mem_ports inside))).symm
        · rw [Terminal.peer_peer]
          exact (wired.way_ne_peer member (machine.traffic.target_mem_ways .devices)).symm
    | hubReply => exact inOrder.answers_hubReply component
    | links => exact along_tick _ _ _

/-! ## The component's own turn -/

lemma links_around (inOrder : machine.InOrder) (component : Component) :
    ∃ path, machine.outward component = (machine.terminalOf component).peer :: path
      ∧ ∀ way ∈ path, way.link ≠ (machine.terminalOf component).link := by
  refine ⟨_, rfl, fun way member same => ?_⟩
  have nodup := inOrder.links_outward component
  rw [outward, List.map_cons, List.nodup_cons, Terminal.link_peer] at nodup
  exact nodup.1 (same ▸ List.mem_map_of_mem member)

/-- **A component takes the first of its requests.** -/
theorem requests_own (inOrder : machine.InOrder) (component : Component)
    (relay : Relay machine actor later)
    {taken sent : Option Message}
    (handled : Handled (machine.terminalOf component) machine.bus later.bus taken sent) :
    machine.requests component
      = (taken.filter (Message.asks component)).toList ++ later.requests component := by
  obtain ⟨path, here, around⟩ := inOrder.links_around component
  rw [requests, requests, relay.outward_eq, here]
  exact along_of_handled handled around

/-- **The answer to the request that a component takes goes behind its other answers.** -/
theorem answers_own (inOrder : machine.InOrder) (component : Component)
    (relay : Relay machine actor later)
    {answer? : Message → Option Message} {taken announced answered : Option Message}
    (visit : Visit (machine.terminalOf component) machine.bus later.bus answer?
      (machine.part component).owed (later.part component).owed taken announced answered) :
    later.answers component
      = machine.answers component
        ++ ((taken.bind answer?).filter (Message.tells component)).toList := by
  obtain ⟨path, here, around⟩ := inOrder.links_around component
  have back : machine.homeward component
      = path.reverse.map Terminal.peer ++ [machine.terminalOf component] := by
    rw [Machine.homeward, here, List.reverse_cons, List.map_append, List.map_singleton,
      Terminal.peer_peer]
  have apart (way : Terminal) (member : way ∈ path.reverse.map Terminal.peer) :
      way.link ≠ (machine.terminalOf component).link := by
    obtain ⟨out, inside, rfl⟩ := List.mem_map.mp member
    rw [Terminal.link_peer]
    exact around out (List.mem_reverse.mp inside)
  -- an interrupt is none of the answers
  have sent : ((announced.or answered).filter (Message.tells component)).toList
      = answered.toList.filter (Message.tells component) := by
    cases announced with
    | none => cases answered <;> simp [Option.filter, List.filter]; split <;> simp_all
    | some message =>
      have unanswered : answered = none := visit.single.resolve_left (by simp)
      have interrupt := visit.interrupt message rfl
      simp [unanswered, Option.filter, Message.tells_of_interrupt interrupt]
  have settled := congrArg (List.filter (Message.tells component)) visit.settled
  rw [List.filter_append, List.filter_append] at settled
  have due : ((taken.bind answer?).filter (Message.tells component)).toList
      = (taken.bind answer?).toList.filter (Message.tells component) := by
    cases taken.bind answer? <;> simp [Option.filter, List.filter]; split <;> simp_all
  rw [answers, answers, relay.homeward_eq, back,
    along_of_handled_last visit.handled apart, sent, due, List.append_assoc, List.append_assoc,
    settled]

/-! ## The core -/

section Core

variable {bus after : Interconnect} {message : Message}

lemma boot_notMem (inOrder : machine.InOrder) (component : Component) :
    ∃ path, machine.outward component = path ++ [machine.processor.boot.terminal]
      ∧ machine.processor.boot.terminal ∉ path := by
  obtain ⟨left, path, -⟩ := inOrder.outward_eq component
  have nodup := inOrder.nodup_outward component
  rw [path] at nodup
  refine ⟨left ++ [machine.processor.router.terminal component.target], by rw [path]; simp, ?_⟩
  rw [List.append_cons, List.nodup_append] at nodup
  exact fun member => nodup.2.2 _ member _ (List.mem_singleton_self _) rfl

/-- What the core sends joins the requests of the component it is for. -/
lemma requests_send (inOrder : machine.InOrder) (component : Component)
    (sent : bus.send? machine.processor.boot.terminal message = some after) :
    after.along (Message.asks component) (machine.outward component)
      = bus.along (Message.asks component) (machine.outward component)
        ++ if message.asks component then [message] else [] := by
  obtain ⟨path, here, away⟩ := inOrder.boot_notMem component
  rw [here]
  exact along_of_send? sent away

lemma answers_send (inOrder : machine.InOrder) (component : Component)
    (sent : bus.send? machine.processor.boot.terminal message = some after) :
    after.along (Message.tells component) (machine.homeward component)
      = bus.along (Message.tells component) (machine.homeward component) := by
  refine along_of_send?_of_notMem sent fun member => ?_
  obtain ⟨out, inside, same⟩ := homeward_mem member
  exact inOrder.sound.wired.way_ne_peer (inOrder.outward_mem inside)
    (Traffic.core_mem_ways (boot_mem machine)) same

/-- The answer that waits for the core is the first of its component. -/
lemma answers_message? (inOrder : machine.InOrder) (component : Component)
    (waiting : bus.message? machine.processor.boot.terminal = some message) :
    bus.along (Message.tells component) (machine.homeward component)
      = (if message.tells component then [message] else [])
        ++ (bus.clear machine.processor.boot.terminal).along (Message.tells component)
          (machine.homeward component) := by
  obtain ⟨right, path⟩ := inOrder.homeward_eq component
  have nodup := inOrder.nodup_homeward component
  rw [path] at nodup ⊢
  exact along_of_message? waiting (List.nodup_cons.mp nodup).1

lemma requests_clear (inOrder : machine.InOrder) (component : Component) (bus : Interconnect) :
    (bus.clear machine.processor.boot.terminal).along (Message.asks component)
        (machine.outward component)
      = bus.along (Message.asks component) (machine.outward component) :=
  along_clear_of_notMem fun member =>
    inOrder.sound.wired.way_ne_peer (Traffic.core_mem_ways (boot_mem machine))
      (inOrder.outward_mem member) rfl

end Core

end InOrder

/-! ## Machines -/

/-- A machine with a single core is in order when it is at rest. -/
lemma InOrder.of_atRest (rest : machine.traffic.AtRest) (alone : machine.processor.others = [])
    (seated : machine.traffic.Seated machine.terminalOf) : machine.InOrder where
  alone := alone
  sound := by
    refine rest.sound ?_
    change (machine.processor.boot :: machine.processor.others).length ≤ 32
    simp [alone]
  regular := rest.regular
  directed := rest.directed
  homeward := rest.homeward
  seated := seated

/-- A machine with a single core is in order in every state that it can reach. -/
theorem Reachable.inOrder (reachable : machine.Reachable) (single : machine.config.cores ≤ 1) :
    machine.InOrder := by
  have few : machine.config.cores ≤ 32 := by omega
  refine ⟨reachable.others_eq_nil single, reachable.sound few, reachable.regular,
    reachable.directed, ?_, reachable.seated⟩
  clear single
  induction reachable with
  | wire config image => exact (atRest_wire config image).homeward
  | act before action survives previous =>
    rw [config_act] at few
    exact (previous few).moves (before.sound few) before.regular before.directed
      (moves_act survives)

end Machine

end PipelinedMachine
