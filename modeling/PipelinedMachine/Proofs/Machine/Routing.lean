import PipelinedMachine.Proofs.Machine.AddressMap
import PipelinedMachine.Proofs.Machine.Requests

/-!
# Routing

A read or a write that a core sends comes to the component that the address map gives its address
to, and to no other.

* `Traffic.OnCourse`, `Traffic.Directed` — the ways on which a read or a write may be, and that no
  other carries it, which every move keeps;
* `Traffic.RoutesByMap` — what the router and the hub do to reads and writes;
* `Traffic.Seated.routesByMap` — they do it wherever the components sit in their places;
* **`Machine.Reachable.routes`** — and in a machine that can be reached, they do;
* **`Machine.routing_follows_addressMap`** — routing and the address map together.
-/

namespace PipelinedMachine

open Interconnect

/-! ## Ways -/

namespace Traffic

variable {traffic later : Traffic} {after : Interconnect} {way next : Terminal}
  {message : Message} {address : Word}

/-- The ways on which a read or a write of an address may be. -/
inductive OnCourse (traffic : Traffic) (address : Word) : Terminal → Prop where
  | core (core : Core) (member : core ∈ traffic.cores) : OnCourse traffic address core.terminal
  | target : OnCourse traffic address (traffic.router.terminal (Router.targetOf address))
  | port (port : Terminal) (goes : Router.targetOf address = .devices)
      (owned : traffic.hub.deviceFor? address = some port) : OnCourse traffic address port

/-- Reads and writes are on course. -/
def Directed (traffic : Traffic) : Prop :=
  ∀ way ∈ traffic.ways, ∀ message address, traffic.bus.carried? way = some message →
    message.access? = some address → traffic.OnCourse address way

/-- On the way to a target there are only accesses whose address goes there. -/
lemma Regular.targetOf_eq (regular : traffic.Regular) {target : Target}
    (course : traffic.OnCourse address (traffic.router.terminal target)) :
    Router.targetOf address = target := by
  by_contra apart
  generalize here : traffic.router.terminal target = way at course
  cases course with
  | core core member =>
    exact regular.wired.core_link_ne_target member target (congrArg Terminal.link here.symm)
  | target => exact regular.wired.target_link_ne apart (congrArg Terminal.link here.symm)
  | port port goes owned =>
    obtain ⟨device, member, same⟩ := regular.wired.exists_device (DeviceHub.mem_of_deviceFor? owned)
    refine regular.wired.device_link_ne member (traffic.router.terminal_mem_ends target) ?_
    rw [here, same, Terminal.link_peer]

/-- To a device there come only accesses of addresses that it owns. -/
lemma Regular.owned (regular : traffic.Regular)
    (attached : way ∈ traffic.hub.devices.map Attachment.terminal)
    (course : traffic.OnCourse address way) :
    Router.targetOf address = .devices ∧ traffic.hub.deviceFor? address = some way := by
  obtain ⟨device, member, same⟩ := regular.wired.exists_device attached
  cases course with
  | core core inside =>
    refine absurd ?_ (regular.wired.device_link_ne_core member inside)
    rw [same, Terminal.link_peer]
  | target =>
    refine absurd ?_ (regular.wired.device_link_ne member
      (traffic.router.terminal_mem_ends (Router.targetOf address)))
    rw [same, Terminal.link_peer]
  | port _ goes owned => exact ⟨goes, owned⟩

lemma Layout.onCourse (layout : traffic.Layout later) (course : traffic.OnCourse address way) :
    later.OnCourse address way := by
  obtain ⟨⟨pending, router⟩, cores, -, -, hub, -⟩ := layout
  cases course with
  | core core member =>
    have inside : core.terminal ∈ later.cores.map Core.terminal := by
      rw [cores]
      exact List.mem_map_of_mem member
    obtain ⟨other, here, same⟩ := List.mem_map.mp inside
    rw [← same]
    exact .core other here
  | target =>
    rw [← Router.terminal_pending traffic.router pending, ← router]
    exact .target
  | port _ goes owned => exact .port _ goes (hub ▸ owned)

/-- The next way of an access on course is on course. -/
lemma Regular.onCourse_of_leads (regular : traffic.Regular)
    (access : message.access? = some address) (course : traffic.OnCourse address way)
    (leads : traffic.Leads message way next) : traffic.OnCourse address next := by
  cases leads with
  | route core member _ goes =>
    rw [Router.destination?_of_access access] at goes
    rw [← Option.some.inj goes]
    exact .target
  | spread _ owned =>
    rw [message.address?_of_access access, Option.bind_some] at owned
    exact .port next (regular.targetOf_eq course) owned

/-- Whatever is on a way was there before, or came from the way before, or is an interrupt of the
devices. -/
lemma Descent.origin (descent : traffic.Descent after) (on : way ∈ traffic.ways)
    (carried : after.carried? way = some message) :
    traffic.bus.carried? way = some message
      ∨ (∃ source ∈ traffic.ways, traffic.bus.carried? source = some message
          ∧ traffic.Leads message source way)
      ∨ message.kind? = some .interrupt := by
  cases descent with
  | still same => exact Or.inl (same way on ▸ carried)
  | left source other _ _ _ gone apart =>
    by_cases here : way = source
    · simp [here, gone] at carried
    · exact Or.inl (apart way on here ▸ carried)
  | passed source target other member _ _ leads before gone _ came apart =>
    by_cases first : way = source
    · simp [first, gone] at carried
    · by_cases second : way = target
      · rw [second, came] at carried
        obtain rfl := Option.some.inj carried
        exact Or.inr (Or.inl ⟨source, member, before, second ▸ leads⟩)
      · exact Or.inl (apart way on first second ▸ carried)
  | signalled other interrupt _ came apart =>
    by_cases here : way = traffic.router.terminal .controller
    · rw [here, came] at carried
      exact Or.inr (Or.inr (Option.some.inj carried ▸ interrupt))
    · exact Or.inl (apart way on here ▸ carried)

/-- What is on a way stays there, or moves on to the next way, or has come to its end. -/
lemma Descent.onward (descent : traffic.Descent after) (on : way ∈ traffic.ways)
    (carried : traffic.bus.carried? way = some message) :
    after.carried? way = some message
      ∨ (∃ next ∈ traffic.ways, traffic.Leads message way next
          ∧ after.carried? next = some message)
      ∨ traffic.Ends message way := by
  cases descent with
  | still same => exact Or.inl ((same way on).trans carried)
  | left source other _ ends before _ apart =>
    by_cases here : way = source
    · rw [← here, carried] at before
      exact Or.inr (Or.inr (Option.some.inj before ▸ here ▸ ends))
    · exact Or.inl ((apart way on here).trans carried)
  | passed source target other _ out _ leads before _ free came apart =>
    by_cases first : way = source
    · rw [← first, carried] at before
      obtain rfl := Option.some.inj before
      exact Or.inr (Or.inl ⟨target, out, first ▸ leads, came⟩)
    · by_cases second : way = target
      · simp [second, free] at carried
      · exact Or.inl ((apart way on first second).trans carried)
  | signalled other _ free _ apart =>
    by_cases here : way = traffic.router.terminal .controller
    · simp [here, free] at carried
    · exact Or.inl ((apart way on here).trans carried)

/-- A move keeps reads and writes on course. -/
lemma Directed.move (directed : traffic.Directed) (regular : traffic.Regular)
    (move : Move traffic later) : later.Directed := by
  intro way on message address carried access
  rw [move.layout.ways_eq] at on
  refine move.layout.onCourse ?_
  rcases regular.move_cases move with descent | ⟨core, member, -, apart⟩
  · rcases descent.origin on carried with before | ⟨source, inside, before, leads⟩ | interrupt
    · exact directed way on message address before access
    · exact regular.onCourse_of_leads access (directed source inside _ _ before access) leads
    · simp [Message.access?_of_interrupt interrupt] at access
  · by_cases own : way = core.terminal
    · rw [own]
      exact .core core member
    · exact directed way on message address (apart way on own ▸ carried) access

lemma Directed.moves (directed : traffic.Directed) (regular : traffic.Regular)
    (moves : Moves traffic later) : later.Directed := by
  induction moves with
  | refl => exact directed
  | tail before move ih => exact ih.move (regular.moves before) move

/-- Reads and writes come to the components that the address map gives their addresses to, each of
which sits at its `seat`. -/
structure RoutesByMap (traffic : Traffic) (seat : Component → Terminal) : Prop where
  /-- What comes to a component has an address that the map gives to it. -/
  arrives : ∀ component message address, traffic.bus.message? (seat component) = some message →
    message.access? = some address → Component.ofAddress address = component
  /-- The router's ways to the controller and to main memory end at their seats, and the third at
  the hub. -/
  controller : traffic.router.terminal .controller = (seat .controller).peer
  ram : traffic.router.terminal .memory = (seat .ram).peer
  hub : traffic.router.terminal .devices = traffic.hub.uplink.peer
  /-- The router passes on what a core sends, as soon as the way to its component is free. -/
  routes : ∀ core ∈ traffic.cores, ∀ message address,
    traffic.bus.message? core.terminal.peer = some message → message.access? = some address →
      (traffic.router.request traffic.bus core.terminal.peer).2 =
        (traffic.bus.forward? core.terminal.peer
          (traffic.router.terminal (Component.ofAddress address).target)).getD traffic.bus
  /-- The hub passes on what it gets, as soon as the way to its component is free. -/
  spreads : ∀ message address, traffic.bus.message? traffic.hub.uplink = some message →
    message.access? = some address → traffic.hub.request traffic.bus =
      (traffic.bus.forward? traffic.hub.uplink
        (seat (Component.ofAddress address)).peer).getD traffic.bus
  /-- Whoever has a turn, what is on a way stays there, or goes on to the next way, or has come to
  its component. -/
  keeps : ∀ later, Move traffic later → ∀ way ∈ traffic.ways, ∀ message address,
    traffic.bus.carried? way = some message → message.access? = some address →
      later.bus.carried? way = some message
        ∨ (∃ next ∈ traffic.ways, traffic.Leads message way next
            ∧ later.bus.carried? next = some message)
        ∨ way = (seat (Component.ofAddress address)).peer

/-- Every component sits where the address map expects it. -/
structure Seated (traffic : Traffic) (seat : Component → Terminal) : Prop where
  controller : seat .controller = traffic.controller.terminal
  ram : seat .ram = traffic.ram.terminal
  devices : traffic.hub.devices =
    [⟨AddressMap.romStart, (seat .rom).peer⟩, ⟨AddressMap.displayStart, (seat .display).peer⟩,
      ⟨AddressMap.keyboardRegister, (seat .keyboard).peer⟩,
      ⟨AddressMap.diskSeek, (seat .disk).peer⟩]

namespace Seated

variable {seat : Component → Terminal}

lemma of_layout (seated : traffic.Seated seat) (layout : traffic.Layout later) :
    later.Seated seat where
  controller := seated.controller.trans layout.controller.symm
  ram := seated.ram.trans layout.ram.symm
  devices := by rw [layout.hub, seated.devices]

lemma ascending (seated : traffic.Seated seat) : traffic.hub.Ascending := by
  rw [DeviceHub.Ascending, seated.devices]
  simp only [List.pairwise_cons, List.mem_cons, List.not_mem_nil, or_false, forall_eq_or_imp,
    forall_eq, List.Pairwise.nil, false_implies, implies_true, and_true]
  decide

/-- The hub finds the component that the address map says. -/
lemma deviceFor?_eq (seated : traffic.Seated seat)
    (goes : Router.targetOf address = .devices) :
    traffic.hub.deviceFor? address = some (seat (Component.ofAddress address)).peer := by
  have bases : AddressMap.romStart.toInt = 512 ∧ AddressMap.displayStart.toInt = 1536
      ∧ AddressMap.keyboardRegister.toInt = 3588 ∧ AddressMap.diskSeek.toInt = 134221317 := by
    decide
  have found (base : Word) (terminal : Terminal) (member : ⟨base, terminal⟩ ∈ traffic.hub.devices)
      (owns : base.toInt ≤ address.toInt)
      (greatest : ∀ other ∈ [512, 1536, 3588, 134221317], other ≤ address.toInt →
        other ≤ base.toInt) : traffic.hub.deviceFor? address = some terminal := by
    refine seated.ascending.deviceFor?_eq member (Int32.le_iff_toInt_le.mpr owns) ?_
    intro other inside below
    rw [Int32.le_iff_toInt_le] at below ⊢
    refine greatest _ ?_ below
    simp only [seated.devices, List.mem_cons, List.not_mem_nil, or_false] at inside
    rcases inside with rfl | rfl | rfl | rfl <;> simp [bases]
  rw [Component.targetOf_eq] at goes
  rw [Component.ofAddress_eq] at goes ⊢
  simp only [seated.devices, List.mem_cons, List.not_mem_nil, or_false, forall_eq_or_imp,
    forall_eq] at found
  split_ifs at goes ⊢
  · contradiction
  · exact found AddressMap.romStart _ (by simp) (by omega) (by omega)
  · exact found AddressMap.displayStart _ (by simp) (by omega) (by omega)
  · exact found AddressMap.keyboardRegister _ (by simp) (by omega) (by omega)
  · contradiction
  · exact found AddressMap.diskSeek _ (by simp) (by omega) (by omega)

/-- The way that ends at a component. -/
lemma way_eq (seated : traffic.Seated seat) (regular : traffic.Regular)
    (course : traffic.OnCourse address way)
    (home : way.peer = traffic.ram.terminal ∨ way.peer = traffic.controller.terminal
      ∨ way ∈ traffic.hub.devices.map Attachment.terminal) :
    way = (seat (Component.ofAddress address)).peer := by
  have direct (target : Target) (component : Component)
      (sits : (traffic.router.terminal target).peer = seat component)
      (only : ∀ other : Component, other.target = target → other = component)
      (here : way.peer = seat component) : way = (seat (Component.ofAddress address)).peer := by
    have same : way = traffic.router.terminal target := by
      rw [← Terminal.peer_inj, here, sits]
    rw [same] at course ⊢
    have goes := regular.targetOf_eq course
    rw [Component.targetOf_eq] at goes
    rw [only _ goes, ← sits, Terminal.peer_peer]
  rcases home with ram | controller | port
  · refine direct .memory .ram ?_ (by intro other; cases other <;> simp [Component.target]) ?_
    · rw [seated.ram, regular.wired.ram]
    · rw [seated.ram, ram]
  · refine direct .controller .controller ?_
      (by intro other; cases other <;> simp [Component.target]) ?_
    · rw [seated.controller, regular.wired.controller]
    · rw [seated.controller, controller]
  · obtain ⟨goes, owned⟩ := regular.owned port course
    rw [seated.deviceFor?_eq goes] at owned
    exact (Option.some.inj owned).symm

lemma home (seated : traffic.Seated seat) (component : Component) :
    (seat component).peer.peer = traffic.ram.terminal
      ∨ (seat component).peer.peer = traffic.controller.terminal
      ∨ (seat component).peer ∈ traffic.hub.devices.map Attachment.terminal := by
  rw [Terminal.peer_peer, seated.devices]
  cases component with
  | controller => exact Or.inr (Or.inl seated.controller)
  | ram => exact Or.inl seated.ram
  | rom | display | keyboard | disk => exact Or.inr (Or.inr (by simp))

lemma mem_ways (seated : traffic.Seated seat) (wired : traffic.Wired) (component : Component) :
    (seat component).peer ∈ traffic.ways := by
  rcases seated.home component with ram | controller | port
  · rw [wired.ram, Terminal.peer_inj] at ram
    exact ram ▸ traffic.target_mem_ways .memory
  · rw [wired.controller, Terminal.peer_inj] at controller
    exact controller ▸ traffic.target_mem_ways .controller
  · exact port_mem_ways port

/-- No two components sit in the same place. -/
lemma seat_inj (seated : traffic.Seated seat) (wired : traffic.Wired) {component other : Component}
    (same : seat component = seat other) : component = other := by
  have ends : ([traffic.router.terminal .memory, traffic.router.terminal .controller]
      ++ traffic.hub.devices.map Attachment.terminal).Sublist traffic.ways :=
    .append (.trans (.cons_cons _ (.cons _ (.refl _))) (List.sublist_append_left _ _)) (.refl _)
  have nodup := wired.nodup_ways.sublist ends
  have seats : [traffic.router.terminal .memory, traffic.router.terminal .controller]
      ++ traffic.hub.devices.map Attachment.terminal
      = [.ram, .controller, .rom, .display, .keyboard, .disk].map fun component =>
        (seat component).peer := by
    simp [seated.devices, seated.ram, seated.controller, wired.ram, wired.controller]
  rw [seats] at nodup
  exact List.inj_on_of_nodup_map nodup (by cases component <;> simp) (by cases other <;> simp)
    (congrArg Terminal.peer same)

/-- Where every component sits as the address map expects it, reads and writes come to it. -/
theorem routesByMap (seated : traffic.Seated seat) (regular : traffic.Regular)
    (directed : traffic.Directed) : traffic.RoutesByMap seat where
  arrives component message address waiting access := by
    have carried := carried?_of_message? waiting
    have course := directed _ (seated.mem_ways regular.wired component) message address carried
      access
    have same := seated.way_eq regular course (seated.home component)
    exact (seated.seat_inj regular.wired (Terminal.peer_inj.mp same)).symm
  controller := by rw [seated.controller, regular.wired.controller, Terminal.peer_peer]
  ram := by rw [seated.ram, regular.wired.ram, Terminal.peer_peer]
  hub := by rw [regular.wired.uplink, Terminal.peer_peer]
  routes core member message address waiting access := by
    rw [Router.request, waiting]
    simp only [Router.destination?_of_access access, Component.targetOf_eq]
    cases traffic.bus.forward? core.terminal.peer
      (traffic.router.terminal (Component.ofAddress address).target) <;> rfl
  spreads message address waiting access := by
    have carried := carried?_of_message? waiting
    rw [regular.wired.uplink, Terminal.peer_peer] at carried
    have goes := regular.targetOf_eq
      (directed _ (traffic.target_mem_ways .devices) _ _ carried access)
    rw [DeviceHub.request, waiting]
    simp only [message.address?_of_access access, Option.bind_some, seated.deviceFor?_eq goes]
  keeps later move way on message address carried access := by
    have course := directed way on message address carried access
    rcases regular.move_cases move with descent | ⟨core, member, own, apart⟩
    · rcases descent.onward on carried with stays | goes | ends
      · exact Or.inl stays
      · exact Or.inr (Or.inl goes)
      · refine Or.inr (Or.inr ?_)
        cases ends with
        | taken home => exact seated.way_eq regular course home
        | refused plain => simp [plain] at access
        | unowned last none =>
          rw [last] at course
          rw [message.address?_of_access access, Option.bind_some,
            seated.deviceFor?_eq (regular.targetOf_eq course)] at none
          contradiction
    · refine Or.inl ?_
      by_cases here : way = core.terminal
      · rw [here] at carried ⊢
        exact own message carried
      · exact (apart way on here).trans carried

end Seated

lemma AtRest.directed (rest : traffic.AtRest) : traffic.Directed := by
  intro way _ message address carried
  rw [rest.idle way] at carried
  contradiction

end Traffic

namespace Machine

/-- Where a component of a machine sits. -/
def terminalOf (machine : Machine) : Component → Terminal
  | .controller => machine.processor.controller.terminal
  | .ram => machine.ram.terminal
  | .rom => machine.rom.terminal
  | .display => machine.display.terminal
  | .keyboard => machine.keyboard.terminal
  | .disk => machine.disk.terminal

lemma seated_wire (config : MachineConfig) (image : DiskImage) :
    (wire config image).traffic.Seated (wire config image).terminalOf where
  controller := rfl
  ram := rfl
  devices := by
    refine (devices_wire config image).trans ?_
    simp only [← peer_ports]
    rfl

lemma terminalOf_eq_of_layout {machine later : Machine}
    (layout : machine.traffic.Layout later.traffic) : later.terminalOf = machine.terminalOf := by
  have seats := congrArg (List.map Prod.fst) layout.seats
  simp only [Traffic.seats, traffic, List.map_cons, List.map_nil, List.cons.injEq] at seats
  obtain ⟨rom, display, keyboard, disk, -⟩ := seats
  funext component
  cases component with
  | controller => exact layout.controller
  | ram => exact layout.ram
  | rom => exact rom
  | display => exact display
  | keyboard => exact keyboard
  | disk => exact disk

/-- The components of a machine never leave their places. -/
lemma Reachable.seated {machine : Machine} (reachable : machine.Reachable) :
    machine.traffic.Seated machine.terminalOf := by
  induction reachable with
  | wire config image => exact seated_wire config image
  | act before action survives seated =>
    have layout := Traffic.Moves.layout (moves_act survives)
    rw [terminalOf_eq_of_layout layout]
    exact seated.of_layout layout

/-- In every machine that can be reached, reads and writes are on course. -/
lemma Reachable.directed {machine : Machine} (reachable : machine.Reachable) :
    machine.traffic.Directed := by
  induction reachable with
  | wire config image => exact (atRest_wire config image).directed
  | act before action survives directed =>
    exact directed.moves before.regular (moves_act survives)

/-- Whatever has its turn in a machine that can be reached, reads and writes are routed by the
address map. -/
theorem Reachable.routes {machine : Machine} (reachable : machine.Reachable) {later : Traffic}
    (moves : Traffic.Moves machine.traffic later) : later.RoutesByMap machine.terminalOf :=
  (reachable.seated.of_layout moves.layout).routesByMap (reachable.regular.moves moves)
    (reachable.directed.moves reachable.regular moves)

/-- **Routing agrees with the address map.** -/
theorem routing_follows_addressMap {machine : Machine} (reachable : machine.Reachable) :
    (∀ traffic, Traffic.Moves machine.traffic traffic → traffic.RoutesByMap machine.terminalOf)
      ∧ (∀ address, Component.ofAddress address = .controller ↔ address.toInt < 512)
      ∧ (∀ address, Component.ofAddress address = .ram ↔ isRam address = true)
      ∧ (∀ address region, regionAt address = some region →
          Component.ofAddress address = Component.ofRegion region)
      ∧ (∀ address, (∀ region : Region, region.last < address) →
          Component.ofAddress address = .disk)
      ∧ (∀ address region, regionAt address = some region ↔ region.contains address = true)
      ∧ (∀ address (region other : Region), region.contains address = true →
          other.contains address = true → region = other)
      ∧ Region.all.IsChain (fun region next => region.last.toInt + 1 = next.first.toInt)
      ∧ ∀ uplink calls, ((⟨uplink, []⟩ : DeviceHub).attachAll calls).ServesByBase :=
  ⟨fun _ => reachable.routes, fun _ => Component.ofAddress_eq_controller_iff,
    fun _ => Component.ofAddress_eq_ram_iff,
    fun _ _ named => Component.ofAddress_of_contains (regionAt_eq_some.mp named),
    fun _ => Component.ofAddress_eq_disk, fun _ _ => regionAt_eq_some,
    fun _ _ _ => Region.eq_of_contains, Region.isChain_all,
    fun uplink calls => ((DeviceHub.ascending_new uplink).attachAll calls).servesByBase⟩

/-- A machine nine ticks after it was switched on. -/
def booting : Machine :=
  ((wire MachineConfig.fast (DiskImage.blank 1)).run 9 .tickLimit).1

/-- The boot core's first read has come to read-only memory, where its address belongs. -/
theorem routing_of_booting :
    booting.Reachable
      ∧ booting.bus.message? (booting.terminalOf .rom) = some (Message.read 512 8)
      ∧ Component.ofAddress 512 = .rom := by
  have reachable : booting.Reachable := by
    have live : ((wire MachineConfig.fast (DiskImage.blank 1)).run 9 .tickLimit).2
        = .ok ⟨9, .running⟩ := by decide +kernel
    exact (Reachable.wire _ _).run live
  have waits : booting.bus.message? (booting.terminalOf .rom) = some (Message.read 512 8) := by
    decide +kernel
  have routes := (routing_follows_addressMap reachable).1 _ .refl
  exact ⟨reachable, waits, routes.arrives .rom _ 512 waits rfl⟩

end Machine

end PipelinedMachine
