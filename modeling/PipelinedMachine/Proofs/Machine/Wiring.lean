import PipelinedMachine.Proofs.Machine.Sound

/-!
# A machine that has just been wired

Wiring creates one link after the other, two terminals at a time, and hands the ends to the
components.

* `Processor.wired_wire`, `Machine.wired_wire` — every component sits at a link of its own;
* `Traffic.AtRest` — nothing is on its way, and nothing is owed, as in a new machine;
* **`Machine.sound_wire`** — with 32 cores at most, the traffic of a new machine is sound;
* **`Machine.Reachable.sound`** — so it is sound in every state that the machine can reach.
-/

namespace PipelinedMachine

open Interconnect

namespace Interconnect

/-- Nothing is on its way. -/
def Idle (bus : Interconnect) : Prop := ∀ a, bus.carried? a = none

lemma idle_empty : empty.Idle := fun a => by simp [carried?, outgoing?, empty]

lemma Idle.link {bus : Interconnect} (idle : bus.Idle) (period : UInt32) (capacity : Nat) :
    (bus.link period capacity).1.Idle := by
  intro a
  rw [carried?, outgoing?_link]
  split_ifs
  · exact idle a
  · rfl
  · rfl

lemma size_link (bus : Interconnect) (period : UInt32) (capacity : Nat) :
    (bus.link period capacity).1.size = bus.size + 2 := by
  simp [link, size]

end Interconnect

lemma Terminal.peer_of_even {i : Nat} (even : i % 2 = 0) : (⟨i⟩ : Terminal).peer = ⟨i + 1⟩ := by
  simp [peer, even]

lemma Terminal.peer_succ_of_even {i : Nat} (even : i % 2 = 0) :
    (⟨i + 1⟩ : Terminal).peer = ⟨i⟩ := by
  rw [← peer_of_even even, peer_peer]

/-! ## The processor -/

namespace Processor

/-- What adding cores does, one after the other. -/
structure Added (router : Router) (bus : Interconnect) (entry : Word) (count : Nat)
    (cores : List Core) (router' : Router) (bus' : Interconnect) : Prop where
  router : router' = { router with
    cores := router.cores ++ (cores.map Core.terminal).map Terminal.peer }
  terminals : cores.map Core.terminal = (List.range count).map fun i => ⟨bus.size + 2 * i⟩
  fresh : ∀ core ∈ cores, ∃ id, core = Core.reset id core.terminal entry
  size : bus'.size = bus.size + 2 * count
  idle : bus'.Idle

lemma added_addCores (id : Nat) (period : UInt32) (entry : Word) (count : Nat) (router : Router)
    (bus : Interconnect) (even : bus.size % 2 = 0) (idle : bus.Idle) :
    Added router bus entry count (addCores id period entry count router bus).1
      (addCores id period entry count router bus).2.1
      (addCores id period entry count router bus).2.2 := by
  induction count generalizing id router bus with
  | zero =>
    exact {
      router := by simp [addCores]
      terminals := rfl
      fresh := by simp [addCores]
      size := rfl
      idle := idle }
  | succ count ih =>
    have size := bus.size_link period Interconnect.messageCapacity
    have added := ih (id + 1) (router.addCore ⟨bus.size + 1⟩)
      (bus.link period Interconnect.messageCapacity).1 (by omega)
      (idle.link period Interconnect.messageCapacity)
    have first : (⟨bus.size⟩ : Terminal).peer = ⟨bus.size + 1⟩ := Terminal.peer_of_even even
    exact {
      router := by
        refine added.router.trans ?_
        rw [Router.addCore]
        change { router with cores := _ } = { router with cores := _ }
        rw [List.append_assoc]
        change _ = { router with cores := router.cores ++
          ((⟨bus.size⟩ : Terminal).peer :: _) }
        rw [first]
        rfl
      terminals := by
        have rest := added.terminals
        rw [size] at rest
        rw [List.range_succ_eq_map, List.map_cons, List.map_map]
        change (⟨bus.size⟩ : Terminal) :: _ = _
        congr 1
        refine rest.trans (List.map_congr_left fun i _ => ?_)
        simp only [Function.comp_apply, Nat.mul_succ]
        congr 1
        omega
      fresh := by
        intro core member
        rcases List.mem_cons.mp member with rfl | member
        · exact ⟨id, rfl⟩
        · exact added.fresh core member
      size := by
        refine added.size.trans ?_
        omega
      idle := added.idle }

end Processor

/-! ## The machine -/

namespace Machine

variable (config : MachineConfig) (image : DiskImage)

/-- The links to the hub, to main memory and to the controller. -/
def trunk : Interconnect :=
  (((empty.link config.corePeriod messageCapacity).1.link config.corePeriod
    messageCapacity).1.link config.corePeriod messageCapacity).1

/-- The cores and the router, with the cores' links. -/
def branch : List Core × Router × Interconnect :=
  Processor.addCores 0 config.corePeriod config.entry (config.cores - 1 + 1)
    { devices := ⟨0⟩, controller := ⟨5⟩, memory := ⟨2⟩ } (trunk config)

/-- The links once `count` devices have been added. -/
def ports : Nat → Interconnect
  | 0 => (branch config).2.2
  | count + 1 => ((ports count).link config.devicePeriod messageCapacity).1

lemma added_branch :
    Processor.Added { devices := ⟨0⟩, controller := ⟨5⟩, memory := ⟨2⟩ } (trunk config)
      config.entry (config.cores - 1 + 1) (branch config).1 (branch config).2.1
      (branch config).2.2 :=
  Processor.added_addCores 0 config.corePeriod config.entry _ _ _ (by
    rw [trunk, size_link, size_link, size_link]
    rfl) (((idle_empty.link _ _).link _ _).link _ _)

lemma idle_ports (count : Nat) : (ports config count).Idle := by
  induction count with
  | zero => exact (added_branch config).idle
  | succ count ih => exact ih.link _ _

lemma size_ports (count : Nat) :
    (ports config count).size = 6 + 2 * (config.cores - 1 + 1) + 2 * count := by
  induction count with
  | zero => exact (added_branch config).size
  | succ count ih =>
    rw [ports, size_link, ih]
    omega

/-- Where the devices sit, from the hub's side. -/
lemma devices_wire :
    (wire config image).hub.devices =
      [⟨AddressMap.romStart, ⟨(ports config 0).size⟩⟩,
        ⟨AddressMap.displayStart, ⟨(ports config 1).size⟩⟩,
        ⟨AddressMap.keyboardRegister, ⟨(ports config 2).size⟩⟩,
        ⟨AddressMap.diskSeek, ⟨(ports config 3).size⟩⟩] := Eq.refl _

lemma seats_wire :
    (wire config image).traffic.seats
      = [(⟨(ports config 0).size + 1⟩, fun address => some address),
        (⟨(ports config 1).size + 1⟩, fun address => some address),
        (⟨(ports config 2).size + 1⟩, fun _ => some AddressMap.keyboardRegister),
        (⟨(ports config 3).size + 1⟩, (Peripheral.disk (wire config image).disk).dueFor?)] := by
  rw [Traffic.seats, traffic]
  simp only [List.map_cons, List.map_nil, Peripheral.seat, Peripheral.terminal]
  rfl

/-- The hub sends the keyboard nothing but reads and writes of its register. -/
lemma eq_keyboardRegister {address : Word} (beyond : isRam address = false)
    (owned : (wire config image).hub.deviceFor? address = some ⟨(ports config 2).size⟩) :
    address = AddressMap.keyboardRegister := by
  have sizes := size_ports config
  have apart : (⟨(ports config 3).size⟩ : Terminal) ≠ ⟨(ports config 2).size⟩
      ∧ (⟨(ports config 1).size⟩ : Terminal) ≠ ⟨(ports config 2).size⟩
      ∧ (⟨(ports config 0).size⟩ : Terminal) ≠ ⟨(ports config 2).size⟩ := by
    simp only [ne_eq, Terminal.mk.injEq]
    rw [sizes, sizes, sizes, sizes]
    omega
  rw [DeviceHub.deviceFor?, devices_wire] at owned
  -- the keyboard owns what lies between its base and that of the disk
  simp only [List.reverse_cons, List.reverse_nil, List.nil_append, List.cons_append,
    List.find?_cons, List.find?_nil] at owned
  split at owned
  · simp [apart.1] at owned
  · next above =>
    split at owned
    · next below =>
      have above := Int32.lt_iff_toInt_lt.mp (Int32.not_le.mp (of_decide_eq_false above))
      have below := Int32.le_iff_toInt_le.mp (of_decide_eq_true below)
      have outside : ¬(AddressMap.ramStart.toInt ≤ address.toInt
          ∧ address.toInt ≤ (AddressMap.diskSeek - 1).toInt) := by
        simpa [isRam, Region.contains, Region.first, Region.last, Int32.le_iff_toInt_le]
          using beyond
      have start : AddressMap.ramStart.toInt = AddressMap.keyboardRegister.toInt + 1 := rfl
      have last : (AddressMap.diskSeek - 1).toInt = AddressMap.diskSeek.toInt - 1 := rfl
      exact Int32.toInt_inj.mp (by omega)
    · split at owned
      · simp [apart.2.1] at owned
      · split at owned
        · simp [apart.2.2] at owned
        · simp at owned

lemma terminals_wire :
    (wire config image).traffic.cores.map Core.terminal
      = (List.range (config.cores - 1 + 1)).map fun i => ⟨6 + 2 * i⟩ :=
  (added_branch config).terminals

lemma router_wire :
    (wire config image).traffic.router
      = { devices := ⟨0⟩, controller := ⟨5⟩, memory := ⟨2⟩
          cores := ((wire config image).traffic.cores.map Core.terminal).map Terminal.peer } :=
  (added_branch config).router

lemma links_wire :
    (wire config image).traffic.ends.map Terminal.link
      = [1, 0, 2] ++ (List.range (config.cores - 1 + 1)).map (3 + ·)
        ++ [3 + (config.cores - 1 + 1), 4 + (config.cores - 1 + 1),
          5 + (config.cores - 1 + 1), 6 + (config.cores - 1 + 1)] := by
  have cores : (((List.range (config.cores - 1 + 1)).map fun i => (⟨6 + 2 * i⟩ : Terminal)).map
      Terminal.peer).map Terminal.link = (List.range (config.cores - 1 + 1)).map (3 + ·) := by
    rw [List.map_map, List.map_map]
    refine List.map_congr_left fun i _ => ?_
    rw [Function.comp_apply, Function.comp_apply, Terminal.link_peer, Terminal.link]
    simp only
    omega
  rw [Traffic.ends, router_wire, terminals_wire, seats_wire, Router.ends, List.map_append,
    List.map_append, cores]
  simp only [List.map_cons, List.map_nil, Terminal.link, size_ports]
  congr 1
  simp only [List.cons.injEq, and_true]
  omega

lemma nodup_links_wire : ((wire config image).traffic.ends.map Terminal.link).Nodup := by
  rw [links_wire]
  have cores : ((List.range (config.cores - 1 + 1)).map (3 + ·)).Nodup :=
    List.nodup_range.map fun i j same => by simpa using same
  refine (List.Nodup.append (by decide) cores ?_).append ?_ ?_
  · intro link first second
    obtain ⟨i, -, rfl⟩ := List.mem_map.mp second
    simp at first
    omega
  · simp
  · intro link first second
    rw [List.mem_append, List.mem_map] at first
    simp only [List.mem_cons, List.not_mem_nil, or_false] at first second
    rcases first with low | ⟨i, inside, rfl⟩
    · omega
    · rw [List.mem_range] at inside
      omega

lemma peer_ports (count : Nat) :
    (⟨(ports config count).size + 1⟩ : Terminal).peer = ⟨(ports config count).size⟩ :=
  Terminal.peer_succ_of_even (by
    rw [size_ports]
    omega)

lemma wired_wire : (wire config image).traffic.Wired where
  cores := by rw [router_wire]
  ram := by
    rw [router_wire]
    exact show (⟨3⟩ : Terminal) = (⟨2⟩ : Terminal).peer by decide
  controller := by
    rw [router_wire]
    exact show (⟨4⟩ : Terminal) = (⟨5⟩ : Terminal).peer by decide
  uplink := by
    rw [router_wire]
    exact show (⟨1⟩ : Terminal) = (⟨0⟩ : Terminal).peer by decide
  hub := by
    rw [seats_wire, show (wire config image).traffic.hub = (wire config image).hub from rfl,
      devices_wire]
    simp only [List.map_cons, List.map_nil, peer_ports]
  links := nodup_links_wire config image
  owns := by
    intro seat member address beyond owned a due
    rw [seats_wire] at member
    simp only [List.mem_cons, List.not_mem_nil, or_false] at member
    rcases member with rfl | rfl | rfl | rfl
    · exact (Option.some.inj due).symm
    · exact (Option.some.inj due).symm
    · rw [peer_ports] at owned
      rw [eq_keyboardRegister config image beyond owned]
      exact (Option.some.inj due).symm
    · simp only [Peripheral.dueFor?, Option.mem_def] at due
      split_ifs at due
      exact (Option.some.inj due).symm

end Machine

/-! ## Idle links -/

section Idle

variable {bus : Interconnect}

lemma Core.lane_of_idle (idle : bus.Idle) {core : Core} (steady : core.Steady)
    (asked : core.asked = []) : core.Lane bus [] where
  steady := steady
  up := by simp [idle _]
  down := by simp [idle _]
  balance := by simp [idle _, asked, Message.askedBy, Message.answeredBy]

lemma Peripheral.orderly_of_idle (idle : bus.Idle) {device : Peripheral} (owed : device.owed = []) :
    device.Orderly bus where
  owed := by simp [owed]
  sent := by simp [idle _]

lemma Peripheral.engaged_of_idle (idle : bus.Idle) {device : Peripheral} (owed : device.owed = []) :
    device.engaged bus = [] := by
  simp [engaged, idle _, owed, Message.answeredBy]

lemma Peripheral.keeps_of_idle (idle : bus.Idle) {device : Peripheral} (plain : device.Plain)
    (owed : device.owed = []) : device.Keeps bus [] :=
  ⟨plain, orderly_of_idle idle owed, (engaged_of_idle idle owed).symm⟩

lemma hubLane_of_idle (idle : bus.Idle) (terminal : Terminal) {devices : List Peripheral}
    (owed : ∀ device ∈ devices, device.owed = []) : HubLane bus terminal devices [] where
  beyond := by simp [idle _]
  returning := by simp [idle _]
  orderly := fun device member => Peripheral.orderly_of_idle idle (owed device member)
  balance := fun address => by
    have none : engagements devices bus = [] :=
      List.flatMap_eq_nil_iff.mpr fun device member =>
        Peripheral.engaged_of_idle idle (owed device member)
    simp [idle _, none, Message.askedBy, Message.answeredBy]

end Idle

namespace Traffic

/-- Nothing is on its way, no component owes an answer, and no core waits for one. -/
structure AtRest (traffic : Traffic) : Prop where
  wired : traffic.Wired
  idle : traffic.bus.Idle
  pending : traffic.router.pending = []
  cores : ∀ core ∈ traffic.cores, core.Steady ∧ core.asked = []
  ram : (Peripheral.ram traffic.ram).owed = []
  controller : (Peripheral.controller traffic.controller traffic.lines).owed = []
  devices : ∀ device ∈ traffic.devices, device.owed = []

variable {traffic : Traffic}

/-- Traffic at rest is sound. -/
lemma AtRest.sound (rest : traffic.AtRest) (few : traffic.cores.length ≤ 32) : traffic.Sound := by
  have sent (target : Target) : traffic.sent target = [] := by
    rw [Traffic.sent, rest.pending, Router.sentTo_nil]
  exact {
    wired := rest.wired
    few := few
    lanes := fun core member => by
      obtain ⟨steady, asked⟩ := rest.cores core member
      rw [rest.pending]
      exact Core.lane_of_idle rest.idle steady asked
    entries := by simp [rest.pending]
    ram := by
      rw [sent]
      exact Peripheral.keeps_of_idle rest.idle trivial rest.ram
    controller := by
      rw [sent]
      exact Peripheral.keeps_of_idle rest.idle trivial rest.controller
    hub := by
      rw [sent]
      exact hubLane_of_idle rest.idle _ rest.devices }

end Traffic

namespace Machine

/-- A new machine is at rest. -/
lemma atRest_wire (config : MachineConfig) (image : DiskImage) :
    (wire config image).traffic.AtRest where
  wired := wired_wire config image
  idle := idle_ports config 4
  pending := by rw [router_wire]
  cores := fun core member => by
    obtain ⟨id, fresh⟩ := (added_branch config).fresh core member
    rw [fresh]
    exact Core.steady_of_vacant rfl rfl
  ram := rfl
  controller := rfl
  devices := fun device member => by
    simp only [traffic, List.mem_cons, List.not_mem_nil, or_false] at member
    rcases member with rfl | rfl | rfl | rfl <;> rfl

/-- The traffic of a new machine is sound. -/
theorem sound_wire (config : MachineConfig) (image : DiskImage) (few : config.cores ≤ 32) :
    (wire config image).traffic.Sound := by
  refine (atRest_wire config image).sound ?_
  rw [← List.length_map Core.terminal, terminals_wire, List.length_map, List.length_range]
  omega

/-- The traffic of a machine is sound in every state that it can reach. -/
theorem Reachable.sound {machine : Machine} (reachable : machine.Reachable)
    (few : machine.config.cores ≤ 32) : machine.traffic.Sound := by
  induction reachable with
  | wire config image => exact sound_wire config image few
  | act before action survives previous =>
    rw [config_act] at few
    exact (previous few).moves (moves_act survives)

end Machine

end PipelinedMachine
