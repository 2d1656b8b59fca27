import Mathlib.Data.List.Nodup
import PipelinedMachine.Proofs.Machine.Traffic
import PipelinedMachine.Proofs.Device.Engagement

/-!
# The layout of a machine

Which terminals belong together is settled when a machine is wired, and nothing that happens
afterwards changes it.

* `Traffic.Layout` — two states of a machine are laid out in the same way;
* `Traffic.Wired` — every component sits at a link of its own, and the hub knows its devices;
* **`Traffic.Move.layout`** — a move keeps the layout.
-/

namespace PipelinedMachine

open Interconnect

/-- Among elements with different images, an element differs from those around it. -/
lemma ne_of_nodup_map {α β : Type} {f : α → β} {left right : List α} {a b : α}
    (nodup : ((left ++ a :: right).map f).Nodup) (around : b ∈ left ++ right) : f b ≠ f a := by
  rw [List.map_append, List.map_cons, List.nodup_middle, ← List.map_append] at nodup
  exact fun same => (List.nodup_cons.mp nodup).1 (same ▸ List.mem_map_of_mem around)

/-! ## What keeps its place -/

lemma Core.terminal_tick (core : Core) (env : Environment) :
    (core.tick env).1.terminal = core.terminal := rfl

namespace Peripheral

/-- Where a device sits, and under which address it answers a read of an address. -/
def seat (device : Peripheral) : Terminal × (Word → Option Word) :=
  (device.terminal, device.dueFor?)

lemma seat_tick (device : Peripheral) (bus : Interconnect) :
    (device.tick bus).1.seat = device.seat := by
  rw [seat, terminal_tick]
  cases device <;> rfl

lemma seat_host (device : Peripheral) (action : HostAction) :
    (device.host action).seat = device.seat := by
  rw [seat, (device.host_eq action).1]
  cases device <;> cases action <;> rfl

end Peripheral

namespace Traffic

/-- The devices' seats. -/
def seats (traffic : Traffic) : List (Terminal × (Word → Option Word)) :=
  traffic.devices.map Peripheral.seat

/-- Both are laid out in the same way. -/
structure Layout (traffic after : Traffic) : Prop where
  router : ∃ pending, after.router = { traffic.router with pending := pending }
  cores : after.cores.map Core.terminal = traffic.cores.map Core.terminal
  ram : after.ram.terminal = traffic.ram.terminal
  controller : after.controller.terminal = traffic.controller.terminal
  hub : after.hub = traffic.hub
  seats : after.seats = traffic.seats

variable {traffic after : Traffic}

/-- A move keeps the layout. -/
theorem Move.layout (move : Move traffic after) : traffic.Layout after := by
  have same : ∃ pending, traffic.router = { traffic.router with pending := pending } :=
    ⟨traffic.router.pending, rfl⟩
  cases move with
  | core left right core later counters rest breakpoint place ticked =>
    have terminal : later.terminal = core.terminal := by
      rw [← core.terminal_tick ⟨traffic.bus, traffic.lines, counters⟩, ticked]
    exact ⟨same, by simp [place, terminal], rfl, rfl, rfl, rfl⟩
  | request core => exact ⟨Router.exists_request_eq _ _ _, rfl, rfl, rfl, rfl, rfl⟩
  | reply target => exact ⟨Router.exists_replyFrom_eq _ _ _, rfl, rfl, rfl, rfl, rfl⟩
  | controller =>
    exact ⟨same, rfl, rfl, (traffic.controller.terminal_tick traffic.lines traffic.bus), rfl, rfl⟩
  | ram => exact ⟨same, rfl, traffic.ram.terminal_tick traffic.bus, rfl, rfl, rfl⟩
  | hubRequest | hubReply | links => exact ⟨same, rfl, rfl, rfl, rfl, rfl⟩
  | device left right device place =>
    exact ⟨same, rfl, rfl, rfl, rfl, by simp [seats, place, device.seat_tick]⟩
  | load address words =>
    exact ⟨same, rfl, ((Peripheral.ram traffic.ram).host_eq (.load address words)).1, rfl, rfl, rfl⟩
  | host left right device action place =>
    exact ⟨same, rfl, rfl, rfl, rfl, by simp [seats, place, device.seat_host]⟩
  | raise id =>
    exact ⟨same, rfl, rfl, ((Peripheral.controller traffic.controller traffic.lines).host_eq
      (.raise id)).1, rfl, rfl⟩

/-- The ends of the links on the side of the router and, behind the hub, on that of the devices. -/
def ends (traffic : Traffic) : List Terminal := traffic.router.ends ++ traffic.seats.map Prod.fst

/-- Every component sits at a link of its own.  The hub knows its devices, and each of them answers
the reads that the hub sends it under their own addresses, or not at all. -/
structure Wired (traffic : Traffic) : Prop where
  cores : traffic.router.cores = (traffic.cores.map Core.terminal).map Terminal.peer
  ram : traffic.ram.terminal = (traffic.router.terminal .memory).peer
  controller : traffic.controller.terminal = (traffic.router.terminal .controller).peer
  uplink : traffic.hub.uplink = (traffic.router.terminal .devices).peer
  hub : traffic.hub.devices.map Attachment.terminal = traffic.seats.map fun seat => seat.1.peer
  links : (traffic.ends.map Terminal.link).Nodup
  owns : ∀ seat ∈ traffic.seats, ∀ address, isRam address = false →
    traffic.hub.deviceFor? address = some seat.1.peer → ∀ a ∈ seat.2 address, a = address

namespace Wired

lemma of_layout (wired : traffic.Wired) (layout : traffic.Layout after) : after.Wired := by
  obtain ⟨⟨pending, router⟩, cores, ram, controller, hub, seats⟩ := layout
  have ends : after.ends = traffic.ends := by rw [Traffic.ends, Traffic.ends, router, seats]; rfl
  exact {
    cores := by rw [router, cores]; exact wired.cores
    ram := by rw [router, ram]; exact wired.ram
    controller := by rw [router, controller]; exact wired.controller
    uplink := by rw [router, hub]; exact wired.uplink
    hub := by rw [hub, seats]; exact wired.hub
    links := by rw [ends]; exact wired.links
    owns := by rw [hub, seats]; exact wired.owns }

variable {core other : Core} {device : Peripheral} {target : Target}

/-! ## Different links -/

lemma link_ne (wired : traffic.Wired) {a b : Terminal} (left : a ∈ traffic.ends)
    (right : b ∈ traffic.ends) (apart : a ≠ b) : a.link ≠ b.link :=
  fun same => apart (List.inj_on_of_nodup_map wired.links left right same)

lemma terminal_mem (traffic : Traffic) (target : Target) :
    traffic.router.terminal target ∈ traffic.ends :=
  List.mem_append_left _ (traffic.router.terminal_mem_ends target)

lemma peer_mem_cores (wired : traffic.Wired) (member : core ∈ traffic.cores) :
    core.terminal.peer ∈ traffic.router.cores := by
  rw [wired.cores]
  exact List.mem_map_of_mem (List.mem_map_of_mem member)

lemma exists_core (wired : traffic.Wired) {terminal : Terminal}
    (attached : terminal ∈ traffic.router.cores) :
    ∃ core ∈ traffic.cores, terminal = core.terminal.peer := by
  rw [wired.cores, List.map_map, List.mem_map] at attached
  obtain ⟨core, member, rfl⟩ := attached
  exact ⟨core, member, rfl⟩

lemma exists_device (wired : traffic.Wired) {terminal : Terminal}
    (attached : terminal ∈ traffic.hub.devices.map Attachment.terminal) :
    ∃ device ∈ traffic.devices, terminal = device.terminal.peer := by
  rw [wired.hub, seats, List.map_map, List.mem_map] at attached
  obtain ⟨device, member, rfl⟩ := attached
  exact ⟨device, member, rfl⟩

/-- The router's links are those of a router on its own. -/
lemma router (wired : traffic.Wired) : traffic.router.Wired where
  nodup := (List.nodup_append.mp wired.links.of_map).1
  facing := fun a inside outside => by
    have same := List.inj_on_of_nodup_map wired.links (List.mem_append_left _ outside)
      (List.mem_append_left _ inside) a.link_peer
    exact a.peer_ne same

lemma target_link_ne (wired : traffic.Wired) {other : Target} (apart : target ≠ other) :
    (traffic.router.terminal target).link ≠ (traffic.router.terminal other).link :=
  wired.link_ne (terminal_mem traffic target) (terminal_mem traffic other)
    (wired.router.terminal_ne apart)

lemma core_link_ne_target (wired : traffic.Wired) (member : core ∈ traffic.cores)
    (target : Target) : core.terminal.link ≠ (traffic.router.terminal target).link := by
  have attached := wired.peer_mem_cores member
  rw [← core.terminal.link_peer]
  exact wired.link_ne (List.mem_append_left _ (Router.mem_ends_of_mem_cores attached))
    (terminal_mem traffic target) (wired.router.core_ne_terminal attached target)

lemma core_peer_link_ne_target (wired : traffic.Wired) (member : core ∈ traffic.cores)
    (target : Target) : core.terminal.peer.link ≠ (traffic.router.terminal target).link := by
  rw [Terminal.link_peer]
  exact wired.core_link_ne_target member target

lemma device_link_ne (wired : traffic.Wired) (member : device ∈ traffic.devices) {a : Terminal}
    (inside : a ∈ traffic.router.ends) : device.terminal.link ≠ a.link := by
  have links := wired.links
  rw [ends, List.map_append, List.nodup_append] at links
  refine (links.2.2 a.link (List.mem_map_of_mem inside) device.terminal.link ?_).symm
  exact List.mem_map_of_mem (List.mem_map_of_mem (List.mem_map_of_mem member))

lemma device_link_ne_core (wired : traffic.Wired) (member : device ∈ traffic.devices)
    (attached : core ∈ traffic.cores) : device.terminal.link ≠ core.terminal.link := by
  rw [← core.terminal.link_peer]
  exact wired.device_link_ne member (Router.mem_ends_of_mem_cores (wired.peer_mem_cores attached))

lemma nodup_cores (wired : traffic.Wired) :
    (traffic.cores.map fun core => core.terminal.link).Nodup := by
  have links := wired.links
  rw [ends, Router.ends, wired.cores, List.map_append, List.map_append, List.nodup_append,
    List.nodup_append, List.map_map, List.map_map] at links
  have link : (Terminal.link ∘ Terminal.peer) ∘ Core.terminal
      = fun core => core.terminal.link := funext fun core => core.terminal.link_peer
  rw [← link]
  exact links.1.2.1

lemma nodup_devices (wired : traffic.Wired) :
    (traffic.devices.map fun device => device.terminal.link).Nodup := by
  have links := wired.links
  rw [ends, seats, List.map_append, List.nodup_append, List.map_map, List.map_map] at links
  exact links.2.1

lemma core_link_ne_of_ne (wired : traffic.Wired) (member : core ∈ traffic.cores)
    (inside : other ∈ traffic.cores) (apart : other.terminal ≠ core.terminal) :
    other.terminal.link ≠ core.terminal.link := by
  rw [← other.terminal.link_peer, ← core.terminal.link_peer]
  exact wired.link_ne
    (List.mem_append_left _ (Router.mem_ends_of_mem_cores (wired.peer_mem_cores inside)))
    (List.mem_append_left _ (Router.mem_ends_of_mem_cores (wired.peer_mem_cores member)))
    fun same => apart (Terminal.peer_inj.mp same)

lemma core_link_ne (wired : traffic.Wired) {left right : List Core}
    (place : traffic.cores = left ++ core :: right) (around : other ∈ left ++ right) :
    other.terminal.link ≠ core.terminal.link := by
  have nodup := wired.nodup_cores
  rw [place] at nodup
  exact ne_of_nodup_map (f := fun core : Core => core.terminal.link) nodup around

lemma device_link_ne_device (wired : traffic.Wired) {left right : List Peripheral}
    {other : Peripheral} (place : traffic.devices = left ++ device :: right)
    (around : other ∈ left ++ right) : other.terminal.link ≠ device.terminal.link := by
  have nodup := wired.nodup_devices
  rw [place] at nodup
  exact ne_of_nodup_map (f := fun device : Peripheral => device.terminal.link) nodup around

lemma ram_link (wired : traffic.Wired) :
    traffic.ram.terminal.link = (traffic.router.terminal .memory).link := by
  rw [wired.ram, Terminal.link_peer]

lemma controller_link (wired : traffic.Wired) :
    traffic.controller.terminal.link = (traffic.router.terminal .controller).link := by
  rw [wired.controller, Terminal.link_peer]

end Wired

end Traffic

end PipelinedMachine
