import PipelinedMachine.Proofs.Checked.Links
import PipelinedMachine.Proofs.Link.Along
import PipelinedMachine.Proofs.Router.Record

/-!
# The router and the hub with checked accesses

The router finds a read by its position among those it remembers, looks at it there and removes it
from there; and it forgets the oldest read when it remembers too many.  The hub asks its devices one
after the other.  Both pass messages between ends of links that the machine has.

* `Router.Attached`, `DeviceHub.Attached` — the ends that they use are ends of links;
* `Router.Attached.tick_eq`, `DeviceHub.Attached.tickChecked_eq` — then no check fails in a turn,
  and the router stays attached.
-/

namespace PipelinedMachine

open Interconnect

variable {bus : Interconnect} {terminals : Nat}

/-! ## The router -/

namespace Router

/-- The reads remembered once one more has been forwarded: beyond the limit the first is removed. -/
def rememberChecked (pending : List PendingRead) (read : PendingRead) :
    Checked (List PendingRead) := do
  if pending.length = pendingLimit then
    let rest ← Checked.remove pending 0
    pure (rest ++ [read])
  else pure (pending ++ [read])

/-- The router after a core's message has been forwarded. -/
def noteForwardedChecked (router : Router) (core target : Terminal) (message : Message) :
    Checked Router := do
  match message.kind?, message.address? with
  | some .read, some address =>
    let pending ← rememberChecked router.pending ⟨target, address, core⟩
    pure { router with pending := pending }
  | _, _ => pure router

/-- A core's turn. -/
def requestChecked (router : Router) (bus : Interconnect) (core : Terminal) :
    Checked (Router × Interconnect) := do
  match ← bus.messageChecked core with
  | none => pure (router, bus)
  | some message =>
    match router.destination? message with
    | none =>
      let cleared ← bus.clearChecked core
      pure (router, cleared)
    | some target =>
      match ← bus.forwardChecked core target with
      | some bus =>
        let router ← router.noteForwardedChecked core target message
        pure (router, bus)
      | none => pure (router, bus)

/-- Every core's turn, in order. -/
def requestsChecked (router : Router) (bus : Interconnect) : Checked (Router × Interconnect) :=
  router.cores.foldlM (fun state core => state.1.requestChecked state.2 core) (router, bus)

/-- The turn of a link that answers come from.  The read that an answer fits is looked up by its
position, and once the answer has been passed on it is removed from there. -/
def replyChecked (router : Router) (bus : Interconnect) (source : Terminal) :
    Checked (Router × Interconnect) := do
  match ← bus.messageChecked source with
  | none => pure (router, bus)
  | some message =>
    let matched := router.pending.findIdx? fun read => read.fits source message.address?
    let recipient ← match matched with
      | some index => do
        let read ← Checked.element router.pending.toArray index
        pure (some read.core)
      | none => pure router.cores.head?
    match recipient with
    | none => pure (router, bus)
    | some core =>
      match ← bus.forwardChecked source core with
      | none => pure (router, bus)
      | some bus =>
        match matched with
        | some index =>
          let pending ← Checked.remove router.pending index
          pure ({ router with pending := pending }, bus)
        | none => pure (router, bus)

/-- The devices' turn. -/
def replyDevicesChecked (router : Router) (bus : Interconnect) :
    Checked (Router × Interconnect) := do
  let message? ← bus.messageChecked router.devices
  if message?.bind Message.kind? = some .interrupt then
    match ← bus.forwardChecked router.devices router.controller with
    | some bus => pure (router, bus)
    | none => pure (router, bus)
  else router.replyChecked bus router.devices

/-- One tick. -/
def tickChecked (router : Router) (bus : Interconnect) : Checked (Router × Interconnect) := do
  let (router, bus) ← router.requestsChecked bus
  let (router, bus) ← router.replyChecked bus router.memory
  let (router, bus) ← router.replyDevicesChecked bus
  router.replyChecked bus router.controller

/-- The ends that the router uses are ends of links that there are. -/
structure Attached (router : Router) (terminals : Nat) : Prop where
  ends : ∀ a ∈ router.ends, a.index < terminals
  pending : ∀ read ∈ router.pending, read.core.index < terminals

variable {router : Router} {core source : Terminal}

lemma rememberChecked_eq (pending : List PendingRead) (read : PendingRead) :
    rememberChecked pending read = pure (remember pending read) := by
  rw [rememberChecked, remember]
  by_cases full : pending.length = pendingLimit
  · have inside : 0 < pending.length := by
      rw [full, pendingLimit]
      omega
    simp only [if_pos full, Checked.remove_eq inside, pure_bind, List.eraseIdx_zero, List.drop_one]
  · simp only [if_neg full]

lemma noteForwardedChecked_eq (target : Terminal) (message : Message) :
    router.noteForwardedChecked core target message
      = pure (router.noteForwarded core target message) := by
  rw [noteForwardedChecked, noteForwarded]
  cases message.kind? with
  | none => rfl
  | some kind =>
    cases message.address? with
    | none => cases kind <;> rfl
    | some address =>
      cases kind with
      | read => simp only [rememberChecked_eq, pure_bind]
      | write | response | command | interrupt => rfl

namespace Attached

variable (attached : router.Attached terminals) (sturdy : bus.Sturdy terminals)
include attached

lemma terminal (target : Target) : (router.terminal target).index < terminals :=
  attached.ends _ (router.terminal_mem_ends target)

lemma destination {message : Message} {target : Terminal}
    (found : router.destination? message = some target) : target.index < terminals := by
  refine attached.ends target ?_
  rw [destination?] at found
  split at found
  · obtain rfl := Option.some.inj found
    simp [Router.ends]
  · obtain ⟨address, -, rfl⟩ := Option.map_eq_some_iff.mp found
    split_ifs <;> simp [Router.ends]
  · obtain ⟨address, -, rfl⟩ := Option.map_eq_some_iff.mp found
    split_ifs <;> simp [Router.ends]
  all_goals contradiction

lemma requestChecked_eq (sturdy : bus.Sturdy terminals) (inside : core.index < terminals) :
    router.requestChecked bus core = pure (router.request bus core) := by
  rw [requestChecked, request, sturdy.messageChecked_eq inside, pure_bind]
  cases bus.message? core with
  | none => rfl
  | some message =>
    cases found : router.destination? message with
    | none => simp only [found, sturdy.clearChecked_eq inside, pure_bind]
    | some target =>
      simp only [found, sturdy.forwardChecked_eq inside (attached.destination found), pure_bind]
      cases bus.forward? core target with
      | none => rfl
      | some after => simp only [noteForwardedChecked_eq, pure_bind]

lemma request (inside : core.index < terminals) :
    (router.request bus core).1.Attached terminals := by
  obtain ⟨pending, same⟩ := router.exists_request_eq bus core
  exact ⟨by rw [same]; exact attached.ends,
    forall_pending_request (·.index < terminals) attached.pending inside bus⟩

/-- No check fails in the turns of the cores. -/
lemma requests_eq (sturdy : bus.Sturdy terminals) :
    router.requestsChecked bus = pure (router.requests bus)
      ∧ (router.requests bus).1.Attached terminals := by
  have turns (cores : List Terminal) (inside : ∀ core ∈ cores, core.index < terminals)
      (state : Router × Interconnect) (attached : state.1.Attached terminals)
      (sturdy : state.2.Sturdy terminals) :
      cores.foldlM (fun state core => state.1.requestChecked state.2 core) state
          = (pure (cores.foldl (fun state core => state.1.request state.2 core) state)
            : Checked (Router × Interconnect))
        ∧ (cores.foldl (fun state core => state.1.request state.2 core) state).1.Attached
          terminals := by
    induction cores generalizing state with
    | nil => exact ⟨rfl, attached⟩
    | cons core rest ih =>
      have here := inside core List.mem_cons_self
      rw [List.foldlM_cons, List.foldl_cons, attached.requestChecked_eq sturdy here, pure_bind]
      exact ih (fun core member => inside core (List.mem_cons_of_mem _ member)) _
        (attached.request here) (state.1.kept_request (Sturdy.kept terminals) core sturdy)
  exact turns router.cores (fun core member => attached.ends core (List.mem_append_right _ member))
    (router, bus) attached sturdy

lemma recipient {address? : Option Word} (found : router.recipient? source address? = some core) :
    core.index < terminals :=
  of_recipient? (·.index < terminals) attached.pending
    (fun core member => attached.ends core (List.mem_append_right _ member)) found

lemma replyChecked_eq (sturdy : bus.Sturdy terminals) (inside : source.index < terminals) :
    router.replyChecked bus source = pure (router.reply bus source) := by
  rw [replyChecked, Router.reply, sturdy.messageChecked_eq inside, pure_bind]
  cases bus.message? source with
  | none => rfl
  | some message =>
    have belongs {core : Terminal} (found : router.recipient? source message.address? = some core) :
        core.index < terminals := attached.recipient found
    simp only [recipient?] at belongs ⊢
    cases matched : router.pending.findIdx? fun read => read.fits source message.address? with
    | none =>
      have unread := List.findIdx?_eq_none_iff.mp matched
      rw [List.find?_eq_none.mpr fun read member => by simp [unread read member]] at belongs ⊢
      rw [List.eraseP_of_forall_not fun read member => by simp [unread read member]]
      simp only [pure_bind]
      cases first : router.cores.head? with
      | none => rfl
      | some core =>
        simp only [sturdy.forwardChecked_eq inside (belongs first), pure_bind]
        cases bus.forward? source core <;> rfl
    | some index =>
      obtain ⟨within, fits, before⟩ := List.findIdx?_eq_some_iff_getElem.mp matched
      have found : router.pending.find? (fun read => read.fits source message.address?)
          = some router.pending[index] :=
        List.find?_eq_some_iff_getElem.mpr ⟨fits, index, within, rfl, fun j early => by
          simpa using before j early⟩
      have element : router.pending.toArray[index]? = some router.pending[index] := by simp [within]
      rw [found] at belongs ⊢
      simp only [Checked.element_eq element, List.eraseP_eq_eraseIdx, matched, pure_bind,
        sturdy.forwardChecked_eq inside (belongs rfl)]
      cases bus.forward? source router.pending[index].core with
      | none => rfl
      | some after => simp only [Checked.remove_eq within, pure_bind]

/-- Answers are passed on without a read being added. -/
lemma replyFrom (target : Target) : (router.replyFrom bus target).1.Attached terminals := by
  obtain ⟨pending, same⟩ := router.exists_replyFrom_eq bus target
  exact ⟨by rw [same]; exact attached.ends,
    forall_pending_replyFrom (·.index < terminals) attached.pending bus target⟩

lemma replyDevicesChecked_eq (sturdy : bus.Sturdy terminals) :
    router.replyDevicesChecked bus = pure (router.replyDevices bus) := by
  have devices : router.devices.index < terminals := attached.terminal .devices
  have controller : router.controller.index < terminals := attached.terminal .controller
  rw [replyDevicesChecked, sturdy.messageChecked_eq devices, pure_bind, replyDevices]
  by_cases interrupt : (bus.message? router.devices).bind Message.kind? = some .interrupt
  · simp only [if_pos interrupt, sturdy.forwardChecked_eq devices controller, pure_bind]
    cases bus.forward? router.devices router.controller <;> rfl
  · simp only [if_neg interrupt]
    exact attached.replyChecked_eq sturdy devices

end Attached

/-- No check fails in a turn of the router, and it stays attached. -/
lemma Attached.tick_eq (attached : router.Attached terminals) (sturdy : bus.Sturdy terminals) :
    router.tickChecked bus = pure (router.tick bus)
      ∧ (router.tick bus).1.Attached terminals := by
  have kept := Sturdy.kept terminals
  obtain ⟨requests, attached⟩ := attached.requests_eq sturdy
  have sturdy := kept_requests kept router sturdy
  rw [tickChecked, requests, pure_bind, tick]
  generalize router.requests bus = state at attached sturdy ⊢
  obtain ⟨router, bus⟩ := state
  have memory : router.replyChecked bus router.memory = pure (router.reply bus router.memory) :=
    attached.replyChecked_eq sturdy (attached.terminal .memory)
  have attached : (router.reply bus router.memory).1.Attached terminals :=
    attached.replyFrom .memory
  have sturdy := kept_reply kept router router.memory sturdy
  simp only
  rw [memory, pure_bind]
  generalize router.reply bus router.memory = state at attached sturdy ⊢
  obtain ⟨router, bus⟩ := state
  have devices : router.replyDevicesChecked bus = pure (router.replyDevices bus) :=
    attached.replyDevicesChecked_eq sturdy
  have attached : (router.replyDevices bus).1.Attached terminals := attached.replyFrom .devices
  have sturdy := kept_replyDevices kept router sturdy
  simp only
  rw [devices, pure_bind]
  generalize router.replyDevices bus = state at attached sturdy ⊢
  obtain ⟨router, bus⟩ := state
  exact ⟨attached.replyChecked_eq sturdy (attached.terminal .controller),
    attached.replyFrom .controller⟩

end Router

/-! ## The hub -/

namespace DeviceHub

/-- Passes on the request from the uplink. -/
def requestChecked (hub : DeviceHub) (bus : Interconnect) : Checked Interconnect := do
  match ← bus.messageChecked hub.uplink with
  | none => pure bus
  | some message =>
    match message.address?.bind hub.deviceFor? with
    | some device =>
      let forwarded ← bus.forwardChecked hub.uplink device
      pure (forwarded.getD bus)
    | none => bus.clearChecked hub.uplink

/-- Passes on the message of the first device that has one. -/
def replyChecked (hub : DeviceHub) (bus : Interconnect) : Checked Interconnect := do
  match ← hub.devices.findM? fun device => bus.hasMessageChecked device.terminal with
  | some device =>
    let forwarded ← bus.forwardChecked device.terminal hub.uplink
    pure (forwarded.getD bus)
  | none => pure bus

/-- One tick. -/
def tickChecked (hub : DeviceHub) (bus : Interconnect) : Checked Interconnect := do
  let bus ← hub.requestChecked bus
  hub.replyChecked bus

/-- The ends that the hub uses are ends of links that there are. -/
def Attached (hub : DeviceHub) (terminals : Nat) : Prop :=
  ∀ a ∈ hub.uplink :: hub.devices.map Attachment.terminal, a.index < terminals

namespace Attached

variable {hub : DeviceHub} (attached : hub.Attached terminals) (sturdy : bus.Sturdy terminals)
include attached

lemma uplink : hub.uplink.index < terminals := attached _ List.mem_cons_self

lemma device {device : Attachment} (member : device ∈ hub.devices) :
    device.terminal.index < terminals :=
  attached _ (List.mem_cons_of_mem _ (List.mem_map_of_mem member))

include sturdy

lemma requestChecked_eq : hub.requestChecked bus = pure (hub.request bus) := by
  rw [requestChecked, request, sturdy.messageChecked_eq attached.uplink, pure_bind]
  cases bus.message? hub.uplink with
  | none => rfl
  | some message =>
    cases owner : message.address?.bind hub.deviceFor? with
    | none => simp only [owner, sturdy.clearChecked_eq attached.uplink]
    | some terminal =>
      have inside : terminal.index < terminals := by
        obtain ⟨address, -, owns⟩ := Option.bind_eq_some_iff.mp owner
        obtain ⟨device, found, rfl⟩ := Option.map_eq_some_iff.mp owns
        exact attached.device (List.mem_reverse.mp (List.mem_of_find?_eq_some found))
      simp only [owner, sturdy.forwardChecked_eq attached.uplink inside, pure_bind]

lemma replyChecked_eq : hub.replyChecked bus = pure (hub.reply bus) := by
  have asks (devices : List Attachment) (inside : ∀ device ∈ devices, device ∈ hub.devices) :
      devices.findM? (fun device => bus.hasMessageChecked device.terminal)
        = pure (devices.find? fun device => bus.hasMessage device.terminal) := by
    induction devices with
    | nil => rfl
    | cons device rest ih =>
      have here := attached.device (inside device List.mem_cons_self)
      rw [List.findM?, sturdy.hasMessageChecked_eq here, pure_bind, List.find?_cons]
      cases bus.hasMessage device.terminal with
      | true => rfl
      | false => exact ih fun device member => inside device (List.mem_cons_of_mem _ member)
  rw [replyChecked, asks hub.devices fun _ member => member, pure_bind, reply]
  cases first : hub.devices.find? fun device => bus.hasMessage device.terminal with
  | none => rfl
  | some device =>
    have inside := attached.device (List.mem_of_find?_eq_some first)
    simp only [sturdy.forwardChecked_eq inside attached.uplink, pure_bind]

/-- No check fails in a turn of the hub. -/
lemma tickChecked_eq : hub.tickChecked bus = pure (hub.tick bus) := by
  have between := hub.kept_request (Sturdy.kept terminals) sturdy
  rw [tickChecked, attached.requestChecked_eq sturdy, pure_bind, tick]
  exact attached.replyChecked_eq between

end Attached

end DeviceHub

end PipelinedMachine
