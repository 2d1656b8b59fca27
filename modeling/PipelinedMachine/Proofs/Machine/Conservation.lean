import PipelinedMachine.Proofs.Link.Sweep
import PipelinedMachine.Proofs.Machine.AddressMap
import PipelinedMachine.Proofs.Router.Answers

/-!
# The hubs conserve messages

In one tick the router and the device hub pass on several messages.  They compete for the same ways,
and each turn sees what those before it have left.  Each hub is a sweep over its ends, so of every
message it can be said before the tick through which way it will leave, if it leaves.

* `Router.route`, `DeviceHub.route` — what is to become of the messages of a tick;
* `Router.Arises` — the router after any ticks and any cores attached;
* `Router.sweep_tick`, `DeviceHub.sweep_tick` — a tick is a sweep with these routes;
* `Router.Conserving`, `DeviceHub.Conserving` — what a tick conserves, and when a message is
  dropped;
* **`hubs_conserve`** — no tick of either hub loses a message, makes one up or sends one astray.
-/

namespace PipelinedMachine

open Interconnect

/-! ## The router -/

namespace Router

variable {router : Router} {bus : Interconnect} {core source target : Terminal}
  {routes : Terminal → Message → Route} {message : Message} {address? : Option Word}

/-! ### Routes -/

/-- A message has no destination if it is neither an interrupt nor a read or write with an
address. -/
lemma destination?_eq_none_iff : router.destination? message = none
    ↔ message.kind? ≠ some .interrupt
      ∧ (message.kind? = some .read ∨ message.kind? = some .write → message.address? = none) := by
  rw [destination?]
  cases message.kind? with
  | none => simp
  | some kind => cases kind <;> simp

/-- Where a core's message goes: by its kind and address. -/
def outward (router : Router) (message : Message) : Route :=
  match router.destination? message with
  | some target => .through target
  | none => .dropped

/-- Where a message from a target goes: a device's interrupt to the controller, and everything else
by the reads that are remembered. -/
def homeward (router : Router) (target : Target) (message : Message) : Route :=
  if target = .devices ∧ message.kind? = some .interrupt then .through router.controller
  else
    match router.recipient? (router.terminal target) message.address? with
    | some core => .through core
    | none => .kept

/-- What is to become of a message in a tick.  The reads that the cores send in this tick are among
those remembered. -/
def route (router : Router) (bus : Interconnect) (a : Terminal) (message : Message) : Route :=
  if a = router.memory then (router.requests bus).1.homeward .memory message
  else if a = router.devices then (router.requests bus).1.homeward .devices message
  else if a = router.controller then (router.requests bus).1.homeward .controller message
  else router.outward message

/-! ### Turns -/

lemma shift_request (follows : ∀ message, routes core message = router.outward message) :
    Shift routes core bus (router.request bus core).2 := by
  rw [request]
  cases waiting : bus.message? core with
  | none => exact .quiet waiting
  | some message =>
    have goes := follows message
    rw [outward] at goes
    simp only
    cases found : router.destination? message with
    | none =>
      rw [found] at goes
      exact .dropped message waiting goes
    | some target =>
      rw [found] at goes
      have passing := Shift.of_forward? waiting goes
      simp only
      cases forwarded : bus.forward? core target <;> rwa [forwarded] at passing

lemma shift_reply (follows : ∀ message, bus.message? source = some message →
      routes source message = match router.recipient? source message.address? with
        | some core => .through core
        | none => .kept) :
    Shift routes source bus (router.reply bus source).2 := by
  rw [reply]
  cases waiting : bus.message? source with
  | none => exact .quiet waiting
  | some message =>
    have goes := follows message waiting
    simp only
    cases found : router.recipient? source message.address? with
    | none =>
      rw [found] at goes
      exact .kept message waiting goes
    | some core =>
      rw [found] at goes
      have passing := Shift.of_forward? waiting goes
      simp only
      cases forwarded : bus.forward? source core <;> rwa [forwarded] at passing

lemma shift_replyFrom (target : Target) (follows : ∀ message,
      routes (router.terminal target) message = router.homeward target message) :
    Shift routes (router.terminal target) bus (router.replyFrom bus target).2 := by
  cases target with
  | memory | controller =>
    exact shift_reply fun message _ => (follows message).trans (if_neg (by simp))
  | devices =>
    rw [replyFrom, replyDevices]
    split
    · next interrupt =>
      obtain ⟨message, waiting, kind⟩ := Option.bind_eq_some_iff.mp interrupt
      have passing := Shift.of_forward? waiting ((follows message).trans (if_pos ⟨rfl, kind⟩))
      simp only [terminal] at passing ⊢
      cases forwarded : bus.forward? router.devices router.controller <;>
        rwa [forwarded] at passing
    · next other =>
      refine shift_reply fun message waiting => (follows message).trans (if_neg ?_)
      rintro ⟨-, kind⟩
      exact other (Option.bind_eq_some_iff.mpr ⟨message, waiting, kind⟩)

/-- The cores' turns, one after the other. -/
lemma sweep_cores {cores : List Terminal} (router : Router)
    (follows : ∀ core ∈ cores, ∀ message, routes core message = router.outward message)
    (bus : Interconnect) :
    Sweep routes cores bus
      (cores.foldl (fun state core => state.1.request state.2 core) (router, bus)).2 := by
  induction cores generalizing router bus with
  | nil => exact .nil bus
  | cons core rest ih =>
    rw [List.foldl_cons]
    refine .cons (shift_request (follows core (by simp))) ?_
    obtain ⟨pending, same⟩ := router.exists_request_eq bus core
    refine ih (router.request bus core).1 (fun other member message => ?_) _
    rw [follows other (by simp [member]) message, same]
    rfl

/-- The reads that a target's answers are for have no say in where those of another one go. -/
lemma recipient?_reply_of_ne (router : Router) (bus : Interconnect) (away : source ≠ target)
    (address? : Option Word) :
    (router.reply bus target).1.recipient? source address? = router.recipient? source address? := by
  have erased (other? : Option Word) :
      (router.pending.eraseP fun read => read.fits target other?).find?
          (fun read => read.fits source address?)
        = router.pending.find? fun read => read.fits source address? := by
    cases found : router.pending.find? fun read => read.fits target other? with
    | none => rw [List.eraseP_of_forall_not (List.find?_eq_none.mp found)]
    | some read =>
      have fits := List.find?_some found
      rw [eraseP_eq_erase found, find?_erase]
      simp only [PendingRead.fits, Bool.and_eq_true, decide_eq_true_eq] at fits
      simp [PendingRead.fits, fits.1, Ne.symm away]
  rw [reply]
  split
  · rfl
  · split
    · rfl
    · split
      · simp only [recipient?, erased]
      · rfl

lemma homeward_replyFrom (nodup : router.ends.Nodup) (bus : Interconnect) {first other : Target}
    (apart : other ≠ first) (message : Message) :
    (router.replyFrom bus first).1.homeward other message = router.homeward other message := by
  obtain ⟨pending, same⟩ := router.exists_replyFrom_eq bus first
  have away := terminal_ne nodup apart
  have recipient : (router.replyFrom bus first).1.recipient? (router.terminal other)
      message.address? = router.recipient? (router.terminal other) message.address? := by
    cases first with
    | memory | controller => exact router.recipient?_reply_of_ne bus away _
    | devices =>
      rw [replyFrom, replyDevices]
      split
      · split <;> rfl
      · exact router.recipient?_reply_of_ne bus away _
  rw [same] at recipient ⊢
  rw [homeward, homeward, terminal_pending, recipient]

/-- The targets' turns, one after the other. -/
lemma sweep_targets {targets : List Target} (router : Router) (nodup : router.ends.Nodup)
    (different : targets.Nodup) (follows : ∀ target ∈ targets, ∀ message,
      routes (router.terminal target) message = router.homeward target message)
    (bus : Interconnect) :
    Sweep routes (targets.map router.terminal) bus
      (targets.foldl (fun state target => state.1.replyFrom state.2 target) (router, bus)).2 := by
  induction targets generalizing router bus with
  | nil => exact .nil bus
  | cons target rest ih =>
    obtain ⟨apart, different⟩ := List.nodup_cons.mp different
    rw [List.map_cons, List.foldl_cons]
    refine .cons (shift_replyFrom target (follows target (by simp))) ?_
    have later (other : Target) (member : other ∈ rest) (message : Message) :=
      homeward_replyFrom nodup bus (fun same : other = target => apart (same ▸ member)) message
    obtain ⟨pending, same⟩ := router.exists_replyFrom_eq bus target
    have terminals : (router.replyFrom bus target).1.terminal = router.terminal := by
      rw [same]
      exact funext (router.terminal_pending pending)
    have sweep := ih (router.replyFrom bus target).1 (by rw [same]; exact nodup) different
      (fun other member message => by
        rw [later other member, terminals, follows other (by simp [member])])
      (router.replyFrom bus target).2
    rwa [terminals] at sweep

lemma exists_requests_eq (router : Router) (bus : Interconnect) :
    ∃ pending, (router.requests bus).1 = { router with pending := pending } := by
  refine List.foldlRecOn router.cores _
    (motive := fun state : Router × Interconnect =>
      ∃ pending, state.1 = { router with pending := pending }) ⟨router.pending, rfl⟩ ?_
  rintro state ⟨pending, same⟩ core -
  obtain ⟨later, next⟩ := state.1.exists_request_eq state.2 core
  exact ⟨later, by rw [next, same]⟩

lemma route_core (nodup : router.ends.Nodup) (attached : core ∈ router.cores)
    (bus : Interconnect) (message : Message) :
    router.route bus core message = router.outward message := by
  have away := core_ne_terminal nodup attached
  exact (if_neg (away .memory)).trans ((if_neg (away .devices)).trans (if_neg (away .controller)))

lemma route_terminal (nodup : router.ends.Nodup) (target : Target) (bus : Interconnect)
    (message : Message) : router.route bus (router.terminal target) message
      = (router.requests bus).1.homeward target message := by
  have away (other : Target) (apart : target ≠ other) := terminal_ne nodup apart
  cases target with
  | memory => exact if_pos rfl
  | devices => exact (if_neg (away .memory (by decide))).trans (if_pos rfl)
  | controller =>
    exact (if_neg (away .memory (by decide))).trans
      ((if_neg (away .devices (by decide))).trans (if_pos rfl))

/-- A tick of the router goes over the cores, and then over the targets. -/
lemma sweep_tick (nodup : router.ends.Nodup) (bus : Interconnect) :
    Sweep (router.route bus)
      (router.cores ++ [router.memory, router.devices, router.controller]) bus
      (router.tick bus).2 := by
  obtain ⟨pending, same⟩ := router.exists_requests_eq bus
  have terminals : (router.requests bus).1.terminal = router.terminal := by
    rw [same]
    exact funext (router.terminal_pending pending)
  have cores : Sweep (router.route bus) router.cores bus (router.requests bus).2 :=
    router.sweep_cores (fun core member => route_core nodup member bus) bus
  have targets : Sweep (router.route bus)
      ([Target.memory, .devices, .controller].map (router.requests bus).1.terminal)
      (router.requests bus).2 (router.tick bus).2 := by
    refine sweep_targets (router.requests bus).1 (by rw [same]; exact nodup) (by decide)
      (fun target _ message => ?_) (router.requests bus).2
    rw [terminals, route_terminal nodup]
  rw [terminals] at targets
  exact cores.append targets

/-! ### What a tick conserves -/

/-- The router after any ticks, and with any cores attached in between. -/
inductive Arises : Router → Prop where
  | new (devices controller memory : Terminal) : Arises ⟨devices, controller, memory, [], []⟩
  | attached {router : Router} (before : router.Arises) (core : Terminal) :
      Arises (router.addCore core)
  | ticked {router : Router} (before : router.Arises) (bus : Interconnect) :
      Arises (router.tick bus).1

/-- The router remembers reads of its own cores only. -/
def Owned (router : Router) : Prop := ∀ read ∈ router.pending, read.core ∈ router.cores

lemma Owned.requests (owned : router.Owned) (bus : Interconnect) :
    (router.requests bus).1.Owned := by
  refine (List.foldlRecOn router.cores _
    (motive := fun state : Router × Interconnect =>
      state.1.cores = router.cores ∧ state.1.Owned) ⟨rfl, owned⟩ ?_).2
  rintro state ⟨same, owned⟩ core member
  have cores := state.1.cores_request state.2 core
  refine ⟨cores.trans same, ?_⟩
  rw [Owned, cores]
  exact forall_pending_request _ owned (same ▸ member) state.2

lemma Owned.replyFrom (owned : router.Owned) (bus : Interconnect) (target : Target) :
    (router.replyFrom bus target).1.Owned := by
  obtain ⟨pending, same⟩ := router.exists_replyFrom_eq bus target
  have cores : (router.replyFrom bus target).1.cores = router.cores := by rw [same]
  rw [Owned, cores]
  exact forall_pending_replyFrom _ owned bus target

lemma Arises.owned (arises : router.Arises) : router.Owned := by
  induction arises with
  | new => simp [Owned]
  | attached before core ih =>
    exact fun read member => List.mem_append_left _ (ih read member)
  | ticked before bus ih =>
    exact (((ih.requests bus).replyFrom _ .memory).replyFrom _ .devices).replyFrom _ .controller

lemma ends_cases {a : Terminal} (inside : a ∈ router.ends) :
    a ∈ router.cores ∨ ∃ target, a = router.terminal target := by
  simp only [ends, List.mem_append, List.mem_cons, List.not_mem_nil, or_false] at inside
  rcases inside with (rfl | rfl | rfl) | core
  · exact Or.inr ⟨.memory, rfl⟩
  · exact Or.inr ⟨.devices, rfl⟩
  · exact Or.inr ⟨.controller, rfl⟩
  · exact Or.inl core

/-- Whatever is passed on leaves through one of the router's own ends. -/
lemma Owned.mem_ends (owned : router.Owned) (nodup : router.ends.Nodup) (bus : Interconnect)
    {a : Terminal} (inside : a ∈ router.ends)
    (goes : router.route bus a message = .through target) : target ∈ router.ends := by
  rcases ends_cases inside with core | ⟨source, rfl⟩
  · rw [route_core nodup core, outward] at goes
    split at goes
    · next found =>
      obtain rfl := Route.through.inj goes
      obtain ⟨other, rfl⟩ := destination?_eq_terminal found
      exact router.terminal_mem_ends other
    · contradiction
  · obtain ⟨pending, same⟩ := router.exists_requests_eq bus
    have cores : (router.requests bus).1.cores = router.cores := by rw [same]
    have owned := owned.requests bus
    rw [Owned, cores] at owned
    rw [route_terminal nodup, homeward] at goes
    split at goes
    · rw [same] at goes
      obtain rfl := Route.through.inj goes
      exact router.terminal_mem_ends .controller
    · split at goes
      · next core found =>
        obtain rfl := Route.through.inj goes
        exact mem_ends_of_mem_cores (of_recipient? (· ∈ router.cores) owned
          (fun core member => cores ▸ member) found)
      · contradiction

/-- What a tick of the router does with the messages that wait at its ends. -/
structure Conserving (router : Router) (bus : Interconnect) : Prop where
  conserves : Conserves router.ends (router.route bus) bus (router.tick bus).2
  /-- Only a core's message is ever dropped, if it is none of a read, a write and an interrupt, or a
  read or write without an address. -/
  drops : ∀ a ∈ router.ends, ∀ message, router.route bus a message = .dropped ↔ a ∈ router.cores
    ∧ message.kind? ≠ some .interrupt
    ∧ (message.kind? = some .read ∨ message.kind? = some .write → message.address? = none)

lemma Owned.conserving (owned : router.Owned) (nodup : router.ends.Nodup) (bus : Interconnect) :
    router.Conserving bus where
  conserves := by
    have order : (router.cores ++ [router.memory, router.devices, router.controller]).Perm
        router.ends := List.perm_append_comm
    exact (sweep_tick nodup bus).conserves (order.nodup_iff.mpr nodup)
      (fun _ => order.mem_iff.symm) fun _ inside _ _ _ goes => owned.mem_ends nodup bus inside goes
  drops a inside message := by
    rw [← destination?_eq_none_iff]
    rcases ends_cases inside with core | ⟨target, rfl⟩
    · rw [route_core nodup core, outward]
      cases router.destination? message <;> simp [core]
    · have outside : router.terminal target ∉ router.cores := fun core =>
        core_ne_terminal nodup core target rfl
      simp only [route_terminal nodup, homeward, outside, false_and, iff_false]
      split
      · simp
      · split <;> simp

end Router

/-! ## The device hub -/

namespace DeviceHub

variable {hub : DeviceHub} {bus : Interconnect} {message : Message} {device other : Attachment}

/-- The hub's ends of all links. -/
def ends (hub : DeviceHub) : List Terminal :=
  hub.uplink :: hub.devices.map Attachment.terminal

/-- The device whose turn it is: the first one that has a message. -/
def ready? (hub : DeviceHub) (bus : Interconnect) : Option Attachment :=
  hub.devices.find? fun device => bus.hasMessage device.terminal

/-- What is to become of a message in a tick.  A request goes by its address, and the message of the
device whose turn it is goes to the uplink. -/
def route (hub : DeviceHub) (bus : Interconnect) (a : Terminal) (message : Message) : Route :=
  if a = hub.uplink then
    match message.address?.bind hub.deviceFor? with
    | some device => .through device
    | none => .dropped
  else if (hub.ready? bus).map Attachment.terminal = some a then .through hub.uplink
  else .kept

lemma shift_request (hub : DeviceHub) (bus : Interconnect) :
    Shift (hub.route bus) hub.uplink bus (hub.request bus) := by
  rw [request]
  cases waiting : bus.message? hub.uplink with
  | none => exact .quiet waiting
  | some message =>
    simp only
    cases owned : message.address?.bind hub.deviceFor? with
    | none => exact .dropped message waiting (by simp [route, owned])
    | some device => exact .of_forward? waiting (by simp [route, owned])

lemma route_device (nodup : hub.ends.Nodup) (member : device ∈ hub.devices) (bus : Interconnect)
    (message : Message) : hub.route bus device.terminal message
      = if (hub.ready? bus).map Attachment.terminal = some device.terminal
        then .through hub.uplink else .kept := by
  refine if_neg fun same => (List.nodup_cons.mp nodup).1 ?_
  rw [← same]
  exact List.mem_map_of_mem member

lemma ready?_congr {between : Interconnect} (same : ∀ device ∈ hub.devices,
    between.message? device.terminal = bus.message? device.terminal) :
    hub.ready? between = hub.ready? bus := by
  rw [ready?, ready?]
  generalize hub.devices = devices at same
  induction devices with
  | nil => rfl
  | cons device rest ih =>
    rw [List.find?_cons, List.find?_cons, hasMessage, hasMessage, same device (by simp),
      ih fun other member => same other (by simp [member])]

/-- The devices' turns: only one of them has its message passed on. -/
lemma sweep_reply (nodup : hub.ends.Nodup) {between : Interconnect}
    (same : ∀ device ∈ hub.devices, between.message? device.terminal
      = bus.message? device.terminal) :
    Sweep (hub.route bus) (hub.devices.map Attachment.terminal) between (hub.reply between) := by
  have ready : (hub.devices.find? fun device => between.hasMessage device.terminal)
      = hub.ready? bus := ready?_congr same
  have follows (device : Attachment) (member : device ∈ hub.devices) (message : Message) :=
    route_device nodup member bus message
  rw [reply, ready]
  cases turn : hub.ready? bus with
  | none =>
    rw [turn] at follows
    refine .idle fun a member message _ => ?_
    obtain ⟨device, attached, rfl⟩ := List.mem_map.mp member
    exact (follows device attached message).trans (if_neg (by simp))
  | some device =>
    rw [turn] at ready follows
    obtain ⟨waits, before, after, split, earlier⟩ := List.find?_eq_some_iff_append.mp ready
    obtain ⟨message, waiting⟩ := Option.isSome_iff_exists.mp waits
    have here : device ∈ hub.devices := by simp [split]
    -- the message of a device before or after it is kept
    have others (other : Attachment) (around : other ∈ before ++ after) (message : Message) :
        hub.route bus other.terminal message = .kept := by
      have member : other ∈ hub.devices := by
        rw [split]
        rcases List.mem_append.mp around with first | last
        · exact List.mem_append_left _ first
        · exact List.mem_append_right _ (List.mem_cons_of_mem _ last)
      have apart : other.terminal ≠ device.terminal := by
        have devices := (List.nodup_cons.mp nodup).2
        rw [split] at devices
        exact ne_of_nodup_map devices around
      exact (follows other member message).trans (if_neg (by simpa using Ne.symm apart))
    rw [split, List.map_append, List.map_cons]
    refine .append (.idle fun a member message _ => ?_)
      (.cons (.of_forward? waiting ((follows device here message).trans (if_pos rfl)))
        (.idle fun a member message _ => ?_))
    · obtain ⟨other, first, rfl⟩ := List.mem_map.mp member
      exact others other (List.mem_append_left _ first) message
    · obtain ⟨other, last, rfl⟩ := List.mem_map.mp member
      exact others other (List.mem_append_right _ last) message

/-- A tick of the hub goes over the uplink, and then over the devices. -/
lemma sweep_tick (nodup : hub.ends.Nodup) (bus : Interconnect) :
    Sweep (hub.route bus) hub.ends bus (hub.tick bus) := by
  have first := hub.shift_request bus
  refine .cons first (sweep_reply nodup fun device member => first.message?_of_ne ?_)
  exact fun same => (List.nodup_cons.mp nodup).1 (same ▸ List.mem_map_of_mem member)

lemma deviceFor?_eq_none_iff {address : Word} : hub.deviceFor? address = none
    ↔ ∀ device ∈ hub.devices, address < device.base := by
  refine ⟨fun none device member => ?_, deviceFor?_eq_none⟩
  rw [deviceFor?, Option.map_eq_none_iff, List.find?_eq_none] at none
  exact Int32.not_le.mp (by simpa using none device (List.mem_reverse.mpr member))

/-- Only the message of the device whose turn it is is ever taken. -/
lemma ready?_of_gone (nodup : hub.ends.Nodup) (member : device ∈ hub.devices)
    (waiting : bus.message? device.terminal = some message)
    (gone : (hub.tick bus).message? device.terminal = none) : hub.ready? bus = some device := by
  have goes : hub.route bus device.terminal message ≠ .kept := by
    intro kept
    rcases (sweep_tick nodup bus).fate_of_gone nodup
      (List.mem_cons_of_mem _ (List.mem_map_of_mem member)) waiting gone with lost | ⟨_, goes, -⟩
    · rw [kept] at lost
      contradiction
    · rw [kept] at goes
      contradiction
  rw [route_device nodup member] at goes
  obtain ⟨first, turn, same⟩ := Option.map_eq_some_iff.mp (of_not_not fun away => goes (if_neg away))
  rwa [List.inj_on_of_nodup_map (List.nodup_cons.mp nodup).2 (List.mem_of_find?_eq_some turn)
    member same] at turn

/-- What a tick of the hub does with the messages that wait at its ends. -/
structure Conserving (hub : DeviceHub) (bus : Interconnect) : Prop where
  conserves : Conserves hub.ends (hub.route bus) bus (hub.tick bus)
  /-- Only a request is ever dropped, if it has no address or one below every base. -/
  drops : ∀ a ∈ hub.ends, ∀ message, hub.route bus a message = .dropped ↔ a = hub.uplink
    ∧ ∀ address, message.address? = some address →
      ∀ device ∈ hub.devices, address < device.base
  /-- A device's message is taken only if no device with a lower base has one, and then no other
  device's is. -/
  lowest : ∀ device ∈ hub.devices, (bus.message? device.terminal).isSome →
    (hub.tick bus).message? device.terminal = none →
    ∀ other ∈ hub.devices, other ≠ device → (bus.message? other.terminal).isSome →
      device.base < other.base
        ∧ (hub.tick bus).message? other.terminal = bus.message? other.terminal

lemma Ascending.conserving (ascending : hub.Ascending) (nodup : hub.ends.Nodup)
    (bus : Interconnect) : hub.Conserving bus where
  conserves := by
    refine (sweep_tick nodup bus).conserves nodup (fun _ => Iff.rfl) ?_
    intro a inside message target _ goes
    rw [route] at goes
    split at goes
    · split at goes
      · next device found =>
        obtain rfl := Route.through.inj goes
        obtain ⟨address, -, owned⟩ := Option.bind_eq_some_iff.mp found
        exact List.mem_cons_of_mem _ (mem_of_deviceFor? owned)
      · contradiction
    · split at goes
      · obtain rfl := Route.through.inj goes
        exact List.mem_cons_self
      · contradiction
  drops a inside message := by
    rw [route]
    split
    · next here =>
      have lost : (message.address?.bind hub.deviceFor?) = none
          ↔ ∀ address, message.address? = some address →
            ∀ device ∈ hub.devices, address < device.base := by
        simp only [Option.bind_eq_none_iff, deviceFor?_eq_none_iff]
      rw [← lost]
      cases message.address?.bind hub.deviceFor? <;> simp [here]
    · next away =>
      split <;> simp [away]
  lowest device member waits gone other attached apart waits' := by
    obtain ⟨message, waiting⟩ := Option.isSome_iff_exists.mp waits
    obtain ⟨message', waiting'⟩ := Option.isSome_iff_exists.mp waits'
    have turn := ready?_of_gone nodup member waiting gone
    obtain ⟨-, before, after, split, earlier⟩ := List.find?_eq_some_iff_append.mp turn
    have later : other ∈ after := by
      have place := attached
      rw [split, List.mem_append, List.mem_cons] at place
      rcases place with first | same | last
      · exact absurd waits' (by simpa [hasMessage] using earlier other first)
      · exact absurd same apart
      · exact last
    have left : (hub.tick bus).message? other.terminal = some message' := by
      rcases (sweep_tick nodup bus).fate nodup
        (List.mem_cons_of_mem _ (List.mem_map_of_mem attached)) waiting' with ⟨left, -⟩ | ⟨gone', -⟩
      · exact left
      · have turn' := ready?_of_gone nodup attached waiting' gone'
        exact absurd (Option.some.inj (turn'.symm.trans turn)) apart
    rw [Ascending, split, List.pairwise_append, List.pairwise_cons] at ascending
    exact ⟨ascending.2.1.1 other later, left.trans waiting'.symm⟩

end DeviceHub

/-! ## Both hubs -/

/-- **No tick of either hub loses a message, makes one up or sends one astray.** -/
theorem hubs_conserve :
    (∀ router : Router, router.Arises → router.ends.Nodup → ∀ bus, router.Conserving bus)
      ∧ ∀ (uplink : Terminal) (calls : List Attachment),
        (DeviceHub.attachAll ⟨uplink, []⟩ calls).ends.Nodup →
        ∀ bus, (DeviceHub.attachAll ⟨uplink, []⟩ calls).Conserving bus :=
  ⟨fun _ arises nodup bus => arises.owned.conserving nodup bus,
    fun uplink calls nodup bus =>
      ((DeviceHub.ascending_new uplink).attachAll calls).conserving nodup bus⟩

/-- Eight links.  Words for the same memory wait at two cores' terminals of the router, and an
interrupt at each of two devices' terminals of the hub. -/
def crowded : Interconnect :=
  empty.run (List.replicate 8 (.link 1 10)
    ++ [.send ⟨7⟩ (.write 4000 1), .send ⟨9⟩ (.write 4001 2), .send ⟨13⟩ (.interrupt 32),
      .send ⟨15⟩ (.interrupt 33)] ++ List.replicate 3 .tick)

/-- The second core's write and the second device's interrupt find the way taken, and wait. -/
theorem hubs_conserve_crowded :
    (Router.mk ⟨4⟩ ⟨0⟩ ⟨2⟩ [⟨6⟩, ⟨8⟩] []).Conserving crowded
      ∧ (DeviceHub.attachAll ⟨⟨10⟩, []⟩ [⟨512, ⟨12⟩⟩, ⟨1536, ⟨14⟩⟩]).Conserving crowded
      ∧ crowded.message? ⟨8⟩ = some (.write 4001 2)
      ∧ ((Router.mk ⟨4⟩ ⟨0⟩ ⟨2⟩ [⟨6⟩, ⟨8⟩] []).tick crowded).2.message? ⟨8⟩
        = some (.write 4001 2)
      ∧ ((DeviceHub.attachAll ⟨⟨10⟩, []⟩ [⟨512, ⟨12⟩⟩, ⟨1536, ⟨14⟩⟩]).tick crowded).message? ⟨14⟩
        = some (.interrupt 33) := by
  have arises : (Router.mk ⟨4⟩ ⟨0⟩ ⟨2⟩ [⟨6⟩, ⟨8⟩] []).Arises :=
    .attached (.attached (.new ⟨4⟩ ⟨0⟩ ⟨2⟩) ⟨6⟩) ⟨8⟩
  refine ⟨hubs_conserve.1 _ arises (by decide) crowded,
    hubs_conserve.2 ⟨10⟩ [⟨512, ⟨12⟩⟩, ⟨1536, ⟨14⟩⟩] (by decide +kernel) crowded, ?_⟩
  decide +kernel

end PipelinedMachine
