import PipelinedMachine.Proofs.Machine.Balance

/-!
# Sound traffic

The balances of the cores, of main memory, of the interrupt controller and of the device hub hold
together, and every move keeps them.

* `Traffic.Sound` — the balances;
* `Traffic.Sound.room` — with 32 cores at most, the router never has to forget a read;
* **`Traffic.Sound.move`** — a move keeps the balances.
-/

namespace PipelinedMachine

open Interconnect

namespace Traffic

/-- The addresses of the reads that the router remembers of a target. -/
def sent (traffic : Traffic) (target : Target) : List Word :=
  Router.sentTo traffic.router.pending (traffic.router.terminal target)

/-- The balances of a machine with 32 cores at most. -/
structure Sound (traffic : Traffic) : Prop where
  wired : traffic.Wired
  few : traffic.cores.length ≤ 32
  lanes : ∀ core ∈ traffic.cores, core.Lane traffic.bus traffic.router.pending
  entries : ∀ read ∈ traffic.router.pending, read.core ∈ traffic.router.cores
    ∧ read.target = traffic.router.terminal (Router.targetOf read.address)
  ram : (Peripheral.ram traffic.ram).Keeps traffic.bus (traffic.sent .memory)
  controller : (Peripheral.controller traffic.controller traffic.lines).Keeps traffic.bus
    (traffic.sent .controller)
  hub : HubLane traffic.bus (traffic.router.terminal .devices) traffic.devices
    (traffic.sent .devices)

namespace Sound

variable {traffic : Traffic} {bus after : Interconnect} {target other : Target}
  {message : Message} {core : Core}

/-! ## Room for one more read -/

/-- The router has room for a read that is on its way from a core. -/
lemma room (sound : traffic.Sound) (member : core ∈ traffic.cores)
    (carried : traffic.bus.carried? core.terminal = some message)
    (asks : message.asked? ≠ none) : traffic.router.pending.length ≠ Router.pendingLimit := by
  obtain ⟨address, asked⟩ := Option.ne_none_iff_exists'.mp asks
  -- with that read there are still no more than two for each core
  have limit := Router.length_le_of_owedTo
    (traffic.router.pending ++ [⟨core.terminal, address, core.terminal.peer⟩])
    traffic.router.cores 2
    (fun read inside => by
      rcases List.mem_append.mp inside with before | new
      · exact (sound.entries read before).1
      · rw [List.mem_singleton.mp new]
        exact sound.wired.peer_mem_cores member)
    (fun terminal attached => by
      obtain ⟨other, inside, rfl⟩ := sound.wired.exists_core attached
      have few := (sound.lanes other inside).length_le
      rw [Router.owedTo_append, List.length_append, Router.owedTo_cons]
      by_cases same : core.terminal.peer = other.terminal.peer
      · rw [← Terminal.peer_inj.mp same, carried, Message.askedBy, Option.bind_some, asked] at few
        rw [if_pos same, ← same]
        simp only [Option.toList_some, List.length_singleton, Router.owedTo_nil] at few ⊢
        omega
      · rw [if_neg same]
        simp only [Router.owedTo_nil, List.length_nil]
        omega)
  have cores : traffic.router.cores.length = traffic.cores.length := by
    rw [sound.wired.cores]
    simp
  have few := sound.few
  rw [List.length_append, List.length_singleton, cores] at limit
  rw [Router.pendingLimit]
  omega

/-! ## Links that are left alone -/

lemma ram_still (sound : traffic.Sound)
    (still : traffic.bus.Still bus (traffic.router.terminal .memory)) :
    (Peripheral.ram traffic.ram).Keeps bus (traffic.sent .memory) := by
  refine sound.ram.of_still ?_
  change traffic.bus.Still bus traffic.ram.terminal
  rw [sound.wired.ram]
  exact still.peer

lemma controller_still (sound : traffic.Sound)
    (still : traffic.bus.Still bus (traffic.router.terminal .controller)) :
    (Peripheral.controller traffic.controller traffic.lines).Keeps bus
      (traffic.sent .controller) := by
  refine sound.controller.of_still ?_
  change traffic.bus.Still bus traffic.controller.terminal
  rw [sound.wired.controller]
  exact still.peer

/-! ## The turns of the cores -/

lemma core_turn {left right : List Core} {later : Core} {counters : Counters}
    {rest : Environment} {breakpoint : Option Word} (sound : traffic.Sound)
    (place : traffic.cores = left ++ core :: right)
    (ticked : core.tick ⟨traffic.bus, traffic.lines, counters⟩ = (later, rest, .ok breakpoint)) :
    Sound { traffic with
      cores := left ++ later :: right, bus := rest.bus, lines := rest.lines } := by
  have member : core ∈ traffic.cores := by simp [place]
  obtain ⟨lane, taken, sent, handled⟩ := (sound.lanes core member).tick ticked
  have targets (target : Target) :
      traffic.bus.Still rest.bus (traffic.router.terminal target) :=
    handled.still (sound.wired.core_link_ne_target member target).symm
  exact {
    wired := sound.wired.of_layout (Move.core left right core later counters rest breakpoint place
      ticked).layout
    few := by simpa [place] using sound.few
    lanes := fun other inside => by
      rw [List.mem_append, List.mem_cons, or_left_comm, ← List.mem_append] at inside
      rcases inside with rfl | around
      · exact lane
      · refine (sound.lanes other ?_).of_still
          (handled.still (sound.wired.core_link_ne place around)) rfl
        rw [place, List.mem_append, List.mem_cons, or_left_comm, ← List.mem_append]
        exact Or.inr around
    entries := sound.entries
    ram := sound.ram_still (targets .memory)
    controller := (sound.controller_still (targets .controller)).lines rest.lines
    hub := sound.hub.of_still (targets .devices) fun device inside =>
      handled.still (sound.wired.device_link_ne_core inside member) }

/-! ## The turns of the router -/

/-- What the router's turn for the link to a core does. -/
lemma request_cases (sound : traffic.Sound) (member : core ∈ traffic.cores) :
    traffic.router.request traffic.bus core.terminal.peer = (traffic.router, traffic.bus)
      ∨ ∃ target message after,
        Passed core.terminal.peer (traffic.router.terminal target) message traffic.bus after
          ∧ Router.Goes message target
          ∧ traffic.router.request traffic.bus core.terminal.peer
            = ({ traffic.router with
                pending := traffic.router.pending ++ (Router.noted? core.terminal.peer
                  (traffic.router.terminal target) message).toList }, after) := by
  refine Router.request_cases traffic.router traffic.bus core.terminal.peer ?_ ?_
    (sound.wired.core_peer_link_ne_target member)
  · rw [Terminal.peer_peer]
    exact (sound.lanes core member).up
  · rw [Terminal.peer_peer]
    exact fun message => sound.room member

/-- A message that goes from a core to a target leaves the other links alone. -/
lemma request_turn {terminal : Terminal} (sound : traffic.Sound)
    (attached : terminal ∈ traffic.router.cores) :
    Sound { traffic with
      router := (traffic.router.request traffic.bus terminal).1
      bus := (traffic.router.request traffic.bus terminal).2 } := by
  have wired' := sound.wired.of_layout (Move.request terminal attached).layout
  obtain ⟨core, member, rfl⟩ := sound.wired.exists_core attached
  have lane := sound.lanes core member
  have apart := sound.wired.core_peer_link_ne_target member
  rcases sound.request_cases member with same | ⟨target, message, after, passed, goes, result⟩
  · rw [same]
    exact sound
  rw [result] at wired' ⊢
  have carried := passed.carried?
  rw [Terminal.peer_peer] at carried
  have named := (lane.up message carried).address
  have targets {other : Target} (different : other ≠ target) :
      traffic.bus.Still after (traffic.router.terminal other) :=
    passed.still (apart other).symm (sound.wired.target_link_ne different)
  have devices (device : Peripheral) (inside : device ∈ traffic.devices) :
      traffic.bus.Still after device.terminal :=
    passed.still (sound.wired.device_link_ne inside
        (Router.mem_ends_of_mem_cores (sound.wired.peer_mem_cores member)))
      (sound.wired.device_link_ne inside (traffic.router.terminal_mem_ends target))
  have sent (other : Target) :
      Router.sentTo (traffic.router.pending ++ (Router.noted? core.terminal.peer
          (traffic.router.terminal target) message).toList) (traffic.router.terminal other)
        = traffic.sent other ++ if other = target then message.asked?.toList else [] := by
    rw [Router.sentTo_append, Router.sentTo_noted?]
    by_cases same : other = target
    · rw [if_pos same, if_pos (by rw [same])]
      rfl
    · rw [if_neg same, if_neg (sound.wired.router.terminal_ne (Ne.symm same))]
      rfl
  have plain (device : Peripheral) {other : Target}
      (place : device.terminal = (traffic.router.terminal other).peer)
      (keeps : device.Keeps traffic.bus (traffic.sent other)) :
      device.Keeps after (Router.sentTo (traffic.router.pending ++ (Router.noted?
        core.terminal.peer (traffic.router.terminal target) message).toList)
          (traffic.router.terminal other)) := by
    rw [sent]
    by_cases same : other = target
    · subst same
      rw [if_pos rfl]
      refine keeps.forward (by rwa [place, Terminal.peer_peer]) ?_ fun _ => named
      rw [place, (traffic.router.terminal other).link_peer]
      exact apart other
    · rw [if_neg same, List.append_nil]
      refine keeps.of_still ?_
      rw [place]
      exact (targets same).peer
  have hub : HubLane after (traffic.router.terminal .devices) traffic.devices
      (Router.sentTo (traffic.router.pending ++ (Router.noted? core.terminal.peer
        (traffic.router.terminal target) message).toList)
          (traffic.router.terminal .devices)) := by
    rw [sent]
    by_cases same : Target.devices = target
    · subst same
      rw [if_pos rfl]
      exact sound.hub.forward passed (apart .devices) (goes.beyond rfl) devices
    · rw [if_neg same, List.append_nil]
      exact sound.hub.of_still (targets same) devices
  exact {
    wired := wired'
    few := sound.few
    lanes := fun other inside => by
      by_cases same : other.terminal = core.terminal
      · rw [← same] at passed ⊢
        exact (sound.lanes other inside).request passed
          (sound.wired.core_link_ne_target inside target)
      · refine (sound.lanes other inside).of_still
          (passed.still ?_ (sound.wired.core_link_ne_target inside target)) ?_
        · rw [Terminal.link_peer]
          exact sound.wired.core_link_ne_of_ne member inside same
        · rw [Router.owedTo_append, Router.owedTo_noted?,
            if_neg fun peers => same (Terminal.peer_inj.mp peers).symm, List.append_nil]
    entries := fun read inside => by
      rcases List.mem_append.mp inside with before | new
      · exact sound.entries read before
      · obtain ⟨address, asked, rfl⟩ := Option.map_eq_some_iff.mp (Option.mem_toList.mp new)
        exact ⟨attached, by rw [goes.asked address asked]; exact Router.terminal_pending _ _ _⟩
    ram := plain (.ram traffic.ram) sound.wired.ram sound.ram
    controller := plain (.controller traffic.controller traffic.lines)
      sound.wired.controller sound.controller
    hub := hub }

/-- Whatever comes back from a target answers a read that is remembered of it, or is an interrupt
from the devices. -/
lemma returning (sound : traffic.Sound) (target : Target)
    (carried : traffic.bus.carried? (traffic.router.terminal target).peer = some message) :
    (∃ address ∈ traffic.sent target, message.answered? = some address)
      ∨ target = .devices ∧ message.kind? = some .interrupt := by
  have plain (device : Peripheral) (place : device.terminal = (traffic.router.terminal target).peer)
      (keeps : device.Keeps traffic.bus (traffic.sent target)) :
      ∃ address ∈ traffic.sent target, message.answered? = some address := by
    rw [← place] at carried
    obtain ⟨address, rest, answered, reads⟩ := keeps.exists_of_carried? carried
    exact ⟨address, by simp [reads], answered⟩
  cases target with
  | memory => exact Or.inl (plain (.ram traffic.ram) sound.wired.ram sound.ram)
  | controller =>
    exact Or.inl (plain (.controller traffic.controller traffic.lines)
      sound.wired.controller sound.controller)
  | devices =>
    rcases sound.hub.returning message carried with answers | interrupt
    · obtain ⟨address, answered⟩ := Option.ne_none_iff_exists'.mp answers
      exact Or.inl ⟨address, sound.hub.mem_reads carried answered, answered⟩
    · exact Or.inr ⟨rfl, interrupt⟩

/-- An interrupt from the devices goes to the controller. -/
lemma interrupt_turn (sound : traffic.Sound)
    (interrupt : message.kind? = some .interrupt)
    (passed : Passed (traffic.router.terminal .devices) (traffic.router.terminal .controller)
      message traffic.bus after) : Sound { traffic with bus := after } := by
  have unasked : message.asked? = none := by simp [Message.asked?, interrupt]
  have unanswered : message.answered? = none := Message.answered?_of_interrupt interrupt
  have apart : (traffic.router.terminal .devices).link
      ≠ (traffic.router.terminal .controller).link := sound.wired.target_link_ne (by simp)
  have devices (device : Peripheral) (inside : device ∈ traffic.devices) :
      traffic.bus.Still after device.terminal :=
    passed.still (sound.wired.device_link_ne inside (traffic.router.terminal_mem_ends .devices))
      (sound.wired.device_link_ne inside (traffic.router.terminal_mem_ends .controller))
  have controller : (Peripheral.controller traffic.controller traffic.lines).Keeps after
      (traffic.sent .controller ++ message.asked?.toList) :=
    sound.controller.forward
      (by
        rw [show (Peripheral.controller traffic.controller traffic.lines).terminal.peer
          = traffic.router.terminal .controller by
            rw [← Terminal.peer_peer (traffic.router.terminal .controller),
              ← sound.wired.controller]; rfl]
        exact passed)
      (by
        change (traffic.router.terminal .devices).link ≠ traffic.controller.terminal.link
        rwa [sound.wired.controller_link])
      (by simp [interrupt])
  rw [unasked, Option.toList_none, List.append_nil] at controller
  have hub : HubLane after (traffic.router.terminal .devices) traffic.devices
      (traffic.sent .devices) :=
    sound.hub.reply passed apart.symm devices fun address => by
      simp [Message.answeredBy, unanswered]
  exact {
    wired := ⟨sound.wired.cores, sound.wired.ram, sound.wired.controller, sound.wired.uplink,
      sound.wired.hub, sound.wired.links, sound.wired.owns⟩
    few := sound.few
    lanes := fun core member => (sound.lanes core member).of_still
      (passed.still (sound.wired.core_link_ne_target member .devices)
        (sound.wired.core_link_ne_target member .controller)) rfl
    entries := sound.entries
    ram := sound.ram_still (passed.still (sound.wired.target_link_ne (by simp))
      (sound.wired.target_link_ne (by simp)))
    controller := controller
    hub := hub }

/-- An answer goes to the core whose read is the oldest that it fits. -/
lemma answer_turn {before later : List PendingRead} {read : PendingRead} (sound : traffic.Sound)
    (passed : Passed (traffic.router.terminal target) read.core message traffic.bus after)
    (answered : message.answered? = some read.address)
    (split : traffic.router.pending = before ++ read :: later)
    (source : read.target = traffic.router.terminal target)
    (unfit : ∀ other ∈ before, other.target = traffic.router.terminal target →
      other.address ≠ read.address) :
    Sound { traffic with
      router := { traffic.router with pending := before ++ later }, bus := after } := by
  obtain ⟨core, member, own⟩ := sound.wired.exists_core
    (sound.entries read (by simp [split])).1
  have apart (other : Target) : (traffic.router.terminal other).link ≠ read.core.link := by
    rw [own, Terminal.link_peer]
    exact (sound.wired.core_link_ne_target member other).symm
  have targets {other : Target} (different : other ≠ target) :
      traffic.bus.Still after (traffic.router.terminal other) :=
    passed.still (sound.wired.target_link_ne different) (apart other)
  have devices (device : Peripheral) (inside : device ∈ traffic.devices) :
      traffic.bus.Still after device.terminal :=
    passed.still (sound.wired.device_link_ne inside (traffic.router.terminal_mem_ends target))
      (sound.wired.device_link_ne inside (own ▸ Router.mem_ends_of_mem_cores
        (sound.wired.peer_mem_cores member)))
  have others {other : Target} (different : other ≠ target) :
      Router.sentTo (before ++ later) (traffic.router.terminal other) = traffic.sent other := by
    rw [sent, split, Router.sentTo_append, Router.sentTo_append, Router.sentTo_cons, source,
      if_neg (sound.wired.router.terminal_ne (Ne.symm different))]
  have plain (device : Peripheral) {other : Target}
      (place : device.terminal = (traffic.router.terminal other).peer)
      (keeps : device.Keeps traffic.bus (traffic.sent other)) :
      device.Keeps after (Router.sentTo (before ++ later) (traffic.router.terminal other)) := by
    have far : device.terminal.peer = traffic.router.terminal other := by
      rw [place, Terminal.peer_peer]
    by_cases same : other = target
    · subst same
      have carried := passed.carried?
      rw [← place] at carried
      obtain ⟨address, rest, answered', reads⟩ := keeps.exists_of_carried? carried
      obtain rfl : read.address = address := Option.some.inj (answered.symm.trans answered')
      rw [reads] at keeps
      rw [sent, split] at reads
      rw [← Router.eq_sentTo_of_head source unfit reads]
      refine keeps.reply (by rwa [far]) answered ?_
      rw [place, (traffic.router.terminal other).link_peer]
      exact (apart other).symm
    · rw [others same]
      refine keeps.of_still ?_
      rw [place]
      exact (targets same).peer
  have hub : HubLane after (traffic.router.terminal .devices) traffic.devices
      (Router.sentTo (before ++ later) (traffic.router.terminal .devices)) := by
    by_cases same : Target.devices = target
    · subst same
      refine sound.hub.reply passed (apart .devices).symm devices fun address => ?_
      rw [sent, split, Router.sentTo_append, Router.sentTo_append, Router.sentTo_cons,
        if_pos source, Message.answeredBy, Option.bind_some, answered]
      simp only [Option.toList_some, List.count_append, List.count_cons, List.count_nil]
      omega
    · rw [others same]
      exact sound.hub.of_still (targets same) devices
  have inside (other : PendingRead) (member : other ∈ before ++ later) :
      other ∈ traffic.router.pending := by
    rw [split, List.mem_append, List.mem_cons]
    exact (List.mem_append.mp member).imp id Or.inr
  exact {
    wired := sound.wired.of_layout ⟨⟨_, rfl⟩, rfl, rfl, rfl, rfl, rfl⟩
    few := sound.few
    lanes := fun other attached => by
      have lane := sound.lanes other attached
      by_cases same : other.terminal = core.terminal
      · rw [split] at lane
        exact lane.reply passed answered (by rw [own, same])
          (sound.wired.core_link_ne_target attached target).symm
      · refine lane.of_still
          (passed.still (sound.wired.core_link_ne_target attached target) ?_) ?_
        · rw [own, Terminal.link_peer]
          exact sound.wired.core_link_ne_of_ne member attached same
        · rw [split, Router.owedTo_append, Router.owedTo_append, Router.owedTo_cons, own,
            if_neg fun peers => same (Terminal.peer_inj.mp peers).symm]
    entries := fun other member => sound.entries other (inside other member)
    ram := plain (.ram traffic.ram) sound.wired.ram sound.ram
    controller := plain (.controller traffic.controller traffic.lines)
      sound.wired.controller sound.controller
    hub := hub }

/-- What the router's turn for the link to a target does. -/
lemma replyFrom_cases (sound : traffic.Sound) (target : Target) :
    traffic.router.replyFrom traffic.bus target = (traffic.router, traffic.bus)
      ∨ (∃ message after, target = .devices ∧ message.kind? = some .interrupt
        ∧ Passed (traffic.router.terminal target) (traffic.router.terminal .controller) message
          traffic.bus after
        ∧ traffic.router.replyFrom traffic.bus target = (traffic.router, after))
      ∨ ∃ before read later message after,
          Passed (traffic.router.terminal target) read.core message traffic.bus after
          ∧ message.answered? = some read.address
          ∧ traffic.router.pending = before ++ read :: later
          ∧ read.target = traffic.router.terminal target
          ∧ (∀ other ∈ before, other.target = traffic.router.terminal target →
            other.address ≠ read.address)
          ∧ traffic.router.replyFrom traffic.bus target
            = ({ traffic.router with pending := before ++ later }, after) := by
  refine Router.replyFrom_cases traffic.router traffic.bus
    (fun message carried => sound.returning target carried) (fun read inside => ?_)
    fun different => sound.wired.target_link_ne different
  obtain ⟨core, member, own⟩ := sound.wired.exists_core (sound.entries read inside).1
  rw [own]
  exact (sound.wired.core_peer_link_ne_target member target).symm

lemma reply_turn (sound : traffic.Sound) (target : Target) :
    Sound { traffic with
      router := (traffic.router.replyFrom traffic.bus target).1
      bus := (traffic.router.replyFrom traffic.bus target).2 } := by
  rcases sound.replyFrom_cases target with
    same | ⟨message, after, rfl, interrupt, passed, result⟩
      | ⟨before, read, later, message, after, passed, answered, split, source, unfit, result⟩
  · rw [same]
    exact sound
  · rw [result]
    exact sound.interrupt_turn interrupt passed
  · rw [result]
    exact sound.answer_turn passed answered split source unfit

/-! ## The turns of main memory and of the controller -/

lemma controller_turn (sound : traffic.Sound) :
    Sound { traffic with
      controller := (traffic.controller.tick traffic.lines traffic.bus).1
      lines := (traffic.controller.tick traffic.lines traffic.bus).2.1
      bus := (traffic.controller.tick traffic.lines traffic.bus).2.2 } := by
  have still {a : Terminal} (away : a.link ≠ traffic.controller.terminal.link) :=
    (Peripheral.controller traffic.controller traffic.lines).still_tick traffic.bus away
  rw [sound.wired.controller_link] at still
  exact {
    wired := sound.wired.of_layout Move.controller.layout
    few := sound.few
    lanes := fun core member => (sound.lanes core member).of_still
      (still (sound.wired.core_link_ne_target member .controller)) rfl
    entries := sound.entries
    ram := sound.ram_still (still (sound.wired.target_link_ne (by simp)))
    controller := sound.controller.tick
    hub := sound.hub.of_still (still (sound.wired.target_link_ne (by simp))) fun device inside =>
      still (sound.wired.device_link_ne inside (traffic.router.terminal_mem_ends .controller)) }

lemma ram_turn (sound : traffic.Sound) :
    Sound { traffic with
      ram := (traffic.ram.tick traffic.bus).1, bus := (traffic.ram.tick traffic.bus).2 } := by
  have still {a : Terminal} (away : a.link ≠ traffic.ram.terminal.link) :=
    (Peripheral.ram traffic.ram).still_tick traffic.bus away
  rw [sound.wired.ram_link] at still
  exact {
    wired := sound.wired.of_layout Move.ram.layout
    few := sound.few
    lanes := fun core member => (sound.lanes core member).of_still
      (still (sound.wired.core_link_ne_target member .memory)) rfl
    entries := sound.entries
    ram := sound.ram.tick
    controller := sound.controller_still (still (sound.wired.target_link_ne (by simp)))
    hub := sound.hub.of_still (still (sound.wired.target_link_ne (by simp))) fun device inside =>
      still (sound.wired.device_link_ne inside (traffic.router.terminal_mem_ends .memory)) }

/-! ## The turns of the hub and of its devices -/

/-- What happens behind the hub does not concern the rest. -/
lemma behind {devices : List Peripheral} (sound : traffic.Sound)
    (wired : Wired { traffic with bus := after, devices := devices })
    (hub : HubLane after (traffic.router.terminal .devices) devices (traffic.sent .devices))
    (still : ∀ a : Terminal, a.link ≠ (traffic.router.terminal .devices).link →
      (∀ device ∈ traffic.devices, a.link ≠ device.terminal.link) → traffic.bus.Still after a) :
    Sound { traffic with bus := after, devices := devices } := by
  have targets {other : Target} (different : other ≠ .devices) :
      traffic.bus.Still after (traffic.router.terminal other) :=
    still _ (sound.wired.target_link_ne different) fun device inside =>
      (sound.wired.device_link_ne inside (traffic.router.terminal_mem_ends other)).symm
  exact {
    wired := wired
    few := sound.few
    lanes := fun core member => (sound.lanes core member).of_still
      (still _ (sound.wired.core_link_ne_target member .devices) fun device inside =>
        (sound.wired.device_link_ne_core inside member).symm) rfl
    entries := sound.entries
    ram := sound.ram_still (targets (by simp))
    controller := sound.controller_still (targets (by simp))
    hub := hub }

lemma device_apart {device : Peripheral} (sound : traffic.Sound)
    (inside : device ∈ traffic.devices) :
    (traffic.router.terminal .devices).link ≠ device.terminal.link :=
  (sound.wired.device_link_ne inside (traffic.router.terminal_mem_ends .devices)).symm

/-- A message goes from one link of the hub to another. -/
lemma hub_turn {source device : Terminal} (sound : traffic.Sound)
    (passed : Passed source device message traffic.bus after)
    (hub : HubLane after (traffic.router.terminal .devices) traffic.devices
      (traffic.sent .devices))
    (ends : ∀ a ∈ [source, device], a.link = (traffic.router.terminal .devices).link
      ∨ ∃ device ∈ traffic.devices, a.link = device.terminal.link) :
    Sound { traffic with bus := after } := by
  refine sound.behind (sound.wired.of_layout ⟨⟨_, rfl⟩, rfl, rfl, rfl, rfl, rfl⟩) hub
    fun a first second => ?_
  have apart (b : Terminal) (member : b ∈ [source, device]) : a.link ≠ b.link := by
    rcases ends b member with same | ⟨device, inside, same⟩
    · rwa [same]
    · rw [same]
      exact second device inside
  exact passed.still (apart source (by simp)) (apart device (by simp))

/-- What the hub's turn for requests does. -/
lemma hubRequest_cases (sound : traffic.Sound) :
    traffic.hub.request traffic.bus = traffic.bus
      ∨ (∃ message, traffic.bus.message? (traffic.router.terminal .devices).peer = some message)
        ∧ traffic.hub.request traffic.bus
          = traffic.bus.clear (traffic.router.terminal .devices).peer
      ∨ ∃ device ∈ traffic.devices, ∃ message address, message.address? = some address
        ∧ traffic.hub.deviceFor? address = some device.terminal.peer
        ∧ Passed (traffic.router.terminal .devices).peer device.terminal.peer message traffic.bus
          (traffic.hub.request traffic.bus) := by
  have uplink := sound.wired.uplink
  cases waiting : traffic.bus.message? traffic.hub.uplink with
  | none => exact Or.inl (by simp only [DeviceHub.request, waiting])
  | some message =>
    cases owner : message.address?.bind traffic.hub.deviceFor? with
    | none =>
      refine Or.inr (Or.inl ⟨⟨message, by rwa [← uplink]⟩, ?_⟩)
      rw [← uplink]
      simp only [DeviceHub.request, waiting, owner]
    | some terminal =>
      cases forwarded : traffic.bus.forward? traffic.hub.uplink terminal with
      | none =>
        exact Or.inl (by simp only [DeviceHub.request, waiting, owner, forwarded, Option.getD_none])
      | some after =>
        have passes : traffic.hub.request traffic.bus = after := by
          simp only [DeviceHub.request, waiting, owner, forwarded, Option.getD_some]
        obtain ⟨address, named, owned⟩ := Option.bind_eq_some_iff.mp owner
        obtain ⟨attachment, found, here⟩ := Option.map_eq_some_iff.mp owned
        obtain ⟨device, inside, rfl⟩ :
            ∃ device ∈ traffic.devices, terminal = device.terminal.peer := by
          refine sound.wired.exists_device ?_
          rw [← here]
          exact List.mem_map_of_mem (List.mem_reverse.mp (List.mem_of_find?_eq_some found))
        obtain ⟨other, passed⟩ := passed_of_forward? forwarded (by
          rw [uplink, Terminal.link_peer, Terminal.link_peer]
          exact sound.device_apart inside)
        obtain rfl : message = other := Option.some.inj (waiting.symm.trans passed.waiting)
        rw [passes, ← uplink]
        exact Or.inr (Or.inr ⟨device, inside, message, address, named, owned, passed⟩)

/-- What the hub's turn for what devices send does. -/
lemma hubReply_cases (sound : traffic.Sound) :
    traffic.hub.reply traffic.bus = traffic.bus
      ∨ ∃ device ∈ traffic.devices, ∃ message,
        Passed device.terminal.peer (traffic.router.terminal .devices).peer message traffic.bus
          (traffic.hub.reply traffic.bus) := by
  have uplink := sound.wired.uplink
  cases found : traffic.hub.devices.find? fun device => traffic.bus.hasMessage device.terminal with
  | none => exact Or.inl (by simp only [DeviceHub.reply, found])
  | some attachment =>
    cases forwarded : traffic.bus.forward? attachment.terminal traffic.hub.uplink with
    | none => exact Or.inl (by simp only [DeviceHub.reply, found, forwarded, Option.getD_none])
    | some after =>
      have passes : traffic.hub.reply traffic.bus = after := by
        simp only [DeviceHub.reply, found, forwarded, Option.getD_some]
      obtain ⟨device, inside, here⟩ := sound.wired.exists_device
        (List.mem_map_of_mem (List.mem_of_find?_eq_some found))
      rw [here] at forwarded
      obtain ⟨message, passed⟩ := passed_of_forward? forwarded (by
        rw [uplink, Terminal.link_peer, Terminal.link_peer]
        exact (sound.device_apart inside).symm)
      rw [passes, ← uplink]
      exact Or.inr ⟨device, inside, message, passed⟩

lemma hubRequest_turn (sound : traffic.Sound) :
    Sound { traffic with bus := traffic.hub.request traffic.bus } := by
  rcases sound.hubRequest_cases with
    same | ⟨⟨message, waiting⟩, drops⟩ | ⟨device, inside, message, address, named, owned, passed⟩
  · rw [same]
    exact sound
  · rw [drops]
    have still (a : Terminal) (away : a.link ≠ (traffic.router.terminal .devices).link) :
        traffic.bus.Still (traffic.bus.clear (traffic.router.terminal .devices).peer) a := by
      constructor <;> refine carried?_clear_of_ne (Terminal.ne_of_link ?_) <;> simpa using away
    exact sound.behind (sound.wired.of_layout ⟨⟨_, rfl⟩, rfl, rfl, rfl, rfl, rfl⟩)
      (sound.hub.drop waiting fun device inside => (sound.device_apart inside).symm)
      fun a away _ => still a away
  · have carried := passed.carried?
    rw [Terminal.peer_peer] at carried
    have heeds : ∀ a ∈ device.due? message, message.asked? = some a := by
      intro a due
      rw [Peripheral.due?] at due
      split_ifs at due with kind
      · have own := sound.wired.owns device.seat (List.mem_map_of_mem inside) address
          (sound.hub.beyond message carried address named) owned
        rw [Message.address, named, Option.getD_some] at due
        rw [Message.asked?, if_pos kind, named, own a due]
      · contradiction
    obtain ⟨left, right, place⟩ := List.append_of_mem inside
    have hub := sound.hub
    rw [place] at hub
    have lane := hub.passRequest passed (sound.device_apart inside)
      (fun other around => passed.still
        (by
          rw [Terminal.link_peer]
          refine (sound.device_apart ?_).symm
          rw [place, List.mem_append, List.mem_cons]
          exact (List.mem_append.mp around).imp id Or.inr)
        (by
          rw [Terminal.link_peer]
          exact sound.wired.device_link_ne_device place around))
      heeds
    rw [← place] at lane
    refine sound.hub_turn passed lane fun a member => ?_
    rcases List.mem_pair.mp member with rfl | rfl
    · exact Or.inl (Terminal.link_peer _)
    · exact Or.inr ⟨device, inside, device.terminal.link_peer⟩

lemma hubReply_turn (sound : traffic.Sound) :
    Sound { traffic with bus := traffic.hub.reply traffic.bus } := by
  rcases sound.hubReply_cases with same | ⟨device, inside, message, passed⟩
  · rw [same]
    exact sound
  · obtain ⟨left, right, place⟩ := List.append_of_mem inside
    have hub := sound.hub
    rw [place] at hub
    have lane := hub.passReply passed (sound.device_apart inside)
      fun other around => passed.still
        (by
          rw [Terminal.link_peer]
          exact sound.wired.device_link_ne_device place around)
        (by
          rw [Terminal.link_peer]
          refine (sound.device_apart ?_).symm
          rw [place, List.mem_append, List.mem_cons]
          exact (List.mem_append.mp around).imp id Or.inr)
    rw [← place] at lane
    refine sound.hub_turn passed lane fun a member => ?_
    rcases List.mem_pair.mp member with rfl | rfl
    · exact Or.inr ⟨device, inside, device.terminal.link_peer⟩
    · exact Or.inl (Terminal.link_peer _)

lemma device_turn {left right : List Peripheral} {device later : Peripheral}
    (sound : traffic.Sound) (place : traffic.devices = left ++ device :: right)
    (seat : later.seat = device.seat)
    (still : ∀ a : Terminal, a.link ≠ device.terminal.link → traffic.bus.Still after a)
    (orderly : later.Orderly after) (engaged : later.engaged after = device.engaged traffic.bus) :
    Sound { traffic with bus := after, devices := left ++ later :: right } := by
  have inside : device ∈ traffic.devices := by simp [place]
  have hub := sound.hub
  rw [place] at hub
  refine sound.behind (sound.wired.of_layout ⟨⟨_, rfl⟩, rfl, rfl, rfl, rfl, ?_⟩)
    (hub.turn (still _ (sound.device_apart inside)) (fun other around =>
      still _ (sound.wired.device_link_ne_device place around)) orderly engaged)
    fun a _ away => still a (away device inside)
  simp [seats, place, seat]

/-! ## Every move -/

/-- A move keeps the balances. -/
theorem move {after : Traffic} (sound : traffic.Sound) (move : Move traffic after) :
    after.Sound := by
  cases move with
  | core left right core later counters rest breakpoint place ticked =>
    exact sound.core_turn place ticked
  | request core attached => exact sound.request_turn attached
  | reply target => exact sound.reply_turn target
  | controller => exact sound.controller_turn
  | ram => exact sound.ram_turn
  | hubRequest => exact sound.hubRequest_turn
  | hubReply => exact sound.hubReply_turn
  | device left right device place =>
    exact sound.device_turn place (device.seat_tick traffic.bus)
      (fun a away => device.still_tick traffic.bus away)
      (sound.hub.orderly device (by simp [place])).tick (device.engaged_tick traffic.bus)
  | links =>
    exact {
      wired := sound.wired.of_layout Move.links.layout
      few := sound.few
      lanes := fun core member => (sound.lanes core member).of_still (still_tick _ _) rfl
      entries := sound.entries
      ram := sound.ram_still (still_tick _ _)
      controller := sound.controller_still (still_tick _ _)
      hub := sound.hub.of_still (still_tick _ _) fun device _ => still_tick _ _ }
  | load address words =>
    exact {
      wired := sound.wired.of_layout (Move.load address words).layout
      few := sound.few
      lanes := sound.lanes
      entries := sound.entries
      ram := sound.ram.host (.load address words)
      controller := sound.controller
      hub := sound.hub }
  | host left right device action place =>
    exact sound.device_turn place (device.seat_host action) (fun a _ => still_self _ a)
      ((sound.hub.orderly device (by simp [place])).host action) (device.engaged_host action _)
  | raise id =>
    exact {
      wired := sound.wired.of_layout (Move.raise id).layout
      few := sound.few
      lanes := sound.lanes
      entries := sound.entries
      ram := sound.ram
      controller := sound.controller.host (.raise id)
      hub := sound.hub }

theorem moves {after : Traffic} (sound : traffic.Sound) (moves : Moves traffic after) :
    after.Sound := by
  induction moves with
  | refl => exact sound
  | tail _ move previous => exact previous.move move

end Sound

end Traffic

end PipelinedMachine
