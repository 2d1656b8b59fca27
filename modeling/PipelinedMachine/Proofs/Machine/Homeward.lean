import PipelinedMachine.Proofs.Machine.Routing

/-!
# Where answers come from

An answer names an address and nothing else, so it matters that no component ever answers under an
address of another one.  Requests come to the component of their address; here the same is shown for
what the devices behind the hub send back.

* `Traffic.Owns` — an address is that of a device, which answers reads of it under it;
* `Traffic.Homeward` — **the answers behind the hub, at the hub and on their way to the cores name
  addresses of the devices that gave them**;
* `Traffic.Homeward.move`, `Traffic.AtRest.homeward` — every move keeps it so, and it is so in a new
  machine.
-/

namespace PipelinedMachine

open Interconnect

namespace Traffic

variable {traffic later : Traffic} {address : Word} {seat : Terminal × (Word → Option Word)}

/-- Reads of the address go to the device in this seat, which answers them under no other. -/
structure Owns (traffic : Traffic) (seat : Terminal × (Word → Option Word)) (address : Word) :
    Prop where
  goes : Router.targetOf address = .devices
  here : traffic.hub.deviceFor? address = some seat.1.peer
  due : seat.2 address = some address

/-- If the message answers a read behind the hub, it is under an address that a device owns. -/
def FromOwner (traffic : Traffic) (message : Message) : Prop :=
  ∀ address, message.answered? = some address → Router.targetOf address = .devices →
    ∃ seat ∈ traffic.seats, traffic.Owns seat address

/-- Answers name addresses of the devices that they come from. -/
structure Homeward (traffic : Traffic) : Prop where
  devices : ∀ device ∈ traffic.devices, ∀ address ∈ device.engaged traffic.bus,
    traffic.Owns device.seat address
  uplink : ∀ message, traffic.bus.carried? (traffic.router.terminal .devices).peer = some message →
    traffic.FromOwner message
  cores : ∀ core ∈ traffic.cores, ∀ message,
    traffic.bus.carried? core.terminal.peer = some message → traffic.FromOwner message

lemma Layout.owns (layout : traffic.Layout later) (owns : traffic.Owns seat address) :
    later.Owns seat address :=
  ⟨owns.goes, by rw [layout.hub]; exact owns.here, owns.due⟩

lemma Layout.fromOwner (layout : traffic.Layout later) {message : Message}
    (owned : traffic.FromOwner message) : later.FromOwner message := by
  intro address answered goes
  obtain ⟨seat, member, owns⟩ := owned address answered goes
  exact ⟨seat, by rw [layout.seats]; exact member, layout.owns owns⟩

namespace Homeward

/-- What has to be looked at after a move: answers that are new in their place. -/
lemma of_layout (homeward : traffic.Homeward) (layout : traffic.Layout later)
    (devices : ∀ device ∈ later.devices, ∀ address ∈ device.engaged later.bus,
      (∃ other ∈ traffic.devices, other.seat = device.seat ∧ address ∈ other.engaged traffic.bus)
        ∨ traffic.Owns device.seat address)
    (uplink : ∀ message,
      later.bus.carried? (traffic.router.terminal .devices).peer = some message →
        traffic.bus.carried? (traffic.router.terminal .devices).peer = some message
          ∨ traffic.FromOwner message)
    (cores : ∀ core ∈ traffic.cores, ∀ message,
      later.bus.carried? core.terminal.peer = some message →
        traffic.bus.carried? core.terminal.peer = some message ∨ traffic.FromOwner message) :
    later.Homeward where
  devices device member address engaged := by
    refine layout.owns ?_
    rcases devices device member address engaged with ⟨other, inside, seat, before⟩ | owns
    · exact seat ▸ homeward.devices other inside address before
    · exact owns
  uplink message carried := by
    have same : later.router.terminal .devices = traffic.router.terminal .devices := by
      obtain ⟨⟨pending, router⟩, -⟩ := layout
      rw [router, Router.terminal_pending]
    rw [same] at carried
    exact layout.fromOwner ((uplink message carried).elim (homeward.uplink message) id)
  cores core member message carried := by
    have inside : core.terminal ∈ traffic.cores.map Core.terminal := by
      rw [← layout.cores]
      exact List.mem_map_of_mem member
    obtain ⟨other, inside, same⟩ := List.mem_map.mp inside
    rw [← same] at carried
    exact layout.fromOwner
      ((cores other inside message carried).elim (homeward.cores other inside message) id)

/-- A move that changes no device and adds no answer. -/
lemma of_quiet (homeward : traffic.Homeward) (layout : traffic.Layout later)
    (same : later.devices = traffic.devices)
    (still : ∀ device ∈ traffic.devices, traffic.bus.Still later.bus device.terminal)
    (uplink : ∀ message,
      later.bus.carried? (traffic.router.terminal .devices).peer = some message →
        traffic.bus.carried? (traffic.router.terminal .devices).peer = some message)
    (cores : ∀ core ∈ traffic.cores, ∀ message,
      later.bus.carried? core.terminal.peer = some message →
        traffic.bus.carried? core.terminal.peer = some message ∨ traffic.FromOwner message) :
    later.Homeward :=
  homeward.of_layout layout
    (fun device member address engaged => by
      rw [same] at member
      rw [Peripheral.engaged_of_still (still device member)] at engaged
      exact Or.inl ⟨device, member, rfl, engaged⟩)
    (fun message carried => Or.inl (uplink message carried)) cores

/-- A component on a link of its own, away from the hub's, has its turn. -/
lemma of_away (homeward : traffic.Homeward) (sound : traffic.Sound)
    (layout : traffic.Layout later) (same : later.devices = traffic.devices) (target : Target)
    (away : target ≠ .devices)
    (still : ∀ a : Terminal, a.link ≠ (traffic.router.terminal target).link →
      traffic.bus.Still later.bus a) : later.Homeward := by
  have uplink : (traffic.router.terminal .devices).link ≠ (traffic.router.terminal target).link :=
    sound.wired.target_link_ne (Ne.symm away)
  refine homeward.of_quiet layout same (fun device member => still _ ?_) ?_ ?_
  · exact sound.wired.device_link_ne member (traffic.router.terminal_mem_ends target)
  · intro message carried
    rwa [(still _ uplink).2] at carried
  · intro core member message carried
    rw [(still _ (sound.wired.core_link_ne_target member target)).2] at carried
    exact Or.inl carried

variable {message : Message} {after : Interconnect} {target : Target}

/-- Whatever comes back from a target names an address of a device that owns it, if it goes behind
the hub at all. -/
lemma returning (homeward : traffic.Homeward) (sound : traffic.Sound)
    (carried : traffic.bus.carried? (traffic.router.terminal target).peer = some message) :
    traffic.FromOwner message := by
  intro address answered goes
  rcases sound.returning target carried with ⟨other, sent, same⟩ | ⟨-, interrupt⟩
  · obtain rfl : other = address := Option.some.inj (same.symm.trans answered)
    obtain ⟨read, member, rfl⟩ := List.mem_map.mp sent
    obtain ⟨member, here⟩ := List.mem_filter.mp member
    have place := (sound.entries read member).2
    rw [of_decide_eq_true here, goes] at place
    by_cases devices : target = .devices
    · subst devices
      exact homeward.uplink message carried read.address answered goes
    · exact absurd place (sound.wired.router.terminal_ne devices)
  · simp [Message.answered?_of_interrupt interrupt] at answered

/-- The turn of a link that answers come from. -/
lemma reply_turn (homeward : traffic.Homeward) (sound : traffic.Sound) (target : Target) :
    Homeward { traffic with
      router := (traffic.router.replyFrom traffic.bus target).1
      bus := (traffic.router.replyFrom traffic.bus target).2 } := by
  have layout := Move.layout (Move.reply target : Move traffic _)
  -- what is passed on from a target to `far` leaves the devices alone
  have pass {far : Terminal} {message : Message} {after : Interconnect}
      (passed : Passed (traffic.router.terminal target) far message traffic.bus after)
      (inside : far ∈ traffic.router.ends)
      (off : far.link ≠ (traffic.router.terminal .devices).link)
      (fresh : ∀ core ∈ traffic.cores, core.terminal.peer = far → traffic.FromOwner message)
      (layout : traffic.Layout { traffic with
        router := (traffic.router.replyFrom traffic.bus target).1, bus := after }) :
      Homeward { traffic with
        router := (traffic.router.replyFrom traffic.bus target).1, bus := after } := by
    refine homeward.of_quiet layout rfl (fun device member => passed.still ?_ ?_) ?_ ?_
    · exact sound.wired.device_link_ne member (traffic.router.terminal_mem_ends target)
    · exact sound.wired.device_link_ne member inside
    · intro other carried
      by_cases same : target = .devices
      · subst same
        rw [passed.left] at carried
        contradiction
      · have still := passed.still (a := traffic.router.terminal .devices)
          (sound.wired.target_link_ne (Ne.symm same)) off.symm
        rwa [still.2] at carried
    · intro core member other carried
      by_cases same : core.terminal.peer = far
      · rw [same, passed.sent, Option.some.injEq] at carried
        exact Or.inr (carried ▸ fresh core member same)
      · rw [passed.apart _ same] at carried
        · exact Or.inl carried
        · exact Terminal.ne_of_link (by
            rw [Terminal.link_peer, Terminal.link_peer]
            exact sound.wired.core_link_ne_target member target)
  rcases sound.replyFrom_cases target with
    same | ⟨message, after, rfl, interrupt, passed, result⟩
      | ⟨before, read, rest, message, after, passed, answered, split, source, unfit, result⟩
  · rw [same]
    exact homeward
  · rw [show after = (traffic.router.replyFrom traffic.bus .devices).2 by rw [result]] at passed
    refine pass passed (traffic.router.terminal_mem_ends .controller)
      (sound.wired.target_link_ne (by simp)) (fun core member same => ?_) layout
    refine absurd ?_ (sound.wired.core_link_ne_target member .controller)
    rw [← same, Terminal.link_peer]
  · rw [show after = (traffic.router.replyFrom traffic.bus target).2 by rw [result]] at passed
    obtain ⟨core, member, own⟩ := sound.wired.exists_core (sound.entries read (by simp [split])).1
    refine pass passed ?_ ?_ (fun _ _ _ => homeward.returning sound passed.carried?) layout
    · rw [own]
      exact Router.mem_ends_of_mem_cores (sound.wired.peer_mem_cores member)
    · rw [own, Terminal.link_peer]
      exact sound.wired.core_link_ne_target member .devices

/-- The hub passes a request on, and the device that it comes to is the owner of its address. -/
lemma hubRequest_turn (homeward : traffic.Homeward) (sound : traffic.Sound)
    (regular : traffic.Regular) (directed : traffic.Directed) :
    Homeward { traffic with bus := traffic.hub.request traffic.bus } := by
  have layout := Move.layout (Move.hubRequest : Move traffic _)
  have core_link {core : Core} (member : core ∈ traffic.cores) :=
    sound.wired.core_link_ne_target member .devices
  rcases sound.hubRequest_cases with
    same | ⟨⟨message, waiting⟩, drops⟩ | ⟨device, inside, message, address, named, owned, passed⟩
  · rw [same]
    exact homeward
  · rw [drops] at layout ⊢
    have elsewhere {a : Terminal} (away : a ≠ traffic.router.terminal .devices) :
        (traffic.bus.clear (traffic.router.terminal .devices).peer).carried? a
          = traffic.bus.carried? a :=
      carried?_clear_of_ne (by rwa [Terminal.peer_peer])
    refine homeward.of_quiet layout rfl (fun device member => ?_) ?_ ?_
    · have apart := sound.wired.device_link_ne member (traffic.router.terminal_mem_ends .devices)
      exact ⟨elsewhere (Terminal.ne_of_link apart),
        elsewhere (Terminal.ne_of_link (by rwa [Terminal.link_peer]))⟩
    · intro other carried
      rwa [elsewhere (Terminal.peer_ne _)] at carried
    · intro core member other carried
      rw [elsewhere (Terminal.ne_of_link (by rw [Terminal.link_peer]; exact core_link member))]
        at carried
      exact Or.inl carried
  · have carried := passed.carried?
    rw [Terminal.peer_peer] at carried
    have apart := sound.device_apart inside
    obtain ⟨left, right, place⟩ := List.append_of_mem inside
    have around (other : Peripheral) (member : other ∈ left ++ right) :
        traffic.bus.Still (traffic.hub.request traffic.bus) other.terminal := by
      have member' : other ∈ traffic.devices := by
        rw [place, List.mem_append, List.mem_cons]
        exact (List.mem_append.mp member).imp id Or.inr
      refine passed.still ?_ ?_
      · rw [Terminal.link_peer]
        exact (sound.device_apart member').symm
      · rw [Terminal.link_peer]
        exact sound.wired.device_link_ne_device place member
    refine homeward.of_layout layout (fun other member a engaged => ?_) ?_ ?_
    · change other ∈ traffic.devices at member
      change a ∈ other.engaged (traffic.hub.request traffic.bus) at engaged
      rw [place, List.mem_append, List.mem_cons, or_left_comm, ← List.mem_append] at member
      rcases member with rfl | member
      · -- what is new is the message that has been passed on
        have back : (traffic.hub.request traffic.bus).carried? other.terminal
            = traffic.bus.carried? other.terminal := by
          simpa using passed.carried?_peer_target (by simpa using apart)
        rw [Peripheral.engaged, back, passed.sent, Option.bind_some] at engaged
        rw [List.mem_append, List.mem_append, Option.mem_toList] at engaged
        rw [← or_assoc, ← List.mem_append] at engaged
        rcases engaged with before | due
        · exact Or.inl ⟨other, inside, rfl, by
            rw [Peripheral.engaged, passed.free, Option.bind_none, Option.toList_none,
              List.append_nil]
            exact before⟩
        · refine Or.inr ?_
          rw [Peripheral.due?] at due
          split_ifs at due with kind
          rw [Message.address, named, Option.getD_some] at due
          obtain rfl := sound.wired.owns other.seat (List.mem_map_of_mem inside) address
            (sound.hub.beyond message carried address named) owned a due
          have access : message.access? = some a := by
            rw [Message.access?, if_pos (Or.inl kind), named]
          have course := directed _ (traffic.target_mem_ways .devices) message a carried access
          exact ⟨regular.targetOf_eq course, owned, due⟩
      · rw [Peripheral.engaged_of_still (around other member)] at engaged
        refine Or.inl ⟨other, ?_, rfl, engaged⟩
        rw [place, List.mem_append, List.mem_cons]
        exact (List.mem_append.mp member).imp id Or.inr
    · intro other here
      rw [passed.apart _ (Terminal.ne_of_link (by simpa using apart))
        (by rw [Terminal.peer_peer]; exact Terminal.peer_ne _)] at here
      exact Or.inl here
    · intro core member other here
      rw [(passed.still (by rw [Terminal.link_peer]; exact core_link member)
        (by
          rw [Terminal.link_peer]
          exact (sound.wired.device_link_ne_core inside member).symm)).2] at here
      exact Or.inl here

/-- The hub passes on what a device has sent, which comes from the owner of its address. -/
lemma hubReply_turn (homeward : traffic.Homeward) (sound : traffic.Sound) :
    Homeward { traffic with bus := traffic.hub.reply traffic.bus } := by
  have layout := Move.layout (Move.hubReply : Move traffic _)
  rcases sound.hubReply_cases with same | ⟨device, inside, message, passed⟩
  · rw [same]
    exact homeward
  · have carried := passed.carried?
    have taken := passed.left
    rw [Terminal.peer_peer] at carried taken
    obtain ⟨left, right, place⟩ := List.append_of_mem inside
    refine homeward.of_layout layout (fun other member a engaged => ?_) ?_ ?_
    · change other ∈ traffic.devices at member
      change a ∈ other.engaged (traffic.hub.reply traffic.bus) at engaged
      refine Or.inl ⟨other, member, rfl, ?_⟩
      rw [place, List.mem_append, List.mem_cons, or_left_comm, ← List.mem_append] at member
      rcases member with rfl | around
      · have call : (traffic.hub.reply traffic.bus).carried? other.terminal.peer
            = traffic.bus.carried? other.terminal.peer :=
          passed.apart _ (Terminal.ne_of_link (by
              simpa using (sound.device_apart inside).symm))
            (by rw [Terminal.peer_peer]; exact Terminal.peer_ne _)
        rw [Peripheral.engaged, taken, call] at engaged
        rw [Peripheral.engaged]
        exact List.mem_append_right _ (by simpa [Message.answeredBy] using engaged)
      · rwa [Peripheral.engaged_of_still (passed.still
          (by rw [Terminal.link_peer]; exact sound.wired.device_link_ne_device place around)
          (by
            rw [Terminal.link_peer]
            refine (sound.device_apart ?_).symm
            rw [place, List.mem_append, List.mem_cons]
            exact (List.mem_append.mp around).imp id Or.inr))] at engaged
    · intro other here
      rw [passed.sent, Option.some.injEq] at here
      refine Or.inr fun address answered _ => ⟨device.seat, List.mem_map_of_mem inside, ?_⟩
      refine homeward.devices device inside address (List.mem_append_left _ ?_)
      rw [carried, here, Message.answeredBy, Option.bind_some, answered]
      simp
    · intro core member other here
      rw [(passed.still
        (by
          rw [Terminal.link_peer]
          exact (sound.wired.device_link_ne_core inside member).symm)
        (by
          rw [Terminal.link_peer]
          exact sound.wired.core_link_ne_target member .devices)).2] at here
      exact Or.inl here

/-- A device has its turn, or its host does something to it. -/
lemma device_turn {left right : List Peripheral} {device other : Peripheral}
    (homeward : traffic.Homeward) (sound : traffic.Sound)
    (place : traffic.devices = left ++ device :: right)
    (layout : traffic.Layout { traffic with bus := after, devices := left ++ other :: right })
    (seat : other.seat = device.seat)
    (still : ∀ a : Terminal, a.link ≠ device.terminal.link → traffic.bus.Still after a)
    (engaged : other.engaged after = device.engaged traffic.bus) :
    Homeward { traffic with bus := after, devices := left ++ other :: right } := by
  have inside : device ∈ traffic.devices := by simp [place]
  refine homeward.of_layout layout (fun third member address here => Or.inl ?_) ?_ ?_
  · simp only [List.mem_append, List.mem_cons] at member
    rw [or_left_comm, ← List.mem_append] at member
    rcases member with rfl | around
    · exact ⟨device, inside, seat.symm, engaged ▸ here⟩
    · refine ⟨third, ?_, rfl, ?_⟩
      · rw [place, List.mem_append, List.mem_cons]
        exact (List.mem_append.mp around).imp id Or.inr
      · rwa [Peripheral.engaged_of_still
          (still _ (sound.wired.device_link_ne_device place around))] at here
  · intro message carried
    rw [(still _ (sound.device_apart inside)).2] at carried
    exact Or.inl carried
  · intro core member message carried
    rw [(still _ (sound.wired.device_link_ne_core inside member).symm).2] at carried
    exact Or.inl carried

/-- A move keeps answers homeward. -/
theorem move (homeward : traffic.Homeward) (sound : traffic.Sound) (regular : traffic.Regular)
    (directed : traffic.Directed) (move : Move traffic later) : later.Homeward := by
  have layout := move.layout
  cases move with
  | core left right core after counters rest breakpoint place ticked =>
    have member : core ∈ traffic.cores := by simp [place]
    obtain ⟨-, taken, sent, handled⟩ := (sound.lanes core member).tick ticked
    refine homeward.of_quiet layout rfl (fun device inside => handled.still ?_) ?_ ?_
    · exact sound.wired.device_link_ne_core inside member
    · intro message carried
      rwa [(handled.still (sound.wired.core_link_ne_target member .devices).symm).2] at carried
    · intro other inside message carried
      by_cases same : other.terminal = core.terminal
      · rw [same] at carried ⊢
        rw [handled.carried?_peer] at carried
        split at carried
        · contradiction
        · exact Or.inl carried
      · rw [(handled.still (sound.wired.core_link_ne_of_ne member inside same)).2] at carried
        exact Or.inl carried
  | request terminal attached =>
    obtain ⟨core, member, rfl⟩ := sound.wired.exists_core attached
    have lane := sound.lanes core member
    have apart := sound.wired.core_peer_link_ne_target member
    rcases sound.request_cases member with same | ⟨target, message, after, passed, goes, result⟩
    · rw [same]
      exact homeward
    · rw [result] at layout ⊢
      refine homeward.of_quiet layout rfl (fun device inside => passed.still ?_ ?_) ?_ ?_
      · exact sound.wired.device_link_ne inside
          (Router.mem_ends_of_mem_cores (sound.wired.peer_mem_cores member))
      · exact sound.wired.device_link_ne inside (traffic.router.terminal_mem_ends target)
      · intro other carried
        rwa [passed.apart _ (sound.wired.way_ne_peer (traffic.target_mem_ways .devices)
            (traffic.target_mem_ways target)).symm
          (Terminal.ne_of_link (by simpa using (apart .devices).symm))] at carried
      · intro other inside message carried
        rw [passed.apart _ (sound.wired.way_ne_peer (core_mem_ways inside)
            (traffic.target_mem_ways target)).symm (by
              rw [Terminal.peer_peer]
              exact (sound.wired.way_ne_peer (core_mem_ways inside)
                (core_mem_ways member)).symm)] at carried
        exact Or.inl carried
  | reply target => exact homeward.reply_turn sound target
  | controller =>
    refine homeward.of_away sound layout rfl .controller (by simp) fun a away => ?_
    rw [← sound.wired.controller_link] at away
    exact (Peripheral.controller traffic.controller traffic.lines).still_tick traffic.bus away
  | ram =>
    refine homeward.of_away sound layout rfl .memory (by simp) fun a away => ?_
    rw [← sound.wired.ram_link] at away
    exact (Peripheral.ram traffic.ram).still_tick traffic.bus away
  | hubRequest => exact homeward.hubRequest_turn sound regular directed
  | hubReply => exact homeward.hubReply_turn sound
  | device left right device place =>
    exact homeward.device_turn sound place layout (device.seat_tick traffic.bus)
      (fun a away => device.still_tick traffic.bus away) (device.engaged_tick traffic.bus)
  | links =>
    refine homeward.of_quiet layout rfl (fun _ _ => still_tick _ _) ?_ ?_ <;>
      simp only [carried?_tick]
    · exact fun _ => id
    · exact fun _ _ _ => Or.inl
  | load | raise =>
    exact homeward.of_quiet layout rfl (fun _ _ => still_self _ _) (fun _ => id)
      fun _ _ _ => Or.inl
  | host left right device action place =>
    exact homeward.device_turn sound place layout (device.seat_host action)
      (fun a _ => still_self _ a) (device.engaged_host action _)

theorem moves (homeward : traffic.Homeward) (sound : traffic.Sound) (regular : traffic.Regular)
    (directed : traffic.Directed) (moves : Moves traffic later) : later.Homeward := by
  induction moves with
  | refl => exact homeward
  | tail before move previous =>
    exact previous.move (sound.moves before) (regular.moves before)
      (directed.moves regular before) move

end Homeward

lemma AtRest.homeward (rest : traffic.AtRest) : traffic.Homeward where
  devices device member address engaged := by
    rw [Peripheral.engaged_of_idle rest.idle (rest.devices device member)] at engaged
    contradiction
  uplink message carried := by
    rw [rest.idle] at carried
    contradiction
  cores core member message carried := by
    rw [rest.idle] at carried
    contradiction

end Traffic

end PipelinedMachine
