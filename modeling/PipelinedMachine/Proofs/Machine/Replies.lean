import PipelinedMachine.Proofs.Core.Search
import PipelinedMachine.Proofs.Machine.Sound

/-!
# The answers that come back from the controller

The interrupt controller answers its reads one after the other, and the router hands the answers out
in that order.  So the answers that a core is to get from it form a queue: those that have come as
far as the core's link, those that the controller has given, and those that it has yet to give.  A
core's own turn apart, the queue only grows at its end, and an answer that is given holds the word
as it stands in the vector table at that moment.

* `Peripheral.promises` — the values of the answers that a device has given and has yet to give;
* `Router.claims` — those of them that belong to the reads of one core at one address;
* `Traffic.replies` — the queue of a core;
* `Traffic.Grown` — what can happen to it;
* `Traffic.Sound.replies_of_still`, `Traffic.Sound.replies_request`, `Traffic.Sound.replies_reply`,
  `Traffic.Sound.replies_controller` — **what the turns of the others do to it**.
-/

namespace PipelinedMachine

open Interconnect

/-! ## What a device has promised -/

namespace Peripheral

variable {device : Peripheral} {bus after : Interconnect} {source core : Terminal}
  {message : Message} {reads : List Word}

/-- The values of the answers to come from a device, in their order.  There is none yet for a read
that is still on its way. -/
def promises (device : Peripheral) (bus : Interconnect) : List (Option Word) :=
  ((bus.carried? device.terminal).toList ++ device.owed).map (fun answer => some answer.value)
    ++ ((bus.carried? device.terminal.peer).bind device.due?).toList.map fun _ => none

lemma promises_of_still (still : bus.Still after device.terminal) :
    device.promises after = device.promises bus := by
  rw [promises, promises, still.1, still.2]

/-- There is one for each read that is remembered. -/
lemma Keeps.length_promises (keeps : device.Keeps bus reads) :
    (device.promises bus).length = reads.length := by
  have back : (Message.answeredBy (bus.carried? device.terminal)).length
      = (bus.carried? device.terminal).toList.length := by
    cases carried : bus.carried? device.terminal with
    | none => rfl
    | some message =>
      obtain ⟨address, rest, answered, -⟩ := keeps.exists_of_carried? carried
      simp [Message.answeredBy, answered]
  have owed : (device.owed.filterMap Message.answered?).length = device.owed.length :=
    List.filterMap_length_eq_length.mpr fun message member =>
      Option.isSome_iff_ne_none.mpr (keeps.orderly.owed message member)
  rw [keeps.balance, engaged, promises]
  simp only [List.length_append, List.length_map]
  omega

/-- In its turn a plain device answers the message that it takes, and nothing else changes. -/
lemma promises_tick (device : Peripheral) (plain : device.Plain) (bus : Interconnect) :
    (device.tick bus).1.promises (device.tick bus).2 = device.promises bus
      ∨ ∃ kept address message answer, device.answer? bus message = some answer
        ∧ device.due? message = some address
        ∧ (∃ engaged, device.engaged bus = engaged ++ [address])
        ∧ device.promises bus = kept ++ [none]
        ∧ (device.tick bus).1.promises (device.tick bus).2 = kept ++ [some answer.value] := by
  obtain ⟨taken, announced, answered, visit, quiet⟩ := device.exists_visit bus
  obtain rfl := quiet plain
  have out : ((device.tick bus).2.carried? device.terminal).toList ++ (device.tick bus).1.owed
      = ((bus.carried? device.terminal).toList ++ device.owed)
        ++ (taken.bind (device.answer? bus)).toList := by
    rw [visit.handled.carried?_near, List.append_assoc, visit.settled, ← List.append_assoc]
    cases answered with
    | none => simp
    | some message => simp [visit.handled.carried?_of_sent.1]
  rw [promises, promises, terminal_tick, due?_tick, out, visit.handled.carried?_peer]
  cases taken with
  | none => exact Or.inl (by simp)
  | some message =>
    have carried := visit.handled.carried?_of_taken
    have due := device.answered?_answer? bus message
    rw [carried]
    cases answers : device.answer? bus message with
    | none =>
      rw [answers, Option.bind_none] at due
      exact Or.inl (by simp [answers, ← due])
    | some answer =>
      obtain ⟨address, heeded⟩ := Option.ne_none_iff_exists'.mp (answered?_ne_none answers)
      rw [answers, Option.bind_some, heeded] at due
      refine Or.inr ⟨((bus.carried? device.terminal).toList ++ device.owed).map fun answer =>
          some answer.value, address, message, answer, answers, due.symm,
        ⟨Message.answeredBy (bus.carried? device.terminal)
          ++ device.owed.filterMap Message.answered?, ?_⟩, ?_, ?_⟩
      · rw [engaged, carried, Option.bind_some, ← due, Option.toList_some, List.append_assoc]
      · simp [← due]
      · simp [answers]

/-- A message is passed on to the device. -/
lemma promises_forward (passed : Passed source device.terminal.peer message bus after)
    (apart : source.link ≠ device.terminal.link) :
    device.promises after
      = device.promises bus ++ (device.due? message).toList.map fun _ => none := by
  have back : after.carried? device.terminal = bus.carried? device.terminal := by
    simpa using passed.carried?_peer_target (by rwa [Terminal.link_peer])
  rw [promises, promises, back, passed.sent, passed.free]
  simp

/-- What the device has sent is passed on. -/
lemma promises_reply (passed : Passed device.terminal.peer core message bus after)
    (apart : core.link ≠ device.terminal.link) :
    device.promises bus = some message.value :: device.promises after := by
  have carried := passed.carried?
  have left := passed.left
  rw [Terminal.peer_peer] at carried left
  have forth : after.carried? device.terminal.peer = bus.carried? device.terminal.peer :=
    passed.carried?_source (by rw [Terminal.link_peer]; exact apart.symm)
  rw [promises, promises, carried, left, forth]
  rfl

lemma promises_host (device : Peripheral) (action : HostAction) (bus : Interconnect) :
    (device.host action).promises bus = device.promises bus := by
  obtain ⟨terminal, owed, due⟩ := device.host_eq action
  rw [promises, promises, terminal, owed, due]

end Peripheral

/-! ## What the router remembers -/

namespace Router

variable {entries more : List PendingRead} {promises more' : List (Option Word)}
  {core : Terminal} {address : Word}

/-- Of the values of answers to come, those that belong to the reads of a core at an address.  The
reads are given in the order of the answers. -/
def claims (entries : List PendingRead) (promises : List (Option Word)) (core : Terminal)
    (address : Word) : List (Option Word) :=
  ((entries.zip promises).filter fun pair =>
    pair.1.core = core ∧ pair.1.address = address).map Prod.snd

lemma claims_append (same : entries.length = promises.length) :
    claims (entries ++ more) (promises ++ more') core address
      = claims entries promises core address ++ claims more more' core address := by
  simp [claims, List.zip_append same]

lemma claims_cons (read : PendingRead) (value : Option Word) :
    claims (read :: entries) (value :: promises) core address
      = (if read.core = core ∧ read.address = address then [value] else [])
        ++ claims entries promises core address := by
  rw [claims, List.zip_cons_cons, List.filter_cons]
  split_ifs <;> simp_all [claims]

@[simp] lemma claims_nil : claims [] promises core address = [] := rfl

lemma length_claims_le (entries : List PendingRead) (promises : List (Option Word))
    (core : Terminal) (address : Word) :
    (claims entries promises core address).length ≤ (owedTo entries core).count address := by
  induction entries generalizing promises with
  | nil => simp
  | cons read entries ih =>
    cases promises with
    | nil => simp [claims]
    | cons value promises =>
      have rest := ih promises
      rw [claims_cons, owedTo_cons]
      split_ifs <;> simp_all

end Router

/-! ## The queue of a core -/

namespace Traffic

/-- The reads that the router remembers of the controller. -/
def questions (traffic : Traffic) : List PendingRead :=
  traffic.router.pending.filter fun read => read.target = traffic.router.terminal .controller

/-- The values of the answers to come from the controller. -/
def promises (traffic : Traffic) : List (Option Word) :=
  (Peripheral.controller traffic.controller traffic.lines).promises traffic.bus

/-- The value of the answer to a read of `address` that is on its way over the link of a core. -/
def arriving (bus : Interconnect) (near : Terminal) (address : Word) : List (Option Word) :=
  ((bus.carried? near.peer).filter fun message => message.answered? = some address).toList.map
    fun message => some message.value

/-- The values of the answers to come from the controller to the reads of a core at an address, in
their order; there is none yet where the controller has not looked. -/
def replies (traffic : Traffic) (near : Terminal) (address : Word) : List (Option Word) :=
  arriving traffic.bus near address
    ++ Router.claims traffic.questions traffic.promises near.peer address

/-- Everything that the turns of the others can do to the queue of a core. -/
inductive Grown (value : Word) (replies : List (Option Word)) : List (Option Word) → Prop where
  | same : Grown value replies replies
  /-- A read is passed on. -/
  | asked : Grown value replies (replies ++ [none])
  /-- The controller gives the answer to the last of the reads. -/
  | answered (kept : List (Option Word)) (waiting : replies = kept ++ [none]) :
      Grown value replies (kept ++ [some value])

lemma Grown.of_eq {value : Word} {replies later : List (Option Word)} (same : later = replies) :
    Grown value replies later := by
  rw [same]
  exact .same

variable {traffic after : Traffic} {bus : Interconnect} {core : Core} {address : Word}
  {near : Terminal}

lemma arriving_of_still (still : traffic.bus.Still bus near) :
    arriving bus near address = arriving traffic.bus near address := by
  rw [arriving, arriving, still.2]

namespace Sound

lemma length_questions (sound : traffic.Sound) :
    traffic.questions.length = traffic.promises.length := by
  have length := sound.controller.length_promises
  rw [sent, Router.sentTo, List.length_map] at length
  exact length.symm

/-- A turn that leaves the links of the core and of the controller alone. -/
lemma replies_of_still (router : after.router = traffic.router)
    (controller : after.controller = traffic.controller)
    (here : traffic.bus.Still after.bus near)
    (there : traffic.bus.Still after.bus traffic.controller.terminal) :
    after.replies near address = traffic.replies near address := by
  have promises : after.promises = traffic.promises := by
    rw [Traffic.promises, controller]
    exact Peripheral.promises_of_still there
  rw [replies, replies, promises, questions, questions, router, arriving_of_still here]

/-- A message is passed on that comes from one core, or goes to it, or neither: what is on its way
to another core stays there. -/
lemma arriving_of_passed {source target : Terminal} {message : Message}
    (passed : Passed source target message traffic.bus bus) (away : near.peer ≠ target)
    (apart : near.peer ≠ source.peer) :
    arriving bus near address = arriving traffic.bus near address := by
  rw [arriving, arriving, passed.apart _ away apart]

lemma controller_place (sound : traffic.Sound) : traffic.router.terminal .controller
    = (Peripheral.controller traffic.controller traffic.lines).terminal.peer := by
  change _ = traffic.controller.terminal.peer
  rw [sound.wired.controller, Terminal.peer_peer]

/-- Only what is passed on to the controller gives it something to answer. -/
lemma promises_of_passed {source : Terminal} {target : Target} {message : Message}
    (sound : traffic.Sound)
    (passed : Passed source (traffic.router.terminal target) message traffic.bus bus)
    (away : source.link ≠ (traffic.router.terminal .controller).link) :
    (Peripheral.controller traffic.controller traffic.lines).promises bus
      = traffic.promises ++ if target = .controller
        then ((Peripheral.controller traffic.controller traffic.lines).due? message).toList.map
          fun _ => none
        else [] := by
  by_cases same : target = .controller
  · subst same
    rw [if_pos rfl]
    have place := sound.controller_place
    refine Peripheral.promises_forward (by rwa [← place]) ?_
    rwa [← (Peripheral.controller traffic.controller traffic.lines).terminal.link_peer, ← place]
  · rw [if_neg same, List.append_nil]
    refine Peripheral.promises_of_still ?_
    change traffic.bus.Still bus traffic.controller.terminal
    rw [sound.wired.controller]
    exact (passed.still away.symm (sound.wired.target_link_ne (Ne.symm same))).peer

/-- The turn of the link to a core. -/
lemma replies_request {terminal : Terminal} (sound : traffic.Sound) (member : core ∈ traffic.cores)
    (attached : terminal ∈ traffic.router.cores)
    (router : after.router = (traffic.router.request traffic.bus terminal).1)
    (bus : after.bus = (traffic.router.request traffic.bus terminal).2)
    (controller : after.controller = traffic.controller) (value address : Word) :
    Grown value (traffic.replies core.terminal address) (after.replies core.terminal address) := by
  obtain ⟨other, inside, rfl⟩ := sound.wired.exists_core attached
  have lane := sound.lanes other inside
  have apart := sound.wired.core_peer_link_ne_target inside
  rcases sound.request_cases inside with same | ⟨target, message, later, passed, goes, result⟩
  · rw [same] at router bus
    exact .of_eq (replies_of_still router controller (by rw [bus]; exact still_self _ _)
      (by rw [bus]; exact still_self _ _))
  rw [result] at router bus
  have carried := passed.carried?
  rw [Terminal.peer_peer] at carried
  have heeds : (Peripheral.controller traffic.controller traffic.lines).due? message
      = message.asked? :=
    Peripheral.Plain.due?_eq trivial fun _ => (lane.up message carried).address
  have here : arriving after.bus core.terminal address
      = arriving traffic.bus core.terminal address := by
    rw [bus]
    refine arriving_of_passed passed (Terminal.ne_of_link ?_) ?_
    · rw [Terminal.link_peer]
      exact sound.wired.core_link_ne_target member target
    · rw [Terminal.peer_peer]
      by_cases same : core.terminal = other.terminal
      · rw [same]
        exact other.terminal.peer_ne
      · refine Terminal.ne_of_link ?_
        rw [Terminal.link_peer]
        exact sound.wired.core_link_ne_of_ne inside member same
  have promises : after.promises = traffic.promises
      ++ if target = .controller then message.asked?.toList.map fun _ => none else [] := by
    rw [Traffic.promises, controller, bus, ← heeds]
    exact sound.promises_of_passed passed (apart .controller)
  have questions : after.questions = traffic.questions ++ if target = .controller
      then (Router.noted? other.terminal.peer (traffic.router.terminal target) message).toList
      else [] := by
    rw [Traffic.questions, router, List.filter_append, Router.noted?]
    refine congrArg (traffic.questions ++ ·) ?_
    by_cases same : target = .controller
    · subst same
      cases message.asked? <;> simp [Router.terminal]
    · have away := sound.wired.router.terminal_ne same
      cases message.asked? with
      | none => simp
      | some asked =>
        rw [if_neg same, Option.map_some, Option.toList_some, List.filter_cons_of_neg]
        · rfl
        · simpa using away
  rw [replies, replies, here, promises, questions, Router.claims_append sound.length_questions,
    ← List.append_assoc]
  split
  · rw [Router.noted?]
    cases message.asked? with
    | none => simpa using Grown.same
    | some asked =>
      simp only [Option.map_some, Option.toList_some, List.map_cons, List.map_nil,
        Router.claims_cons, Router.claims_nil, List.append_nil]
      split
      · exact .asked
      · simpa using Grown.same
  · simpa using Grown.same

/-- The router hands out an answer: it was the first of those to come from its source, and is on its
way to the core whose read it fits. -/
lemma replies_answer {target : Target} {message : Message} {read : PendingRead}
    {before rest : List PendingRead} {address : Word} (sound : traffic.Sound)
    (member : core ∈ traffic.cores)
    (passed : Passed (traffic.router.terminal target) read.core message traffic.bus after.bus)
    (answered : message.answered? = some read.address)
    (split : traffic.router.pending = before ++ read :: rest)
    (source : read.target = traffic.router.terminal target)
    (unfit : ∀ other ∈ before, other.target = traffic.router.terminal target →
      other.address ≠ read.address)
    (router : after.router = { traffic.router with pending := before ++ rest })
    (controller : after.controller = traffic.controller)
    (goes : Router.targetOf address = .controller) :
    after.replies core.terminal address = traffic.replies core.terminal address := by
  have entry : read ∈ traffic.router.pending := by simp [split]
  obtain ⟨owner, inside, own⟩ := sound.wired.exists_core (sound.entries read entry).1
  have apart (other : Target) : read.core.link ≠ (traffic.router.terminal other).link := by
    rw [own, Terminal.link_peer]
    exact sound.wired.core_link_ne_target inside other
  have came : arriving after.bus core.terminal address
      = arriving traffic.bus core.terminal address
        ++ if read.core = core.terminal.peer ∧ read.address = address then [some message.value]
          else [] := by
    by_cases here : read.core = core.terminal.peer
    · have sent := passed.sent
      have free := passed.free
      rw [here] at sent free
      rw [arriving, arriving, sent, free, Option.filter_some, answered]
      by_cases same : read.address = address <;> simp [here, same]
    · rw [if_neg (fun both => here both.1), List.append_nil]
      refine arriving_of_passed passed (Ne.symm here) (Terminal.ne_of_link ?_)
      rw [Terminal.link_peer, Terminal.link_peer]
      exact sound.wired.core_link_ne_target member target
  rw [replies, replies, came, List.append_assoc]
  refine congrArg (arriving traffic.bus core.terminal address ++ ·) ?_
  by_cases same : target = .controller
  · subst same
    -- the answer is to the first of the reads that the router remembers of the controller
    have first : before.filter (fun read => read.target = traffic.router.terminal .controller)
        = [] := by
      have carried := passed.carried?
      rw [← sound.wired.controller] at carried
      obtain ⟨address, others, answered', head⟩ := sound.controller.exists_of_carried? carried
      obtain rfl := Option.some.inj (answered.symm.trans answered')
      rw [sent, split] at head
      exact List.map_eq_nil_iff.mp (Router.sentTo_eq_nil_of_head unfit head)
    have left : after.questions
        = rest.filter fun read => read.target = traffic.router.terminal .controller := by
      rw [Traffic.questions, router, List.filter_append]
      exact congrArg (· ++ _) first
    have questions : traffic.questions = read :: after.questions := by
      rw [left, Traffic.questions, split, List.filter_append, first, List.nil_append,
        List.filter_cons_of_pos (by simpa using source)]
    have promises : traffic.promises = some message.value :: after.promises := by
      have place := sound.controller_place
      rw [place] at passed
      have reply := Peripheral.promises_reply passed (by
        rw [← (Peripheral.controller traffic.controller traffic.lines).terminal.link_peer, ← place]
        exact apart .controller)
      rw [Traffic.promises, Traffic.promises, controller]
      exact reply
    rw [questions, promises, Router.claims_cons]
  · have other : read.address ≠ address := fun equal => by
      have target' := (sound.entries read entry).2
      rw [equal, goes] at target'
      exact sound.wired.router.terminal_ne same (source.symm.trans target')
    have away : read.target ≠ traffic.router.terminal .controller := by
      rw [source]
      exact sound.wired.router.terminal_ne same
    have questions : after.questions = traffic.questions := by
      rw [Traffic.questions, Traffic.questions, split, router, List.filter_append,
        List.filter_append, List.filter_cons_of_neg (by simpa using away)]
      rfl
    have promises : after.promises = traffic.promises := by
      rw [Traffic.promises, controller]
      refine Peripheral.promises_of_still ?_
      change traffic.bus.Still after.bus traffic.controller.terminal
      rw [sound.wired.controller]
      exact (passed.still (sound.wired.target_link_ne (Ne.symm same)) (apart .controller).symm).peer
    rw [if_neg (fun both => other both.2), List.nil_append, questions, promises]

/-- The turn of a link that answers come from. -/
lemma replies_reply {address : Word} (sound : traffic.Sound) (member : core ∈ traffic.cores)
    (target : Target)
    (router : after.router = (traffic.router.replyFrom traffic.bus target).1)
    (bus : after.bus = (traffic.router.replyFrom traffic.bus target).2)
    (controller : after.controller = traffic.controller)
    (goes : Router.targetOf address = .controller) :
    after.replies core.terminal address = traffic.replies core.terminal address := by
  rcases sound.replyFrom_cases target with
    same | ⟨message, later, rfl, interrupt, passed, result⟩
      | ⟨before, read, rest, message, later, passed, answered, split, source, unfit, result⟩
  · rw [same] at router bus
    exact replies_of_still router controller (by rw [bus]; exact still_self _ _)
      (by rw [bus]; exact still_self _ _)
  · rw [result] at router bus
    have unasked : (Peripheral.controller traffic.controller traffic.lines).due? message
        = none := by
      rw [Peripheral.due?, interrupt]
      rfl
    have promises : after.promises = traffic.promises := by
      have more : (Peripheral.controller traffic.controller traffic.lines).promises later
          = _ := sound.promises_of_passed passed (sound.wired.target_link_ne (by simp))
      rw [unasked, if_pos rfl, Option.toList_none, List.map_nil, List.append_nil] at more
      rw [Traffic.promises, controller, bus]
      exact more
    have here : arriving after.bus core.terminal address
        = arriving traffic.bus core.terminal address := by
      rw [bus]
      refine arriving_of_passed passed (Terminal.ne_of_link ?_) (Terminal.ne_of_link ?_)
      · rw [Terminal.link_peer]
        exact sound.wired.core_link_ne_target member .controller
      · rw [Terminal.link_peer, Terminal.link_peer]
        exact sound.wired.core_link_ne_target member .devices
    rw [replies, replies, here, promises, questions, questions, router]
  · rw [result] at router bus
    refine sound.replies_answer member (by rwa [bus]) answered split source unfit router controller
      goes

/-- The turn of the controller: the answer that it gives holds the word as it stands in the
table. -/
lemma replies_controller (sound : traffic.Sound) (member : core ∈ traffic.cores) (address : Word) :
    Grown (traffic.controller.vector address) (traffic.replies core.terminal address)
      (traffic.controlled.replies core.terminal address) := by
  have here : traffic.bus.Still traffic.controlled.bus core.terminal := by
    refine (Peripheral.controller traffic.controller traffic.lines).still_tick traffic.bus ?_
    change core.terminal.link ≠ traffic.controller.terminal.link
    rw [sound.wired.controller_link]
    exact sound.wired.core_link_ne_target member .controller
  have questions : traffic.controlled.questions = traffic.questions := rfl
  have length := sound.length_questions
  rw [replies, replies, arriving_of_still here, questions]
  rcases (Peripheral.controller traffic.controller traffic.lines).promises_tick trivial
    traffic.bus with
    same | ⟨kept, asked, message, answer, answers, due, ⟨engaged, order⟩, before, now⟩
  · have promises : traffic.controlled.promises = traffic.promises := same
    rw [promises]
    exact .same
  · have before : traffic.promises = kept ++ [none] := before
    have now : traffic.controlled.promises = kept ++ [some answer.value] := now
    -- the read that is answered is the last of those remembered
    have balance : traffic.questions.map PendingRead.address = engaged ++ [asked] :=
      sound.controller.balance.trans order
    obtain ⟨first, last, split, -, final⟩ := List.map_eq_append_iff.mp balance
    obtain ⟨read, rfl, rfl⟩ := List.map_eq_singleton_iff.mp final
    have same : first.length = kept.length := by
      rw [split, before, List.length_append, List.length_append] at length
      simpa using length
    have value : answer.value = traffic.controller.vector read.address := by
      simp only [Peripheral.answer?, InterruptController.answer?] at answers
      split_ifs at answers with kind
      rw [Peripheral.due?, if_pos kind] at due
      rw [← Option.some.inj answers, ← Option.some.inj due]
      rfl
    rw [now, before, split, Router.claims_append same, Router.claims_append same]
    simp only [Router.claims_cons, Router.claims_nil, List.append_nil, ← List.append_assoc]
    split_ifs with own
    · rw [value, own.2]
      exact .answered _ rfl
    · simpa using Grown.same

/-! ## Every move -/

/-- What happens at the hub concerns its own links only. -/
lemma still_hubRequest (sound : traffic.Sound) {a : Terminal}
    (away : a.link ≠ (traffic.router.terminal .devices).link)
    (apart : ∀ device ∈ traffic.devices, a.link ≠ device.terminal.link) :
    traffic.bus.Still (traffic.hub.request traffic.bus) a := by
  rcases sound.hubRequest_cases with
    same | ⟨-, drops⟩ | ⟨device, inside, message, address, -, -, passed⟩
  · rw [same]
    exact still_self _ a
  · rw [drops]
    constructor <;> refine carried?_clear_of_ne (Terminal.ne_of_link ?_) <;> simpa using away
  · refine passed.still ?_ ?_
    · rwa [Terminal.link_peer]
    · rw [Terminal.link_peer]
      exact apart device inside

lemma still_hubReply (sound : traffic.Sound) {a : Terminal}
    (away : a.link ≠ (traffic.router.terminal .devices).link)
    (apart : ∀ device ∈ traffic.devices, a.link ≠ device.terminal.link) :
    traffic.bus.Still (traffic.hub.reply traffic.bus) a := by
  rcases sound.hubReply_cases with same | ⟨device, inside, message, passed⟩
  · rw [same]
    exact still_self _ a
  · refine passed.still ?_ ?_
    · rw [Terminal.link_peer]
      exact apart device inside
    · rwa [Terminal.link_peer]

/-- **A move is the boot core's own turn, or it leaves the core alone and its queue only grows.** -/
theorem replies_move {others : List Core} {address : Word} (sound : traffic.Sound)
    (place : traffic.cores = core :: others) (goes : Router.targetOf address = .controller)
    (move : Move traffic after) :
    (∃ later counters rest breakpoint,
        core.tick ⟨traffic.bus, traffic.lines, counters⟩ = (later, rest, .ok breakpoint)
          ∧ after
            = { traffic with cores := later :: others, bus := rest.bus, lines := rest.lines })
      ∨ after.cores.head? = some core ∧ Grown (traffic.controller.vector address)
          (traffic.replies core.terminal address) (after.replies core.terminal address) := by
  have member : core ∈ traffic.cores := by simp [place]
  have head : traffic.cores.head? = some core := by simp [place]
  have away := sound.wired.core_link_ne_target member
  have apart (device : Peripheral) (inside : device ∈ traffic.devices) :=
    sound.wired.device_link_ne_core inside member
  have away' {target : Target} (different : Target.controller ≠ target) :
      traffic.controller.terminal.link ≠ (traffic.router.terminal target).link := by
    rw [sound.wired.controller_link]
    exact sound.wired.target_link_ne different
  have apart' (device : Peripheral) (inside : device ∈ traffic.devices) :
      traffic.controller.terminal.link ≠ device.terminal.link := by
    rw [sound.wired.controller_link]
    exact (sound.wired.device_link_ne inside (traffic.router.terminal_mem_ends .controller)).symm
  have same {later : Traffic} (heads : later.cores.head? = some core)
      (router : later.router = traffic.router) (controller : later.controller = traffic.controller)
      (here : traffic.bus.Still later.bus core.terminal)
      (there : traffic.bus.Still later.bus traffic.controller.terminal) :
      later.cores.head? = some core ∧ Grown (traffic.controller.vector address)
        (traffic.replies core.terminal address) (later.replies core.terminal address) := by
    exact ⟨heads, .of_eq (replies_of_still router controller here there)⟩
  cases move with
  | core left right other later counters rest breakpoint place' ticked =>
    cases left with
    | nil =>
      obtain ⟨rfl, rfl⟩ := List.cons.inj (place.symm.trans place')
      exact Or.inl ⟨later, counters, rest, breakpoint, ticked, rfl⟩
    | cons first left =>
      obtain ⟨rfl, -⟩ := List.cons.inj (place.symm.trans place')
      have inside : other ∈ traffic.cores := by simp [place']
      obtain ⟨-, taken, sent, handled⟩ := (sound.lanes other inside).tick ticked
      refine Or.inr (same rfl rfl rfl (handled.still ?_) (handled.still ?_))
      · exact sound.wired.core_link_ne place' (by simp)
      · rw [sound.wired.controller_link]
        exact (sound.wired.core_link_ne_target inside .controller).symm
  | request terminal attached =>
    refine Or.inr ⟨head, sound.replies_request member attached ?_ ?_ ?_ _ address⟩ <;> rfl
  | reply target =>
    refine Or.inr ⟨head, .of_eq (sound.replies_reply member target ?_ ?_ ?_ goes)⟩ <;> rfl
  | controller => exact Or.inr ⟨head, sound.replies_controller member address⟩
  | ram =>
    have still {a : Terminal} (apart : a.link ≠ traffic.ram.terminal.link) :=
      (Peripheral.ram traffic.ram).still_tick traffic.bus apart
    rw [sound.wired.ram_link] at still
    exact Or.inr (same head rfl rfl (still (away .memory)) (still (away' (by simp))))
  | hubRequest =>
    exact Or.inr (same head rfl rfl
      (sound.still_hubRequest (away .devices) fun device inside => (apart device inside).symm)
      (sound.still_hubRequest (away' (by simp)) apart'))
  | hubReply =>
    exact Or.inr (same head rfl rfl
      (sound.still_hubReply (away .devices) fun device inside => (apart device inside).symm)
      (sound.still_hubReply (away' (by simp)) apart'))
  | device left right device place' =>
    have inside : device ∈ traffic.devices := by simp [place']
    exact Or.inr (same head rfl rfl (device.still_tick traffic.bus (apart device inside).symm)
      (device.still_tick traffic.bus (apart' device inside)))
  | links => exact Or.inr (same head rfl rfl (still_tick _ _) (still_tick _ _))
  | load | host => exact Or.inr (same head rfl rfl (still_self _ _) (still_self _ _))
  | raise id =>
    refine Or.inr ⟨head, .of_eq ?_⟩
    have promises := (Peripheral.controller traffic.controller traffic.lines).promises_host
      (.raise id) traffic.bus
    exact congrArg (fun promises => arriving traffic.bus core.terminal address
      ++ Router.claims traffic.questions promises core.terminal.peer address) promises

end Sound

end Traffic

end PipelinedMachine
