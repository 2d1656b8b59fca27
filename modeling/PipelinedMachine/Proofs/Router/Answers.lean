import Mathlib.Data.List.Find
import Mathlib.Data.List.Induction
import Mathlib.Data.List.Infix
import Mathlib.Data.List.Nodup
import PipelinedMachine.Proofs.Router.Record

/-!
# Answers go back to the cores that asked

Any number of cores send requests through the router, and several of them may ask for the same
address at the same time.  The answers carry the address alone, so the router can only look among
the reads it remembers for one that fits.  It never gives an answer to another core, as long as it
is not made to forget a read.

* `Routed.Underway` — what the link of a target carries: nothing, an interrupt, or the answer to the
  oldest read of its address;
* `Routed.Kept` — **the invariant**: the router remembers exactly the reads on record that have not
  been answered;
* `Routed.Replies` — what the turn of a target's link does;
* `Routed.Kept.act` — **every action keeps the invariant**, and puts on the links to the cores
  exactly the answers that it takes off the record;
* `Routed.returns_run` — **every run**.
-/

namespace PipelinedMachine

/-! ## Erasing from a list -/

/-- Erasing the first element with a property is erasing the one that is found. -/
lemma eraseP_eq_erase {α : Type} [DecidableEq α] {p : α → Bool} {elements : List α} {a : α}
    (found : elements.find? p = some a) : elements.eraseP p = elements.erase a := by
  obtain ⟨here, first, rest, rfl, before⟩ := List.find?_eq_some_iff_append.mp found
  have missing : ∀ b ∈ first, ¬ p b = true := fun b member => by simpa using before b member
  have new : a ∉ first := fun member => missing a member here
  rw [List.eraseP_append_right _ missing, List.eraseP_cons_of_pos here,
    List.erase_append_right _ new, List.erase_cons_head]

/-- Erasing an element changes nothing for a search that it would not end. -/
lemma find?_erase {α : Type} [DecidableEq α] {p : α → Bool} {elements : List α} {a : α}
    (other : p a = false) : (elements.erase a).find? p = elements.find? p := by
  induction elements with
  | nil => rfl
  | cons first rest ih =>
    by_cases same : first = a
    · rw [same, List.erase_cons_head, List.find?_cons_of_neg (by simp [other])]
    · rw [List.erase_cons_tail (by simpa using same), List.find?_cons, List.find?_cons, ih]

namespace Routed

/-! ## The invariant -/

/-- Where the answers of a target are. -/
inductive Underway (routed : Routed) (target : Target) : Prop
  /-- No answer is on its way, and the link carries nothing or an interrupt. -/
  | idle
      (unsent : ∀ read ∈ routed.unanswered,
        isAnsweredBy (routed.router.terminal target) read = false)
      (link : ∀ message,
        routed.bus.carried? (routed.router.terminal target).peer = some message →
        target = .devices ∧ message.kind? = some .interrupt)
  /-- The link carries an answer, which is that to the oldest read of its address. -/
  | answering (read : Forwarded) (values : List Word)
      (oldest : (routed.unanswered.find? fun other =>
        other.fits (routed.router.terminal target) (some read.address)) = some read)
      (answer : read.answer = some (Message.response read.address values))
      (link : routed.bus.carried? (routed.router.terminal target).peer
        = some (Message.response read.address values))
      (only : ∀ other ∈ routed.unanswered,
        isAnsweredBy (routed.router.terminal target) other = true → other = read)

/-- The router remembers the reads that have not been answered, and the record agrees with what the
links carry. -/
structure Kept (routed : Routed) : Prop where
  wired : routed.router.Wired
  pending : routed.router.pending = routed.unanswered.map Forwarded.toPendingRead
  attached : ∀ read ∈ routed.unanswered, read.core ∈ routed.router.cores
  asks : ∀ read ∈ routed.returned ++ routed.unanswered, read.Asks
  underway : ∀ target, routed.Underway target
  once : ((routed.returned ++ routed.unanswered).map Forwarded.number).Perm
    (List.range routed.count)
  genuine : ∀ read ∈ routed.returned, ∃ values,
    read.answer = some (Message.response read.address values)

end Routed

/-- What the core gets that has asked. -/
def Forwarded.delivery (read : Forwarded) : Terminal × Message := (read.core, read.answer.getD [])

namespace Routed

variable {routed : Routed}

/-- What an action achieves: the record stays in order, and what it puts on the links to the cores
are the answers that it passes on. -/
structure Advances (routed after : Routed) (answered : List Forwarded) : Prop where
  kept : after.Kept
  returned : after.returned = routed.returned ++ answered
  received : after.received = routed.received
  put : put routed.router.cores routed.bus after.bus = answered.map Forwarded.delivery

lemma put_eq_nil {cores : List Terminal} {bus after : Interconnect}
    (silent : ∀ core ∈ cores,
      Message.newly? (bus.carried? core) (after.carried? core) = none) :
    put cores bus after = [] := by
  rw [put, List.filterMap_eq_nil_iff]
  intro core attached
  rw [silent core attached]
  rfl

lemma put_eq_singleton {cores : List Terminal} {bus after : Interconnect} {core : Terminal}
    {message : Message} (nodup : cores.Nodup) (attached : core ∈ cores)
    (free : bus.carried? core = none) (sent : after.carried? core = some message)
    (others : ∀ other ∈ cores, other ≠ core → after.carried? other = bus.carried? other) :
    put cores bus after = [(core, message)] := by
  obtain ⟨first, rest, rfl⟩ := List.append_of_mem attached
  have silent (part : List Terminal) (inside : ∀ other ∈ part, other ∈ first ++ core :: rest)
      (apart : core ∉ part) : put part bus after = [] := by
    refine put_eq_nil fun other member => ?_
    rw [others other (inside other member) (fun same => apart (same ▸ member)),
      Message.newly?_self]
  rw [List.nodup_append] at nodup
  obtain ⟨-, rest', apart⟩ := nodup
  have before : core ∉ first := fun member => apart core member core (by simp) rfl
  have behind : core ∉ rest := (List.nodup_cons.mp rest').1
  have one := silent first (fun other member => by simp [member]) before
  have two := silent rest (fun other member => by simp [member]) behind
  rw [put] at one two ⊢
  rw [List.filterMap_append, List.filterMap_cons, one, two, free, sent]
  rfl

/-- More reads that have not been answered do not matter, as long as the link carries what it
carried. -/
lemma Underway.extend {target : Target} (underway : routed.Underway target) {after : Routed}
    {asked : List Forwarded}
    (terminal : after.router.terminal target = routed.router.terminal target)
    (unanswered : after.unanswered = routed.unanswered ++ asked)
    (new : ∀ read ∈ asked, read.answer = none)
    (same : after.bus.carried? (routed.router.terminal target).peer
      = routed.bus.carried? (routed.router.terminal target).peer) : after.Underway target := by
  have unsent' : ∀ read ∈ asked, isAnsweredBy (routed.router.terminal target) read = false := by
    intro read member
    simp [isAnsweredBy, new read member]
  cases underway with
  | idle unsent link =>
    refine .idle ?_ ?_
    · intro read member
      rw [unanswered, List.mem_append] at member
      rw [terminal]
      exact member.elim (unsent read) (unsent' read)
    · rwa [terminal, same]
  | answering read values oldest answer link only =>
    refine .answering read values ?_ answer ?_ ?_
    · rw [terminal, unanswered, List.find?_append, oldest, Option.some_or]
    · rwa [terminal, same]
    · intro other member
      rw [unanswered, List.mem_append] at member
      rw [terminal]
      refine member.elim (only other) fun member sent => ?_
      rw [unsent' other member] at sent
      contradiction

lemma Underway.unsent {target : Target} (underway : routed.Underway target)
    (free : routed.bus.carried? (routed.router.terminal target).peer = none) :
    ∀ read ∈ routed.unanswered, isAnsweredBy (routed.router.terminal target) read = false := by
  cases underway with
  | idle unsent link => exact unsent
  | answering read values oldest answer link only =>
    rw [free] at link
    contradiction

/-- Links that are not between the router and a target, or that carry what they carried, do not
matter, and one more read may be remembered. -/
lemma Kept.extend (kept : routed.Kept) {bus : Interconnect} {asked : Option Forwarded}
    (still : ∀ target, bus.carried? (routed.router.terminal target).peer
      = routed.bus.carried? (routed.router.terminal target).peer)
    (silent : ∀ core ∈ routed.router.cores,
      Message.newly? (routed.bus.carried? core) (bus.carried? core) = none)
    (new : ∀ read ∈ asked, read.number = routed.count ∧ read.answer = none
      ∧ read.core ∈ routed.router.cores ∧ read.Asks) :
    routed.Advances
      { routed with
        router := { routed.router with
          pending := routed.router.pending ++ asked.toList.map Forwarded.toPendingRead }
        bus := bus
        unanswered := routed.unanswered ++ asked.toList
        count := routed.count + asked.toList.length } [] where
  kept := { kept with
    wired := ⟨kept.wired.nodup, kept.wired.facing⟩
    pending := by rw [kept.pending, List.map_append]
    attached := fun read member => by
      rw [List.mem_append, Option.mem_toList] at member
      exact member.elim (kept.attached read) fun asked => (new read asked).2.2.1
    asks := fun read member => by
      rw [← List.append_assoc, List.mem_append, Option.mem_toList] at member
      exact member.elim (kept.asks read) fun asked => (new read asked).2.2.2
    underway := fun target => (kept.underway target).extend (Router.terminal_pending _ _ _) rfl
      (fun read asked => (new read (by simpa using asked)).2.1) (still target)
    once := by
      cases asked with
      | none => simpa using kept.once
      | some read =>
        have added := kept.once.append_right [routed.count]
        rw [← List.range_succ] at added
        simpa [(new read rfl).1] using added }
  returned := (List.append_nil _).symm
  received := rfl
  put := put_eq_nil silent

lemma Kept.of_bus (kept : routed.Kept) {bus : Interconnect}
    (still : ∀ target, bus.carried? (routed.router.terminal target).peer
      = routed.bus.carried? (routed.router.terminal target).peer)
    (silent : ∀ core ∈ routed.router.cores,
      Message.newly? (routed.bus.carried? core) (bus.carried? core) = none) :
    routed.Advances { routed with bus := bus } [] := by
  have extended := @Kept.extend routed kept bus none still silent (by simp)
  simpa using extended

/-! ## What the other components do -/

lemma Kept.link (kept : routed.Kept) : routed.Advances { routed with bus := routed.bus.tick } [] :=
  kept.of_bus (fun _ => Interconnect.carried?_tick _) fun _ _ => by simp

/-- What is sent from the other end of a core's link does not matter. -/
lemma Kept.send (kept : routed.Kept) {core : Terminal} (attached : core ∈ routed.router.cores)
    (message : Message) :
    routed.Advances { routed with
      bus := (routed.bus.send? core.peer message).getD routed.bus } [] := by
  have inside := Router.mem_ends_of_mem_cores attached
  cases sent : routed.bus.send? core.peer message with
  | none => exact kept.of_bus (fun _ => rfl) fun _ _ => by simp
  | some after =>
    refine kept.of_bus (fun target => ?_) fun other member => ?_
    · refine Interconnect.carried?_of_send?_of_ne sent fun same => ?_
      exact kept.wired.core_ne_terminal attached target (Terminal.peer_inj.mp same).symm
    · have apart : other ≠ core.peer :=
        (kept.wired.peer_ne inside (Router.mem_ends_of_mem_cores member)).symm
      simp [Interconnect.carried?_of_send?_of_ne sent apart]

/-- Taking what waits at the other end of a link only frees the link. -/
lemma Kept.take (kept : routed.Kept) {terminal : Terminal}
    (inside : terminal ∈ routed.router.ends) :
    routed.Advances { routed with bus := routed.bus.clear terminal.peer } [] := by
  refine kept.of_bus (fun target => ?_) fun core attached => ?_
  · refine Interconnect.carried?_clear_of_ne ?_
    rw [Terminal.peer_peer]
    exact kept.wired.peer_ne (routed.router.terminal_mem_ends target) inside
  · exact Interconnect.newly?_carried?_clear core

/-- A device that raises an interrupt finds its link free, so no answer is on it. -/
lemma Kept.interrupt (kept : routed.Kept) (words : List Word) :
    routed.Advances { routed with
      bus := (routed.bus.send? routed.router.devices.peer
        (MessageKind.interrupt.number :: words)).getD routed.bus } [] := by
  cases sent : routed.bus.send? routed.router.devices.peer
      (MessageKind.interrupt.number :: words) with
  | none => exact kept.of_bus (fun _ => rfl) fun _ _ => by simp
  | some after =>
    have free := (Interconnect.inTransit?_of_send? sent).1
    have silent : ∀ core ∈ routed.router.cores,
        Message.newly? (routed.bus.carried? core) (after.carried? core) = none := by
      intro core attached
      have apart : core ≠ routed.router.devices.peer :=
        (kept.wired.peer_ne (routed.router.terminal_mem_ends .devices)
          (Router.mem_ends_of_mem_cores attached)).symm
      simp [Interconnect.carried?_of_send?_of_ne sent apart]
    have underway (target : Target) : Underway { routed with bus := after } target := by
      by_cases here : target = .devices
      · subst here
        refine .idle ((kept.underway .devices).unsent free) fun message carried => ⟨rfl, ?_⟩
        obtain rfl := Option.some.inj ((Interconnect.carried?_of_send? sent).symm.trans carried)
        rfl
      · refine (kept.underway target).extend rfl (List.append_nil _).symm (by simp) ?_
        exact Interconnect.carried?_of_send?_of_ne sent fun same =>
          kept.wired.terminal_ne here (Terminal.peer_inj.mp same)
    exact {
      kept := { kept with underway := underway }
      returned := (List.append_nil _).symm
      received := rfl
      put := put_eq_nil silent }

/-! ## The turn of a core's link -/

lemma recorded?_eq_some {core target : Terminal} {message : Message} {read : Forwarded}
    (entry : routed.recorded? core target message = some read) :
    message.kind? = some .read ∧ message.address? = some read.address
      ∧ read = ⟨⟨target, read.address, core⟩, routed.count, message, none⟩ := by
  rw [recorded?] at entry
  split at entry
  · next address kind address' =>
    obtain rfl := Option.some.inj entry
    exact ⟨kind, address', rfl⟩
  · contradiction

/-- A read is remembered without another one being forgotten for it, as long as there is room. -/
lemma Kept.noteForwarded_eq (kept : routed.Kept) {core target : Terminal} {message : Message}
    (room : routed.unanswered.length + (routed.recorded? core target message).toList.length
      ≤ Router.pendingLimit) :
    routed.router.noteForwarded core target message
      = { routed.router with
          pending := routed.router.pending
            ++ (routed.recorded? core target message).toList.map Forwarded.toPendingRead } := by
  cases entry : routed.recorded? core target message with
  | some read =>
    obtain ⟨kind, address, form⟩ := recorded?_eq_some entry
    have fits : routed.router.pending.length ≠ Router.pendingLimit := by
      rw [entry, Option.toList_some, List.length_singleton] at room
      rw [kept.pending, List.length_map]
      omega
    rw [form]
    simp [Router.noteForwarded, kind, address, Router.remember, fits]
  | none =>
    have other : routed.router.noteForwarded core target message = routed.router := by
      rw [recorded?] at entry
      rw [Router.noteForwarded]
      split
      · simp_all
      · rfl
    simp [other]

/-- The turn of a core's link whose message is passed on. -/
lemma Kept.request_of_send (kept : routed.Kept) {core : Terminal} {target : Target}
    {message : Message} {between : Interconnect} (attached : core ∈ routed.router.cores)
    (room : (routed.request core).unanswered.length ≤ Router.pendingLimit)
    (waiting : routed.bus.message? core = some message)
    (goes : routed.router.destination? message = some (routed.router.terminal target))
    (forwarded : routed.bus.forward? core (routed.router.terminal target)
      = some (between.clear core))
    (sent : routed.bus.send? (routed.router.terminal target) message = some between) :
    routed.Advances (routed.request core) [] := by
  have inside := Router.mem_ends_of_mem_cores attached
  have passed : routed.forwards? core
      = routed.recorded? core (routed.router.terminal target) message := by
    simp [forwards?, waiting, goes, forwarded]
  have grown : (routed.request core).unanswered
      = routed.unanswered ++ (routed.forwards? core).toList := rfl
  rw [grown, List.length_append, passed] at room
  have remembered := kept.noteForwarded_eq room
  have turn : routed.request core
      = { routed with
          router := { routed.router with
            pending := routed.router.pending
              ++ (routed.forwards? core).toList.map Forwarded.toPendingRead }
          bus := between.clear core
          unanswered := routed.unanswered ++ (routed.forwards? core).toList
          count := routed.count + (routed.forwards? core).toList.length } := by
    rw [passed, ← remembered, ← passed]
    simp [Routed.request, Router.request, waiting, goes, forwarded]
  rw [turn]
  refine kept.extend (fun other => ?_) (fun other member => ?_) ?_
  · have still : (routed.router.terminal other).peer ≠ core.peer := fun same =>
      kept.wired.core_ne_terminal attached other (Terminal.peer_inj.mp same).symm
    rw [Interconnect.carried?_clear_of_ne still]
    exact Interconnect.carried?_of_send?_of_ne sent
      (kept.wired.peer_ne (Router.terminal_mem_ends _ _) (Router.terminal_mem_ends _ _))
  · have apart : other ≠ core.peer :=
      (kept.wired.peer_ne inside (Router.mem_ends_of_mem_cores member)).symm
    rw [Interconnect.carried?_clear_of_ne apart,
      Interconnect.carried?_of_send?_of_ne sent (kept.wired.core_ne_terminal member target),
      Message.newly?_self]
  · intro read asked
    rw [passed] at asked
    obtain ⟨kind, address, form⟩ := recorded?_eq_some asked
    rw [form]
    exact ⟨rfl, rfl, attached, kind, address⟩

/-- The turn of a core's link remembers the read that it forwards, as long as none has to be
forgotten for it. -/
lemma Kept.request (kept : routed.Kept) {core : Terminal} (attached : core ∈ routed.router.cores)
    (room : (routed.request core).unanswered.length ≤ Router.pendingLimit) :
    routed.Advances (routed.request core) [] := by
  have idle : routed.Advances routed [] := kept.of_bus (fun _ => rfl) fun _ _ => by simp
  cases waiting : routed.bus.message? core with
  | none =>
    have nothing : routed.request core = routed := by
      simp [Routed.request, Router.request, forwards?, waiting]
    exact nothing.symm ▸ idle
  | some message =>
    cases goes : routed.router.destination? message with
    | none =>
      have dropped : routed.request core = { routed with bus := routed.bus.clear core } := by
        simp [Routed.request, Router.request, forwards?, waiting, goes]
      rw [dropped]
      refine kept.of_bus (fun target => ?_) fun other _ => Interconnect.newly?_carried?_clear other
      exact Interconnect.carried?_clear_of_ne fun same =>
        kept.wired.core_ne_terminal attached target (Terminal.peer_inj.mp same).symm
    | some target =>
      cases forwarded : routed.bus.forward? core target with
      | none =>
        have refused : routed.request core = routed := by
          simp [Routed.request, Router.request, forwards?, waiting, goes, forwarded]
        exact refused.symm ▸ idle
      | some after =>
        obtain ⟨_, between, here, sent, rfl⟩ := Interconnect.forward?_eq_some forwarded
        obtain rfl := Option.some.inj (waiting.symm.trans here)
        obtain ⟨destination, rfl⟩ := Router.destination?_eq_terminal goes
        exact kept.request_of_send attached room waiting goes forwarded sent

/-! ## The answer of a target -/

lemma Kept.nodup_number (kept : routed.Kept) :
    (routed.unanswered.map Forwarded.number).Nodup := by
  have nodup : ((routed.returned ++ routed.unanswered).map Forwarded.number).Nodup :=
    kept.once.nodup_iff.mpr List.nodup_range
  rw [List.map_append] at nodup
  exact List.Nodup.of_append_right nodup

lemma Kept.nodup (kept : routed.Kept) : routed.unanswered.Nodup :=
  List.Nodup.of_map _ kept.nodup_number

lemma Kept.eq_of_number_eq (kept : routed.Kept) {read other : Forwarded}
    (here : read ∈ routed.unanswered) (there : other ∈ routed.unanswered)
    (same : read.number = other.number) : read = other :=
  List.inj_on_of_nodup_map kept.nodup_number here there same

lemma Kept.noteAnswer_of_ne (kept : routed.Kept) {oldest read : Forwarded}
    (member : oldest ∈ routed.unanswered) (inside : read ∈ routed.unanswered)
    (apart : read ≠ oldest) (message : Message) :
    read.noteAnswer oldest.number message = read :=
  Forwarded.noteAnswer_of_ne fun same => apart (kept.eq_of_number_eq inside member same)

lemma of_find?_fits {reads : List Forwarded} {source : Terminal} {address : Word}
    {read : Forwarded}
    (found : (reads.find? fun other => other.fits source (some address)) = some read) :
    read ∈ reads ∧ read.target = source := by
  have fits := List.find?_some found
  simp only [PendingRead.fits, Bool.and_eq_true, decide_eq_true_eq] at fits
  exact ⟨List.mem_of_find?_eq_some found, fits.1⟩

lemma find?_fits_noteAnswer (reads : List Forwarded) (number : Nat) (message : Message)
    (source : Terminal) (address? : Option Word) :
    (reads.map (Forwarded.noteAnswer number message)).find? (fun other =>
        other.fits source address?)
      = (reads.find? fun other => other.fits source address?).map
        (Forwarded.noteAnswer number message) := by
  have same : (fun other : Forwarded => other.fits source address?)
      ∘ Forwarded.noteAnswer number message = fun other => other.fits source address? := by
    funext other
    simp
  rw [List.find?_map, same]

/-- While a target has not answered any of the reads, the oldest one of an address is the oldest
that it has not answered. -/
lemma find?_fits_of_unsent {reads : List Forwarded} {source : Terminal} {address : Word}
    (unsent : ∀ read ∈ reads, isAnsweredBy source read = false) :
    (reads.find? fun read => read.fits source (some address))
      = reads.find? fun read =>
        read.target = source && read.address = address && read.answer.isNone := by
  refine List.find?_congr fun read inside => ?_
  have missing := unsent read inside
  by_cases goes : read.target = source
  · cases answer : read.answer <;> simp_all [isAnsweredBy, PendingRead.fits]
  · simp [PendingRead.fits, goes]

/-- The answer is on the link of the target that makes it. -/
lemma Kept.underway_noteAnswer (kept : routed.Kept) {target : Target} {oldest : Forwarded}
    {values : List Word} {bus : Interconnect}
    (unsent : ∀ read ∈ routed.unanswered,
      isAnsweredBy (routed.router.terminal target) read = false)
    (found : (routed.unanswered.find? fun other =>
      other.fits (routed.router.terminal target) (some oldest.address)) = some oldest)
    (link : bus.carried? (routed.router.terminal target).peer
      = some (Message.response oldest.address values)) :
    Underway
      { routed with
        bus := bus
        unanswered := routed.unanswered.map
          (Forwarded.noteAnswer oldest.number (Message.response oldest.address values)) }
      target := by
  have member := (of_find?_fits found).1
  refine .answering (oldest.noteAnswer oldest.number
    (Message.response oldest.address values)) values ?_ ?_ ?_ fun noted listed answered => ?_
  · rw [Forwarded.toPendingRead_noteAnswer, find?_fits_noteAnswer, found]
    rfl
  · simp [Forwarded.noteAnswer]
  · rw [Forwarded.toPendingRead_noteAnswer]
    exact link
  · obtain ⟨read, inside, rfl⟩ := List.mem_map.mp listed
    by_cases apart : read = oldest
    · rw [apart]
    · rw [kept.noteAnswer_of_ne member inside apart, unsent read inside] at answered
      contradiction

/-- Nothing changes for another target. -/
lemma Kept.underway_noteAnswer_of_ne (kept : routed.Kept) {target : Target} {oldest : Forwarded}
    {message : Message} {bus : Interconnect} (member : oldest ∈ routed.unanswered)
    (elsewhere : oldest.target ≠ routed.router.terminal target)
    (still : bus.carried? (routed.router.terminal target).peer
      = routed.bus.carried? (routed.router.terminal target).peer) :
    Underway
      { routed with
        bus := bus
        unanswered := routed.unanswered.map (Forwarded.noteAnswer oldest.number message) }
      target := by
  have unnoted : isAnsweredBy (routed.router.terminal target)
      (oldest.noteAnswer oldest.number message) = false := by
    simp [isAnsweredBy, elsewhere]
  cases kept.underway target with
  | idle unsent link =>
    refine .idle (fun noted listed => ?_) fun message => still.symm ▸ link message
    obtain ⟨read, inside, rfl⟩ := List.mem_map.mp listed
    by_cases apart : read = oldest
    · rw [apart]
      exact unnoted
    · rw [kept.noteAnswer_of_ne member inside apart]
      exact unsent read inside
  | answering read values first answer link only =>
    obtain ⟨inside, goes⟩ := of_find?_fits first
    have apart : read ≠ oldest := fun same => elsewhere (same ▸ goes)
    refine .answering read values ?_ answer (still.trans link) fun noted listed answered => ?_
    · rw [find?_fits_noteAnswer, first, Option.map_some,
        kept.noteAnswer_of_ne member inside apart]
    · obtain ⟨other, inside', rfl⟩ := List.mem_map.mp listed
      by_cases apart' : other = oldest
      · rw [apart', unnoted] at answered
        contradiction
      · rw [kept.noteAnswer_of_ne member inside' apart'] at answered ⊢
        exact only other inside' answered

/-- A target that answers finds its link free, so the answer is the only one on its way. -/
lemma Kept.answer (kept : routed.Kept) (target : Target) (address : Word) (values : List Word) :
    routed.Advances (routed.answer target address values) [] := by
  rw [Routed.answer]
  split
  case h_2 => exact kept.of_bus (fun _ => rfl) fun _ _ => by simp
  case h_1 oldest bus found sent =>
    have free := (Interconnect.inTransit?_of_send? sent).1
    have unsent := (kept.underway target).unsent free
    have fits := List.find?_some found
    simp only [Bool.and_eq_true, decide_eq_true_eq] at fits
    obtain ⟨⟨goes, rfl⟩, _⟩ := fits
    rw [← find?_fits_of_unsent unsent] at found
    have member := (of_find?_fits found).1
    have source := routed.router.terminal_mem_ends target
    exact {
      kept := { kept with
        pending := by simp [kept.pending, Function.comp_def]
        attached := fun noted member => by
          obtain ⟨read, inside, rfl⟩ := List.mem_map.mp member
          simpa using kept.attached read inside
        asks := fun noted member => by
          rcases List.mem_append.mp member with old | listed
          · exact kept.asks noted (by simp [old])
          · obtain ⟨read, inside, rfl⟩ := List.mem_map.mp listed
            simpa [Forwarded.Asks] using kept.asks read (by simp [inside])
        underway := fun other => by
          by_cases same : other = target
          · subst same
            exact kept.underway_noteAnswer unsent found (Interconnect.carried?_of_send? sent)
          · have apart := kept.wired.terminal_ne same
            refine kept.underway_noteAnswer_of_ne member (goes ▸ apart.symm) ?_
            exact Interconnect.carried?_of_send?_of_ne sent fun same =>
              apart (Terminal.peer_inj.mp same)
        once := by simpa [Function.comp_def] using kept.once }
      returned := (List.append_nil _).symm
      received := rfl
      put := put_eq_nil fun core attached => by
        have apart := kept.wired.peer_ne source (Router.mem_ends_of_mem_cores attached)
        simp [Interconnect.carried?_of_send?_of_ne sent apart.symm] }

/-! ## The turn of a target's link -/

lemma Underway.find?_isAnsweredBy {target : Target} {read : Forwarded}
    (oldest : (routed.unanswered.find? fun other =>
      other.fits (routed.router.terminal target) (some read.address)) = some read)
    (answer : read.answer ≠ none)
    (only : ∀ other ∈ routed.unanswered,
      isAnsweredBy (routed.router.terminal target) other = true → other = read) :
    routed.unanswered.find? (isAnsweredBy (routed.router.terminal target)) = some read := by
  obtain ⟨inside, goes⟩ := of_find?_fits oldest
  cases found : routed.unanswered.find? (isAnsweredBy (routed.router.terminal target)) with
  | none =>
    have missing := List.find?_eq_none.mp found read inside
    simp [isAnsweredBy, goes, Option.isSome_iff_ne_none, answer] at missing
  | some other =>
    rw [only other (List.mem_of_find?_eq_some found) (List.find?_some found)]

/-- An answer of another target does not matter once it has been passed on. -/
lemma Underway.erase {target : Target} (underway : routed.Underway target) {after : Routed}
    {read : Forwarded} (apart : read.target ≠ routed.router.terminal target)
    (terminal : after.router.terminal target = routed.router.terminal target)
    (unanswered : after.unanswered = routed.unanswered.erase read)
    (same : after.bus.carried? (routed.router.terminal target).peer
      = routed.bus.carried? (routed.router.terminal target).peer) : after.Underway target := by
  cases underway with
  | idle unsent link =>
    refine .idle (fun other member => ?_) ?_
    · rw [unanswered] at member
      rw [terminal]
      exact unsent other (List.mem_of_mem_erase member)
    · rwa [terminal, same]
  | answering oldest values first answer link only =>
    refine .answering oldest values ?_ answer ?_ fun other member => ?_
    · rw [terminal, unanswered, find?_erase (by simp [PendingRead.fits, apart]), first]
    · rwa [terminal, same]
    · rw [unanswered] at member
      rw [terminal]
      exact only other (List.mem_of_mem_erase member)

lemma Kept.recipient?_eq (kept : routed.Kept) {target : Target} {read : Forwarded}
    (oldest : (routed.unanswered.find? fun other =>
      other.fits (routed.router.terminal target) (some read.address)) = some read) :
    routed.router.recipient? (routed.router.terminal target) (some read.address)
      = some read.core := by
  have found : (routed.router.pending.find? fun other =>
      other.fits (routed.router.terminal target) (some read.address))
        = some read.toPendingRead := by
    rw [kept.pending, List.find?_map, Function.comp_def, oldest]
    rfl
  rw [Router.recipient?, found]

/-- What the turn of a target's link does. -/
inductive Replies (routed : Routed) (target : Target) : Prop
  /-- Nothing waits, or what waits cannot be passed on. -/
  | still (same : routed.reply target = routed)
      (refused : ∀ message,
        routed.bus.message? (routed.router.terminal target) = some message →
        message.kind? ≠ some .interrupt → ∃ read ∈ routed.unanswered,
          read.target = routed.router.terminal target ∧ read.answer = some message
            ∧ routed.bus.send? read.core message = none)
  /-- An interrupt goes to the controller. -/
  | interrupted (between : Interconnect) (message : Message) (here : target = .devices)
      (waiting : routed.bus.message? (routed.router.terminal .devices) = some message)
      (kind : message.kind? = some .interrupt)
      (unsent : ∀ read ∈ routed.unanswered,
        isAnsweredBy (routed.router.terminal .devices) read = false)
      (sent : routed.bus.send? (routed.router.terminal .controller) message = some between)
      (passed : routed.reply target
        = { routed with bus := between.clear (routed.router.terminal .devices) })
  /-- An answer goes to the core that asked. -/
  | returned (read : Forwarded) (values : List Word) (between : Interconnect)
      (waiting : routed.bus.message? (routed.router.terminal target)
        = some (Message.response read.address values))
      (inside : read ∈ routed.unanswered)
      (goes : read.target = routed.router.terminal target)
      (answer : read.answer = some (Message.response read.address values))
      (only : ∀ other ∈ routed.unanswered,
        isAnsweredBy (routed.router.terminal target) other = true → other = read)
      (sent : routed.bus.send? read.core (Message.response read.address values) = some between)
      (passed : routed.reply target
        = { routed with
            router := { routed.router with
              pending := (routed.unanswered.erase read).map Forwarded.toPendingRead }
            bus := between.clear (routed.router.terminal target)
            unanswered := routed.unanswered.erase read
            returned := routed.returned ++ [read] })

lemma reply_of_still {target : Target}
    (turn : routed.router.replyFrom routed.bus target = (routed.router, routed.bus)) :
    routed.reply target = routed := by
  have stays : ¬ ((routed.bus.message? (routed.router.terminal target)).isSome
      ∧ routed.bus.message? (routed.router.terminal target) = none) := by
    rintro ⟨waiting, gone⟩
    simp [gone] at waiting
  simp only [reply, turn, if_neg stays]

lemma replies_of_interrupt {message : Message}
    (waiting : routed.bus.message? routed.router.devices = some message)
    (kind : message.kind? = some .interrupt)
    (unsent : ∀ read ∈ routed.unanswered,
      isAnsweredBy (routed.router.terminal .devices) read = false) :
    routed.Replies .devices := by
  cases sent : routed.bus.send? routed.router.controller message with
  | none =>
    refine .still (reply_of_still ?_) fun other here plain => ?_
    · simp [Router.replyFrom, Router.replyDevices, Interconnect.forward?, waiting, kind, sent]
    · obtain rfl := Option.some.inj (waiting.symm.trans here)
      exact absurd kind plain
  | some between =>
    refine .interrupted between message rfl waiting kind unsent sent ?_
    have turn : routed.router.replyFrom routed.bus .devices
        = (routed.router, between.clear routed.router.devices) := by
      simp [Router.replyFrom, Router.replyDevices, Interconnect.forward?, waiting, kind, sent]
    have nobody : routed.unanswered.find?
        (isAnsweredBy (routed.router.terminal .devices)) = none :=
      List.find?_eq_none.mpr fun read inside => by simp [unsent read inside]
    simp only [reply, turn, nobody]
    split <;> rfl

/-- An answer goes to the core with the oldest read that fits, and this is the core that has asked
for it. -/
lemma Kept.replies_of_answer (kept : routed.Kept) {target : Target} {read : Forwarded}
    {values : List Word}
    (waiting : routed.bus.message? (routed.router.terminal target)
      = some (Message.response read.address values))
    (oldest : (routed.unanswered.find? fun other =>
      other.fits (routed.router.terminal target) (some read.address)) = some read)
    (answer : read.answer = some (Message.response read.address values))
    (only : ∀ other ∈ routed.unanswered,
      isAnsweredBy (routed.router.terminal target) other = true → other = read) :
    routed.Replies target := by
  obtain ⟨inside, goes⟩ := of_find?_fits oldest
  have plain : ∀ message, routed.bus.message? (routed.router.terminal target) = some message →
      message.kind? ≠ some .interrupt := by
    intro message here
    obtain rfl := Option.some.inj (waiting.symm.trans here)
    simp [Message.response, Message.kind?]
  have names : (Message.response read.address values).address? = some read.address := rfl
  have recipient := kept.recipient?_eq oldest
  cases sent : routed.bus.send? read.core (Message.response read.address values) with
  | none =>
    refine .still (reply_of_still ?_) fun message here _ => ?_
    · rw [Router.replyFrom_eq_reply plain]
      simp [Router.reply, waiting, names, recipient, Interconnect.forward?, sent]
    · obtain rfl := Option.some.inj (waiting.symm.trans here)
      exact ⟨read, inside, goes, answer, sent⟩
  | some between =>
    refine .returned read values between waiting inside goes answer only sent ?_
    have erased : routed.router.pending.eraseP (fun other =>
        other.fits (routed.router.terminal target) (some read.address))
          = (routed.unanswered.erase read).map Forwarded.toPendingRead := by
      rw [kept.pending, List.eraseP_map, Function.comp_def, eraseP_eq_erase oldest]
    have turn : routed.router.replyFrom routed.bus target
        = ({ routed.router with
              pending := (routed.unanswered.erase read).map Forwarded.toPendingRead },
            between.clear (routed.router.terminal target)) := by
      rw [Router.replyFrom_eq_reply plain, ← erased]
      simp [Router.reply, waiting, names, recipient, Interconnect.forward?, sent]
    have gone : (routed.bus.message? (routed.router.terminal target)).isSome
        ∧ (between.clear (routed.router.terminal target)).message?
          (routed.router.terminal target) = none :=
      ⟨by simp [waiting], Interconnect.message?_clear⟩
    have found : routed.unanswered.find? (isAnsweredBy (routed.router.terminal target))
        = some read := Underway.find?_isAnsweredBy oldest (by simp [answer]) only
    simp only [reply, turn, if_pos gone, found, eraseP_eq_erase found]

/-- The list is complete. -/
lemma Kept.replies (kept : routed.Kept) (target : Target) : routed.Replies target := by
  cases waiting : routed.bus.message? (routed.router.terminal target) with
  | none =>
    have nothing : ∀ message, routed.bus.message? (routed.router.terminal target) = some message →
        message.kind? ≠ some .interrupt :=
      fun message here => absurd (waiting.symm.trans here) (by simp)
    refine .still (reply_of_still ?_) fun message here => absurd (waiting.symm.trans here) (by simp)
    rw [Router.replyFrom_eq_reply nothing]
    simp only [Router.reply, waiting]
  | some message =>
    have carried := Interconnect.carried?_of_message? waiting
    cases kept.underway target with
    | idle unsent link =>
      obtain ⟨rfl, kind⟩ := link message carried
      exact replies_of_interrupt waiting kind unsent
    | answering read values oldest answer link only =>
      obtain rfl := Option.some.inj (carried.symm.trans link)
      exact kept.replies_of_answer waiting oldest answer only

/-- The turn of the devices' link that passes an interrupt on. -/
lemma Kept.reply_of_interrupt (kept : routed.Kept) {between : Interconnect} {message : Message}
    (waiting : routed.bus.message? (routed.router.terminal .devices) = some message)
    (unsent : ∀ read ∈ routed.unanswered,
      isAnsweredBy (routed.router.terminal .devices) read = false)
    (sent : routed.bus.send? (routed.router.terminal .controller) message = some between) :
    routed.Advances
      { routed with bus := between.clear (routed.router.terminal .devices) } [] := by
  have controller := routed.router.terminal_mem_ends .controller
  obtain ⟨freed, targets, _, others⟩ := kept.wired.carried?_forward controller waiting sent
  refine ⟨?_, (List.append_nil _).symm, rfl, put_eq_nil fun core attached => ?_⟩
  · refine { kept with underway := fun target => ?_ }
    by_cases same : target = .devices
    · subst same
      exact .idle unsent fun message carried => absurd (freed.symm.trans carried) (by simp)
    · exact (kept.underway target).extend rfl (List.append_nil _).symm (by simp)
        (targets target same)
  · rw [others core (Router.mem_ends_of_mem_cores attached)
      (kept.wired.core_ne_terminal attached .controller), Message.newly?_self]

/-- The turn of a target's link that passes an answer on. -/
lemma Kept.reply_of_answer (kept : routed.Kept) {target : Target} {read : Forwarded}
    {values : List Word} {between : Interconnect}
    (waiting : routed.bus.message? (routed.router.terminal target)
      = some (Message.response read.address values))
    (inside : read ∈ routed.unanswered) (goes : read.target = routed.router.terminal target)
    (answer : read.answer = some (Message.response read.address values))
    (only : ∀ other ∈ routed.unanswered,
      isAnsweredBy (routed.router.terminal target) other = true → other = read)
    (sent : routed.bus.send? read.core (Message.response read.address values) = some between) :
    routed.Advances
      { routed with
        router := { routed.router with
          pending := (routed.unanswered.erase read).map Forwarded.toPendingRead }
        bus := between.clear (routed.router.terminal target)
        unanswered := routed.unanswered.erase read
        returned := routed.returned ++ [read] } [read] := by
  have attached := kept.attached read inside
  obtain ⟨freed, targets, put, others⟩ :=
    kept.wired.carried?_forward (Router.mem_ends_of_mem_cores attached) waiting sent
  have free := (Interconnect.inTransit?_of_send? sent).1
  have alone : read ∉ routed.unanswered.erase read := kept.nodup.not_mem_erase
  have moved : (routed.returned ++ routed.unanswered).Perm
      (routed.returned ++ [read] ++ routed.unanswered.erase read) := by
    rw [← List.append_cons]
    exact (List.perm_cons_erase inside).append_left routed.returned
  refine ⟨?_, rfl, rfl, ?_⟩
  · exact {
      wired := ⟨kept.wired.nodup, kept.wired.facing⟩
      pending := rfl
      attached := fun other member => kept.attached other (List.mem_of_mem_erase member)
      asks := fun other member => kept.asks other (moved.mem_iff.mpr member)
      underway := fun target' => by
        by_cases same : target' = target
        · subst same
          refine .idle (fun other member => ?_) fun message carried => ?_
          -- whatever is still in the record is not answered: the one answer of this link has left
          · by_contra answered
            have member' := List.mem_of_mem_erase member
            rw [Bool.not_eq_false, Router.terminal_pending] at answered
            rw [only other member' answered] at member
            exact alone member
          · exact absurd (freed.symm.trans carried) (by simp)
        · refine (kept.underway target').erase ?_ (Router.terminal_pending _ _ _) rfl
            (targets target' same)
          rw [goes]
          exact kept.wired.terminal_ne (Ne.symm same)
      once := (moved.map Forwarded.number).symm.trans kept.once
      genuine := by
        intro other member
        rcases List.mem_append.mp member with old | new
        · exact kept.genuine other old
        · rw [List.mem_singleton.mp new]
          exact ⟨values, answer⟩ }
  · refine (put_eq_singleton ?_ attached free put ?_).trans ?_
    · exact (List.nodup_append.mp kept.wired.nodup).2.1
    · intro other member apart
      exact others other (Router.mem_ends_of_mem_cores member) apart
    · simp [Forwarded.delivery, answer]

/-- The turn of a target's link takes the read that it passes an answer for out of the record. -/
lemma Kept.reply (kept : routed.Kept) (target : Target) :
    ∃ answered, routed.Advances (routed.reply target) answered := by
  cases kept.replies target with
  | still same =>
    rw [same]
    exact ⟨[], kept.of_bus (fun _ => rfl) fun _ _ => by simp⟩
  | interrupted between message here waiting kind unsent sent passed =>
    subst here
    rw [passed]
    exact ⟨[], kept.reply_of_interrupt waiting unsent sent⟩
  | returned read values between waiting inside goes answer only sent passed =>
    rw [passed]
    exact ⟨[read], kept.reply_of_answer waiting inside goes answer only sent⟩

/-! ## Runs -/

/-- Everything that can happen keeps the record in order. -/
lemma Kept.act (kept : routed.Kept) (action : RouterAction)
    (room : (routed.act action).unanswered.length ≤ Router.pendingLimit) :
    ∃ answered, routed.Advances (routed.act action) answered := by
  have idle : routed.Advances routed [] := kept.of_bus (fun _ => rfl) fun _ _ => by simp
  cases action with
  | request core =>
    rw [Routed.act] at room ⊢
    split_ifs at room ⊢ with attached
    · exact ⟨[], kept.request attached room⟩
    · exact ⟨[], idle⟩
  | reply target => exact kept.reply target
  | link => exact ⟨[], kept.link⟩
  | send core message =>
    rw [Routed.act]
    split_ifs with attached
    · exact ⟨[], kept.send attached message⟩
    · exact ⟨[], idle⟩
  | interrupt words => exact ⟨[], kept.interrupt words⟩
  | answer target address values => exact ⟨[], kept.answer target address values⟩
  | take terminal =>
    rw [Routed.act]
    split_ifs with inside
    · exact ⟨[], kept.take inside⟩
    · exact ⟨[], idle⟩

lemma Kept.step (kept : routed.Kept)
    (received : routed.received = routed.returned.map Forwarded.delivery) (action : RouterAction)
    (room : (routed.step action).unanswered.length ≤ Router.pendingLimit) :
    (routed.step action).Kept
      ∧ (routed.step action).received = (routed.step action).returned.map Forwarded.delivery := by
  obtain ⟨answered, advances⟩ := kept.act action room
  have kept := advances.kept
  refine ⟨{ kept with underway := fun target => ?_ }, ?_⟩
  · exact (kept.underway target).extend rfl (List.append_nil _).symm (by simp) rfl
  · change routed.received ++ _ = (routed.act action).returned.map _
    rw [received, advances.put, advances.returned, List.map_append]

/-- Answers go back to the cores that asked. -/
structure Returns (routed : Routed) : Prop where
  /-- The reads that the router remembers are those that have been forwarded and not answered. -/
  pending : routed.router.pending = routed.unanswered.map Forwarded.toPendingRead
  asks : ∀ read ∈ routed.returned ++ routed.unanswered, read.Asks
  /-- Every read that has been forwarded waits for its answer or has got it, once. -/
  once : ((routed.returned ++ routed.unanswered).map Forwarded.number).Perm
    (List.range routed.count)
  /-- What the cores have been sent are the answers to their reads, and nothing else. -/
  received : routed.received = routed.returned.map fun read => (read.core, read.answer.getD [])
  genuine : ∀ read ∈ routed.returned, ∃ values,
    read.answer = some (Message.response read.address values)
  /-- An answer that has come is passed on as soon as the link to its core takes it. -/
  prompt : ∀ target message,
    routed.bus.message? (routed.router.terminal target) = some message →
    message.kind? ≠ some .interrupt →
    ∃ read ∈ routed.unanswered, read.target = routed.router.terminal target
      ∧ read.answer = some message
      ∧ (routed.bus.send? read.core message = none ∧ routed.step (.reply target) = routed
        ∨ (routed.step (.reply target)).returned = routed.returned ++ [read]
          ∧ (routed.step (.reply target)).received = routed.received ++ [(read.core, message)])
  /-- A tick of the router is made of these steps. -/
  tick : ((routed.run (turns routed.router)).router, (routed.run (turns routed.router)).bus)
    = routed.router.tick routed.bus

lemma Kept.prompt (kept : routed.Kept) {target : Target} {message : Message}
    (waiting : routed.bus.message? (routed.router.terminal target) = some message)
    (plain : message.kind? ≠ some .interrupt) :
    ∃ read ∈ routed.unanswered, read.target = routed.router.terminal target
      ∧ read.answer = some message
      ∧ (routed.bus.send? read.core message = none ∧ routed.step (.reply target) = routed
        ∨ (routed.step (.reply target)).returned = routed.returned ++ [read]
          ∧ (routed.step (.reply target)).received
            = routed.received ++ [(read.core, message)]) := by
  cases kept.replies target with
  | still same refused =>
    obtain ⟨read, inside, goes, answer, unsent⟩ := refused message waiting plain
    refine ⟨read, inside, goes, answer, Or.inl ⟨unsent, ?_⟩⟩
    have nothing : put routed.router.cores routed.bus routed.bus = [] :=
      put_eq_nil fun _ _ => Message.newly?_self _
    have turn : routed.act (.reply target) = routed := same
    simp only [Routed.step, turn, nothing, List.append_nil]
  | interrupted _ other here waiting' kind =>
    subst here
    obtain rfl := Option.some.inj (waiting.symm.trans waiting')
    exact absurd kind plain
  | returned read values between waiting' inside goes answer only sent passed =>
    obtain rfl := Option.some.inj (waiting.symm.trans waiting')
    obtain ⟨answered, advances⟩ := kept.reply target
    have returned : (routed.reply target).returned = routed.returned ++ [read] := by rw [passed]
    obtain rfl : answered = [read] :=
      List.append_cancel_left (advances.returned.symm.trans returned)
    refine ⟨read, inside, goes, answer, Or.inr ⟨returned, ?_⟩⟩
    change routed.received ++ put _ _ (routed.reply target).bus = _
    rw [advances.put]
    simp [Forwarded.delivery, answer]

/-- In every run, whatever the cores ask for and whenever the links take it, the router returns each
answer to the core that asked, as long as it never has to remember more reads than it can. -/
theorem returns_run (router : Router) (bus : Interconnect) (wired : router.Wired)
    (fresh : router.pending = [])
    (quiet : ∀ target, bus.carried? (router.terminal target).peer = none)
    (actions : List RouterAction)
    (within : ∀ first, first <+: actions →
      (run { router := router, bus := bus } first).unanswered.length ≤ Router.pendingLimit) :
    (run { router := router, bus := bus } actions).Returns := by
  have kept : (run { router := router, bus := bus } actions).Kept
      ∧ (run { router := router, bus := bus } actions).received
        = (run { router := router, bus := bus } actions).returned.map Forwarded.delivery := by
    -- by the last action, since the bound on the record is one on the prefixes of the run
    induction actions using List.reverseRecOn with
    | nil =>
      refine ⟨?_, rfl⟩
      exact {
        wired := wired
        pending := fresh
        attached := by simp [run]
        asks := by simp [run]
        underway := fun target => .idle (by simp [run]) fun message carried =>
          absurd ((quiet target).symm.trans carried) (by simp)
        once := by simp [run]
        genuine := by simp [run] }
    | append_singleton rest action ih =>
      obtain ⟨kept, received⟩ := ih fun first before =>
        within first (before.trans (List.prefix_append _ _))
      have room := within (rest ++ [action]) List.prefix_rfl
      rw [run_append] at room ⊢
      exact kept.step received action room
  obtain ⟨kept, received⟩ := kept
  exact ⟨kept.pending, kept.asks, kept.once, received, kept.genuine, fun _ _ => kept.prompt,
    run_turns _⟩

/-! ## Two cores, one address -/

/-- Five links: those of memory, the devices and the controller, and those of two cores. -/
def sharedBus : Interconnect :=
  (List.range 5).foldl (fun bus _ => (bus.link 1 Interconnect.messageCapacity).1)
    Interconnect.empty

def sharedRouter : Router where
  memory := ⟨1⟩
  devices := ⟨3⟩
  controller := ⟨5⟩
  cores := [⟨7⟩, ⟨9⟩]

/-- Both cores ask for the same address, the first one for eight words, the second one for one. -/
def sharedActions : List RouterAction :=
  let address := AddressMap.ramStart
  let crossing : List RouterAction := List.replicate 10 .link
  let deliver := crossing ++ turns sharedRouter
  [.send ⟨7⟩ (Message.read address 8), .send ⟨9⟩ (Message.read address 1)]
    ++ deliver ++ crossing ++ [.take ⟨1⟩] ++ deliver ++ crossing ++ [.take ⟨1⟩]
    ++ [.answer .memory address [1, 2, 3, 4, 5, 6, 7, 8]] ++ deliver
    ++ [.answer .memory address [1]] ++ deliver

theorem returns_shared_address :
    let routed := run { router := sharedRouter, bus := sharedBus } sharedActions
    routed.Returns ∧ routed.unanswered = []
      ∧ routed.received
        = [(⟨7⟩, Message.response AddressMap.ramStart [1, 2, 3, 4, 5, 6, 7, 8]),
          (⟨9⟩, Message.response AddressMap.ramStart [1])] := by
  have within : ∀ first ∈ sharedActions.inits,
      (run { router := sharedRouter, bus := sharedBus } first).unanswered.length
        ≤ Router.pendingLimit := by
    decide +kernel
  refine ⟨returns_run sharedRouter sharedBus ⟨by decide, by decide⟩ rfl ?_ sharedActions
    fun first before => within first ((List.mem_inits _ _).mpr before), by decide +kernel,
    by decide +kernel⟩
  intro target
  cases target <;> decide +kernel

end Routed

end PipelinedMachine
