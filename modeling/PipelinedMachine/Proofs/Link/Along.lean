import Mathlib.Data.List.Basic
import PipelinedMachine.DeviceHub
import PipelinedMachine.Proofs.Link.Passing
import PipelinedMachine.Router

/-!
# Messages along a path

A message that crosses several links is on one of them at a time, and those that follow it are
further back.  So the links of a path together are a queue: what is handed over at its beginning
joins the end of the queue, what is passed on from one link to the next keeps its place, and what
arrives comes from the front.

* `Interconnect.along` — the messages of a kind on some ways, the one nearest to its end first;
* `Interconnect.along_moved` — **passing a message on changes nothing**;
* `Interconnect.along_of_send?`, `Interconnect.along_clear_last`, `Interconnect.along_of_handled` —
  how the queue grows at its back and shrinks at its front;
* `Interconnect.Spares` — a turn loses no message but the one that waits at a terminal;
* `Router.kept_tick`, `DeviceHub.kept_tick` — what no turn at the end of a link changes, the router
  and the hub do not either.
-/

namespace PipelinedMachine

namespace Interconnect

variable {bus after : Interconnect} {keep : Message → Bool} {path : List Terminal}
  {source target near way : Terminal} {message : Message}

/-- What some ways carry, as far as it is kept, in the order of the ways. -/
def along (bus : Interconnect) (keep : Message → Bool) (path : List Terminal) : List Message :=
  path.filterMap fun way => (bus.carried? way).filter keep

@[simp] lemma along_nil (bus : Interconnect) (keep : Message → Bool) : bus.along keep [] = [] := rfl

lemma along_cons (bus : Interconnect) (keep : Message → Bool) (way : Terminal)
    (path : List Terminal) :
    bus.along keep (way :: path)
      = ((bus.carried? way).filter keep).toList ++ bus.along keep path := by
  rw [along, List.filterMap_cons]
  cases (bus.carried? way).filter keep <;> rfl

lemma along_append (bus : Interconnect) (keep : Message → Bool) (first second : List Terminal) :
    bus.along keep (first ++ second) = bus.along keep first ++ bus.along keep second :=
  List.filterMap_append

lemma mem_along : message ∈ bus.along keep path
    ↔ ∃ way ∈ path, bus.carried? way = some message ∧ keep message = true := by
  simp [along, Option.filter_eq_some_iff]

/-- Only what the ways of the path carry matters. -/
lemma along_congr (same : ∀ way ∈ path, after.carried? way = bus.carried? way) :
    after.along keep path = bus.along keep path :=
  List.filterMap_congr fun way member => by rw [same way member]

@[simp] lemma along_tick (bus : Interconnect) (keep : Message → Bool) (path : List Terminal) :
    bus.tick.along keep path = bus.along keep path :=
  along_congr fun way _ => carried?_tick way

/-- A message that is not kept may disappear. -/
lemma along_dropped (unkept : keep message = false) (before : bus.carried? source = some message)
    (gone : after.carried? source = none)
    (apart : ∀ way ∈ path, way ≠ source → after.carried? way = bus.carried? way) :
    after.along keep path = bus.along keep path := by
  refine List.filterMap_congr fun way member => ?_
  by_cases here : way = source
  · simp [here, before, gone, Option.filter, unkept]
  · rw [apart way member here]

/-- A message that is passed on keeps its place, and if it is not kept it does not matter where it
goes. -/
lemma along_moved (nodup : path.Nodup) (before : bus.carried? source = some message)
    (gone : after.carried? source = none) (free : bus.carried? target = none)
    (came : after.carried? target = some message)
    (apart : ∀ way ∈ path, way ≠ source → way ≠ target →
      after.carried? way = bus.carried? way)
    (next : keep message = true → ∃ left right, path = left ++ target :: source :: right) :
    after.along keep path = bus.along keep path := by
  cases kept : keep message with
  | false =>
    refine List.filterMap_congr fun way member => ?_
    by_cases first : way = source
    · simp [first, before, gone, Option.filter, kept]
    · by_cases second : way = target
      · simp [second, free, came, Option.filter, kept]
      · rw [apart way member first second]
  | true =>
    obtain ⟨left, right, rfl⟩ := next kept
    have around (way : Terminal) (member : way ∈ left ++ right) :
        after.carried? way = bus.carried? way := by
      rw [List.nodup_append, List.nodup_cons, List.nodup_cons] at nodup
      obtain ⟨-, ⟨target, source, -⟩, others⟩ := nodup
      rcases List.mem_append.mp member with inside | inside
      · exact apart way (by simp [inside]) (others way inside _ (by simp))
          (others way inside _ (by simp))
      · refine apart way (by simp [inside]) ?_ ?_
        · exact fun same => source (same ▸ inside)
        · exact fun same => target (by simp [← same, inside])
    rw [along_append, along_append, along_cons, along_cons, along_cons, along_cons, before, gone,
      free, came, along_congr fun way member => around way (by simp [member]),
      along_congr fun way member => around way (by simp [member])]
    simp

/-- What is handed over at the beginning of a path joins the end of the queue. -/
lemma along_of_send? (sent : bus.send? near message = some after) (away : near ∉ path) :
    after.along keep (path ++ [near])
      = bus.along keep (path ++ [near]) ++ if keep message then [message] else [] := by
  have same : after.along keep path = bus.along keep path := along_congr fun way member =>
    carried?_of_send?_of_ne sent fun here => away (here ▸ member)
  have free : bus.carried? near = none := (inTransit?_of_send? sent).1
  rw [along_append, along_append, same, along_cons, along_cons, free, carried?_of_send? sent]
  cases kept : keep message <;> simp [Option.filter, kept]

/-- The queue is not concerned by what is sent elsewhere. -/
lemma along_of_send?_of_notMem (sent : bus.send? near message = some after) (away : near ∉ path) :
    after.along keep path = bus.along keep path :=
  along_congr fun _ member => carried?_of_send?_of_ne sent fun here => away (here ▸ member)

/-- What has arrived and is taken comes from the front of the queue. -/
lemma along_of_message? (waiting : bus.message? near = some message) (away : near.peer ∉ path) :
    bus.along keep (near.peer :: path)
      = (if keep message then [message] else [])
        ++ (bus.clear near).along keep (near.peer :: path) := by
  have same : (bus.clear near).along keep path = bus.along keep path :=
    along_congr fun way member => carried?_clear_of_ne fun here => away (here ▸ member)
  rw [along_cons, along_cons, carried?_of_message? waiting, carried?_clear_of_message? waiting,
    same]
  cases kept : keep message <;> simp [Option.filter, kept]

lemma along_clear_of_notMem (away : near.peer ∉ path) :
    (bus.clear near).along keep path = bus.along keep path :=
  along_congr fun _ member => carried?_clear_of_ne fun here => away (here ▸ member)

/-- A component at the end of a path has had its turn. -/
lemma along_of_handled {taken sent : Option Message} (handled : Handled near bus after taken sent)
    (away : ∀ way ∈ path, way.link ≠ near.link) :
    bus.along keep (near.peer :: path)
      = (taken.filter keep).toList ++ after.along keep (near.peer :: path) := by
  have same : after.along keep path = bus.along keep path :=
    along_congr fun way member => (handled.still (away way member)).1
  rw [along_cons, along_cons, same, handled.carried?_peer]
  cases taken with
  | none => simp
  | some message =>
    rw [handled.carried?_of_taken]
    simp

/-- What a component sends from the end of a path back joins the queue there. -/
lemma along_of_handled_last {taken sent : Option Message}
    (handled : Handled near bus after taken sent) (away : ∀ way ∈ path, way.link ≠ near.link) :
    after.along keep (path ++ [near])
      = bus.along keep (path ++ [near]) ++ (sent.filter keep).toList := by
  have same : after.along keep path = bus.along keep path :=
    along_congr fun way member => (handled.still (away way member)).1
  rw [along_append, along_append, same, along_cons, along_cons, handled.carried?_near]
  cases sent with
  | none => simp
  | some message =>
    rw [handled.carried?_of_sent.1]
    simp

/-! ## Turns that lose nothing -/

/-- No way loses its message but the one that leads to `source`. -/
def Spares (source : Terminal) (bus after : Interconnect) : Prop :=
  ∀ way message, way ≠ source.peer → bus.carried? way = some message →
    after.carried? way = some message

lemma spares_self (source : Terminal) (bus : Interconnect) : Spares source bus bus :=
  fun _ _ _ carried => carried

lemma spares_clear (source : Terminal) (bus : Interconnect) : Spares source bus (bus.clear source) :=
  fun _ _ away carried => (carried?_clear_of_ne away).trans carried

lemma spares_of_forward? (forwarded : bus.forward? source target = some after) :
    Spares source bus after := by
  intro way other away carried
  rw [forward?] at forwarded
  split at forwarded
  · obtain ⟨between, sent, rfl⟩ := Option.map_eq_some_iff.mp forwarded
    rw [carried?_clear_of_ne away]
    by_cases here : way = target
    · have free : bus.carried? target = none := (inTransit?_of_send? sent).1
      rw [here, free] at carried
      contradiction
    · rwa [carried?_of_send?_of_ne sent here]
  · contradiction

lemma spares_of_handled {taken sent : Option Message}
    (handled : Handled near bus after taken sent) : Spares near bus after := by
  intro way other away carried
  by_cases here : way = near
  · rw [here] at carried ⊢
    exact handled.carried?_of_carried? carried
  · rwa [handled.carried?_apart here away]

end Interconnect

open Interconnect

lemma Router.spares_request (router : Router) (bus : Interconnect) (core : Terminal) :
    Spares core bus (router.request bus core).2 := by
  rw [request]
  split
  · exact spares_self _ _
  · split
    · exact spares_clear _ _
    · split
      · next forwarded => exact spares_of_forward? forwarded
      · exact spares_self _ _

lemma Router.spares_reply (router : Router) (bus : Interconnect) (source : Terminal) :
    Spares source bus (router.reply bus source).2 := by
  rw [reply]
  split
  · exact spares_self _ _
  · split
    · exact spares_self _ _
    · split
      · next forwarded => exact spares_of_forward? forwarded
      · exact spares_self _ _

lemma DeviceHub.spares_request (hub : DeviceHub) (bus : Interconnect) :
    Spares hub.uplink bus (hub.request bus) := by
  rw [request]
  split
  · exact spares_self _ _
  · split
    · next device _ =>
      cases forwarded : bus.forward? hub.uplink device with
      | none => exact spares_self _ _
      | some after => exact spares_of_forward? forwarded
    · exact spares_clear _ _

/-! ## What the router and the hub keep -/

namespace Router

variable {P : Interconnect → Prop} {bus : Interconnect}

lemma kept_request (kept : Kept P) (router : Router) (core : Terminal) (before : P bus) :
    P (router.request bus core).2 := by
  rw [request]
  split
  · exact before
  · next waiting =>
    split
    · exact kept.clear waiting before
    · split
      · next forwarded => exact kept.forward forwarded before
      · exact before

lemma kept_requests (kept : Kept P) (router : Router) (before : P bus) :
    P (router.requests bus).2 := by
  have turns (cores : List Terminal) (state : Router × Interconnect) (before : P state.2) :
      P (cores.foldl (fun state core => state.1.request state.2 core) state).2 := by
    induction cores generalizing state with
    | nil => exact before
    | cons core rest ih => exact ih _ (state.1.kept_request kept core before)
  exact turns router.cores (router, bus) before

lemma kept_reply (kept : Kept P) (router : Router) (source : Terminal) (before : P bus) :
    P (router.reply bus source).2 := by
  rw [reply]
  split
  · exact before
  · split
    · exact before
    · split
      · next forwarded => exact kept.forward forwarded before
      · exact before

lemma kept_replyDevices (kept : Kept P) (router : Router) (before : P bus) :
    P (router.replyDevices bus).2 := by
  rw [replyDevices]
  split
  · split
    · next forwarded => exact kept.forward forwarded before
    · exact before
  · exact kept_reply kept _ _ before

lemma kept_tick (kept : Kept P) (router : Router) (before : P bus) : P (router.tick bus).2 :=
  kept_reply kept _ _ (kept_replyDevices kept _ (kept_reply kept _ _
    (kept_requests kept router before)))

end Router

namespace DeviceHub

variable {P : Interconnect → Prop} {bus : Interconnect}

private lemma kept_forward (kept : Kept P) (source target : Terminal) (before : P bus) :
    P ((bus.forward? source target).getD bus) := by
  cases forwarded : bus.forward? source target with
  | none => exact before
  | some after => exact kept.forward forwarded before

lemma kept_request (kept : Kept P) (hub : DeviceHub) (before : P bus) : P (hub.request bus) := by
  rw [request]
  split
  · exact before
  · next waiting =>
    split
    · exact kept_forward kept _ _ before
    · exact kept.clear waiting before

lemma kept_reply (kept : Kept P) (hub : DeviceHub) (before : P bus) : P (hub.reply bus) := by
  rw [reply]
  split
  · exact kept_forward kept _ _ before
  · exact before

lemma kept_tick (kept : Kept P) (hub : DeviceHub) (before : P bus) : P (hub.tick bus) :=
  kept_reply kept hub (kept_request kept hub before)

end DeviceHub

end PipelinedMachine
