import PipelinedMachine.Proofs.Core.Supply

/-!
# The two queues of fetch

Fetch keeps the instructions ahead in one queue and those passed in another.  What leaves the first
goes to the end of the second, which forgets its oldest; a block joins the end of the first only if
there was room when it was asked for.  So neither grows beyond its limit, and a loop that fits into
the second, with one instruction more, runs without asking for anything.

* `Fetch.drained` — what a tick leaves before anything comes in;
* `Fetch.Bounded` — **the invariant**: what is ahead leaves room for the block that is on its way;
* `Queued`, `QueueEvent` — fetch with what has gone through the queue ahead since it last forgot
  everything, and all that can happen to it;
* `Queued.Laws`, **`Queued.laws_run`** — the laws of the two queues, after any events at all.
-/

namespace PipelinedMachine

namespace Fetch

/-! ## Lists -/

section Lists

variable {α : Type} {limit : Nat} {first second : List α}

lemma length_keepNewest (limit : Nat) (entries : List α) :
    (keepNewest limit entries).length = min limit entries.length := by
  rw [keepNewest, List.length_drop]
  omega

lemma keepNewest_of_le (fits : first.length ≤ limit) : keepNewest limit first = first := by
  rw [keepNewest, Nat.sub_eq_zero_of_le fits, List.drop_zero]

/-- What has been forgotten does not matter for what is forgotten next. -/
lemma keepNewest_append (limit : Nat) (first second : List α) :
    keepNewest limit (keepNewest limit first ++ second) = keepNewest limit (first ++ second) := by
  have kept : keepNewest limit first ++ second
      = (first ++ second).drop (first.length - limit) :=
    (List.drop_append_of_le_length (Nat.sub_le _ _)).symm
  rw [kept, keepNewest, keepNewest, List.drop_drop, List.length_drop, List.length_append]
  congr 1
  omega

end Lists

/-! ## Passing -/

variable {fetch later : Fetch} {ip : Word} {terminal : Terminal} {path after : Datapath}

/-- What leaves the queue ahead goes to those passed. -/
lemma exists_skipped (short : fetch.passed.length ≤ passedLimit) (ip : Word) :
    ∃ skipped, fetch.ahead = skipped ++ (fetch.pass ip).ahead
      ∧ (fetch.pass ip).passed = keepNewest passedLimit (fetch.passed ++ skipped) := by
  rcases fetch.pass_cases ip with ⟨same, -⟩ | ⟨-, moved⟩
  · exact ⟨[], by rw [same, List.nil_append],
      by rw [same, List.append_nil, keepNewest_of_le short]⟩
  · rw [moved]
    exact ⟨_, List.takeWhile_append_dropWhile.symm, rfl⟩

/-- If passing does not bring the instruction at hand, nothing is left ahead. -/
lemma ahead_pass_of_missing (missing : (fetch.pass ip).find? ip = none) :
    (fetch.pass ip).ahead = [] := by
  have away : ∀ entry ∈ (fetch.pass ip).line, entry.address ≠ ip := fun entry member here =>
    find?_ne_none_iff.mpr ⟨entry, member, here⟩ missing
  by_contra more
  rcases fetch.pass_cases ip with ⟨same, front | ⟨entry, passed, here⟩⟩ | ⟨-, moved⟩
  · rw [same] at more away
    obtain ⟨first, rest, ahead⟩ := List.exists_cons_of_ne_nil more
    have here : first.address = ip := by
      by_contra apart
      simp [ahead, apart] at front
    exact away first (by simp [line, ahead]) here
  · rw [same] at away
    exact away entry (by simp [line, passed]) here
  · obtain ⟨first, rest, ahead⟩ := List.exists_cons_of_ne_nil more
    have front := List.head?_dropWhile_not (fun entry : Fetched => entry.address ≠ ip) fetch.ahead
    have dropped : fetch.ahead.dropWhile (fun entry => entry.address ≠ ip) = first :: rest := by
      rw [← ahead, moved]
    simp only [dropped, List.head?_cons] at front
    exact away first (by simp [line, ahead]) (by simpa using front)

/-- A block is asked for only if it fits behind what is ahead. -/
lemma length_of_wanted? {address : Word}
    (wanted : (fetch.pass ip).wanted? ip = some address) : (fetch.pass ip).ahead.length < depth := by
  rw [wanted?] at wanted
  split at wanted
  · next missing =>
    rw [ahead_pass_of_missing missing]
    decide
  · by_contra enough
    rw [if_neg enough] at wanted
    contradiction

/-- What is at hand at an address has that address. -/
lemma map_address_find? (here : ∃ entry ∈ fetch.line, entry.address = ip) :
    (fetch.find? ip).map Fetched.address = some ip := by
  obtain ⟨entry, found⟩ := Option.ne_none_iff_exists'.mp (find?_ne_none_iff.mpr here)
  rw [found, Option.map_some, (mem_of_find? found).1]

/-- With the instruction at hand and enough ahead, a tick does nothing. -/
lemma AtHand.tick_eq (here : fetch.AtHand path.registers.ip) (terminal : Terminal)
    (free : fetch.outstanding = none) (reading : fetch.searching = none)
    (enough : depth ≤ fetch.ahead.length) : fetch.tick terminal path = (fetch, path) := by
  simp only [tick, reading, readAhead, here.pass_eq, free,
    wanted?_eq_none here.supplied enough]

/-- What a tick leaves before anything comes in.  Nothing is passed while a handler is looked for. -/
def drained (fetch : Fetch) (ip : Word) : Fetch :=
  match fetch.searching with
  | none => fetch.pass ip
  | some _ => fetch

lemma SearchTurn.queues {phase : HandlerSearch}
    (step : SearchTurn terminal path fetch phase later after) :
    fetch.ahead <+: later.ahead ∧ later.passed = fetch.passed := by
  cases step with
  | askedId | gotId | askedHandler | waited => exact ⟨List.prefix_rfl, rfl⟩
  | gotHandler => exact ⟨List.prefix_append _ _, rfl⟩

/-- A turn of fetch adds to what is ahead, and to nothing else. -/
lemma Turn.queues (turn : Turn terminal path fetch later after) :
    (fetch.drained path.registers.ip).ahead <+: later.ahead
      ∧ later.passed = (fetch.drained path.registers.ip).passed := by
  cases turn with
  | received _ _ reading =>
    rw [drained, reading]
    exact ⟨List.prefix_append _ _, rfl⟩
  | awaited _ reading | asked _ _ reading | refused _ reading | satisfied reading =>
    rw [drained, reading]
    exact ⟨List.prefix_rfl, rfl⟩
  | searched _ _ _ searching _ step =>
    rw [drained, searching]
    exact step.queues
  | dropped _ _ _ _ _ searching _ _ step =>
    rw [drained, searching]
    exact step.queues

/-- What is ahead leaves room for the block that is on its way. -/
structure Bounded (fetch : Fetch) : Prop where
  ahead : fetch.ahead.length ≤ 8
  passed : fetch.passed.length ≤ passedLimit
  roomy : fetch.outstanding ≠ none → fetch.ahead.length ≤ 4
  forgotten : fetch.Forgotten

namespace Bounded

/-- There is room where everything has been forgotten. -/
lemma of_vacant (ahead : fetch.ahead = []) (passed : fetch.passed = []) : fetch.Bounded where
  ahead := by simp [ahead]
  passed := by simp [passed]
  roomy := by simp [ahead]
  forgotten := fun _ => ⟨ahead, passed⟩

lemma pass (bounded : fetch.Bounded) (ip : Word) :
    (fetch.pass ip).ahead.length ≤ fetch.ahead.length
      ∧ (fetch.pass ip).passed.length ≤ passedLimit := by
  obtain ⟨skipped, split, moved⟩ := exists_skipped bounded.passed ip
  have lengths := congrArg List.length split
  rw [List.length_append] at lengths
  refine ⟨by omega, ?_⟩
  rw [moved, length_keepNewest]
  omega

end Bounded

/-- A search puts one instruction ahead where there was none. -/
lemma SearchTurn.length_le {phase : HandlerSearch}
    (step : SearchTurn terminal path fetch phase later after) :
    later.ahead.length ≤ fetch.ahead.length + 1 := by
  cases step with
  | askedId | gotId | askedHandler | waited => exact Nat.le_succ _
  | gotHandler => exact le_of_eq List.length_append

lemma Turn.bounded (turn : Turn terminal path fetch later after) (bounded : fetch.Bounded) :
    later.Bounded := by
  obtain ⟨fewer, passed⟩ := bounded.pass path.registers.ip
  have forgotten := turn.forgotten bounded.forgotten
  have short := fewer.trans bounded.ahead
  have vacant {phase : HandlerSearch} (searching : fetch.searching = some phase) :
      fetch.ahead = [] ∧ fetch.passed = [] := bounded.forgotten (by simp [searching])
  cases turn with
  | received address answer reading asked =>
    have room := fewer.trans (bounded.roomy (by simp [asked]))
    refine ⟨?_, passed, by simp, forgotten⟩
    rw [List.length_append, length_block]
    omega
  | awaited address reading asked =>
    exact ⟨short, passed, fun _ => fewer.trans (bounded.roomy (by simp [asked])), forgotten⟩
  | asked address bus reading free wanted =>
    exact ⟨short, passed, fun _ => Nat.le_of_lt_succ (length_of_wanted? wanted), forgotten⟩
  | refused address reading free | satisfied reading free =>
    exact ⟨short, passed, fun asked => absurd (by simpa using free) asked, forgotten⟩
  | searched phase _ _ searching _ step =>
    obtain ⟨ahead, none⟩ := vacant searching
    have one := step.length_le
    rw [ahead, List.length_nil] at one
    refine ⟨by omega, ?_, fun _ => by omega, forgotten⟩
    rw [step.queues.2, none]
    exact Nat.zero_le _
  | dropped phase _ _ _ _ searching _ _ step =>
    obtain ⟨ahead, none⟩ := vacant searching
    have one := step.length_le
    simp only [ahead, List.length_nil] at one
    refine ⟨by omega, ?_, fun _ => by omega, forgotten⟩
    rw [step.queues.2]
    exact none ▸ Nat.zero_le _

end Fetch

/-! ## What has gone through -/

/-- Something that happens to fetch. -/
inductive QueueEvent where
  /-- A tick, on whatever the other units have left there. -/
  | tick (path : Datapath)
  /-- A jump makes it forget everything. -/
  | flush
  /-- An interrupt makes it forget everything and look for the handler. -/
  | beginSearch

/-- Fetch with what has gone through the queue ahead since it last forgot everything. -/
structure Queued where
  fetch : Fetch := {}
  /-- What has joined the queue, oldest first. -/
  joined : List Fetched := []
  /-- What has left it, oldest first. -/
  left : List Fetched := []

namespace Queued

open Fetch

/-- One event.  A tick takes from the front what is not left, and then adds to the end. -/
def step (terminal : Terminal) (queued : Queued) : QueueEvent → Queued
  | .tick path =>
    let drained := queued.fetch.drained path.registers.ip
    let later := (queued.fetch.tick terminal path).1
    { fetch := later
      joined := queued.joined ++ later.ahead.drop drained.ahead.length
      left := queued.left
        ++ queued.fetch.ahead.take (queued.fetch.ahead.length - drained.ahead.length) }
  | .flush => { fetch := queued.fetch.flush }
  | .beginSearch => { fetch := queued.fetch.beginSearch }

/-- Some events in order. -/
def run (terminal : Terminal) (queued : Queued) (events : List QueueEvent) : Queued :=
  events.foldl (step terminal) queued

/-- The instructions that a loop can be made of: those passed, and the one in front. -/
def loop (queued : Queued) : List Fetched := queued.fetch.passed ++ queued.fetch.ahead.take 1

/-- The laws of the two queues. -/
structure Laws (terminal : Terminal) (queued : Queued) : Prop where
  ahead_le : queued.fetch.ahead.length ≤ 8
  passed_le : queued.fetch.passed.length ≤ 32
  /-- What has joined the queue ahead has left it, in order, or is still there. -/
  inOrder : queued.joined = queued.left ++ queued.fetch.ahead
  /-- Those passed are the newest of those that have left. -/
  passed : queued.fetch.passed = queued.left.drop (queued.left.length - 32)
  /-- An instruction that has been passed is found, before a tick and after it, whatever the link
  has or takes. -/
  found : ∀ entry ∈ queued.fetch.passed, ∀ path : Datapath, path.registers.ip = entry.address →
    (queued.fetch.find? path.registers.ip).map Fetched.address = some entry.address
      ∧ ((queued.fetch.tick terminal path).1.find? path.registers.ip).map Fetched.address
        = some entry.address
  /-- A loop may have as many instructions as are kept, and one more. -/
  loop : queued.fetch.ahead ≠ [] →
    queued.loop = (queued.left ++ queued.fetch.ahead.take 1).drop (queued.left.length + 1 - 33)
  /-- With enough ahead, a loop runs without sending or changing anything, and finds each of its
  instructions. -/
  resting : queued.fetch.outstanding = none → queued.fetch.searching = none →
    5 ≤ queued.fetch.ahead.length →
    ∀ paths : List Datapath,
      (∀ path ∈ paths, ∃ entry ∈ queued.loop, entry.address = path.registers.ip) →
      queued.run terminal (paths.map .tick) = queued
        ∧ ∀ path ∈ paths, queued.fetch.tick terminal path = (queued.fetch, path)
          ∧ (queued.fetch.find? path.registers.ip).map Fetched.address = some path.registers.ip

/-- What every event keeps. -/
structure Orderly (queued : Queued) : Prop where
  bounded : queued.fetch.Bounded
  inOrder : queued.joined = queued.left ++ queued.fetch.ahead
  passed : queued.fetch.passed = keepNewest passedLimit queued.left

variable {terminal : Terminal} {queued : Queued}

lemma Orderly.step (orderly : queued.Orderly) (event : QueueEvent) :
    (queued.step terminal event).Orderly := by
  cases event with
  | flush | beginSearch => exact ⟨.of_vacant rfl rfl, rfl, rfl⟩
  | tick path =>
    have turn := queued.fetch.turn_tick terminal path
    obtain ⟨⟨added, grown⟩, passed⟩ := turn.queues
    obtain ⟨skipped, split, moved⟩ : ∃ skipped,
        queued.fetch.ahead = skipped ++ (queued.fetch.drained path.registers.ip).ahead
          ∧ (queued.fetch.drained path.registers.ip).passed
            = keepNewest passedLimit (queued.fetch.passed ++ skipped) := by
      rw [drained]
      split
      · exact exists_skipped orderly.bounded.passed _
      · exact ⟨[], rfl, by rw [List.append_nil, keepNewest_of_le orderly.bounded.passed]⟩
    have joins : (queued.fetch.tick terminal path).1.ahead.drop
        (queued.fetch.drained path.registers.ip).ahead.length = added := by
      rw [← grown, List.drop_left]
    have leaves : queued.fetch.ahead.take (queued.fetch.ahead.length
        - (queued.fetch.drained path.registers.ip).ahead.length) = skipped := by
      rw [split, List.length_append, Nat.add_sub_cancel, List.take_left]
    refine ⟨turn.bounded orderly.bounded, ?_, ?_⟩
    · simp only [Queued.step, joins, leaves]
      rw [orderly.inOrder, split, ← grown]
      simp only [List.append_assoc]
    · simp only [Queued.step, leaves]
      rw [passed, moved, orderly.passed, keepNewest_append]

lemma Orderly.run (orderly : queued.Orderly) (events : List QueueEvent) :
    (queued.run terminal events).Orderly := by
  induction events generalizing queued with
  | nil => exact orderly
  | cons event later ih => exact ih (orderly.step event)

/-- An instruction that has been passed is still passed after a tick at its address. -/
lemma Orderly.passed_tick (orderly : queued.Orderly) (terminal : Terminal) {entry : Fetched}
    {path : Datapath} (member : entry ∈ queued.fetch.passed)
    (here : path.registers.ip = entry.address) :
    (queued.fetch.tick terminal path).1.passed = queued.fetch.passed := by
  have reading : queued.fetch.searching = none := by
    by_contra searching
    rw [(orderly.bounded.forgotten searching).2] at member
    contradiction
  rw [(queued.fetch.turn_tick terminal path).queues.2, drained, reading]
  rcases queued.fetch.pass_cases path.registers.ip with ⟨same, -⟩ | ⟨new, -⟩
  · rw [same]
  · exact absurd here.symm (new entry member)

/-- What a loop is made of is at hand. -/
lemma atHand_of_mem_loop {entry : Fetched} {ip : Word} (more : queued.fetch.ahead ≠ [])
    (member : entry ∈ queued.loop) (here : entry.address = ip) : queued.fetch.AtHand ip := by
  rw [Queued.loop, List.mem_append] at member
  rcases member with passed | front
  · exact Or.inr ⟨more, entry, passed, here⟩
  · obtain ⟨first, rest, ahead⟩ := List.exists_cons_of_ne_nil more
    rw [ahead, List.take_succ_cons, List.take_zero, List.mem_singleton] at front
    exact Or.inl (by rw [ahead, List.head?_cons, Option.map_some, ← front, here])

/-- Where enough is ahead, a tick of a loop does nothing, and goes on no record. -/
lemma step_of_atHand {path : Datapath} (here : queued.fetch.AtHand path.registers.ip)
    (free : queued.fetch.outstanding = none) (reading : queued.fetch.searching = none)
    (enough : depth ≤ queued.fetch.ahead.length) :
    queued.step terminal (.tick path) = queued := by
  have kept : queued.fetch.drained path.registers.ip = queued.fetch := by
    rw [drained, reading]
    exact here.pass_eq
  simp [step, here.tick_eq terminal free reading enough, kept]

lemma run_of_still {paths : List Datapath}
    (still : ∀ path ∈ paths, queued.step terminal (.tick path) = queued) :
    queued.run terminal (paths.map .tick) = queued := by
  induction paths with
  | nil => rfl
  | cons path later ih =>
    rw [List.map_cons, run, List.foldl_cons, still path (List.mem_cons_self ..)]
    exact ih fun other member => still other (List.mem_cons_of_mem _ member)

lemma Orderly.laws (orderly : queued.Orderly) (terminal : Terminal) : queued.Laws terminal where
  ahead_le := orderly.bounded.ahead
  passed_le := orderly.bounded.passed
  inOrder := orderly.inOrder
  passed := orderly.passed
  found entry member path here := by
    have still := orderly.passed_tick terminal member here
    rw [← here]
    exact ⟨map_address_find? ⟨entry, List.mem_append_left _ member, here.symm⟩,
      map_address_find? ⟨entry, List.mem_append_left _ (still ▸ member), here.symm⟩⟩
  loop more := by
    obtain ⟨first, rest, ahead⟩ := List.exists_cons_of_ne_nil more
    rw [loop, orderly.passed, ahead, List.drop_append_of_le_length (by omega), keepNewest]
    congr 2
  resting free reading enough paths inside := by
    have more : queued.fetch.ahead ≠ [] := List.ne_nil_of_length_pos (by omega)
    have here (path : Datapath) (member : path ∈ paths) :
        queued.fetch.AtHand path.registers.ip := by
      obtain ⟨entry, looping, here⟩ := inside path member
      exact atHand_of_mem_loop more looping here
    exact ⟨run_of_still fun path member => step_of_atHand (here path member) free reading enough,
      fun path member => ⟨(here path member).tick_eq terminal free reading enough,
        map_address_find? (here path member).supplied.2⟩⟩

/-- **After any events at all, the queues of fetch obey their laws.** -/
theorem laws_run (terminal : Terminal) (events : List QueueEvent) :
    (({} : Queued).run terminal events).Laws terminal := by
  have start : ({} : Queued).Orderly := ⟨.of_vacant rfl rfl, rfl, rfl⟩
  exact (start.run events).laws terminal

end Queued

end PipelinedMachine
