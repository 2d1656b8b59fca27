import Mathlib.Data.Prod.Lex
import PipelinedMachine.Proofs.Core.Deals
import PipelinedMachine.Proofs.Link.Rounds
import PipelinedMachine.Proofs.Served.Advance

/-!
# A served core goes on

Nothing says how long a message is on the link or how long the memory takes.  But if the core, the
link and the memory have their turns again and again, then the core dispatches one instruction
after the other, until a fault stops it.

The proof names one action in every state that gets something done (`ServedCore.helpful`), and a
rank that this action lowers.  No other action raises the rank; and unless it lowers it too, the
same action is still the helpful one.

* `Interconnect.WideAt` — the link takes whatever a core or a memory sends;
* `ServedCore.Undisturbed` — no interrupt has been raised, and the core stands somewhere;
* `ServedCore.rank`, `ServedCore.helpful` — how far it is to the next dispatch, and what leads
  there;
* `ServedCore.Undisturbed.advances` — **one action**;
* `Fair` — schedules in which everything has its turn again and again;
* `ServedCore.Undisturbed.exists_dispatches` — **under a fair schedule**, as many instructions are
  dispatched as one likes, unless a fault occurs.
-/

namespace PipelinedMachine

/-! ## The link -/

namespace Interconnect

/-- Both ends of the link can send messages of the usual length. -/
structure WideAt (bus : Interconnect) (near : Terminal) : Prop where
  going : bus.capacity near = messageCapacity
  coming : bus.capacity near.peer = messageCapacity

variable {bus after : Interconnect} {near : Terminal}

lemma WideAt.tick (wide : bus.WideAt near) : bus.tick.WideAt near where
  going := (capacity_of_tick bus near).trans wide.going
  coming := (capacity_of_tick bus near.peer).trans wide.coming

lemma WideAt.kept (wide : bus.WideAt near) {turned : Terminal} {taken sent : Option Message}
    (handled : Handled turned bus after taken sent) : after.WideAt near where
  going := kept_capacity near _ handled wide.going
  coming := kept_capacity near.peer _ handled wide.coming

lemma WideAt.deals (wide : bus.WideAt near) {fine : Message → Prop}
    (deals : Deals near fine bus after) : after.WideAt near where
  going := (capacity_deals deals near).trans wide.going
  coming := (capacity_deals deals near.peer).trans wide.coming

/-- A free channel takes every message that fits. -/
lemma isSome_send?_of_capacity {a : Terminal} {message : Message}
    (wide : bus.capacity a = messageCapacity) (free : bus.carried? a = none)
    (nonempty : message ≠ []) (fits : message.length ≤ messageCapacity) :
    (bus.send? a message).isSome := by
  refine (isSome_send?_iff bus a message).mpr ⟨?_, free, nonempty, wide ▸ fits⟩
  rw [← isSome_outgoing?_iff]
  cases found : bus.outgoing? a with
  | some channel => rfl
  | none => simp [capacity_eq, found, messageCapacity] at wide

/-- Nothing is on its way and nothing waits, so nothing is carried. -/
lemma carried?_eq_none {a : Terminal} (arrived : bus.ticksLeft a = 0)
    (taken : bus.message? a.peer = none) : bus.carried? a = none := by
  rw [carried?_eq, ticksLeft_eq_zero_iff.mp arrived, taken]
  rfl

lemma WideAt.not_refuses (wide : bus.WideAt near) (free : bus.carried? near = none) :
    ¬ bus.Refuses near := by
  rintro ⟨message, nonempty, fits, unsent⟩
  have sent := isSome_send?_of_capacity wide.going free nonempty fits
  rw [unsent] at sent
  contradiction

end Interconnect

/-! ## Answers -/

/-- What answers a question of a core fits on its link. -/
lemma Memory.IsAnswer.fits {origin : Word → Word} {memory : Memory} {question : Word × Nat}
    {message : Message} (answer : memory.IsAnswer origin question message)
    (short : question.2 ≤ 8) :
    message ≠ [] ∧ message.length ≤ Interconnect.messageCapacity := by
  obtain ⟨values, rfl, length, _⟩ := answer
  refine ⟨List.cons_ne_nil _ _, ?_⟩
  simp only [Message.response, List.length_cons, Interconnect.messageCapacity]
  omega

namespace Standing

/-- A core never asks for more than a block. -/
lemma short_of_mem_questions {standing : Standing} {question : Word × Nat}
    (member : question ∈ standing.questions) : question.2 ≤ 8 := by
  simp only [questions, List.mem_append] at member
  rcases member with block | load | vector
  · obtain ⟨address, _, rfl⟩ := List.mem_map.mp block
    exact le_rfl
  · cases here : standing.occupancy with
    | load pending =>
      rw [here, Occupancy.loadQuestion, PendingLoad.question] at load
      split at load
      · contradiction
      · obtain ⟨address, _, rfl⟩ := List.mem_map.mp load
        exact (by decide : 1 ≤ 8)
    | idle | done | branch | alu | store | stack | request =>
      rw [here, Occupancy.loadQuestion] at load
      contradiction
  · rw [Fetch.vectorQuestion] at vector
    split at vector
    · rw [List.mem_singleton.mp vector]
      exact (by decide : 1 ≤ 8)
    · rw [List.mem_singleton.mp vector]
      exact (by decide : 1 ≤ 8)
    all_goals contradiction

variable {origin : Word → Word} {jump : Option Fetched} {standing : Standing} {ip : Word}
  {server : Server} {bus : Interconnect} {near : Terminal}

/-- The message that waits is what the core needs. -/
lemma Stocked.not_withholds_of_message? (stocked : Stocked origin jump standing ip
    (server.view bus near)) {message : Message} (waiting : bus.message? near = some message) :
    ¬ bus.Withholds near standing.questions := by
  obtain ⟨question, rest, questions, ⟨values, rfl, _⟩, _⟩ := stocked.agrees.came waiting
  rw [questions]
  intro withheld
  have other := Interconnect.answer?_eq_none withheld waiting
  rw [Message.answers_response.mpr rfl] at other
  contradiction

/-- Every message to come answers a question. -/
lemma Stocked.exists_question {view : View} (stocked : Stocked origin jump standing ip view)
    {message : Message} (member : message ∈ view.incoming) :
    ∃ question ∈ standing.questions, view.memory.IsAnswer origin question message := by
  obtain ⟨i, inside, rfl⟩ := List.mem_iff_getElem.mp member
  have answers := stocked.agrees.answers
  have inside' : i < standing.questions.length := by rwa [answers.length_eq]
  exact ⟨_, List.getElem_mem inside', answers.get inside' inside⟩

/-- A core with nothing to come has nothing asked. -/
lemma Stocked.questions_eq_nil {view : View} (stocked : Stocked origin jump standing ip view)
    (nothing : view.incoming = []) : standing.questions = [] := by
  have answers := stocked.agrees.answers
  rw [nothing] at answers
  exact List.forall₂_nil_right_iff.mp answers

end Standing

/-! ## Undisturbed cores -/

namespace ServedCore

variable {origin : Word → Word} {served : ServedCore} {standing : Standing}

/-- No interrupt has been raised, the link is wide enough, and a core that has not stopped stands
somewhere. -/
structure Undisturbed (origin : Word → Word) (served : ServedCore) : Prop where
  quiet : served.env.lines.isRaised served.core.id = false
  wide : served.env.bus.WideAt served.core.terminal
  running : served.stopped = none → ∃ standing, served.Stands origin standing ∧ standing.Calm

/-- What a tick of the core leaves behind is what the tick of its pipeline gives. -/
lemma tick_of_afterTick (same : served.core.pipeline = standing.pipeline)
    (running : served.stopped = none) {later : Standing} {after : Datapath}
    {outcome : CoreOutcome} (tick : served.tickCore = served.afterTick later after outcome) :
    ∃ outcome', (standing.signal (served.env.lines.take served.core.id).1).pipeline.tick
      served.core.terminal (served.core.path served.env) = (later.pipeline, after, outcome') := by
  generalize ticked : (standing.signal (served.env.lines.take served.core.id).1).pipeline.tick
    served.core.terminal (served.core.path served.env) = result
  obtain ⟨pipeline, left, outcome'⟩ := result
  have equal := Core.tick_eq served.core served.env same ticked
  simp only [tickCore, running, equal] at tick
  have core := congrArg ServedCore.core tick
  have env := congrArg ServedCore.env tick
  obtain ⟨registers, stages, rfl⟩ : left.registers = after.registers ∧ left.stages = after.stages
      ∧ pipeline = later.pipeline := by simpa only [afterTick, Core.mk.injEq, true_and] using core
  obtain ⟨bus, counters⟩ : left.bus = after.bus ∧ left.counters = after.counters := by
    simpa only [afterTick, Environment.mk.injEq, true_and] using env
  obtain ⟨_, _, _, _⟩ := left
  obtain ⟨_, _, _, _⟩ := after
  obtain rfl := registers
  obtain rfl := stages
  obtain rfl := bus
  obtain rfl := counters
  exact ⟨outcome', rfl⟩

/-- A tick of an undisturbed core is a turn of its pipeline, with no line raised. -/
lemma Undisturbed.exists_turn (undisturbed : served.Undisturbed origin)
    (running : served.stopped = none) (stands : served.Stands origin standing)
    (calm : standing.Calm) :
    ∃ later after outcome,
      standing.Turn served.core.terminal (served.core.path served.env) later after served.issue?
          outcome
        ∧ (∃ shown, standing.pipeline.tick served.core.terminal (served.core.path served.env)
          = (later.pipeline, after, shown))
        ∧ served.tickCore = served.afterTick later after outcome
        ∧ ∀ breakpoint, outcome = .ok breakpoint →
          served.tickCore.Stands origin later ∧ later.Calm := by
  obtain ⟨later, after, outcome, turn, tick, still⟩ := stands.tick running
  have ticked := tick_of_afterTick stands.core.pipeline running tick
  have unraised : served.env.lines.take served.core.id = (false, served.env.lines) := by
    simp [InterruptLines.take, undisturbed.quiet]
  rw [unraised] at turn ticked
  change Standing.Turn _ _ standing _ _ _ _ at turn
  refine ⟨later, after, outcome, turn, ticked, tick, ?_⟩
  rintro breakpoint rfl
  exact ⟨still breakpoint rfl, turn.calm calm⟩

/-- No action but a raised line disturbs the core. -/
lemma Undisturbed.step (undisturbed : served.Undisturbed origin) {action : Action}
    (raise : action ≠ .raise) : (served.step action).Undisturbed origin := by
  have around (core : action ≠ .core)
      (quiet : (served.step action).env.lines = served.env.lines)
      (same : (served.step action).core = served.core)
      (stopped : (served.step action).stopped = served.stopped)
      (jump : (served.step action).jump = served.jump)
      (wide : (served.step action).env.bus.WideAt served.core.terminal) :
      (served.step action).Undisturbed origin := by
    refine ⟨by rw [quiet, same]; exact undisturbed.quiet, by rwa [same], fun live => ?_⟩
    obtain ⟨standing, stands, calm⟩ := undisturbed.running (stopped ▸ live)
    refine ⟨standing, ⟨by rw [same]; exact stands.core, ?_⟩, calm⟩
    rw [served.view_step core, jump, same]
    exact stands.stocked
  cases action with
  | raise => contradiction
  | link => exact around (by simp) rfl rfl rfl rfl undisturbed.wide.tick
  | serve => exact around (by simp) rfl rfl rfl rfl undisturbed.wide
  | take =>
    refine around (by simp) rfl rfl rfl rfl ?_
    simp only [ServedCore.step, Server.take]
    split
    · next message waiting => exact undisturbed.wide.kept (.of_clear waiting)
    · exact undisturbed.wide
  | reply =>
    refine around (by simp) rfl rfl rfl rfl ?_
    simp only [ServedCore.step, Server.reply]
    split
    · exact undisturbed.wide
    · split
      · next sent => exact undisturbed.wide.kept (.of_send? sent)
      · exact undisturbed.wide
  | core =>
    cases stopped : served.stopped with
    | some fault =>
      have still : served.step .core = served := by
        simp only [ServedCore.step, tickCore, stopped]
      rwa [still]
    | none =>
      obtain ⟨standing, stands, calm⟩ := undisturbed.running stopped
      obtain ⟨later, after, outcome, turn, _, tick, still⟩ :=
        undisturbed.exists_turn stopped stands calm
      change served.tickCore.Undisturbed origin
      refine ⟨?_, ?_, fun live => ?_⟩
      · rw [tick]
        simp [afterTick, InterruptLines.take, undisturbed.quiet]
      · rw [tick]
        exact undisturbed.wide.deals turn.deals
      · cases outcome with
        | ok breakpoint => exact ⟨later, still breakpoint rfl⟩
        | error fault =>
          rw [tick] at live
          contradiction

/-! ## How far it is to the next dispatch -/

/-- How many steps the requests have still to go: one on the link is to be taken and then served,
and its answer is to be sent. -/
def requestsLeft (served : ServedCore) : Nat :=
  2 * served.server.inbox.length + served.server.outbox.length
    + if served.env.bus.carried? served.core.terminal = none then 0 else 3

/-- The ticks that the messages on the link need to arrive. -/
def ticksLeft (served : ServedCore) : Nat :=
  served.env.bus.ticksLeft served.core.terminal
    + served.env.bus.ticksLeft served.core.terminal.peer

/-- How far it is to the next dispatch.  What the core has to do counts most, and then what becomes
of its requests. -/
def rank (served : ServedCore) (standing : Standing) : ℕ ×ₗ ℕ ×ₗ ℕ :=
  toLex (standing.left served.core.registers.ip, toLex (served.requestsLeft, served.ticksLeft))

/-- An action that gets something done. -/
def helpful (served : ServedCore) : Action :=
  if served.env.bus.message? served.core.terminal ≠ none then .core
  else if served.ticksLeft ≠ 0 then .link
  else if served.env.bus.message? served.core.terminal.peer ≠ none then .take
  else if served.server.inbox ≠ [] then .serve
  else if served.server.outbox ≠ [] then .reply
  else .core

/-- When the core is to act, the link gives it what it needs. -/
lemma Stands.not_withholds (stands : served.Stands origin standing)
    (wide : served.env.bus.WideAt served.core.terminal) (helpful : served.helpful = .core) :
    ¬ served.env.bus.Withholds served.core.terminal standing.questions := by
  rw [ServedCore.helpful] at helpful
  split_ifs at helpful with message ticks waiting inbox outbox
  · obtain ⟨message, waits⟩ := Option.ne_none_iff_exists'.mp message
    exact stands.stocked.not_withholds_of_message? waits
  · rw [not_not] at message waiting inbox outbox ticks
    obtain ⟨going, coming⟩ := Nat.add_eq_zero_iff.mp ticks
    have free := Interconnect.carried?_eq_none going waiting
    have vacant : served.env.bus.carried? served.core.terminal.peer = none :=
      Interconnect.carried?_eq_none coming (by rwa [Terminal.peer_peer])
    have nothing : served.view.incoming = [] := by
      simp [view, Server.view, Server.requests, free, vacant, inbox, outbox, Memory.serveAll]
    rw [stands.stocked.questions_eq_nil nothing]
    exact wide.not_refuses free

/-! ## One action -/

/-- Nearer to the next dispatch, or as far from it with the same action to be taken. -/
def Nears (served : ServedCore) (standing : Standing) (after : ServedCore) (later : Standing)
    (helped : Prop) : Prop :=
  after.rank later < served.rank standing
    ∨ after.rank later = served.rank standing ∧ after.helpful = served.helpful ∧ ¬ helped

/-- Fewer steps for the requests to go are nearer. -/
lemma Nears.of_fewer {after : ServedCore} {helped : Prop} (same : after.core = served.core)
    (fewer : after.requestsLeft < served.requestsLeft) :
    served.Nears standing after standing helped := by
  refine Or.inl (Prod.Lex.toLex_lt_toLex.mpr (Or.inr ⟨by rw [same], ?_⟩))
  exact Prod.Lex.toLex_lt_toLex.mpr (Or.inl fewer)

/-- An action that does nothing does no harm where it is not the helpful one. -/
lemma Nears.of_still {after : ServedCore} {helped : Prop} (still : after = served)
    (unhelpful : ¬ helped) : served.Nears standing after standing helped := by
  subst still
  exact Or.inr ⟨rfl, rfl, unhelpful⟩

/-- A tick of the core brings the next dispatch nearer if the link withholds nothing. -/
lemma Undisturbed.nears_of_core (undisturbed : served.Undisturbed origin)
    (running : served.stopped = none) (stands : served.Stands origin standing)
    (calm : standing.Calm) :
    served.tickCore.stopped ≠ none
      ∨ served.dispatches.length < served.tickCore.dispatches.length
      ∨ ∃ later, served.tickCore.Stands origin later ∧ later.Calm
        ∧ served.Nears standing served.tickCore later (.core = served.helpful) := by
  obtain ⟨later, after, outcome, turn, ⟨shown, ticked⟩, tick, still⟩ :=
    undisturbed.exists_turn running stands calm
  cases outcome with
  | error fault =>
    rw [tick]
    exact Or.inl (by simp [afterTick])
  | ok breakpoint =>
    obtain ⟨stands', calm'⟩ := still breakpoint rfl
    refine Or.inr ?_
    rcases turn.gets_on ticked calm stands.core.sound stands.stocked with
      issued | nearer | ⟨_, level, bus, withholds⟩
    · refine Or.inl ?_
      obtain ⟨dispatch, issued⟩ := Option.ne_none_iff_exists'.mp issued
      simp [tick, afterTick, issued]
    · refine Or.inr ⟨later, stands', calm', Or.inl ?_⟩
      rw [tick]
      exact Prod.Lex.toLex_lt_toLex.mpr (Or.inl nearer)
    · refine Or.inr ⟨later, stands', calm', Or.inr ?_⟩
      have bus : after.bus = served.env.bus := bus
      have unhelpful : ¬ .core = served.helpful := fun helpful =>
        stands.not_withholds undisturbed.wide helpful.symm withholds
      rw [tick]
      refine ⟨?_, ?_, unhelpful⟩
      · simp only [rank, afterTick, requestsLeft, ticksLeft, bus]
        rw [level]
        rfl
      · simp only [helpful, afterTick, ticksLeft, bus]
        rfl

/-- A tick of the link brings what is on its way nearer, and changes nothing when nothing is. -/
lemma nears_of_link (served : ServedCore) (standing : Standing) :
    served.Nears standing (served.step .link) standing (.link = served.helpful) := by
  have requests : (served.step .link).requestsLeft = served.requestsLeft := by
    simp [ServedCore.step, requestsLeft]
  have ticks : (served.step .link).ticksLeft
      = (served.env.bus.ticksLeft served.core.terminal - 1)
        + (served.env.bus.ticksLeft served.core.terminal.peer - 1) := by
    simp [ServedCore.step, ticksLeft]
  by_cases busy : served.ticksLeft = 0
  · obtain ⟨going, coming⟩ := Nat.add_eq_zero_iff.mp busy
    have seen {a : Terminal} (arrived : served.env.bus.ticksLeft a.peer = 0) :
        served.env.bus.tick.message? a = served.env.bus.message? a := by
      have before := served.env.bus.carried?_eq a.peer
      have after := served.env.bus.tick.carried?_eq a.peer
      have idle : served.env.bus.tick.inTransit? a.peer = none := by
        rw [← Interconnect.ticksLeft_eq_zero_iff, Interconnect.ticksLeft_tick, arrived]
      rw [Terminal.peer_peer, Interconnect.ticksLeft_eq_zero_iff.mp arrived,
        Option.none_or] at before
      rw [Terminal.peer_peer, idle, Option.none_or, Interconnect.carried?_tick] at after
      rw [← before, ← after]
    have level : (served.step .link).ticksLeft = served.ticksLeft := by
      rw [ticks, busy, going, coming]
    refine Or.inr ⟨?_, ?_, ?_⟩
    · rw [rank, requests, level]
      rfl
    · have near := seen coming
      have far := seen (a := served.core.terminal.peer) (by rwa [Terminal.peer_peer])
      simp only [helpful, level]
      simp only [ServedCore.step, near, far]
      rfl
    · intro helps
      rw [helpful, if_neg (not_not.mpr busy)] at helps
      split_ifs at helps
  · refine Or.inl (Prod.Lex.toLex_lt_toLex.mpr (Or.inr ⟨rfl, Prod.Lex.toLex_lt_toLex.mpr ?_⟩))
    refine Or.inr ⟨requests, ?_⟩
    rw [ticks]
    rw [ticksLeft] at busy ⊢
    omega

/-- A request that is taken has one step less to go. -/
lemma nears_of_take (served : ServedCore) (standing : Standing) :
    served.Nears standing (served.step .take) standing (.take = served.helpful) := by
  cases waiting : served.env.bus.message? served.core.terminal.peer with
  | none =>
    refine .of_still (by simp only [ServedCore.step, Server.take, waiting]) fun helps => ?_
    rw [helpful, waiting] at helps
    split_ifs at helps
    contradiction
  | some message =>
    have carried := Interconnect.carried?_of_message? waiting
    have taken := Interconnect.carried?_clear_of_message? waiting
    rw [Terminal.peer_peer] at carried taken
    refine .of_fewer rfl ?_
    simp only [requestsLeft, ServedCore.step, Server.take, waiting, carried, taken,
      List.length_append, List.length_singleton]
    simp only [reduceCtorEq, if_false, if_true]
    omega

/-- A request that is served has at least one step less to go. -/
lemma nears_of_serve (served : ServedCore) (standing : Standing) :
    served.Nears standing (served.step .serve) standing (.serve = served.helpful) := by
  cases waiting : served.server.inbox with
  | nil =>
    refine .of_still (by simp only [ServedCore.step, Server.serve, waiting]) fun helps => ?_
    rw [helpful, waiting] at helps
    split_ifs at helps
    contradiction
  | cons message rest =>
    have answers : (served.server.memory.serve message).2.length ≤ 1 := by
      rw [Memory.serve]
      split <;> simp
    refine .of_fewer rfl ?_
    simp only [requestsLeft, ServedCore.step, Server.serve, waiting, List.length_append,
      List.length_cons]
    omega

/-- An answer that is sent is off the server's hands; and when it is the server's turn to send, the
link takes it. -/
lemma Undisturbed.nears_of_reply (undisturbed : served.Undisturbed origin)
    (stands : served.Stands origin standing) :
    served.Nears standing (served.step .reply) standing (.reply = served.helpful) := by
  cases waiting : served.server.outbox with
  | nil =>
    refine .of_still (by simp only [ServedCore.step, Server.reply, waiting]) fun helps => ?_
    rw [helpful, waiting] at helps
    split_ifs at helps
    contradiction
  | cons message rest =>
    cases sent : served.env.bus.send? served.core.terminal.peer message with
    | none =>
      refine .of_still (by simp only [ServedCore.step, Server.reply, waiting, sent])
        fun helps => ?_
      rw [helpful] at helps
      split_ifs at helps with unread ticks
      rw [not_not] at unread ticks
      obtain ⟨going, coming⟩ := Nat.add_eq_zero_iff.mp ticks
      have vacant : served.env.bus.carried? served.core.terminal.peer = none :=
        Interconnect.carried?_eq_none coming (by rwa [Terminal.peer_peer])
      have member : message ∈ served.view.incoming := by
        simp [view, Server.view, waiting]
      obtain ⟨question, asked, answer⟩ := stands.stocked.exists_question member
      obtain ⟨nonempty, fits⟩ := answer.fits (Standing.short_of_mem_questions asked)
      have taken := Interconnect.isSome_send?_of_capacity undisturbed.wide.coming vacant nonempty
        fits
      rw [sent] at taken
      contradiction
    | some after =>
      have other : after.carried? served.core.terminal
          = served.env.bus.carried? served.core.terminal :=
        Interconnect.carried?_of_send?_of_ne sent (Terminal.peer_ne _).symm
      refine .of_fewer rfl ?_
      simp only [requestsLeft, ServedCore.step, Server.reply, waiting, sent, other,
        List.length_cons]
      omega

/-- Every action but a raised line stops the core, or dispatches an instruction, or brings the next
dispatch nearer, or leaves it as near with the same action to be taken. -/
theorem Undisturbed.advances (undisturbed : served.Undisturbed origin)
    (running : served.stopped = none) (stands : served.Stands origin standing)
    (calm : standing.Calm) {action : Action} (raise : action ≠ .raise) :
    (served.step action).stopped ≠ none
      ∨ served.dispatches.length < (served.step action).dispatches.length
      ∨ ∃ later, (served.step action).Stands origin later ∧ later.Calm
        ∧ served.Nears standing (served.step action) later (action = served.helpful) := by
  have around (core : action ≠ .core)
      (nears : served.Nears standing (served.step action) standing (action = served.helpful))
      (same : (served.step action).core = served.core)
      (jump : (served.step action).jump = served.jump) :
      ∃ later, (served.step action).Stands origin later ∧ later.Calm
        ∧ served.Nears standing (served.step action) later (action = served.helpful) := by
    refine ⟨standing, ⟨by rw [same]; exact stands.core, ?_⟩, calm, nears⟩
    rw [served.view_step core, jump, same]
    exact stands.stocked
  cases action with
  | raise => contradiction
  | core => exact undisturbed.nears_of_core running stands calm
  | link => exact Or.inr (Or.inr (around (by simp) (served.nears_of_link standing) rfl rfl))
  | take => exact Or.inr (Or.inr (around (by simp) (served.nears_of_take standing) rfl rfl))
  | serve => exact Or.inr (Or.inr (around (by simp) (served.nears_of_serve standing) rfl rfl))
  | reply => exact Or.inr (Or.inr (around (by simp) (undisturbed.nears_of_reply stands) rfl rfl))

end ServedCore

/-! ## Fair schedules -/

/-- What happens at every moment: everything has its turn again and again, and no line is ever
raised. -/
structure Fair (schedule : ℕ → Action) : Prop where
  calm : ∀ time, schedule time ≠ .raise
  again : ∀ action, action ≠ .raise → ∀ time, ∃ later, time ≤ later ∧ schedule later = action

/-- The core, the link and the memory have their turns one after the other. -/
def inTurn (time : ℕ) : Action :=
  match time % 5 with
  | 0 => .core
  | 1 => .link
  | 2 => .take
  | 3 => .serve
  | _ => .reply

lemma fair_inTurn : Fair inTurn where
  calm time := by
    rw [inTurn]
    split <;> simp
  again action calm time := by
    cases action with
    | core => exact ⟨5 * time, by omega, by simp only [inTurn, Nat.mul_mod_right]⟩
    | link => exact ⟨5 * time + 1, by omega, by simp only [inTurn, Nat.mul_add_mod]⟩
    | take => exact ⟨5 * time + 2, by omega, by simp only [inTurn, Nat.mul_add_mod]⟩
    | serve => exact ⟨5 * time + 3, by omega, by simp only [inTurn, Nat.mul_add_mod]⟩
    | reply => exact ⟨5 * time + 4, by omega, by simp only [inTurn, Nat.mul_add_mod]⟩
    | raise => contradiction

/-- Fairness does not depend on when one begins to look. -/
lemma Fair.shift {schedule : ℕ → Action} (fair : Fair schedule) (start : ℕ) :
    Fair fun time => schedule (start + time) where
  calm time := fair.calm _
  again action calm time := by
    obtain ⟨later, after, acts⟩ := fair.again action calm (start + time)
    exact ⟨later - start, by omega, by rwa [Nat.add_sub_cancel' (by omega)]⟩

namespace ServedCore

/-- The system after so many moments of a schedule. -/
def during (served : ServedCore) (schedule : ℕ → Action) (time : ℕ) : ServedCore :=
  served.run ((List.range time).map schedule)

section During

variable {origin : Word → Word} {served : ServedCore} {standing : Standing}
  {schedule : ℕ → Action}

lemma run_append (served : ServedCore) (first second : List Action) :
    served.run (first ++ second) = (served.run first).run second :=
  List.foldl_append

lemma during_add (served : ServedCore) (schedule : ℕ → Action) (first second : ℕ) :
    served.during schedule (first + second)
      = (served.during schedule first).during (fun time => schedule (first + time)) second := by
  rw [during, during, during, ← run_append, List.range_add, List.map_append, List.map_map]
  rfl

lemma dispatches_prefix_run (served : ServedCore) (actions : List Action) :
    served.dispatches <+: (served.run actions).dispatches := by
  induction actions generalizing served with
  | nil => exact List.prefix_rfl
  | cons action rest ih =>
    refine List.IsPrefix.trans ?_ (ih (served.step action))
    cases action with
    | core =>
      simp only [step, tickCore]
      split
      · exact List.prefix_rfl
      · exact List.prefix_append _ _
    | link | take | serve | reply | raise => exact List.prefix_rfl

lemma Undisturbed.run (undisturbed : served.Undisturbed origin) {actions : List Action}
    (calm : .raise ∉ actions) : (served.run actions).Undisturbed origin := by
  induction actions generalizing served with
  | nil => exact undisturbed
  | cons action rest ih =>
    rw [List.mem_cons, not_or] at calm
    exact ih (undisturbed.step (Ne.symm calm.1)) calm.2

lemma Undisturbed.during (undisturbed : served.Undisturbed origin) (fair : Fair schedule)
    (time : ℕ) : (served.during schedule time).Undisturbed origin :=
  undisturbed.run (by simpa using fun moment _ => fair.calm moment)

/-- The core has stopped, or it has dispatched another instruction. -/
def GoneOn (served after : ServedCore) : Prop :=
  after.stopped ≠ none ∨ served.dispatches.length < after.dispatches.length

lemma GoneOn.of_later {between after : ServedCore} (later : between.GoneOn after)
    (more : served.dispatches.length ≤ between.dispatches.length) : served.GoneOn after :=
  later.imp id more.trans_lt

/-- Until the helpful action has its turn, the others leave it the helpful one. -/
lemma Undisturbed.exists_nearer (undisturbed : served.Undisturbed origin)
    (running : served.stopped = none) (stands : served.Stands origin standing)
    (calm : standing.Calm) (quiet : ∀ time, schedule time ≠ .raise) {wait : ℕ}
    (helps : schedule wait = served.helpful) :
    ∃ time, served.GoneOn (served.during schedule time)
      ∨ (served.during schedule time).stopped = none
        ∧ ∃ later, (served.during schedule time).Stands origin later ∧ later.Calm
          ∧ (served.during schedule time).rank later < served.rank standing := by
  induction wait using Nat.strongRecOn generalizing served standing schedule with
  | ind wait ih =>
    have first : served.during schedule 1 = served.step (schedule 0) := rfl
    by_cases gone : served.GoneOn (served.step (schedule 0))
    · exact ⟨1, Or.inl (first ▸ gone)⟩
    obtain ⟨live, same⟩ := not_or.mp gone
    rw [not_not] at live
    have advances := undisturbed.advances running stands calm (quiet 0)
    obtain ⟨later, stands', calm', nears⟩ :=
      (advances.resolve_left (by simp [live])).resolve_left same
    rcases nears with lower | ⟨level, still, unhelpful⟩
    · exact ⟨1, Or.inr (first ▸ ⟨live, later, stands', calm', lower⟩)⟩
    · have more : wait ≠ 0 := by
        rintro rfl
        exact unhelpful helps
      obtain ⟨rest, rfl⟩ := Nat.exists_eq_add_of_le' (Nat.one_le_iff_ne_zero.mpr more)
      obtain ⟨time, found⟩ := @ih rest (by omega) _ _ (fun time => schedule (1 + time))
        (undisturbed.step (quiet 0)) live stands' calm' (fun time => quiet _)
        (by rw [still, ← helps, Nat.add_comm])
      refine ⟨1 + time, ?_⟩
      rw [during_add, first]
      refine found.imp (fun gone => gone.of_later ?_) (fun ⟨live, other, nearer⟩ => ?_)
      · exact (dispatches_prefix_run served [schedule 0]).length_le
      · exact ⟨live, other, nearer.imp_right (And.imp_right (level ▸ ·))⟩

/-- Under a fair schedule a core goes on to its next instruction. -/
lemma Undisturbed.exists_goneOn (undisturbed : served.Undisturbed origin)
    (fair : Fair schedule) : ∃ time, served.GoneOn (served.during schedule time) := by
  by_cases running : served.stopped = none
  swap
  · exact ⟨0, Or.inl running⟩
  obtain ⟨standing, stands, calm⟩ := undisturbed.running running
  generalize far : served.rank standing = rank
  induction rank using WellFoundedLT.induction generalizing served standing schedule with
  | ind rank ih =>
    have acts : served.helpful ≠ .raise := by
      rw [helpful]
      split_ifs <;> simp
    obtain ⟨wait, _, helps⟩ := fair.again served.helpful acts 0
    obtain ⟨time, gone | ⟨live, later, stands', calm', nearer⟩⟩ :=
      undisturbed.exists_nearer running stands calm fair.calm helps
    · exact ⟨time, gone⟩
    · obtain ⟨time', gone⟩ := ih _ (far ▸ nearer) (undisturbed.during fair time)
        (fair.shift time) live later stands' calm' rfl
      refine ⟨time + time', ?_⟩
      rw [during_add]
      exact gone.of_later (dispatches_prefix_run served _).length_le

/-- Under a fair schedule, a core dispatches as many instructions as one likes, unless a fault stops
it. -/
theorem Undisturbed.exists_dispatches (undisturbed : served.Undisturbed origin)
    (fair : Fair schedule) (count : ℕ) :
    ∃ time, (served.during schedule time).stopped ≠ none
      ∨ count ≤ (served.during schedule time).dispatches.length := by
  induction count with
  | zero => exact ⟨0, Or.inr (Nat.zero_le _)⟩
  | succ count ih =>
    obtain ⟨time, stopped | enough⟩ := ih
    · exact ⟨time, Or.inl stopped⟩
    · obtain ⟨time', gone⟩ :=
        (undisturbed.during fair time).exists_goneOn (fair.shift time)
      refine ⟨time + time', ?_⟩
      rw [during_add]
      exact gone.imp id fun more => by omega

end During

end ServedCore

end PipelinedMachine
