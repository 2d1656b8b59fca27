import Mathlib.Logic.Function.Basic
import PipelinedMachine.Proofs.Core.Turn
import PipelinedMachine.Proofs.Link.Contents

/-!
# A core and a memory

A core on its own only sends messages and reacts to what comes back.  Here it is linked to a memory
that serves requests in the order in which they arrive, each after any delay.  Nothing is said about
when the core ticks, when words cross the link, or when the memory takes, serves and answers a
request: a run is any list of these actions.

* `Memory` — the words, and the data accesses served so far;
* `Server` — a memory behind a link, with the requests it has taken and the answers it has yet to
  send;
* `ServedCore`, `Action`, `ServedCore.run` — a core with its link and its memory, and their runs;
* `View` — **the core's view of its memory**: what the words will be once every request on its way
  has been served, and every message still to come to the core.

The view is what makes the delays disappear: only the core's own actions change it
(`Server.view_tick`, `Server.view_take`, `Server.view_serve`, `Server.view_reply`).
A message that the core sends is answered in it at once (`Server.view_send`), and the message
waiting for the core is its next one (`Server.view_message?`, `Server.view_clear`).
-/

namespace PipelinedMachine

/-! ## Memory -/

/-- What a program asks of its memory, other than its own instructions. -/
inductive Access where
  | read (address value : Word)
  | write (address value : Word)
  | interrupt (id : Word)
deriving DecidableEq, Repr

/-- The address that is written. -/
def Access.written? : Access → Option Word
  | .write address _ => some address
  | .read _ _ | .interrupt _ => none

/-- The words at all addresses, and the accesses served so far, oldest first. -/
structure Memory where
  words : Word → Word
  accesses : List Access := []

namespace Memory

/-- The words from `address` on. -/
def wordsFrom (memory : Memory) (address : Word) (count : Nat) : List Word :=
  (List.range count).map fun i => memory.words (address + Int32.ofNat i)

/-- Notes that the word at `address` was read. -/
def load (memory : Memory) (address : Word) : Memory :=
  { memory with accesses := memory.accesses ++ [.read address (memory.words address)] }

/-- Replaces the word at `address`. -/
def store (memory : Memory) (address value : Word) : Memory where
  words := Function.update memory.words address value
  accesses := memory.accesses ++ [.write address value]

/-- Notes that an interrupt was asked for. -/
def interrupt (memory : Memory) (id : Word) : Memory :=
  { memory with accesses := memory.accesses ++ [.interrupt id] }

/-- Serves one request, and gives the answers that go back for it.  Programs read one word at a
time, so a longer read is for instructions and is not an access. -/
def serve (memory : Memory) (message : Message) : Memory × List Message :=
  match message.kind? with
  | some .read =>
    (if message.count = 1 then memory.load message.address else memory,
      [Message.response message.address
        (memory.wordsFrom message.address message.count.toNatClampNeg)])
  | some .write => (memory.store message.address message.value, [])
  | some .interrupt => (memory.interrupt message.address, [])
  | some .response | some .command | none => (memory, [])

/-- Serves requests one after the other. -/
def serveAll (memory : Memory) : List Message → Memory × List Message
  | [] => (memory, [])
  | message :: rest =>
    (((memory.serve message).1.serveAll rest).1,
      (memory.serve message).2 ++ ((memory.serve message).1.serveAll rest).2)

lemma serveAll_append (memory : Memory) (first second : List Message) :
    memory.serveAll (first ++ second)
      = (((memory.serveAll first).1.serveAll second).1,
        (memory.serveAll first).2 ++ ((memory.serveAll first).1.serveAll second).2) := by
  induction first generalizing memory with
  | nil => rfl
  | cons message rest ih => simp only [List.cons_append, serveAll, ih, List.append_assoc]

lemma serve_readWord (memory : Memory) (address : Word) :
    memory.serve (Message.read address 1)
      = (memory.load address, [Message.response address [memory.words address]]) := by
  have here : memory.wordsFrom address 1 = [memory.words address] := by
    simp [wordsFrom]
  rw [← here]
  rfl

lemma serve_write (memory : Memory) (address value : Word) :
    memory.serve (Message.write address value) = (memory.store address value, []) := rfl

lemma serve_interrupt (memory : Memory) (id : Word) :
    memory.serve (Message.interrupt id) = (memory.interrupt id, []) := rfl

lemma accesses_prefix_serve (memory : Memory) (message : Message) :
    memory.accesses <+: (memory.serve message).1.accesses := by
  rw [serve]
  split
  · dsimp only
    split
    · exact List.prefix_append _ _
    · exact List.prefix_rfl
  · exact List.prefix_append _ _
  · exact List.prefix_append _ _
  all_goals exact List.prefix_rfl

lemma accesses_prefix_serveAll (memory : Memory) (messages : List Message) :
    memory.accesses <+: (memory.serveAll messages).1.accesses := by
  induction messages generalizing memory with
  | nil => exact List.prefix_rfl
  | cons message rest ih => exact (memory.accesses_prefix_serve message).trans (ih _)

end Memory

/-! ## The view of a core -/

/-- A memory as it will be once every request has been served, with the messages that are still to
come to the core. -/
structure View where
  memory : Memory
  incoming : List Message

namespace View

/-- A request that is sent is served, after those sent before it. -/
def send (view : View) (message : Message) : View where
  memory := (view.memory.serve message).1
  incoming := view.incoming ++ (view.memory.serve message).2

end View

/-- A memory behind a link.  Requests go from the link to `inbox`, are served from there, and their
answers wait in `outbox` for the link. -/
structure Server where
  memory : Memory
  inbox : List Message := []
  outbox : List Message := []

namespace Server

/-- The requests that have not been served: those taken from the link, and then the one on it. -/
def requests (server : Server) (bus : Interconnect) (near : Terminal) : List Message :=
  server.inbox ++ (bus.carried? near).toList

/-- The core's view of a server, the core being at `near`. -/
def view (server : Server) (bus : Interconnect) (near : Terminal) : View where
  memory := (server.memory.serveAll (server.requests bus near)).1
  incoming := (bus.carried? near.peer).toList ++ server.outbox
    ++ (server.memory.serveAll (server.requests bus near)).2

/-! ## What the core does to its view -/

section Core

variable (server : Server) {bus after : Interconnect} {near : Terminal} {message : Message}

/-- What is sent joins the requests. -/
lemma view_send (sent : bus.send? near message = some after) :
    server.view after near = (server.view bus near).send message := by
  obtain ⟨free, transit⟩ := Interconnect.inTransit?_of_send? sent
  have joined : server.requests after near = server.requests bus near ++ [message] := by
    simp [requests, free, Interconnect.carried?_eq after, transit]
  have other : after.carried? near.peer = bus.carried? near.peer := by
    simp only [Interconnect.carried?,
      Interconnect.outgoing?_of_send?_of_ne sent (Terminal.peer_ne near)]
  simp only [view, View.send, joined, other, Memory.serveAll_append, Memory.serveAll,
    List.append_nil, List.append_assoc]

/-- The message waiting for the core is the first of those to come. -/
lemma view_message? (waiting : bus.message? near = some message) :
    ∃ rest, (server.view bus near).incoming = message :: rest
      ∧ server.view (bus.clear near) near = ⟨(server.view bus near).memory, rest⟩ := by
  have carried := Interconnect.carried?_of_message? waiting
  have taken := Interconnect.carried?_clear_of_message? waiting
  have other : (bus.clear near).carried? near = bus.carried? near := by
    simp only [Interconnect.carried?,
      Interconnect.outgoing?_clear_of_ne (Terminal.peer_ne near).symm]
  refine ⟨_, by simp only [view, carried, Option.toList_some]; rfl, ?_⟩
  simp [view, requests, taken, other]

end Core

/-! ## What the server does -/

/-- Takes the message waiting at the server's end of the link. -/
def take (server : Server) (bus : Interconnect) (far : Terminal) : Server × Interconnect :=
  match bus.message? far with
  | some message => ({ server with inbox := server.inbox ++ [message] }, bus.clear far)
  | none => (server, bus)

/-- Serves the oldest request taken. -/
def serve (server : Server) : Server :=
  match server.inbox with
  | [] => server
  | message :: rest =>
    { memory := (server.memory.serve message).1
      inbox := rest
      outbox := server.outbox ++ (server.memory.serve message).2 }

/-- Sends the oldest answer, if the link takes it. -/
def reply (server : Server) (bus : Interconnect) (far : Terminal) : Server × Interconnect :=
  match server.outbox with
  | [] => (server, bus)
  | message :: rest =>
    match bus.send? far message with
    | some bus => ({ server with outbox := rest }, bus)
    | none => (server, bus)

/-- Time on the link does not change the view. -/
lemma view_tick (server : Server) (bus : Interconnect) (near : Terminal) :
    server.view bus.tick near = server.view bus near := by
  simp [view, requests]

/-- Nor does taking a request from the link. -/
lemma view_take (server : Server) (bus : Interconnect) (near : Terminal) :
    (server.take bus near.peer).1.view (server.take bus near.peer).2 near
      = server.view bus near := by
  rw [take]
  cases waiting : bus.message? near.peer with
  | none => rfl
  | some message =>
    have carried := Interconnect.carried?_of_message? waiting
    have taken := Interconnect.carried?_clear_of_message? waiting
    rw [Terminal.peer_peer] at carried taken
    have other : (bus.clear near.peer).carried? near.peer = bus.carried? near.peer := by
      simp only [Interconnect.carried?,
        Interconnect.outgoing?_clear_of_ne (Terminal.peer_ne near.peer).symm]
    simp [view, requests, carried, taken, other]

/-- Nor does serving one, because the view has served it already. -/
lemma view_serve (server : Server) (bus : Interconnect) (near : Terminal) :
    server.serve.view bus near = server.view bus near := by
  rw [serve]
  cases waiting : server.inbox with
  | nil => simp only
  | cons message rest => simp [view, requests, waiting, Memory.serveAll]

/-- Nor does sending an answer. -/
lemma view_reply (server : Server) (bus : Interconnect) (near : Terminal) :
    (server.reply bus near.peer).1.view (server.reply bus near.peer).2 near
      = server.view bus near := by
  cases waiting : server.outbox with
  | nil => simp only [reply, waiting]
  | cons message rest =>
    cases sent : bus.send? near.peer message with
    | none => simp only [reply, waiting, sent]
    | some after =>
      have step : server.reply bus near.peer = ({ server with outbox := rest }, after) := by
        simp only [reply, waiting, sent]
      obtain ⟨free, transit⟩ := Interconnect.inTransit?_of_send? sent
      have other : after.carried? near = bus.carried? near := by
        simp only [Interconnect.carried?,
          Interconnect.outgoing?_of_send?_of_ne sent (Terminal.peer_ne near).symm]
      have carried : after.carried? near.peer = some message := by
        simp [Interconnect.carried?_eq, transit]
      rw [step]
      simp [view, requests, waiting, free, carried, other]

end Server

/-! ## The system -/

/-- The jump supplied last, after a tick that has found this instruction: what is found at the end
of a search is the jump. -/
def Fetch.jumpAfter (fetch : Fetch) (found jump : Option Fetched) : Option Fetched :=
  if fetch.searching = none then jump else found.or jump

/-- A core, its link, and the memory at the other end of it. -/
structure ServedCore where
  core : Core
  /-- The link, the lines and the counters. -/
  env : Environment
  server : Server
  /-- Everything dispatched so far, oldest first. -/
  dispatches : List Dispatch := []
  /-- What the latest search for a handler has supplied in place of an instruction. -/
  jump : Option Fetched := none
  /-- The fault that stopped the core. -/
  stopped : Option Fault := none

/-- One thing that happens in the system. -/
inductive Action where
  /-- The core ticks, unless a fault has stopped it. -/
  | core
  /-- Every channel ticks. -/
  | link
  | take
  | serve
  | reply
  /-- The core's interrupt line is raised. -/
  | raise
deriving DecidableEq, Repr

namespace ServedCore

/-- Core `id`, about to dispatch the instruction at `entry`, with a memory that holds `words` behind
a link that carries a word every `period` ticks. -/
def reset (id : Nat) (entry : Word) (period : UInt32) (words : Word → Word) : ServedCore :=
  let (bus, near, _) := Interconnect.empty.link period Interconnect.messageCapacity
  { core := Core.reset id near entry
    env := ⟨bus, InterruptLines.quiet (id + 1), {}⟩
    server := { memory := { words := words } } }

/-- What the next tick of the core dispatches. -/
def issue? (served : ServedCore) : Option Dispatch :=
  match served.stopped with
  | some _ => none
  | none => served.core.issue? served.env

/-- The tick of the core. -/
def tickCore (served : ServedCore) : ServedCore :=
  match served.stopped with
  | some _ => served
  | none =>
    let (core, env, outcome) := served.core.tick served.env
    { served with
      core := core
      env := env
      dispatches := served.dispatches ++ served.issue?.toList
      jump := served.core.pipeline.fetch.jumpAfter (served.issue?.map Dispatch.entry) served.jump
      stopped := match outcome with
        | .error fault => some fault
        | .ok _ => none }

/-- One action. -/
def step (served : ServedCore) : Action → ServedCore
  | .core => served.tickCore
  | .link => { served with env := { served.env with bus := served.env.bus.tick } }
  | .take =>
    let (server, bus) := served.server.take served.env.bus served.core.terminal.peer
    { served with server := server, env := { served.env with bus := bus } }
  | .serve => { served with server := served.server.serve }
  | .reply =>
    let (server, bus) := served.server.reply served.env.bus served.core.terminal.peer
    { served with server := server, env := { served.env with bus := bus } }
  | .raise =>
    { served with env := { served.env with lines := served.env.lines.raise served.core.id } }

/-- The actions of a run in order. -/
def run (served : ServedCore) (actions : List Action) : ServedCore := actions.foldl step served

/-- The core's view of its memory. -/
def view (served : ServedCore) : View := served.server.view served.env.bus served.core.terminal

/-- Only the core changes its view. -/
lemma view_step (served : ServedCore) {action : Action} (other : action ≠ .core) :
    (served.step action).view = served.view := by
  cases action with
  | core => contradiction
  | link => exact Server.view_tick _ _ _
  | take => exact Server.view_take _ _ _
  | serve => exact Server.view_serve _ _ _
  | reply => exact Server.view_reply _ _ _
  | raise => rfl

end ServedCore

end PipelinedMachine
