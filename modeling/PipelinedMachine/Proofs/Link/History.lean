import Mathlib.Data.List.Basic
import Mathlib.Data.List.Induction
import PipelinedMachine.Proofs.Link.Endpoint

/-!
# The turns of a run

Between its turns a component sees nothing of the link, and only in a turn can it take or send a
message.  So what a run shows of a component is the list of its turns, each told by the state in
which it begins.

* `Attended.takes?`, `Attended.sends?` — what a component takes and sends in the turn that begins;
* `Attended.turns` — the states of a run in which a turn begins, oldest first;
* `Attended.exists_of_turns_eq` — the moment of a run at which a given turn begins;
* `Attended.sent_run` — what is sent over a run is what is sent in its turns;
* `Attended.message?_step` — what waits for a component waits until its next turn;
* `Attended.invariant_turns` — induction over the turns of a run;
* `Since` — what a history holds since something happened.
-/

namespace PipelinedMachine

/-! ## Histories -/

/-- `between` is what has followed a `begun`, all of it `kept`. -/
def Since {α : Type} (begun kept : α → Prop) (history between : List α) : Prop :=
  (∃ before first, history = before ++ first :: between ∧ begun first)
    ∧ ∀ here ∈ between, kept here

/-- Either the stretch begins with what comes last, or that goes on with it. -/
lemma since_concat {α : Type} {begun kept : α → Prop} {history between : List α} {here : α} :
    Since begun kept (history ++ [here]) between
      ↔ begun here ∧ between = []
        ∨ kept here
          ∧ ∃ earlier, between = earlier ++ [here] ∧ Since begun kept history earlier := by
  constructor
  · rintro ⟨⟨before, first, split, begins⟩, keeps⟩
    rcases between.eq_nil_or_concat' with rfl | ⟨earlier, last, rfl⟩
    · obtain ⟨-, rfl⟩ := List.append_singleton_inj.mp split
      exact Or.inl ⟨begins, rfl⟩
    · rw [← List.cons_append, ← List.append_assoc] at split
      obtain ⟨rfl, rfl⟩ := List.append_singleton_inj.mp split
      refine Or.inr ⟨keeps here (by simp), earlier, rfl, ⟨before, first, rfl, begins⟩, ?_⟩
      exact fun other member => keeps other (List.mem_append_left _ member)
  · rintro (⟨begins, rfl⟩ | ⟨keeps, earlier, rfl, ⟨before, first, rfl, begins⟩, kept⟩)
    · exact ⟨⟨history, here, rfl, begins⟩, by simp⟩
    · refine ⟨⟨before, first, by simp, begins⟩, ?_⟩
      simpa [or_imp, forall_and, keeps] using kept

/-- If the stretch is `kept` from its beginning on, then what comes last is, too. -/
lemma exists_since_concat {α : Type} {begun kept : α → Prop} {history : List α} {here : α} :
    (∃ between, Since (fun here => begun here ∧ kept here) kept (history ++ [here]) between)
      ↔ kept here ∧ (begun here
        ∨ ∃ between, Since (fun here => begun here ∧ kept here) kept history between) := by
  simp only [since_concat]
  constructor
  · rintro ⟨between, ⟨⟨begins, keeps⟩, -⟩ | ⟨keeps, earlier, -, since⟩⟩
    · exact ⟨keeps, Or.inl begins⟩
    · exact ⟨keeps, Or.inr ⟨earlier, since⟩⟩
  · rintro ⟨keeps, begins | ⟨earlier, since⟩⟩
    · exact ⟨[], Or.inl ⟨⟨begins, keeps⟩, rfl⟩⟩
    · exact ⟨earlier ++ [here], Or.inr ⟨keeps, earlier, rfl, since⟩⟩

lemma not_since_nil {α : Type} {begun kept : α → Prop} {between : List α} :
    ¬Since begun kept [] between := by
  rintro ⟨⟨before, first, split, -⟩, -⟩
  simp at split

/-! ## Turns -/

namespace Attended

open Endpoint

variable {α Event : Type} [Endpoint α Event]

/-- What the component takes in the turn that begins. -/
def takes? (attended : Attended α) : Option Message :=
  Interconnect.taken? attended.near attended.bus (turn attended.component attended.bus).2

/-- What the component sends in the turn that begins. -/
def sends? (attended : Attended α) : Option Message :=
  Message.newly? (attended.bus.carried? attended.near)
    ((turn attended.component attended.bus).2.carried? attended.near)

/-- The turn that an action is, if it is one. -/
def begun (attended : Attended α) : LinkAction Event → List (Attended α)
  | .turn => [attended]
  | .tick | .offer _ | .receive | .host _ => []

/-- The turns of a run. -/
def turns (attended : Attended α) : List (LinkAction Event) → List (Attended α)
  | [] => []
  | action :: later => attended.begun action ++ (attended.step action).turns later

variable {attended : Attended α}

lemma takes?_eq {taken sent : Option Message}
    (handled : Interconnect.Handled attended.near attended.bus
      (turn attended.component attended.bus).2 taken sent) : attended.takes? = taken :=
  handled.taken?_eq

lemma sends?_eq {taken sent : Option Message}
    (handled : Interconnect.Handled attended.near attended.bus
      (turn attended.component attended.bus).2 taken sent) : attended.sends? = sent :=
  handled.newly?_carried?

lemma turns_append (attended : Attended α) (first second : List (LinkAction Event)) :
    attended.turns (first ++ second)
      = attended.turns first ++ (attended.run first).turns second := by
  induction first generalizing attended with
  | nil => rfl
  | cons action first ih => rw [List.cons_append, turns, turns, ih, List.append_assoc, run_cons]

lemma turns_concat (attended : Attended α) (actions : List (LinkAction Event))
    (action : LinkAction Event) :
    attended.turns (actions ++ [action])
      = attended.turns actions ++ (attended.run actions).begun action := by
  rw [turns_append, turns, turns, List.append_nil]

/-- Before a turn of a run, the run has had the earlier turns; after it, it has the later ones. -/
lemma exists_of_turns_eq {actions : List (LinkAction Event)} {past later : List (Attended α)}
    {here : Attended α} (split : attended.turns actions = past ++ here :: later) :
    ∃ before after : List (LinkAction Event),
      actions = before ++ .turn :: after ∧ attended.turns before = past
        ∧ attended.run before = here ∧ (here.step .turn).turns after = later := by
  induction actions generalizing attended past with
  | nil => simp [turns] at split
  | cons action actions ih =>
    rw [turns] at split
    -- an action that is no turn only moves the run on
    have moved (other : attended.begun action = []) :
        ∃ before after : List (LinkAction Event),
          action :: actions = before ++ .turn :: after ∧ attended.turns before = past
            ∧ attended.run before = here ∧ (here.step .turn).turns after = later := by
      rw [other, List.nil_append] at split
      obtain ⟨before, after, rfl, rfl, rfl, rfl⟩ := ih split
      exact ⟨action :: before, after, rfl, by rw [turns, other, List.nil_append], rfl, rfl⟩
    cases action with
    | turn =>
      cases past with
      | nil =>
        obtain ⟨rfl, rfl⟩ := List.cons.inj split
        exact ⟨[], actions, rfl, rfl, rfl, rfl⟩
      | cons first past =>
        obtain ⟨rfl, rest⟩ := List.cons.inj split
        obtain ⟨before, after, rfl, rfl, rfl, rfl⟩ := ih rest
        exact ⟨.turn :: before, after, rfl, rfl, rfl, rfl⟩
    | tick | offer | receive | host => exact moved rfl

lemma sent_step (attended : Attended α) (action : LinkAction Event) :
    (attended.step action).sent = attended.sent ++ (attended.begun action).filterMap sends? := by
  cases action with
  | turn =>
    change attended.sent ++ attended.sends?.toList = _
    cases said : attended.sends? <;> simp [begun, said]
  | tick | receive | host => simp [step, begun]
  | offer message =>
    rw [step]
    split <;> simp [begun]

/-- What is sent over a run is what is sent in its turns. -/
lemma sent_run (attended : Attended α) (actions : List (LinkAction Event)) :
    (attended.run actions).sent
      = attended.sent ++ (attended.turns actions).filterMap sends? := by
  induction actions generalizing attended with
  | nil => simp [turns, run]
  | cons action actions ih =>
    rw [run_cons, ih, sent_step, turns, List.filterMap_append, List.append_assoc]

/-- What waits for the component waits until its next turn. -/
lemma message?_step {message : Message}
    (waits : attended.bus.message? attended.near = some message) {action : LinkAction Event}
    (other : action ≠ .turn) :
    (attended.step action).bus.message? attended.near = some message := by
  cases action with
  | turn => contradiction
  | tick =>
    rw [Interconnect.message?_eq, Option.bind_eq_some_iff] at waits
    obtain ⟨channel, found, arrived⟩ := waits
    rw [step, Interconnect.message?_eq, Interconnect.outgoing?_tick, found]
    exact Channel.waiting?_tick_of_waiting? arrived
  | offer other =>
    rw [step]
    split
    · next sent =>
      have free := (Interconnect.inTransit?_of_send? sent).1
      rw [Interconnect.carried?_of_message? waits] at free
      contradiction
    · exact waits
  | receive =>
    rw [step, Interconnect.message?_eq,
      Interconnect.outgoing?_clear_of_ne (Terminal.peer_ne attended.near.peer).symm,
      ← Interconnect.message?_eq]
    exact waits
  | host => exact waits

/-- What holds of the history of a component and of its state holds over a run if every turn and
every action of the host keep it. -/
lemma invariant_turns (holds : List (Attended α) → α → Prop)
    (start : holds [] attended.component)
    (of_turn : ∀ (history : List (Attended α)) (here : Attended α), holds history here.component →
      holds (history ++ [here]) (here.step .turn).component)
    (of_host : ∀ history component event, holds history component →
      holds history (host component event))
    (actions : List (LinkAction Event)) :
    holds (attended.turns actions) (attended.run actions).component := by
  induction actions using List.reverseRecOn with
  | nil => exact start
  | append_singleton actions action ih =>
    rw [turns_concat, run_append]
    cases action with
    | turn => exact of_turn _ _ ih
    | tick | receive =>
      rw [begun, List.append_nil]
      exact ih
    | offer message =>
      rw [begun, List.append_nil]
      change holds _ (((attended.run actions).step (.offer message)).component)
      rw [step]
      split <;> exact ih
    | host event =>
      rw [begun, List.append_nil]
      exact of_host _ _ event ih

end Attended

end PipelinedMachine
