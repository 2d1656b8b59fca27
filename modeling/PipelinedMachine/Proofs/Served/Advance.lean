import PipelinedMachine.Proofs.Served.Refinement

/-!
# How a core gets on

A core waits for its link and for nothing else.  This file measures how far it still is from its
next instruction, and shows that a tick without a fault brings it nearer, unless the link withholds
what the core needs: the answer to its oldest question or, when it has asked nothing, the leave to
send a message.

* `Fetch.left`, `Occupancy.left`, `Standing.left` — **how far it is** to the next dispatch;
* `Interconnect.Withholds` — what a core can wait for;
* `Fetch.Turn.gets_on` — a turn of fetch brings it nearer, or leaves the link alone;
* `Standing.Staged.withholds_of_stays` — a unit keeps its instruction only as long as it must;
* `Standing.Turn.gets_on` — **a tick dispatches an instruction, or brings the next dispatch nearer,
  or finds the link withholding**.
-/

namespace PipelinedMachine

/-! ## What a core can wait for -/

namespace Interconnect

/-- A message that fits is not taken. -/
def Refuses (bus : Interconnect) (near : Terminal) : Prop :=
  ∃ message : Message, message ≠ [] ∧ message.length ≤ messageCapacity
    ∧ bus.send? near message = none

/-- What keeps a core with these open questions from going on: the answer to the first has not
come, or there are none and the link takes no message. -/
def Withholds (bus : Interconnect) (near : Terminal) : List (Word × Nat) → Prop
  | [] => bus.Refuses near
  | question :: _ => bus.answer? near question.1 = none

end Interconnect

/-! ## Fetch -/

namespace Fetch

lemma pass_pass (fetch : Fetch) (ip : Word) : (fetch.pass ip).pass ip = fetch.pass ip := by
  rcases fetch.pass_cases ip with ⟨same, _⟩ | ⟨_, moved⟩
  · rw [same, same]
  · have front : ((fetch.pass ip).ahead.takeWhile fun entry => entry.address ≠ ip) = [] := by
      rw [moved, List.takeWhile_eq_nil_iff]
      exact fun inside => List.dropWhile_get_zero_not _ _ inside
    rw [pass, front]

/-- What has been asked for has no part in passing. -/
lemma pass_outstanding (fetch : Fetch) (ip : Word) (outstanding : Option Word) :
    ({ fetch with outstanding := outstanding } : Fetch).pass ip
      = { fetch.pass ip with outstanding := outstanding } := by
  simp only [pass]
  split
  · rfl
  · split <;> rfl

/-- How many turns with something to do fetch has left, at most, until it has nothing to ask. -/
def left (fetch : Fetch) (ip : Word) : Nat :=
  match fetch.outstanding with
  | some address =>
    if (fetch.pass ip).find? ip ≠ none then 1 else if address = ip then 3 else 5
  | none =>
    match (fetch.pass ip).wanted? ip with
    | none => 0
    | some _ => if (fetch.pass ip).find? ip ≠ none then 2 else 4

lemma left_le (fetch : Fetch) (ip : Word) : fetch.left ip ≤ 5 := by
  rw [left]
  split <;> split_ifs <;> first | omega | (split <;> omega)

@[simp] lemma left_pass (fetch : Fetch) (ip : Word) : (fetch.pass ip).left ip = fetch.left ip := by
  rw [left, left, pass_pass, outstanding_pass]

/-- With the instruction at hand and enough ahead, fetch has nothing left to do. -/
lemma AtHand.left_eq_zero {fetch : Fetch} {ip : Word} (here : fetch.AtHand ip)
    (free : fetch.outstanding = none) (enough : depth ≤ fetch.ahead.length) :
    fetch.left ip = 0 := by
  simp only [left, free, here.pass_eq, wanted?_eq_none here.supplied enough]

/-- Once the instruction is at hand, asking for more is all that is left. -/
lemma Supplied.left_le {fetch : Fetch} {ip : Word} (supplied : fetch.Supplied ip)
    (free : fetch.outstanding = none) : fetch.left ip ≤ 2 := by
  have found : (fetch.pass ip).find? ip ≠ none :=
    find?_ne_none_iff.mpr supplied.pass.supplied.2
  simp only [left, free, if_pos found]
  split <;> omega

/-- What a turn of fetch that gets nothing done has found. -/
inductive Waits (near : Terminal) (bus : Interconnect) (fetch : Fetch) (ip : Word) : Prop where
  /-- The block has not come. -/
  | answer (address : Word) (asked : fetch.outstanding = some address)
      (missing : bus.answer? near address = none)
  /-- The link has not taken the read. -/
  | leave (free : fetch.outstanding = none) (wanted : (fetch.pass ip).wanted? ip ≠ none)
      (refuses : bus.Refuses near)
  | content (free : fetch.outstanding = none) (unwanted : (fetch.pass ip).wanted? ip = none)

section Turn

variable {near : Terminal} {path after : Datapath} {fetch later : Fetch}

/-- A block that comes brings the instruction that was missing, or it fills up what is ahead. -/
lemma left_receive_lt {ip : Word} (exhausted : fetch.Exhausted ip) {address : Word}
    (asked : fetch.outstanding = some address) (words : List Word) :
    ({ fetch.pass ip with
        outstanding := none
        ahead := (fetch.pass ip).ahead ++ block address words } : Fetch).left ip
      < fetch.left ip := by
  have before : fetch.left ip
      = if (fetch.pass ip).find? ip ≠ none then 1 else if address = ip then 3 else 5 := by
    simp only [left, asked]
  rw [before]
  split_ifs with found here
  · obtain ⟨entry, member, address'⟩ := find?_ne_none_iff.mp found
    have more : (fetch.pass ip).ahead ≠ [] := by
      intro nothing
      rw [line, nothing, List.append_nil] at member
      exact exhausted.pass nothing entry member address'
    have front : ((fetch.pass ip).pass ip).AtHand ip :=
      Supplied.pass ⟨more, entry, member, address'⟩
    rw [pass_pass] at front
    have some : 1 ≤ (fetch.pass ip).ahead.length := List.length_pos_iff.mpr more
    rw [(front.append none (block address words)).left_eq_zero rfl
      (by simp only [List.length_append, length_block, depth]; omega)]
    omega
  · subst here
    have first : ⟨address, ⟨words.getD 0 0, words.getD 1 0⟩⟩ ∈ block address words := by
      simp [block]
    exact Nat.lt_succ_of_le (Supplied.left_le ⟨by simp [block], _,
      List.mem_append_right _ (List.mem_append_right _ first), rfl⟩ rfl)
  · rw [left]
    simp only
    split
    · omega
    · split_ifs <;> omega

/-- A block that is asked for is one that was missing, or one more. -/
lemma left_ask_lt {ip address : Word} (free : fetch.outstanding = none)
    (wanted : (fetch.pass ip).wanted? ip = some address) :
    ({ fetch.pass ip with outstanding := some address } : Fetch).left ip < fetch.left ip := by
  rw [left, left]
  simp only [pass_outstanding, pass_pass, free, wanted]
  have same : ({ fetch.pass ip with outstanding := some address } : Fetch).find? ip
      = (fetch.pass ip).find? ip := rfl
  rw [same]
  cases found : (fetch.pass ip).find? ip with
  | some entry => simp
  | none =>
    simp only [wanted?, found, Option.some.injEq] at wanted
    simp [wanted]

/-- A turn of fetch brings it nearer to having nothing to ask, or it leaves the link alone. -/
lemma Turn.gets_on (turn : Turn near path fetch later after) (reading : fetch.searching = none)
    (exhausted : fetch.Exhausted path.registers.ip) :
    later.left path.registers.ip < fetch.left path.registers.ip
      ∨ later = fetch.pass path.registers.ip ∧ after.bus = path.bus
        ∧ fetch.Waits near path.bus path.registers.ip := by
  cases turn with
  | received address answer _ asked came =>
    exact Or.inl (left_receive_lt exhausted asked _)
  | awaited address _ asked missing => exact Or.inr ⟨rfl, rfl, .answer address asked missing⟩
  | asked address bus _ free wanted sent => exact Or.inl (left_ask_lt free wanted)
  | refused address _ free wanted unsent =>
    exact Or.inr ⟨rfl, rfl, .leave free (by simp [wanted])
      ⟨_, List.cons_ne_nil _ _, by simp [Interconnect.messageCapacity], unsent⟩⟩
  | satisfied _ free unwanted => exact Or.inr ⟨rfl, rfl, .content free unwanted⟩
  | searched _ _ _ searching | dropped _ _ _ _ _ searching =>
    rw [reading] at searching
    contradiction

/-- In either case it is no further from it than before. -/
lemma Turn.left_le (turn : Turn near path fetch later after) (reading : fetch.searching = none)
    (exhausted : fetch.Exhausted path.registers.ip) :
    later.left path.registers.ip ≤ fetch.left path.registers.ip := by
  rcases turn.gets_on reading exhausted with less | ⟨rfl, _⟩
  · exact less.le
  · rw [left_pass]

end Turn

end Fetch

/-! ## The units -/

section Units

variable {near : Terminal} {path : Datapath}

lemma LoadUnit.current_tick (slot : Option PendingLoad) (near : Terminal) (path : Datapath) :
    (LoadUnit.tick slot near path).2.stages.current = path.stages.current := by
  unfold LoadUnit.tick
  dsimp only
  repeat' split
  all_goals rfl

lemma StoreUnit.current_tick (slot : Slot StoreInstruction) (near : Terminal) (path : Datapath) :
    (StoreUnit.tick slot near path).2.stages.current = path.stages.current := by
  unfold StoreUnit.tick
  dsimp only
  repeat' split
  all_goals rfl

/-- The stack unit never keeps its instruction. -/
lemma StackUnit.tick_fst (held : Held StackInstruction) (current : path.isIn .execution = true) :
    (StackUnit.tick (some held) path).1 = none := by
  cases form : held.instruction <;> simp [StackUnit.tick, current, form]

/-- A load stays where it is only while its read is not taken or its answer has not come. -/
lemma LoadUnit.withholds_of_stays {pending : PendingLoad} (current : path.isIn .execution = true)
    (stays : (LoadUnit.tick (some pending) near path).1 = some pending) :
    (LoadUnit.tick (some pending) near path).2.bus.Withholds near pending.question := by
  obtain ⟨held, requested⟩ := pending
  cases form : held.instruction with
  | nop => simp [tick, current, form] at stays
  | load target operand =>
    cases requested with
    | none =>
      cases sent : path.bus.send? near (Message.read (operand.resolve path.registers) 1) with
      | some bus => simp [tick, current, form, sent] at stays
      | none =>
        simp only [tick, current, if_true, form, sent, PendingLoad.question, Option.toList_none,
          List.map_nil]
        exact ⟨_, List.cons_ne_nil _ _, by simp [Interconnect.messageCapacity], sent⟩
    | some address =>
      cases came : path.bus.answer? near address with
      | some answer => simp [tick, current, form, came] at stays
      | none =>
        simp only [tick, current, if_true, form, came, PendingLoad.question, Option.toList_some,
          List.map_cons, List.map_nil]
        exact came

lemma StoreUnit.refuses_of_stays {held : Held StoreInstruction}
    (current : path.isIn .execution = true)
    (stays : (StoreUnit.tick (some held) near path).1 = some held) :
    (StoreUnit.tick (some held) near path).2.bus.Refuses near := by
  cases sent : path.bus.send? near (Message.write
    (held.instruction.address.resolve path.registers)
    (path.registers.get held.instruction.source)) with
  | some bus => simp [StoreUnit.tick, current, sent] at stays
  | none =>
    simp only [StoreUnit.tick, current, if_true, sent]
    exact ⟨_, List.cons_ne_nil _ _, by simp [Interconnect.messageCapacity], sent⟩

lemma RequestUnit.refuses_of_stays {held : Held InterruptRequest}
    (current : path.isIn .execution = true)
    (stays : (RequestUnit.tick (some held) near path).1 = some held) :
    (RequestUnit.tick (some held) near path).2.bus.Refuses near := by
  cases sent : path.bus.send? near (held.instruction.message path.registers) with
  | some bus => simp [RequestUnit.tick, current, sent] at stays
  | none =>
    simp only [RequestUnit.tick, current, if_true, sent]
    refine ⟨_, ?_, ?_, sent⟩ <;>
      cases held.instruction <;>
      simp [InterruptRequest.message, Message.write, Message.interrupt,
        Interconnect.messageCapacity]

end Units

namespace Occupancy

/-- How many turns its unit has left, at most, until the next instruction is looked up. -/
def left : Occupancy → Nat
  | idle => 0
  | done | branch _ => 1
  | alu _ | store _ | request _ => 2
  | load pending => if pending.requested = none then 3 else 2
  | stack _ => 4

/-- A turn of its unit brings an instruction nearer to its end, or leaves it as it is. -/
lemma Work.left_lt {near : Terminal} {path after : Datapath} {occupancy later : Occupancy}
    (work : Work near path occupancy later after) :
    later.left < occupancy.left
      ∨ later = occupancy ∧ occupancy.alu? = none ∧ after.bus = path.bus := by
  cases work with
  | loadWaits | storeWaits | requestWaits => exact Or.inr ⟨rfl, rfl, rfl⟩
  | asked pending target operand bus form fresh sent => exact Or.inl (by simp [left, fresh])
  | loaded pending | loadedNothing pending =>
    refine Or.inl ?_
    simp only [left]
    split <;> omega
  | computed | computedNothing | stored | pushed | popped | pushing | popping | requested =>
    exact Or.inl (by simp [left])

end Occupancy

/-! ## Whole cores -/

namespace Standing

/-- The turns of the units after the arithmetic unit leave the instruction where it is only if the
link withholds what it needs. -/
lemma withholds_of_access (near : Terminal) {path : Datapath} (standing : Standing)
    (stages : path.stages.current = .execution) (stage : standing.occupancy.stage = .execution)
    (other : standing.occupancy.alu? = none) {later : Standing}
    (same : later.occupancy = standing.occupancy)
    (accessed : (standing.pipeline.access near path).1 = later.pipeline) :
    (standing.pipeline.access near path).2.bus.Withholds near
      standing.occupancy.loadQuestion := by
  have current : path.isIn .execution = true := by simp [Datapath.isIn, stages]
  have live : path.stages.current ≠ .retirement := by simp [stages]
  cases here : standing.occupancy with
  | idle | done | branch => simp [here, Occupancy.stage] at stage
  | alu held => simp [here, Occupancy.alu?] at other
  | load pending =>
    have settled := LoadUnit.current_tick (some pending) near path
    have keeps : (LoadUnit.tick (some pending) near path).1 = some pending → _ :=
      LoadUnit.withholds_of_stays current
    generalize ticked : LoadUnit.tick (some pending) near path = result at settled keeps
    obtain ⟨slot, after⟩ := result
    rw [access_load standing here ticked (by rwa [settled])] at accessed ⊢
    have stays : slot = later.occupancy.load? := congrArg Pipeline.load accessed
    exact keeps (by rw [stays, same, here]; rfl)
  | store held =>
    have settled := StoreUnit.current_tick (some held) near path
    have keeps : (StoreUnit.tick (some held) near path).1 = some held → _ :=
      StoreUnit.refuses_of_stays current
    generalize ticked : StoreUnit.tick (some held) near path = result at settled keeps
    obtain ⟨slot, after⟩ := result
    rw [access_store standing here ticked (by rwa [settled])] at accessed ⊢
    have stays : slot = later.occupancy.store? := congrArg Pipeline.store accessed
    exact keeps (by rw [stays, same, here]; rfl)
  | stack held =>
    have goes := StackUnit.tick_fst held current
    generalize ticked : StackUnit.tick (some held) path = result at goes
    obtain ⟨slot, after, delegation⟩ := result
    rw [access_stack standing here live ticked] at accessed
    have stays : slot = later.occupancy.stack? := by
      rcases delegation with _ | (_ | _) <;> exact congrArg Pipeline.stack accessed
    rw [same, here] at stays
    cases goes.symm.trans stays
  | request held =>
    have keeps : (RequestUnit.tick (some held) near path).1 = some held → _ :=
      RequestUnit.refuses_of_stays current
    generalize ticked : RequestUnit.tick (some held) near path = result at keeps
    obtain ⟨slot, after⟩ := result
    rw [access_request standing here live ticked] at accessed ⊢
    have stays : slot = later.occupancy.request? := congrArg Pipeline.request accessed
    exact keeps (by rw [stays, same, here]; rfl)

section Tick

variable {near : Terminal} {path after : Datapath} {standing later : Standing}

/-- In a tick that leaves the instruction in its unit, the link withholds what it needs. -/
lemma Staged.withholds_of_stays {outcome : CoreOutcome} (staged : standing.Staged path.stages)
    (stage : standing.occupancy.stage = .execution) (other : standing.occupancy.alu? = none)
    (ticked : standing.pipeline.tick near path = (later.pipeline, after, outcome))
    (same : later.occupancy = standing.occupancy) :
    after.bus.Withholds near standing.occupancy.loadQuestion := by
  have stages := staged.stages
  rw [stage] at stages
  have current : path.stages.current = .execution := by rw [stages]
  have reading : standing.fetch.searching = none := by
    by_contra searching
    simp [staged.searching searching] at stage
  have supply := Fetch.turn_tick standing.fetch near path
  have supplied := supply_pipeline standing near path
  have kept := supply.stages_eq (Or.inl reading)
  generalize (standing.fetch.tick near path).1 = fetch at *
  generalize (standing.fetch.tick near path).2 = between at *
  have settled : between.stages = ⟨.execution, .execution⟩ := by rw [kept, stages]
  have still : between.stages.current = .execution := by rw [settled]
  have computed := compute_of_not_alu { standing with fetch := fetch } between other
  have keeps := withholds_of_access near { standing with fetch := fetch } still stage other same
  obtain ⟨occupancy, final, accessed, work⟩ :=
    exists_work_of_access { standing with fetch := fetch } still stage other near
  have result := tick_of_execution current supplied still computed
  have left := work.stages_eq settled
  rw [accessed, ticked] at result
  rw [enterInterrupt_of_not_entering
    (by simp [StageControl.entering, left, work.later_ne_idle])] at result
  obtain ⟨pipeline, rfl, -⟩ := by simpa only [Prod.mk.injEq] using result
  rw [accessed] at keeps
  exact keeps pipeline.symm

/-- How far a core is, at most, from dispatching its next instruction. -/
def left (standing : Standing) (ip : Word) : Nat :=
  8 * standing.occupancy.left + standing.fetch.left ip

/-- Fetch waits for what the core as a whole waits for, unless it is content. -/
lemma Stocked.withholds_of_waits {origin : Word → Word} {jump : Option Fetched} {ip : Word}
    {view : View} (stocked : Stocked origin jump standing ip view)
    (reading : standing.fetch.searching = none) {bus : Interconnect}
    (waits : standing.fetch.Waits near bus ip) :
    bus.Withholds near standing.questions
      ∨ standing.fetch.outstanding = none ∧ (standing.fetch.pass ip).wanted? ip = none
        ∧ standing.questions = standing.occupancy.loadQuestion := by
  rw [questions_of_reading reading, Fetch.blockQuestion]
  cases waits with
  | answer address asked missing =>
    rw [asked]
    exact Or.inl missing
  | leave free wanted refuses =>
    have idle : standing.occupancy.loadQuestion = [] := by
      by_contra asked
      exact wanted (stocked.content asked free)
    rw [free, idle]
    exact Or.inl refuses
  | content free unwanted =>
    refine Or.inr ⟨free, unwanted, ?_⟩
    rw [free]
    rfl

/-- A core that reads ahead has something ahead, or the next instruction is missing. -/
lemma Stocked.exhausts {origin : Word → Word} {jump : Option Fetched} {ip : Word} {view : View}
    (stocked : Stocked origin jump standing ip view) : standing.fetch.Exhausted ip := by
  by_cases idle : standing.occupancy.stage = .dispatch
  · exact stocked.exhausted idle
  · exact fun nothing => absurd nothing (stocked.supplied idle).1

/-- A tick dispatches an instruction, or brings the next dispatch nearer, or finds the link
withholding and leaves everything as far as it was. -/
theorem Turn.gets_on {origin : Word → Word} {jump : Option Fetched} {server : Server}
    {issue : Option Dispatch} {breakpoint : Option Word} {shown : CoreOutcome}
    (turn : Turn near path standing later after issue (.ok breakpoint))
    (ticked : standing.pipeline.tick near path = (later.pipeline, after, shown))
    (calm : standing.Calm) (sound : standing.Sound path.registers path.stages)
    (stocked : Stocked origin jump standing path.registers.ip (server.view path.bus near)) :
    issue ≠ none ∨ later.left after.registers.ip < standing.left path.registers.ip
      ∨ issue = none ∧ later.left after.registers.ip = standing.left path.registers.ip
        ∧ after.bus = path.bus ∧ path.bus.Withholds near standing.questions := by
  have reading := calm.reading
  generalize result : (Except.ok breakpoint : CoreOutcome) = outcome at turn
  cases turn with
  | undecodable | stray | trapped => contradiction
  | issued | returned => exact Or.inl (by simp)
  | stalled fetch between here supply missing =>
    refine Or.inr ?_
    have ip : between.registers.ip = path.registers.ip := by rw [supply.registers_eq]
    rcases supply.gets_on reading stocked.exhausts with less | ⟨rfl, bus, waits⟩
    · refine Or.inl ?_
      change 8 * standing.occupancy.left + fetch.left between.registers.ip < _
      rw [ip, left]
      omega
    · rcases stocked.withholds_of_waits reading waits with withholds | ⟨_, unwanted, _⟩
      · refine Or.inr ⟨rfl, ?_, bus, withholds⟩
        change 8 * standing.occupancy.left + Fetch.left _ between.registers.ip = _
        rw [ip, Fetch.left_pass, left]
      · rw [ip] at missing
        simp [Fetch.wanted?, missing] at unwanted
  | resolved fetch between here supply =>
    refine Or.inr (Or.inl ?_)
    rw [Calm.enter_eq (by exact calm.pending)]
    have nearer := fetch.left_le between.registers.ip
    have before : 1 ≤ standing.occupancy.left := by
      cases occupied : standing.occupancy <;> simp [occupied, Occupancy.stage, Occupancy.left]
        at here ⊢
    change 8 * 0 + fetch.left between.registers.ip < 8 * standing.occupancy.left + _
    omega
  | worked fetch between final occupancy here supply work =>
    have ip : final.registers.ip = path.registers.ip := by rw [work.ip_eq, supply.registers_eq]
    have level : fetch.left final.registers.ip ≤ standing.fetch.left path.registers.ip := by
      rw [ip]
      exact supply.left_le reading stocked.exhausts
    refine Or.inr ?_
    change 8 * occupancy.left + fetch.left final.registers.ip < _
      ∨ none = none ∧ 8 * occupancy.left + fetch.left final.registers.ip = _ ∧ _
    rw [left]
    rcases work.left_lt with less | ⟨rfl, other, bus⟩
    · exact Or.inl (by omega)
    · rcases supply.gets_on reading stocked.exhausts with less | ⟨rfl, bus', waits⟩
      · rw [ip]
        exact Or.inl (by omega)
      · have unchanged : final.bus = path.bus := bus.trans bus'
        refine Or.inr ⟨rfl, by rw [ip, Fetch.left_pass], unchanged, ?_⟩
        rcases stocked.withholds_of_waits reading waits with withholds | ⟨_, _, questions⟩
        · exact withholds
        · have withholds := sound.toStaged.withholds_of_stays here other ticked rfl
          change final.bus.Withholds _ _ at withholds
          rwa [questions, ← unchanged]

end Tick

end Standing

end PipelinedMachine
