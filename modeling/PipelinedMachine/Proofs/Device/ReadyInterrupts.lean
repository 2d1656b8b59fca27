import PipelinedMachine.Proofs.Device.Countdowns

/-!
# When the drive interrupts

A drive reports the end of a seek by its interrupt, and it does so again and again until it is
acknowledged.

* `DiskDrive.Outstanding`, `DiskDrive.Unheard`, `DiskDrive.Heard` — what the turns so far leave to
  be reported;
* `DiskDrive.Due` — whether the interrupt is due in a turn;
* `DiskDrive.Counts`, `DiskDrive.counts_run` — what the countdowns say about the turns so far;
* `DiskDrive.turns_of_seeking` — how long a seek takes.

Main statement: `DiskDrive.alerts_run`, the interrupt goes out in the active turns in which it is
due and the link accepts it, and in no others.
-/

namespace PipelinedMachine

namespace DiskDrive

/-! ## What a history says -/

/-- A seek has been completed, and it has not been acknowledged since. -/
def Outstanding (history : List (Attended DiskDrive)) : Prop :=
  ∃ between, Since (fun turn => Completes turn ∧ ¬Acknowledges turn)
    (fun turn => ¬Acknowledges turn) history between

/-- A seek has been completed, and there has been neither an interrupt nor an acknowledgement
since. -/
def Unheard (history : List (Attended DiskDrive)) : Prop :=
  ∃ between, Since (fun turn => Completes turn ∧ ¬Rings turn ∧ ¬Acknowledges turn)
    (fun turn => ¬Rings turn ∧ ¬Acknowledges turn) history between

/-- There have been so many active turns since the last interrupt, with no other seek completed and
no acknowledgement. -/
def Heard (history : List (Attended DiskDrive)) (waited : Nat) : Prop :=
  ∃ between, Since (fun turn => Rings turn ∧ ¬Acknowledges turn)
      (fun turn => ¬Completes turn ∧ ¬Rings turn ∧ ¬Acknowledges turn) history between
    ∧ activeTurns between = waited

/-- The interrupt is due: a seek is completed, or has been completed since the last interrupt, or
that lies the interval back.  An interval of less than two turns counts as two. -/
def Due (timings : DiskTimings) (past : List (Attended DiskDrive)) (turn : Attended DiskDrive) :
    Prop :=
  Completes turn ∨ Unheard past
    ∨ ∃ waited, Heard past waited ∧ max timings.interruptRepeat.toNat 2 ≤ waited + 1

variable {history : List (Attended DiskDrive)} {turn : Attended DiskDrive} {waited : Nat}
  {timings : DiskTimings}

lemma activeTurns_concat (turns : List (Attended DiskDrive)) (turn : Attended DiskDrive) :
    activeTurns (turns ++ [turn]) = activeTurns turns + if Active turn then 1 else 0 := by
  simp [activeTurns, List.countP_append, List.countP_cons]

lemma outstanding_concat :
    Outstanding (history ++ [turn])
      ↔ ¬Acknowledges turn ∧ (Completes turn ∨ Outstanding history) :=
  exists_since_concat

lemma unheard_concat :
    Unheard (history ++ [turn])
      ↔ (¬Rings turn ∧ ¬Acknowledges turn) ∧ (Completes turn ∨ Unheard history) :=
  exists_since_concat

lemma heard_concat :
    Heard (history ++ [turn]) waited
      ↔ ¬Acknowledges turn
        ∧ (Rings turn ∧ waited = 0
          ∨ ¬Completes turn ∧ ¬Rings turn
            ∧ ∃ earlier, Heard history earlier
              ∧ waited = earlier + if Active turn then 1 else 0) := by
  simp only [Heard, since_concat]
  constructor
  · rintro ⟨between, ⟨⟨rings, unacknowledged⟩, rfl⟩ | ⟨⟨goes, quiet, unacknowledged⟩, earlier,
      rfl, since⟩, rfl⟩
    · exact ⟨unacknowledged, Or.inl ⟨rings, rfl⟩⟩
    · exact ⟨unacknowledged, Or.inr ⟨goes, quiet, _, ⟨earlier, since, rfl⟩,
        activeTurns_concat earlier turn⟩⟩
  · rintro ⟨unacknowledged, ⟨rings, rfl⟩ | ⟨goes, quiet, _, ⟨earlier, since, rfl⟩, rfl⟩⟩
    · exact ⟨[], Or.inl ⟨⟨rings, unacknowledged⟩, rfl⟩, rfl⟩
    · exact ⟨earlier ++ [turn], Or.inr ⟨⟨goes, quiet, unacknowledged⟩, earlier, rfl, since⟩,
        activeTurns_concat earlier turn⟩

/-- What is due stays due until the interrupt goes out or is acknowledged. -/
lemma Due.concat {past : List (Attended DiskDrive)} (due : Due timings past turn)
    (quiet : ¬Rings turn) (unacknowledged : ¬Acknowledges turn) (next : Attended DiskDrive) :
    Due timings (past ++ [turn]) next := by
  by_cases completes : Completes turn
  · exact Or.inr (Or.inl (unheard_concat.mpr ⟨⟨quiet, unacknowledged⟩, Or.inl completes⟩))
  · rcases due with now | unheard | ⟨waited, heard, long⟩
    · contradiction
    · exact Or.inr (Or.inl (unheard_concat.mpr ⟨⟨quiet, unacknowledged⟩, Or.inr unheard⟩))
    · refine Or.inr (Or.inr ⟨_, heard_concat.mpr
        ⟨unacknowledged, Or.inr ⟨completes, quiet, waited, heard, rfl⟩⟩, ?_⟩)
      omega

/-! ## What the countdowns say -/

/-- What the countdown to the next interrupt says so many active turns after the last one. -/
def Remains (timings : DiskTimings) (waited : Nat) (remaining : UInt32) : Prop :=
  if max timings.interruptRepeat.toNat 2 ≤ waited + 1 then
    remaining = max timings.interruptRepeat 1
  else remaining.toNat + waited + 1 = max timings.interruptRepeat.toNat 1

lemma remains_zero (timings : DiskTimings) :
    Remains timings 0 (max timings.interruptRepeat 1 - 1) := by
  have whole := toNat_max_one timings.interruptRepeat
  have positive : 0 < max timings.interruptRepeat 1 := by
    rw [UInt32.lt_iff_toNat_lt, UInt32.toNat_zero]
    omega
  rw [Remains, if_neg (by omega), toNat_sub_one positive]
  omega

/-- The countdown stands at the interval exactly when the interval is over. -/
lemma Remains.eq_iff {remaining : UInt32} (remains : Remains timings waited remaining) :
    remaining = max timings.interruptRepeat 1
      ↔ max timings.interruptRepeat.toNat 2 ≤ waited + 1 := by
  have whole := toNat_max_one timings.interruptRepeat
  rw [Remains] at remains
  split_ifs at remains with long
  · exact ⟨fun _ => long, fun _ => remains⟩
  · refine ⟨fun same => ?_, fun later => absurd later long⟩
    rw [same] at remains
    omega

lemma Remains.recount {drive : DiskDrive} {remaining : UInt32} (same : drive.timings = timings)
    (remains : Remains timings waited remaining) :
    Remains timings (waited + 1) (drive.recount remaining) := by
  have whole := toNat_max_one timings.interruptRepeat
  have interval : drive.interval = max timings.interruptRepeat 1 := by rw [interval, same]
  have due := remains.eq_iff
  rw [DiskDrive.recount, interval]
  by_cases long : max timings.interruptRepeat.toNat 2 ≤ waited + 1
  · rw [if_pos (Or.inl (due.mpr long)), Remains, if_pos (by omega)]
  · rw [Remains, if_neg long] at remains
    by_cases last : remaining ≤ 1
    · rw [if_pos (Or.inr last), Remains, if_pos]
      rw [UInt32.le_iff_toNat_le, UInt32.toNat_one] at last
      omega
    · rw [if_neg (by simp [due, long, last])]
      rw [UInt32.le_iff_toNat_le, UInt32.toNat_one] at last
      have positive : 0 < remaining := by
        rw [UInt32.lt_iff_toNat_lt, UInt32.toNat_zero]
        omega
      rw [Remains, if_neg (by omega), toNat_sub_one positive]
      omega

/-- What the countdowns of a drive say about the turns so far. -/
structure Counts (capacity : Nat) (timings : DiskTimings) (history : List (Attended DiskDrive))
    (drive : DiskDrive) : Prop where
  timed : drive.timings = timings
  sized : drive.image.capacity = capacity
  answers : drive.OwesAnswers
  outstanding : drive.interrupting ≠ none → Outstanding history
  unheard : Unheard history → drive.interrupting = some drive.interval
  heard : ∀ waited, Heard history waited →
    ∃ remaining, drive.interrupting = some remaining ∧ Remains timings waited remaining
  told : drive.interrupting ≠ none → Unheard history ∨ ∃ waited, Heard history waited
  seeks : drive.seeking ≠ 0 →
    ∃ between, Since (Selects capacity) Idle history between
      ∧ between.length + drive.seeking.toNat = max timings.seek.toNat 1

section
variable {capacity : Nat} {here : Attended DiskDrive}

lemma Counts.due_iff (counts : Counts capacity timings history here.component) :
    here.component.countDown.interrupting = some here.component.interval
      ↔ Due timings history here := by
  by_cases completes : Completes here
  · exact ⟨fun _ => Or.inl completes, fun _ => interrupting_countDown_of_completes completes⟩
  · have interval : here.component.interval = max timings.interruptRepeat 1 := by
      rw [interval, counts.timed]
    rw [interrupting_countDown completes]
    constructor
    · intro stands
      rcases counts.told (by simp [stands]) with unheard | ⟨waited, heard⟩
      · exact Or.inr (Or.inl unheard)
      · obtain ⟨remaining, same, remains⟩ := counts.heard waited heard
        rw [stands, interval, Option.some.injEq] at same
        exact Or.inr (Or.inr ⟨waited, heard, remains.eq_iff.mp same.symm⟩)
    · rintro (now | unheard | ⟨waited, heard, long⟩)
      · contradiction
      · exact counts.unheard unheard
      · obtain ⟨remaining, same, remains⟩ := counts.heard waited heard
        rw [same, remains.eq_iff.mpr long, interval]

lemma Counts.step (counts : Counts capacity timings history here.component) :
    Counts capacity timings (history ++ [here]) (here.step .turn).component := by
  have passing := passing_step counts.answers
  have interval : (here.step .turn).component.interval = here.component.interval := by
    rw [DiskDrive.interval, DiskDrive.interval, passing.timings]
  generalize (here.step .turn).component = later at passing interval
  have unacknowledged (stands : later.interrupting ≠ none) : ¬Acknowledges here :=
    fun acknowledges => stands (passing.acknowledged acknowledges)
  -- an interrupt that did not go out now stood before
  have standing (stands : later.interrupting ≠ none) (silent : ¬Rings here) :
      here.component.countDown.interrupting ≠ none := by
    intro quiet
    by_cases active : Active here
    · exact stands (by simp [passing.counted (unacknowledged stands) silent active, quiet])
    · exact stands (by simp [passing.paused active, quiet])
  have moved (other : ¬Acknowledges here) (silent : ¬Rings here) :
      later.interrupting
        = if Active here then here.component.countDown.interrupting.map here.component.recount
          else here.component.countDown.interrupting := by
    split_ifs with active
    · exact passing.counted other silent active
    · exact passing.paused active
  refine ⟨passing.timings.trans counts.timed, passing.capacity.trans counts.sized,
    passing.answers, ?outstanding, ?unheard, ?heard, ?told, ?seeks⟩
  case outstanding =>
    intro stands
    rw [outstanding_concat]
    refine ⟨unacknowledged stands, ?_⟩
    by_cases completes : Completes here
    · exact Or.inl completes
    · refine Or.inr (counts.outstanding ?_)
      rw [← interrupting_countDown completes]
      by_cases rings : Rings here
      · simp [(passing.rings_iff.mp rings).2.1]
      · exact standing stands rings
  case unheard =>
    rw [unheard_concat]
    rintro ⟨⟨silent, other⟩, pending⟩
    have due : here.component.countDown.interrupting = some here.component.interval :=
      counts.due_iff.mpr (pending.imp_right Or.inl)
    rw [moved other silent, due, interval]
    split_ifs <;> simp [recount]
  case heard =>
    intro waited heard
    rw [heard_concat] at heard
    obtain ⟨other, ⟨rings, rfl⟩ | ⟨goes, silent, earlier, heard, rfl⟩⟩ := heard
    · refine ⟨_, passing.rung other rings, ?_⟩
      rw [DiskDrive.interval, counts.timed]
      exact remains_zero timings
    · obtain ⟨remaining, same, remains⟩ := counts.heard earlier heard
      rw [moved other silent, interrupting_countDown goes, same]
      split_ifs
      · exact ⟨_, rfl, remains.recount counts.timed⟩
      · exact ⟨_, rfl, remains⟩
  case told =>
    intro stands
    have other := unacknowledged stands
    by_cases rings : Rings here
    · exact Or.inr ⟨0, heard_concat.mpr ⟨other, Or.inl ⟨rings, rfl⟩⟩⟩
    by_cases completes : Completes here
    · exact Or.inl (unheard_concat.mpr ⟨⟨rings, other⟩, Or.inl completes⟩)
    · have before := standing stands rings
      rw [interrupting_countDown completes] at before
      rcases counts.told before with unheard | ⟨waited, heard⟩
      · exact Or.inl (unheard_concat.mpr ⟨⟨rings, other⟩, Or.inr unheard⟩)
      · exact Or.inr ⟨_, heard_concat.mpr
          ⟨other, Or.inr ⟨completes, rings, waited, heard, rfl⟩⟩⟩
  case seeks =>
    intro seeking
    by_cases selects : Selects capacity here
    · have begun := passing.selected (by rwa [counts.sized])
      refine ⟨[], since_concat.mpr (Or.inl ⟨selects, rfl⟩), ?_⟩
      rw [begun, counts.timed, toNat_max_one]
      exact Nat.zero_add _
    · have counted := toNat_seeking_countDown here.component
      rw [← passing.unselected (by rwa [counts.sized])] at counted
      have positive : later.seeking.toNat ≠ 0 := fun ended => seeking (UInt32.toNat.inj ended)
      obtain ⟨idle, less⟩ := passing.idle_of_seeking (by omega)
      obtain ⟨between, since, time⟩ := counts.seeks (fun still => by simp [still] at less)
      refine ⟨between ++ [here], since_concat.mpr (Or.inr ⟨idle, between, rfl, since⟩), ?_⟩
      rw [List.length_append, List.length_singleton]
      omega

lemma owesAnswers_flush {drive : DiskDrive} (answers : drive.OwesAnswers) :
    drive.flush.OwesAnswers := by
  rwa [OwesAnswers, owed, drive.reply_flush]

/-- To the countdowns it makes no difference that the host asks for the image. -/
lemma Counts.flush {drive : DiskDrive} (counts : Counts capacity timings history drive) :
    Counts capacity timings history drive.flush := by
  have answers := owesAnswers_flush counts.answers
  obtain ⟨image, same, size⟩ := drive.flush_eq
  rw [same] at answers ⊢
  exact {
    timed := counts.timed
    sized := size.trans counts.sized
    answers := answers
    outstanding := counts.outstanding
    unheard := counts.unheard
    heard := counts.heard
    told := counts.told
    seeks := counts.seeks }

/-- **At any moment of a run the countdowns are what the turns so far make of them.** -/
lemma counts_run {terminal : Terminal} {image : DiskImage} {attended : Attended DiskDrive}
    (reset : attended.component = reset terminal image timings)
    (actions : List (LinkAction Unit)) :
    Counts image.capacity timings (attended.turns actions) (attended.run actions).component := by
  refine Attended.invariant_turns (Counts image.capacity timings) ?_
    (fun _ _ counts => counts.step) (fun _ _ _ counts => counts.flush) actions
  rw [reset]
  exact {
    timed := rfl
    sized := rfl
    answers := by simp [OwesAnswers, owed, DiskDrive.reset, PendingReply.owed]
    outstanding := fun stands => absurd rfl stands
    unheard := fun ⟨_, since⟩ => absurd since not_since_nil
    heard := fun _ ⟨_, since, _⟩ => absurd since not_since_nil
    told := fun stands => absurd rfl stands
    seeks := fun seeking => absurd rfl seeking }

/-- A seek takes its time whatever happens, and nothing shows of it before it is completed. -/
lemma turns_of_seeking {attended : Attended DiskDrive} (answers : attended.component.OwesAnswers)
    {actions : List (LinkAction Unit)} {between rest : List (Attended DiskDrive)}
    (split : attended.turns actions = between ++ turn :: rest) :
    (between.length + 1 < attended.component.seeking.toNat → Idle turn)
      ∧ (between.length + 1 = attended.component.seeking.toNat → Completes turn) := by
  obtain ⟨before, after, -, rfl, rfl, -⟩ := Attended.exists_of_turns_eq split
  have counted : (attended.run before).component.OwesAnswers
      ∧ ((attended.turns before).length < attended.component.seeking.toNat →
        (attended.run before).component.seeking.toNat + (attended.turns before).length
          = attended.component.seeking.toNat) := by
    refine Attended.invariant_turns
      (fun history (drive : DiskDrive) => drive.OwesAnswers
        ∧ (history.length < attended.component.seeking.toNat →
          drive.seeking.toNat + history.length = attended.component.seeking.toNat))
      ⟨answers, fun _ => rfl⟩ ?_ ?_ before
    · rintro history here ⟨answers, time⟩
      have passing := passing_step answers
      refine ⟨passing.answers, fun early => ?_⟩
      rw [List.length_append, List.length_singleton] at early ⊢
      have now := time (by omega)
      have less := (passing.idle_of_seeking (by omega)).2
      omega
    · rintro history drive - ⟨answers, time⟩
      refine ⟨owesAnswers_flush answers, ?_⟩
      obtain ⟨image, same, -⟩ := drive.flush_eq
      change _ → drive.flush.seeking.toNat + _ = _
      rwa [same]
  obtain ⟨answers, time⟩ := counted
  constructor
  · intro early
    have now := time (by omega)
    exact ((passing_step answers).idle_of_seeking (by omega)).1
  · intro last
    have now := time (by omega)
    refine UInt32.toNat.inj ?_
    rw [UInt32.toNat_one]
    omega

/-! ## Interrupts -/

section
variable {past : List (Attended DiskDrive)} {first : Attended DiskDrive}

lemma Due.append {waiting later rest : List (Attended DiskDrive)} (due : Due timings past first)
    (split : first :: later = waiting ++ turn :: rest)
    (quiet : ∀ earlier ∈ waiting, ¬Rings earlier ∧ ¬Acknowledges earlier) :
    Due timings (past ++ waiting) turn := by
  induction waiting generalizing past first later with
  | nil =>
    obtain ⟨rfl, -⟩ := List.cons.inj split
    rwa [List.append_nil]
  | cons earlier waiting ih =>
    obtain ⟨rfl, rfl⟩ := List.cons.inj split
    obtain ⟨⟨silent, other⟩, quiet⟩ := List.forall_mem_cons.mp quiet
    rw [List.append_cons]
    cases waiting with
    | nil => exact ih (due.concat silent other turn) rfl quiet
    | cons next waiting => exact ih (due.concat silent other next) rfl quiet

/-- After an interrupt, only another seek makes for one that has not been heard of. -/
lemma not_unheard_of_rings {between : List (Attended DiskDrive)} (rings : Rings first)
    (goes : ∀ turn ∈ between, ¬Completes turn) : ¬Unheard (past ++ first :: between) := by
  induction between using List.reverseRecOn with
  | nil => exact fun unheard => (unheard_concat.mp unheard).1.1 rings
  | append_singleton between last ih =>
    rw [← List.cons_append, ← List.append_assoc, unheard_concat]
    rintro ⟨-, completes | unheard⟩
    · exact goes last (by simp) completes
    · exact ih (fun turn member => goes turn (List.mem_append_left _ member)) unheard

/-- If the interrupt has been heard of, then since it went out last. -/
lemma eq_of_heard {between : List (Attended DiskDrive)} (rings : Rings first)
    (silent : ∀ turn ∈ between, ¬Rings turn) (heard : Heard (past ++ first :: between) waited) :
    activeTurns between = waited ∧ ∀ turn ∈ first :: between, ¬Acknowledges turn := by
  induction between using List.reverseRecOn generalizing waited with
  | nil =>
    obtain ⟨other, ⟨-, rfl⟩ | ⟨-, quiet, -⟩⟩ := heard_concat.mp heard
    · exact ⟨rfl, by simpa using other⟩
    · contradiction
  | append_singleton between last ih =>
    rw [← List.cons_append, ← List.append_assoc, heard_concat] at heard
    obtain ⟨other, ⟨rings, -⟩ | ⟨-, -, earlier, heard, rfl⟩⟩ := heard
    · exact absurd rings (silent last (by simp))
    · obtain ⟨rfl, unacknowledged⟩ :=
        ih (fun turn member => silent turn (List.mem_append_left _ member)) heard
      refine ⟨activeTurns_concat between last, ?_⟩
      rw [← List.cons_append]
      simpa [or_imp, forall_and, other] using unacknowledged

end

/-- When a drive interrupts, over the turns of a run. -/
structure Alerts (capacity : Nat) (timings : DiskTimings) (history : List (Attended DiskDrive)) :
    Prop where
  /-- The interrupt goes out in the active turns in which it is due and the link accepts it. -/
  rings_iff : ∀ {past turn later}, history = past ++ turn :: later →
    (Rings turn ↔ Active turn ∧ Due timings past turn ∧ Accepts turn)
  /-- It never goes out unless a seek has been completed and not acknowledged since. -/
  grounded : ∀ {past turn later}, history = past ++ turn :: later →
    Rings turn → Completes turn ∨ Outstanding past
  /-- Once it is due, it is tried in every active turn until the link accepts it or it is
  acknowledged. -/
  retried : ∀ {past first later}, history = past ++ first :: later → Due timings past first →
    ∀ {waiting turn rest}, first :: later = waiting ++ turn :: rest →
      (∀ earlier ∈ waiting, ¬Rings earlier ∧ ¬Acknowledges earlier) →
      Active turn → (Rings turn ↔ Accepts turn)
  /-- Of two interrupts in a row with no seek completed between them, the second one goes out when
  the interval is over, and not before: in the active turn that ends it, if the link accepts it
  there. -/
  spaced : ∀ {past first between second later},
    history = past ++ first :: (between ++ second :: later) → Rings first → Rings second →
      (∀ turn ∈ between, ¬Rings turn) → (∀ turn ∈ between ++ [second], ¬Completes turn) →
      2 ≤ timings.interruptRepeat.toNat →
      timings.interruptRepeat.toNat ≤ activeTurns (between ++ [second])
        ∧ ∀ {early prompt rest}, between ++ [second] = early ++ prompt :: rest →
          Active prompt → activeTurns (early ++ [prompt]) = timings.interruptRepeat.toNat →
          Accepts prompt → early = between ∧ prompt = second
  /-- A seek is completed in the turn that ends its time, and before that nothing shows of a
  turn. -/
  selected : ∀ {past selecting between turn later},
    history = past ++ selecting :: (between ++ turn :: later) → Selects capacity selecting →
      (between.length + 1 < max timings.seek.toNat 1 → Idle turn)
        ∧ (between.length + 1 = max timings.seek.toNat 1 → Completes turn)
  /-- No other seek is ever completed. -/
  completed : ∀ {past turn later}, history = past ++ turn :: later → Completes turn →
    ∃ between, Since (Selects capacity) Idle past between
      ∧ between.length + 1 = max timings.seek.toNat 1

variable {terminal : Terminal} {image : DiskImage} {attended : Attended DiskDrive}

/-- The turn of a run in which the interrupt goes out. -/
lemma rings_iff_of_turns (reset : attended.component = reset terminal image timings)
    {actions : List (LinkAction Unit)} {past later : List (Attended DiskDrive)}
    (split : attended.turns actions = past ++ turn :: later) :
    Counts image.capacity timings past turn.component
      ∧ (Rings turn ↔ Active turn ∧ Due timings past turn ∧ Accepts turn) := by
  obtain ⟨before, after, -, rfl, rfl, -⟩ := Attended.exists_of_turns_eq split
  have counts := counts_run reset before
  exact ⟨counts, by rw [(passing_step counts.answers).rings_iff, counts.due_iff]⟩

/-- **The interrupt of a drive is never sent without cause, and it is repeated until it is
acknowledged.** -/
theorem alerts_run (reset : attended.component = reset terminal image timings)
    (actions : List (LinkAction Unit)) :
    Alerts image.capacity timings (attended.turns actions) where
  rings_iff split := (rings_iff_of_turns reset split).2
  grounded {past turn later} split rings := by
    obtain ⟨counts, rings_iff⟩ := rings_iff_of_turns reset split
    have stands := counts.due_iff.mpr (rings_iff.mp rings).2.1
    by_cases completes : Completes turn
    · exact Or.inl completes
    · refine Or.inr (counts.outstanding ?_)
      rw [← interrupting_countDown completes, stands]
      exact Option.some_ne_none _
  retried {past first later} split due {waiting turn rest} reached quiet active := by
    have due := due.append reached quiet
    rw [reached, ← List.append_assoc] at split
    rw [(rings_iff_of_turns reset split).2]
    exact ⟨fun all => all.2.2, fun accepts => ⟨active, due, accepts⟩⟩
  spaced {past first between second later} split rings again silent goes long := by
    rw [← List.cons_append, ← List.append_assoc] at split
    obtain ⟨active, due, -⟩ := (rings_iff_of_turns reset split).2.mp again
    obtain ⟨waited, heard, passed⟩ : ∃ waited, Heard (past ++ first :: between) waited
        ∧ max timings.interruptRepeat.toNat 2 ≤ waited + 1 := by
      rcases due with completes | unheard | heard
      · exact absurd completes (goes second (by simp))
      · exact absurd unheard (not_unheard_of_rings rings
          fun turn member => goes turn (List.mem_append_left _ member))
      · exact heard
    obtain ⟨rfl, unacknowledged⟩ := eq_of_heard rings silent heard
    refine ⟨by rw [activeTurns_concat, if_pos active]; omega, ?_⟩
    intro early prompt rest reached active' counted accepts
    rcases rest.eq_nil_or_concat' with rfl | ⟨more, last, rfl⟩
    · obtain ⟨same, same'⟩ := List.append_singleton_inj.mp reached
      exact ⟨same.symm, same'.symm⟩
    · -- the interrupt would have gone out before
      rw [← List.cons_append, ← List.append_assoc] at reached
      obtain ⟨rfl, rfl⟩ := List.append_singleton_inj.mp reached
      have since : Heard (past ++ first :: early) (activeTurns early) :=
        ⟨early, ⟨⟨past, first, rfl, rings, unacknowledged first List.mem_cons_self⟩,
          fun turn member => ⟨goes turn (by simp [member]), silent turn (by simp [member]),
            unacknowledged turn (by simp [member])⟩⟩, rfl⟩
      rw [activeTurns_concat, if_pos active'] at counted
      have split' : attended.turns actions
          = (past ++ first :: early) ++ prompt :: (more ++ second :: later) := by
        rw [split]
        simp
      have sooner := (rings_iff_of_turns reset split').2.mpr
        ⟨active', Or.inr (Or.inr ⟨_, since, by omega⟩), accepts⟩
      exact absurd sooner (silent prompt (by simp))
  selected {past selecting between turn later} split selects := by
    obtain ⟨before, after, -, rfl, rfl, reached⟩ := Attended.exists_of_turns_eq split
    have counts := counts_run reset before
    have passing := passing_step counts.answers
    have time := passing.selected (by rwa [counts.sized])
    have seek := turns_of_seeking passing.answers reached
    rwa [time, counts.timed, toNat_max_one] at seek
  completed {past turn later} split completes := by
    have counts := (rings_iff_of_turns reset split).1
    have one : turn.component.seeking = 1 := completes
    have seeks := counts.seeks (by rw [one]; decide)
    rwa [one, UInt32.toNat_one] at seeks

end

/-- A drive with two blocks that takes two ticks to seek and repeats its interrupt after three. -/
def slowDrive : Attended DiskDrive :=
  ⟨reset ⟨1⟩ (.blank 2) ⟨2, 1, 3⟩, (Interconnect.empty.link 1 10).1, [], [], [], []⟩

/-- Block 1 is selected, and nobody acknowledges the interrupt. -/
def unacknowledgedSeek : List (LinkAction Unit) :=
  [.offer (Message.write AddressMap.diskSeek 1), .tick, .tick, .tick, .turn, .turn, .turn, .tick,
    .tick, .receive, .turn, .turn, .turn, .turn]

/-- The case of a seek whose interrupt goes out twice. -/
theorem alerts_run_of_unacknowledgedSeek :
    Alerts 2 ⟨2, 1, 3⟩ (slowDrive.turns unacknowledgedSeek)
      ∧ (slowDrive.run unacknowledgedSeek).sent
        = [Message.interrupt AddressMap.diskInterrupt,
          Message.interrupt AddressMap.diskInterrupt] :=
  ⟨alerts_run (show slowDrive.component = reset ⟨1⟩ (.blank 2) ⟨2, 1, 3⟩ from rfl)
    unacknowledgedSeek, by decide +kernel⟩

end DiskDrive

end PipelinedMachine
