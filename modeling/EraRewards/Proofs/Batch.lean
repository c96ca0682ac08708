import EraRewards.Proofs.Acceptance
import Mathlib.Data.Finsupp.Weight

/-!
# Batches of reports

Reports of volume in one era may come in any order and in any parts.  What a batch of them leaves is
read off the tables before it and the volume that it reports for each account: the first report of an
account turns its record, and that closes no era but an earlier one, whose total the batch leaves
alone.  Whether all reports succeed is decided by the same sums.
-/

namespace EraRewards

open Effect

/-! ## What a batch reports -/

/-- A report of volume at a tick of an era, by an account whose name is not blank. -/
structure Report (p : Parameters) (era : Int) where
  /-- Name of the account, perhaps with blanks around it. -/
  account : String
  /-- The name is not blank. -/
  named : Text.strip account ≠ ""
  /-- Volume that is reported. -/
  volume : Amount
  /-- Tick at which it is reported. -/
  tick : Int
  /-- Ticks are not negative. -/
  tick_nonneg : 0 ≤ tick
  /-- The tick can be stored. -/
  tick_le : tick ≤ maxTick
  /-- The tick belongs to the era. -/
  startOf_tick : Era.startOf tick p.eraDuration = era

namespace Report

variable {p : Parameters} {era : Int}

/-- Account for which volume is reported. -/
def holder (r : Report p era) : String := Text.strip r.account

/-- Volume that a batch reports for an account. -/
def volumeOf (name : String) (reports : List (Report p era)) : Nat :=
  (reports.map fun r => if r.holder = name then r.volume.val else 0).sum

/-- Volume that a batch reports, by account. -/
noncomputable def volumes (reports : List (Report p era)) : String →₀ Nat :=
  (reports.map fun r => Finsupp.single r.holder r.volume.val).sum

@[simp] theorem volumes_nil : volumes ([] : List (Report p era)) = 0 := rfl

@[simp] theorem volumes_cons (r : Report p era) (reports : List (Report p era)) :
    volumes (r :: reports) = Finsupp.single r.holder r.volume.val + volumes reports := by
  simp [volumes]

theorem volumes_apply (reports : List (Report p era)) (name : String) :
    volumes reports name = volumeOf name reports := by
  induction reports with
  | nil => rfl
  | cons r reports induction =>
      rw [volumes_cons, Finsupp.add_apply, induction, Finsupp.single_apply]
      rfl

theorem volumes_eq_of_volumeOf {first second : List (Report p era)}
    (same : ∀ name, volumeOf name first = volumeOf name second) :
    volumes first = volumes second := by
  ext name
  rw [volumes_apply, volumes_apply, same]

theorem volume_eq_zero_of_volumes {r : Report p era} {reports : List (Report p era)}
    (nothing : volumes (r :: reports) = 0) : r.volume.val = 0 ∧ volumes reports = 0 := by
  rw [volumes_cons, add_eq_zero] at nothing
  exact ⟨Finsupp.single_eq_zero.1 nothing.1, nothing.2⟩

theorem era_bounds (r : Report p era) : 0 ≤ era ∧ era ≤ maxTick := by
  rw [← r.startOf_tick]
  exact ⟨Era.startOf_nonneg r.tick_nonneg p.eraDuration_pos,
    (Era.startOf_le r.tick p.eraDuration_pos).trans r.tick_le⟩

theorem accountOfValue_eq (r : Report p era) : accountOfValue (.text r.account) = .ok r.holder := by
  rw [accountOfValue]
  exact if_neg (by simpa using r.named)

end Report

namespace Service

variable (s : Service) {era : Int}

/-- Makes one report of a batch. -/
def recordOne (r : Report s.parameters era) : Action Int :=
  s.recordVolume (.text r.account) (.int r.volume.val) (.int r.tick)

/-- Makes the reports of a batch one after the other, as long as they succeed. -/
def recordAll : List (Report s.parameters era) → Action (List Int)
  | [] => return []
  | r :: reports => do
    let answer ← s.recordOne r
    return answer :: (← recordAll reports)

variable {s}

theorem reportOf_report (r : Report s.parameters era) :
    s.reportOf (.text r.account) (.int r.volume.val) (.int r.tick) = .ok (r.holder, r.volume, era) := by
  rw [reportOf_int r.accountOfValue_eq r.volume r.tick_nonneg r.tick_le, r.startOf_tick]

theorem recordAll_cons_run (r : Report s.parameters era) (reports : List (Report s.parameters era))
    (node : Node) :
    (s.recordAll (r :: reports)).run.run node =
      match (s.recordOne r).run.run node with
      | (.error failure, after) => (.error failure, after)
      | (.ok answer, after) =>
        (((s.recordAll reports).run.run after).1.map (answer :: ·),
          ((s.recordAll reports).run.run after).2) := by
  rw [recordAll, run_bind]
  rcases (s.recordOne r).run.run node with ⟨_ | answer, after⟩
  · rfl
  · dsimp only
    rw [run_bind]
    rcases (s.recordAll reports).run.run after with ⟨_ | _, _⟩ <;> rfl

/-- A report of nothing succeeds and leaves the database as it is. -/
theorem recordOne_of_nothing {r : Report s.parameters era} (nothing : r.volume.val = 0) (node : Node) :
    ((s.recordOne r).run.run node).1 = .ok era ∧
      ((s.recordOne r).run.run node).2.database = node.database := by
  rw [recordOne, recordVolume_run_of_nothing (reportOf_report r) nothing]
  exact ⟨rfl, rfl⟩

end Service

/-! ## What the tables make of a batch -/

namespace Tables

/-- The record of an account, turned to an era with volume coming in. -/
def turned (t : Tables) (budget : Int) (account : String) (era incoming : Int) : Reward where
  confirmed := (t.record account).confirmed + t.awardAt budget account era
  pending :=
    if era = (t.record account).lastEra then (t.record account).pending + incoming else incoming
  lastEra := era

/-- Tables in which there is room for volume of some accounts in an era. -/
structure Admits (t : Tables) (budget era : Int) (volumes : String →₀ Nat) : Prop where
  /-- The total of the era does not grow too large. -/
  room : t.total era + volumes.degree ≤ maxAmount
  /-- The records of the accounts can be turned to the era. -/
  turns : ∀ account, volumes account ≠ 0 → (t.record account).lastEra ≤ era ∧
    (t.record account).confirmed + t.awardAt budget account era ≤ maxAmount

/-- Tables that are left when volume of some accounts in an era is added to others. -/
structure Absorbs (before : Tables) (budget era : Int) (volumes : String →₀ Nat) (after : Tables) :
    Prop where
  /-- The record of each account with volume is turned. -/
  rewards : ∀ account, after.rewards.get? account =
    if volumes account = 0 then before.rewards.get? account
    else some (.ofReward (before.turned budget account era (volumes account)))
  /-- The total of the era grows. -/
  totals : ∀ other, after.totals.get? other =
    if other = era ∧ volumes ≠ 0 then some (Integer.write (before.total era + volumes.degree))
    else before.totals.get? other
  /-- There are the same records without an account. -/
  nameless : after.nameless = before.nameless
  /-- There are the same balances. -/
  balances : after.balances = before.balances
  /-- There is the same stamp. -/
  schemaVersion : after.schemaVersion = before.schemaVersion

variable {t before after : Tables} {budget era : Int} {volumes more : String →₀ Nat}

theorem Admits.of_add (admits : t.Admits budget era (volumes + more)) :
    t.Admits budget era volumes := by
  constructor
  · have room := admits.room
    rw [map_add] at room
    omega
  · intro account counts
    refine admits.turns account ?_
    rw [Finsupp.add_apply]
    omega

theorem Sound.admits_zero (sound : t.Sound) (budget era : Int) : t.Admits budget era 0 where
  room := by simpa using sound.total_le era
  turns account counts := absurd rfl counts

theorem absorbs_zero (t : Tables) (budget era : Int) : t.Absorbs budget era 0 t where
  rewards _ := (if_pos rfl).symm
  totals _ := (if_neg fun both => both.2 rfl).symm
  nameless := rfl
  balances := rfl
  schemaVersion := rfl

/-- The volume of each account decides what is left. -/
theorem Absorbs.unique {other : Tables} (first : before.Absorbs budget era volumes after)
    (second : before.Absorbs budget era volumes other) : after = other :=
  ext_get? (fun account => (first.rewards account).trans (second.rewards account).symm)
    (first.nameless.trans second.nameless.symm)
    (fun era => (first.totals era).trans (second.totals era).symm)
    (fun key => by rw [first.balances, second.balances])
    (first.schemaVersion.trans second.schemaVersion.symm)

end Tables

namespace History

variable {ledgers : Set Service} {journal : List Entry} {before t : Tables} {era : Int}
  {volumes : String →₀ Nat} {account : String}

theorem awardAt_nonneg (history : History ledgers journal t) (budget : Amount) (account : String)
    (era : Int) : 0 ≤ t.awardAt budget.val account era :=
  Reward.awardAt_nonneg (history.sound.total_nonneg _) (Int.natCast_nonneg _) era

theorem storable_turned (history : History ledgers journal t) {budget : Amount} (era_nonneg : 0 ≤ era)
    (era_le : era ≤ maxTick) (admits : t.Admits budget.val era volumes) (counts : volumes account ≠ 0) :
    (t.turned budget.val account era (volumes account)).Storable := by
  have storable := history.sound.storable account
  have total_nonneg := history.sound.total_nonneg era
  have covered := history.pending_le_total account
  have room := admits.room
  have part : volumes account ≤ volumes.degree := Finsupp.le_degree account volumes
  constructor
  · exact add_nonneg storable.confirmed_nonneg (history.awardAt_nonneg budget account era)
  · exact (admits.turns account counts).2
  · have pending_nonneg := storable.pending_nonneg
    dsimp only [Tables.turned]
    split <;> omega
  · dsimp only [Tables.turned]
    split
    · rename_i current
      rw [← current] at covered
      omega
    · omega
  · exact era_nonneg
  · exact era_le

end History

namespace Tables.Absorbs

variable {ledgers : Set Service} {journal : List Entry} {before t : Tables} {era : Int}
  {volumes : String →₀ Nat} {account : String}

theorem total_of_ne {budget other : Int} (absorbs : before.Absorbs budget era volumes t)
    (distinct : other ≠ era) : t.total other = before.total other := by
  rw [total, absorbs.totals, if_neg fun both => distinct both.1, total]

theorem total_eq (history : History ledgers journal before) {budget : Int}
    (admits : before.Admits budget era volumes) (absorbs : before.Absorbs budget era volumes t) :
    t.total era = before.total era + volumes.degree := by
  by_cases nothing : volumes = 0
  · rw [total, absorbs.totals, if_neg fun both => both.2 nothing, nothing]
    simp [total]
  · rw [total, absorbs.totals, if_pos ⟨rfl, nothing⟩]
    exact cellValue_write (add_nonneg (history.sound.total_nonneg era) (Int.natCast_nonneg _))
      admits.room

theorem record_of_nothing {budget : Int} (absorbs : before.Absorbs budget era volumes t)
    (nothing : volumes account = 0) : t.record account = before.record account := by
  rw [record, absorbs.rewards, if_pos nothing, record]

theorem record_eq (history : History ledgers journal before) {budget : Amount} (era_nonneg : 0 ≤ era)
    (era_le : era ≤ maxTick) (admits : before.Admits budget.val era volumes)
    (absorbs : before.Absorbs budget.val era volumes t) (counts : volumes account ≠ 0) :
    t.record account = before.turned budget.val account era (volumes account) := by
  have storable := history.storable_turned era_nonneg era_le admits counts
  rw [record, absorbs.rewards, if_neg counts]
  exact RewardRow.reward_ofReward storable

/-- A batch leaves the totals of earlier eras alone, so what a first report closes is not changed. -/
theorem awardAt_of_nothing {budget : Int} (absorbs : before.Absorbs budget era volumes t)
    (nothing : volumes account = 0) :
    t.awardAt budget account era = before.awardAt budget account era := by
  rw [awardAt, awardAt, absorbs.record_of_nothing nothing, Reward.awardAt, Reward.awardAt]
  by_cases current : era = (before.record account).lastEra
  · rw [if_neg fun closing => closing.1 current, if_neg fun closing => closing.1 current]
  · rw [absorbs.total_of_ne (Ne.symm current)]

/-- A record that has been turned to the era has nothing to close. -/
theorem awardAt_of_counts (history : History ledgers journal before) {budget : Amount}
    (era_nonneg : 0 ≤ era) (era_le : era ≤ maxTick) (admits : before.Admits budget.val era volumes)
    (absorbs : before.Absorbs budget.val era volumes t) (counts : volumes account ≠ 0) :
    t.awardAt budget.val account era = 0 := by
  rw [awardAt, absorbs.record_eq history era_nonneg era_le admits counts, Reward.awardAt]
  exact if_neg fun closing => closing.1 rfl

/-- Turning a record for one more report amounts to turning it for all volume at once. -/
theorem turned_eq (history : History ledgers journal before) {budget : Amount}
    (era_nonneg : 0 ≤ era) (era_le : era ≤ maxTick) (admits : before.Admits budget.val era volumes)
    (absorbs : before.Absorbs budget.val era volumes t) (account : String) (n : Nat) :
    t.turned budget.val account era n =
      before.turned budget.val account era (volumes account + n : Nat) := by
  -- Either this report turns the record, or an earlier one of the batch has turned it and this one
  -- only adds.
  by_cases nothing : volumes account = 0
  · rw [turned, absorbs.record_of_nothing nothing, absorbs.awardAt_of_nothing nothing, nothing,
      zero_add, turned]
  · rw [turned, absorbs.awardAt_of_counts history era_nonneg era_le admits nothing,
      absorbs.record_eq history era_nonneg era_le admits nothing, turned, turned]
    by_cases current : era = (before.record account).lastEra
    · simp [current, add_assoc]
    · simp [current]

/-- One more report is let in exactly if there is room for it beside the volume before. -/
theorem admits_report_iff (history : History ledgers journal before) {budget : Amount}
    (era_nonneg : 0 ≤ era) (era_le : era ≤ maxTick) (admits : before.Admits budget.val era volumes)
    (absorbs : before.Absorbs budget.val era volumes t) {n : Nat} (something : n ≠ 0) :
    t.total era + n ≤ maxAmount ∧ (t.record account).lastEra ≤ era ∧
        (t.record account).confirmed + t.awardAt budget.val account era ≤ maxAmount ↔
      before.Admits budget.val era (volumes + Finsupp.single account n) := by
  have total_eq := absorbs.total_eq history admits
  have degree_eq : (volumes + Finsupp.single account n).degree = volumes.degree + n := by
    rw [map_add, Finsupp.degree_single]
  have counts : (volumes + Finsupp.single account n) account ≠ 0 := by
    rw [Finsupp.add_apply, Finsupp.single_eq_same]
    omega
  have own : (t.record account).lastEra ≤ era ∧
        (t.record account).confirmed + t.awardAt budget.val account era ≤ maxAmount ↔
      (before.record account).lastEra ≤ era ∧
        (before.record account).confirmed + before.awardAt budget.val account era ≤ maxAmount := by
    by_cases nothing : volumes account = 0
    · rw [absorbs.record_of_nothing nothing, absorbs.awardAt_of_nothing nothing]
    · rw [absorbs.awardAt_of_counts history era_nonneg era_le admits nothing,
        absorbs.record_eq history era_nonneg era_le admits nothing, turned, add_zero]
      exact ⟨fun _ => admits.turns account nothing, fun turns => ⟨le_rfl, turns.2⟩⟩
  rw [own]
  constructor
  · rintro ⟨room, turns⟩
    refine ⟨by rw [degree_eq]; omega, fun other other_counts => ?_⟩
    by_cases same : other = account
    · exact same ▸ turns
    · rw [Finsupp.add_apply, Finsupp.single_eq_of_ne same, add_zero] at other_counts
      exact admits.turns other other_counts
  · intro admitted
    have room := admitted.room
    rw [degree_eq] at room
    exact ⟨by omega, admitted.turns account counts⟩

/-- What is left by one more report. -/
theorem report (history : History ledgers journal before) {budget : Amount} (era_nonneg : 0 ≤ era)
    (era_le : era ≤ maxTick) (admits : before.Admits budget.val era volumes)
    (absorbs : before.Absorbs budget.val era volumes t) (account : String) {n : Nat}
    (something : n ≠ 0) :
    before.Absorbs budget.val era (volumes + Finsupp.single account n)
      ((t.setTotal era (t.total era + n)).setRecord account (t.turned budget.val account era n)) where
  rewards other := by
    simp only [setRecord, setTotal, Table.get?_insert]
    by_cases same : other = account
    · subst same
      rw [if_pos rfl, absorbs.turned_eq history era_nonneg era_le admits, Finsupp.add_apply,
        Finsupp.single_eq_same, if_neg (by omega)]
    · rw [if_neg same, absorbs.rewards, Finsupp.add_apply, Finsupp.single_eq_of_ne same, add_zero]
  totals other := by
    have counts : volumes + Finsupp.single account n ≠ 0 := by
      intro nothing
      exact something (Finsupp.single_eq_zero.1 (add_eq_zero.1 nothing).2)
    simp only [setRecord, setTotal, Table.get?_insert]
    by_cases same : other = era
    · rw [if_pos same, if_pos ⟨same, counts⟩, absorbs.total_eq history admits, map_add,
        Finsupp.degree_single, Nat.cast_add, add_assoc]
    · rw [if_neg same, absorbs.totals, if_neg fun both => same both.1, if_neg fun both => same both.1]
  nameless := absorbs.nameless
  balances := absorbs.balances
  schemaVersion := absorbs.schemaVersion

end Tables.Absorbs

/-! ## How a batch runs -/

theorem History.reward_of_rotation {ledgers : Set Service} {journal : List Entry} {t : Tables}
    (history : History ledgers journal t) {account : String} {budget era incoming : Int}
    (room : era = (t.record account).lastEra → (t.record account).pending + incoming ≤ maxAmount)
    {rotation : Rotation} (rotated : t.rotation budget account era incoming = .ok rotation) :
    rotation.reward = t.turned budget account era incoming := by
  rw [history.rotation_eq account room] at rotated
  split at rotated
  · cases rotated
  · split at rotated
    · cases rotated
    · cases rotated
      rfl

/-- A report of volume that is not zero and succeeds leaves a grown total and a turned record, and no
other writer. -/
theorem History.database_of_recordVolume {ledgers : Set Service} {journal : List Entry} {s : Service}
    {node : Node} (history : History ledgers journal node.database.tables) (member : s ∈ ledgers)
    {account volume at_ : Value} {name : String} {amount : Amount} {era answer : Int}
    (asked : s.reportOf account volume at_ = .ok (name, amount, era)) (something : amount.val ≠ 0)
    (answered : ((s.recordVolume account volume at_).run.run node).1 = .ok answer) :
    let t := node.database.tables
    let after := ((s.recordVolume account volume at_).run.run node).2.database
    answer = era ∧ after.contention = .free ∧
      after.tables = (t.setTotal era (t.total era + amount.val)).setRecord name
        (t.turned s.parameters.budget.val name era amount.val) ∧
      ∃ entry, History ledgers (journal ++ [entry]) after.tables := by
  intro t after
  obtain ⟨_, _, asked', ⟨nothing, -⟩ | ⟨-, _, rfl, ⟨total, rotation⟩, written⟩⟩ :=
    Service.recordVolume_eq_ok answered
  · rw [asked] at asked'
    cases asked'
    exact absurd nothing something
  rw [asked] at asked'
  cases asked'
  obtain ⟨era_nonneg, era_le⟩ := Parameters.eraOf_bounds (Service.reportOf_eq_ok asked).2.2
  have booked := Database.run_of_write written
  have commits := Service.commits_of_book history.sound something era_nonneg era_le booked
  refine ⟨rfl, Database.contention_of_write written, ?_, _, history.committed member commits⟩
  obtain ⟨bounded, rotated, -, tables_eq⟩ :=
    (s.book_eq_ok_iff history.sound name amount era_nonneg era_le).1 booked
  have covered : (t.record name).pending ≤ t.total (t.record name).lastEra :=
    history.pending_le_total name
  have bounded : t.total era + amount.val ≤ maxAmount := bounded
  have room (current : era = (t.record name).lastEra) :
      (t.record name).pending + amount.val ≤ maxAmount := by
    rw [← current] at covered
    omega
  rw [tables_eq, history.reward_of_rotation room rotated]

namespace Service

/-- A node on whose tables a batch has been at work: they have absorbed some volume in an era, and
nobody else is writing. -/
structure Absorbing (s : Service) (before : Tables) (era : Int) (volumes : String →₀ Nat)
    (node : Node) : Prop where
  /-- No other writer is in the way. -/
  admitted : node.database.contention.refusal? = none
  /-- The tables can be reached. -/
  history : ∃ journal, History Set.univ journal node.database.tables
  /-- There was room for the volume. -/
  admits : before.Admits s.parameters.budget.val era volumes
  /-- The volume has been added. -/
  absorbs : before.Absorbs s.parameters.budget.val era volumes node.database.tables

namespace Absorbing

variable {s : Service} {before : Tables} {era : Int} {volumes : String →₀ Nat} {node : Node}
  {journal : List Entry}

theorem of_database (absorbing : s.Absorbing before era volumes node) {after : Node}
    (kept : after.database = node.database) : s.Absorbing before era volumes after := by
  obtain ⟨admitted, history, admits, absorbs⟩ := absorbing
  rw [← kept] at admitted history absorbs
  exact ⟨admitted, history, admits, absorbs⟩

/-- The next report succeeds exactly if there was room for it, and its volume is absorbed too. -/
theorem recordOne (absorbing : s.Absorbing before era volumes node)
    (start : History Set.univ journal before) (r : Report s.parameters era) :
    ((∃ answer, ((s.recordOne r).run.run node).1 = .ok answer) ↔
        before.Admits s.parameters.budget.val era
          (volumes + Finsupp.single r.holder r.volume.val)) ∧
      ∀ answer, ((s.recordOne r).run.run node).1 = .ok answer →
        answer = era ∧ s.Absorbing before era (volumes + Finsupp.single r.holder r.volume.val)
          ((s.recordOne r).run.run node).2 := by
  by_cases nothing : r.volume.val = 0
  · obtain ⟨answered, kept⟩ := recordOne_of_nothing nothing node
    rw [nothing, Finsupp.single_zero, add_zero]
    refine ⟨⟨fun _ => absorbing.admits, fun _ => ⟨era, answered⟩⟩, fun answer same => ?_⟩
    rw [answered] at same
    cases same
    exact ⟨rfl, absorbing.of_database kept⟩
  · obtain ⟨admitted, ⟨journal', history⟩, admits, absorbs⟩ := absorbing
    obtain ⟨era_nonneg, era_le⟩ := r.era_bounds
    have asked := reportOf_report r
    rw [Service.recordOne]
    have lets_in := (history.recordVolume_succeeds_iff asked nothing).trans
      ((and_iff_right admitted).trans
        (absorbs.admits_report_iff start era_nonneg era_le admits nothing))
    refine ⟨lets_in, fun answer answered => ?_⟩
    obtain ⟨answer_eq, free, tables_eq, entry, continued⟩ :=
      history.database_of_recordVolume (Set.mem_univ s) asked nothing answered
    refine ⟨answer_eq, ?_, ⟨_, continued⟩, lets_in.1 ⟨answer, answered⟩, ?_⟩
    · rw [free]
      rfl
    · rw [tables_eq]
      exact absorbs.report start era_nonneg era_le admits r.holder nothing

/-- A batch succeeds exactly if there was room for all its volume, which is then absorbed. -/
theorem recordAll (absorbing : s.Absorbing before era volumes node)
    (start : History Set.univ journal before) (reports : List (Report s.parameters era)) :
    ((∃ answers, ((s.recordAll reports).run.run node).1 = .ok answers) ↔
        before.Admits s.parameters.budget.val era (volumes + Report.volumes reports)) ∧
      ∀ answers, ((s.recordAll reports).run.run node).1 = .ok answers →
        answers = reports.map (fun _ => era) ∧
          s.Absorbing before era (volumes + Report.volumes reports)
            ((s.recordAll reports).run.run node).2 := by
  induction reports generalizing volumes node with
  | nil =>
      rw [Report.volumes_nil, add_zero]
      refine ⟨⟨fun _ => absorbing.admits, fun _ => ⟨[], rfl⟩⟩, fun answers answered => ?_⟩
      cases answered
      exact ⟨rfl, absorbing⟩
  | cons r reports induction =>
      obtain ⟨lets_in, absorbed⟩ := absorbing.recordOne start r
      rw [recordAll_cons_run, Report.volumes_cons, ← add_assoc]
      rcases run_first : (s.recordOne r).run.run node with ⟨failure | answer, middle⟩
      · -- Without room for this report there is none for it and the rest.
        rw [run_first] at lets_in
        refine ⟨⟨fun ⟨_, answered⟩ => (by cases answered), fun admits => ?_⟩,
          fun _ answered => (by cases answered)⟩
        obtain ⟨_, answered⟩ := lets_in.2 admits.of_add
        cases answered
      · rw [run_first] at absorbed
        obtain ⟨rfl, middle_absorbing⟩ := absorbed answer rfl
        obtain ⟨rest_lets_in, rest_absorbed⟩ := induction middle_absorbing
        dsimp only
        rcases run_rest : (s.recordAll reports).run.run middle with ⟨failure | answers, after⟩
        · rw [run_rest] at rest_lets_in
          refine ⟨⟨fun ⟨_, answered⟩ => (by cases answered), fun admits => ?_⟩,
            fun _ answered => (by cases answered)⟩
          obtain ⟨_, answered⟩ := rest_lets_in.2 admits
          cases answered
        · rw [run_rest] at rest_absorbed
          obtain ⟨rfl, after_absorbing⟩ := rest_absorbed answers rfl
          refine ⟨⟨fun _ => after_absorbing.admits, fun _ => ⟨_, rfl⟩⟩, fun _ answered => ?_⟩
          cases answered
          exact ⟨rfl, after_absorbing⟩

end Absorbing

variable {s : Service} {era : Int}

/-- A batch of nothing succeeds and leaves the database as it is. -/
theorem recordAll_of_nothing {reports : List (Report s.parameters era)}
    (nothing : Report.volumes reports = 0) (node : Node) :
    ((s.recordAll reports).run.run node).1 = .ok (reports.map fun _ => era) ∧
      ((s.recordAll reports).run.run node).2.database = node.database := by
  induction reports generalizing node with
  | nil => exact ⟨rfl, rfl⟩
  | cons r reports induction =>
      obtain ⟨first, rest⟩ := Report.volume_eq_zero_of_volumes nothing
      obtain ⟨answered, kept⟩ := recordOne_of_nothing first node
      rw [recordAll_cons_run]
      rcases run_first : (s.recordOne r).run.run node with ⟨outcome, middle⟩
      rw [run_first] at answered kept
      cases answered
      obtain ⟨rest_answered, rest_kept⟩ := induction rest middle
      dsimp only
      rw [rest_answered, rest_kept]
      exact ⟨rfl, kept⟩

/-- While another writer holds the database, a batch succeeds only if it reports nothing. -/
theorem volumes_of_refusal {reports : List (Report s.parameters era)} {node : Node}
    {failure : Failure} (refusal : node.database.contention.refusal? = some failure)
    {answers : List Int} (answered : ((s.recordAll reports).run.run node).1 = .ok answers) :
    Report.volumes reports = 0 := by
  induction reports generalizing node answers with
  | nil => rfl
  | cons r reports induction =>
      rw [recordAll_cons_run] at answered
      by_cases nothing : r.volume.val = 0
      · obtain ⟨first_answered, kept⟩ := recordOne_of_nothing nothing node
        rcases run_first : (s.recordOne r).run.run node with ⟨outcome, middle⟩
        rw [run_first] at answered first_answered kept
        cases first_answered
        dsimp only at answered kept
        rcases run_rest : ((s.recordAll reports).run.run middle).1 with _ | rest
        · rw [run_rest] at answered
          cases answered
        · rw [Report.volumes_cons, nothing, Finsupp.single_zero, zero_add]
          exact induction (by rwa [kept]) run_rest
      · have refused := recordVolume_of_refusal (reportOf_report r) nothing refusal
        rw [← Service.recordOne] at refused
        rcases run_first : (s.recordOne r).run.run node with ⟨outcome, middle⟩
        rw [run_first] at answered refused
        cases refused
        cases answered

end Service

/-- Two batches of reports in one era that report the same volume for each account are alike, in
whatever order and parts they do: made to any ledger on the tables of a deployment, if all reports of
one succeed then so do all of the other, and the tables become the same. -/
theorem reports_batch_independent (node : Node) (steps : List Deployment.Step) (s : Service)
    (contention : Contention) {era : Int} {first second : List (Report s.parameters era)}
    (same : ∀ name, Report.volumeOf name first = Report.volumeOf name second) :
    let now := ((Deployment.new node).run steps).node.facing contention
    ∀ answers, ((s.recordAll first).run.run now).1 = .ok answers →
      answers = first.map (fun _ => era) ∧
        ((s.recordAll second).run.run now).1 = .ok (second.map fun _ => era) ∧
        ((s.recordAll second).run.run now).2.database.tables =
          ((s.recordAll first).run.run now).2.database.tables := by
  intro now answers answered
  have volumes_eq := Report.volumes_eq_of_volumeOf same
  cases refusal : now.database.contention.refusal? with
  | some failure =>
      have nothing := Service.volumes_of_refusal refusal answered
      obtain ⟨first_answered, first_kept⟩ := Service.recordAll_of_nothing nothing now
      obtain ⟨second_answered, second_kept⟩ :=
        Service.recordAll_of_nothing (volumes_eq ▸ nothing) now
      rw [first_answered] at answered
      cases answered
      exact ⟨rfl, second_answered, by rw [first_kept, second_kept]⟩
  | none =>
      have history : History Set.univ _ now.database.tables := History.deployed node steps
      have start : s.Absorbing now.database.tables era 0 now :=
        ⟨refusal, ⟨_, history⟩, history.sound.admits_zero _ _, Tables.absorbs_zero _ _ _⟩
      obtain ⟨first_lets_in, first_absorbed⟩ := start.recordAll history first
      obtain ⟨second_lets_in, second_absorbed⟩ := start.recordAll history second
      rw [← volumes_eq] at second_lets_in second_absorbed
      obtain ⟨answers_eq, first_after⟩ := first_absorbed answers answered
      obtain ⟨others, others_answered⟩ := second_lets_in.2 first_after.admits
      obtain ⟨rfl, second_after⟩ := second_absorbed others others_answered
      exact ⟨answers_eq, others_answered, second_after.absorbs.unique first_after.absorbs⟩

/-- Two accounts have reported in the first era. -/
def firstEraSteps : List Deployment.Step :=
  [.opening ⟨.free, .empty, .int 100, .int 1000000, .int 0, .bundled, default, .absent⟩,
    .turn ⟨.free, .recordVolume (.text "a") (.int 30) (.int 0)⟩,
    .turn ⟨.free, .recordVolume (.text "b") (.int 70) (.int 50)⟩]

/-- Each of them reports once in the second era. -/
def Report.inOne : List (Report Service.sample.parameters 100) :=
  [⟨"a", by decide +kernel, ⟨5, by decide⟩, 100, by decide, by decide, by decide⟩,
    ⟨"b", by decide +kernel, ⟨8, by decide⟩, 199, by decide, by decide, by decide⟩]

/-- They report the same in parts, the other way round, and one of them also reports nothing. -/
def Report.inParts : List (Report Service.sample.parameters 100) :=
  [⟨"\tb", by decide +kernel, ⟨3, by decide⟩, 150, by decide, by decide, by decide⟩,
    ⟨"a ", by decide +kernel, ⟨0, by decide⟩, 101, by decide, by decide, by decide⟩,
    ⟨"a", by decide +kernel, ⟨5, by decide⟩, 199, by decide, by decide, by decide⟩,
    ⟨"b", by decide +kernel, ⟨5, by decide⟩, 100, by decide, by decide, by decide⟩]

/-- The node after the first era. -/
def Node.secondEra : Node := ((Deployment.new .empty).run firstEraSteps).node.facing .free

theorem Report.volumeOf_inParts (name : String) : volumeOf name inOne = volumeOf name inParts := by
  have a_holder : Text.strip "a" = "a" := by decide +kernel
  have b_holder : Text.strip "b" = "b" := by decide +kernel
  have blank_holder : Text.strip "a " = "a" := by decide +kernel
  have tab_holder : Text.strip "\tb" = "b" := by decide +kernel
  simp only [volumeOf, inOne, inParts, holder, List.map_cons, List.map_nil, List.sum_cons,
    List.sum_nil, a_holder, b_holder, blank_holder, tab_holder]
  split <;> split <;> rfl

/-- Both ways close the first era for both accounts, and leave the same tables. -/
theorem reports_batch_independent_sample :
    ((Service.sample.recordAll Report.inOne).run.run .secondEra).1 = .ok [100, 100] ∧
      ((Service.sample.recordAll Report.inParts).run.run .secondEra).1 =
        .ok [100, 100, 100, 100] ∧
      ((Service.sample.recordAll Report.inParts).run.run .secondEra).2.database.tables =
        ((Service.sample.recordAll Report.inOne).run.run .secondEra).2.database.tables ∧
      ((Service.sample.recordAll Report.inOne).run.run .secondEra).2.database.tables.rewards.rows =
        [("a", ⟨"300000", "5", 100⟩), ("b", ⟨"700000", "8", 100⟩)] := by
  have answered : ((Service.sample.recordAll Report.inOne).run.run .secondEra).1 = .ok [100, 100] :=
    ok_of_toOption (by decide +kernel)
  obtain ⟨-, parts_answered, tables_eq⟩ := reports_batch_independent .empty firstEraSteps .sample .free
    Report.volumeOf_inParts [100, 100] answered
  rw [← Node.secondEra] at parts_answered tables_eq
  exact ⟨answered, parts_answered, tables_eq, by decide +kernel⟩

end EraRewards
