import EraRewards.Proofs.Atomicity
import EraRewards.Proofs.Success

/-!
# What a call makes of the tables

A report of volume and a claim that succeed are told here from their arguments to the last row: what
they answer, which cells they change and that they leave every other cell as it is.  Nothing is asked
of the tables beforehand, since a call succeeds only if it can read what it needs.
-/

namespace EraRewards

open Effect

/-- Part of a budget that falls to a volume in a total, never more than the whole budget. -/
def cappedProRata (volume total budget : Int) : Int :=
  min (volume * 10 ^ 18 / total) (10 ^ 18) * budget / 10 ^ 18

theorem Share.parts_ofRatio_eq_min {num den : Int} (num_nonneg : 0 ≤ num) (den_pos : 0 < den) :
    ((ofRatio num den).parts : Int) = min (num * 10 ^ 18 / den) (10 ^ 18) := by
  rcases le_or_gt num den with num_le | den_lt
  · have bounded : num * 10 ^ 18 / den ≤ 10 ^ 18 := by
      apply Int.ediv_le_of_le_mul den_pos
      rw [mul_comm]
      exact mul_le_mul_of_nonneg_left num_le (by norm_num)
    rw [parts_ofRatio num_nonneg num_le den_pos, min_eq_left bounded]
  · have exceeded : 10 ^ 18 ≤ num * 10 ^ 18 / den := by
      apply Int.le_ediv_of_mul_le den_pos
      rw [mul_comm]
      exact mul_le_mul_of_nonneg_right den_lt.le (by norm_num)
    have num_pos : ¬num ≤ 0 := by omega
    have saturated : ofRatio num den = one := by
      unfold ofRatio
      rw [if_neg num_pos, dif_pos den_lt.le]
    rw [saturated, min_eq_right exceeded]
    norm_num [one, wholeParts]

theorem Reward.award_eq_cappedProRata {pending total : Int} (pending_nonneg : 0 ≤ pending)
    (total_pos : 0 < total) (budget : Int) :
    award pending total budget = cappedProRata pending total budget := by
  rw [award, Share.mulFloor_eq, Share.parts_ofRatio_eq_min pending_nonneg total_pos, cappedProRata]

namespace Reward

/-- The record after volume has come in for an era, given the total of the era that it leaves. -/
def receiving (r : Reward) (era volume total budget : Int) : Reward :=
  if era = r.lastEra then ⟨r.confirmed, r.pending + volume, era⟩
  else if r.pending = 0 then ⟨r.confirmed, volume, era⟩
  else ⟨r.confirmed + cappedProRata r.pending total budget, volume, era⟩

/-- Reward that a record gains when it turns to an era. -/
def gain (r : Reward) (era total budget : Int) : Int :=
  if r.lastEra < era ∧ 0 < r.pending then cappedProRata r.pending total budget else 0

variable {r : Reward} {era incoming total budget : Int} {rotation : Rotation}

theorem Turns.reward_eq_receiving (turns : r.Turns era incoming total budget rotation) :
    rotation.reward = r.receiving era incoming total budget := by
  cases turns with
  | same current bounded => simp [receiving, current]
  | idle later nothing => simp [receiving, later.ne', nothing]
  | closing later something total_pos bounded =>
      simp [receiving, later.ne', something.ne', award_eq_cappedProRata something.le total_pos]

theorem Turns.confirmed_eq_gain (turns : r.Turns era incoming total budget rotation) :
    rotation.reward.confirmed = r.confirmed + r.gain era total budget := by
  cases turns with
  | same current bounded => simp [gain, current]
  | idle later nothing => simp [gain, nothing]
  | closing later something total_pos bounded =>
      simp [gain, later, something, award_eq_cappedProRata something.le total_pos]

end Reward

namespace Tables

variable {t after : Tables} {account : String} {era : Int}

/-- What a report of volume in an era makes of the tables. -/
structure Booked (before after : Tables) (account : String) (volume era budget : Int) : Prop where
  /-- The account has not been active in a later era. -/
  lastEra_le : (before.record account).lastEra ≤ era
  /-- The total of the era grows by the volume. -/
  total : after.total era = before.total era + volume
  /-- The record turns with the total of the era that it leaves as it was before the report. -/
  record : after.record account = (before.record account).receiving era volume
    (before.total (before.record account).lastEra) budget
  /-- Other records stay. -/
  records : ∀ other, other ≠ account → after.rewards.get? other = before.rewards.get? other
  /-- Other totals stay. -/
  totals : ∀ other, other ≠ era → after.totals.get? other = before.totals.get? other
  /-- Balances stay. -/
  balances : after.balances = before.balances
  /-- Records without an account stay. -/
  nameless : after.nameless = before.nameless
  /-- The version of the schema stays. -/
  schemaVersion : after.schemaVersion = before.schemaVersion

/-- What a claim of an amount in an era makes of the tables. -/
structure PaidOut (before after : Tables) (token : Int) (account : String) (era amount : Int) :
    Prop where
  /-- Something is paid. -/
  amount_pos : 0 < amount
  /-- The balance grows by the amount. -/
  balance : after.balance token account = before.balance token account + amount
  /-- A record with volume pending in the era keeps it. -/
  kept : era = (before.record account).lastEra → 0 < (before.record account).pending →
    after.rewards.get? account = some (.ofReward { before.record account with confirmed := 0 })
  /-- Any other record is dropped. -/
  dropped : ¬(era = (before.record account).lastEra ∧ 0 < (before.record account).pending) →
    after.rewards.get? account = none
  /-- Other records stay. -/
  records : ∀ other, other ≠ account → after.rewards.get? other = before.rewards.get? other
  /-- Totals stay. -/
  totals : after.totals = before.totals
  /-- Other balances stay. -/
  balances : ∀ key, key ≠ ⟨token, account⟩ → after.balances.get? key = before.balances.get? key
  /-- Records without an account stay. -/
  nameless : after.nameless = before.nameless
  /-- The version of the schema stays. -/
  schemaVersion : after.schemaVersion = before.schemaVersion

theorem nameless_settle (account : String) (r : Reward) :
    (t.settle account r).nameless = t.nameless := by
  rw [settle]
  split <;> rfl

theorem totals_settle (account : String) (r : Reward) : (t.settle account r).totals = t.totals := by
  rw [settle]
  split <;> rfl

theorem schemaVersion_settle (account : String) (r : Reward) :
    (t.settle account r).schemaVersion = t.schemaVersion := by
  rw [settle]
  split <;> rfl

end Tables

namespace Service

variable {s : Service} {t after : Tables} {account : String} {era amount : Int}
  {rotation : Rotation}

theorem booked_of_book {volume : Amount} {total : Int}
    (booked : (s.book account volume era).run.run t = (.ok (total, rotation), after)) :
    t.Booked after account volume.val era s.parameters.budget.val := by
  obtain ⟨rfl, sum_short, turns, short, rfl⟩ := book_eq_ok booked
  exact
    { lastEra_le := turns.lastEra_le
      total := by rw [Tables.total_setRecord, Tables.total_setTotal_of_short sum_short]
      record := by
        rw [Tables.record_setRecord_of_short short, turns.reward_eq_receiving]
      records := fun other distinct => (Table.get?_insert _ _ _ _).trans (if_neg distinct)
      totals := fun other distinct => (Table.get?_insert _ _ _ _).trans (if_neg distinct)
      balances := rfl
      nameless := rfl
      schemaVersion := rfl }

theorem paidOut_of_payOut (bundled : s.balances = .bundled) (something : amount ≠ 0)
    (paid : (s.payOut account era).run.run t = (.ok (amount, rotation), after)) :
    t.PaidOut after s.parameters.token account era amount := by
  obtain ⟨turns, amount_eq, ⟨nothing, -⟩ | ⟨-, credited⟩⟩ := payOut_eq_ok paid
  · exact absurd nothing something
  obtain ⟨nonneg, short, rfl⟩ := credit_eq_ok bundled credited
  rw [Tables.balance_settle] at short ⊢
  have row := Tables.get?_settle t account rotation.reward account
  rw [if_pos rfl] at row
  refine
    { amount_pos := lt_of_le_of_ne nonneg something.symm
      balance := Tables.balance_setBalance_of_short short _ _
      kept := fun current pending_pos => row.trans ?_
      dropped := fun moved => row.trans ?_
      records := fun other distinct =>
        (Tables.get?_settle t account rotation.reward other).trans (if_neg distinct)
      totals := Tables.totals_settle account rotation.reward
      balances := fun key distinct => ?_
      nameless := Tables.nameless_settle account rotation.reward
      schemaVersion := Tables.schemaVersion_settle account rotation.reward }
  · rw [turns.reward_eq_receiving, Reward.receiving, if_pos current, add_zero, if_pos pending_pos,
      current]
  · refine if_neg ?_
    rw [turns.reward_eq_receiving, Reward.receiving]
    split
    · rename_i current
      simpa [current] using moved
    · split <;> simp
  · rw [Tables.setBalance, Table.get?_insert, if_neg distinct, Tables.balances_settle]

/-- A claim pays nothing when nothing is confirmed and no era can be closed, and writes nothing. -/
theorem payOut_run_of_nothing {r : Reward} (found : (Records.find account).run.run t = (.ok r, t))
    (unconfirmed : r.confirmed = 0) (pending_le : r.pending ≤ maxAmount)
    (settled : era = r.lastEra ∨ r.lastEra < era ∧ r.pending = 0) :
    (s.payOut account era).run.run t = (.ok (0, ⟨0, false, { r with lastEra := era }⟩), t) := by
  have turned : r.rotation era 0 0 s.parameters.budget.val =
      .ok ⟨0, false, { r with lastEra := era }⟩ := by
    rcases settled with rfl | ⟨later, nothing⟩
    · have bounded : r.pending + 0 ≤ maxAmount := by omega
      rw [Reward.rotation_of_eq rfl, Amount.checkedSum_eq_ok_iff.2 ⟨bounded, rfl⟩]
      simp [Except.map]
    · rw [Reward.rotation_of_idle later nothing, nothing]
  have open_ : ¬(era ≠ r.lastEra ∧ 0 < r.pending) := by omega
  have previewed := Records.preview_run_of_open found open_ s.parameters.budget.val .zero
  have zero_val : ((Amount.zero.val : Nat) : Int) = 0 := rfl
  rw [zero_val, turned] at previewed
  rw [payOut_named, run_bind, previewed]
  dsimp only [Except.mapError]
  have nothing : Rotation.confirmed ⟨0, false, { r with lastEra := era }⟩ = 0 := unconfirmed
  rw [if_pos nothing, run_pure]

/-- A claim in the era of the last one pays nothing and writes nothing. -/
theorem payOut_run_again (bundled : s.balances = .bundled) (era_nonneg : 0 ≤ era)
    (era_le : era ≤ maxTick)
    (paid : (s.payOut account era).run.run t = (.ok (amount, rotation), after)) :
    ∃ again, (s.payOut account era).run.run after = (.ok (0, again), after) := by
  obtain ⟨turns, -, ⟨rfl, rfl⟩ | ⟨something, -⟩⟩ := payOut_eq_ok paid
  · exact ⟨rotation, paid⟩
  have paidOut := paidOut_of_payOut bundled something paid
  by_cases kept : era = (t.record account).lastEra ∧ 0 < (t.record account).pending
  · obtain ⟨current, pending_pos⟩ := kept
    have bounded : (t.record account).pending ≤ maxAmount := by
      cases turns with
      | same _ bounded => exact (add_zero (t.record account).pending).symm.trans_le bounded
      | idle later _ => exact absurd current later.ne'
      | closing later _ _ _ => exact absurd current later.ne'
    have storable : Reward.Storable { t.record account with confirmed := 0 } :=
      ⟨le_rfl, Int.natCast_nonneg _, pending_pos.le, bounded, current ▸ era_nonneg, current ▸ era_le⟩
    have found := Records.find_run_of_row storable (paidOut.kept current pending_pos)
    exact ⟨_, payOut_run_of_nothing found rfl bounded (.inl current)⟩
  · have found := Records.find_run_of_absent (paidOut.dropped kept)
    refine ⟨_, payOut_run_of_nothing found rfl (Int.natCast_nonneg _) ?_⟩
    rcases era_nonneg.eq_or_lt with first | later
    · exact .inl first.symm
    · exact .inr ⟨later, rfl⟩

end Service

/-- A report of volume that succeeds answers the era around its tick.  Volume zero changes nothing;
any other volume is reported for an account that can be stored, and is added to the total of that era
and to the record, and nothing else changes. -/
theorem recordVolume_outcome {s : Service} {account volume at_ : Value} {node : Node} {answer : Int}
    (answered : ((s.recordVolume account volume at_).run.run node).1 = .ok answer) :
    let before := node.database.tables
    let after := ((s.recordVolume account volume at_).run.run node).2.database.tables
    ∃ holder amount tick, accountOfValue account = .ok holder ∧
      Amount.ofValue? volume = some amount ∧
      at_ = .int tick ∧ answer = Era.startOf tick s.parameters.eraDuration ∧
      (amount.val = 0 → after = before) ∧
      (amount.val ≠ 0 → ∃ name : String, holder = name ∧
        before.Booked after name amount.val answer s.parameters.budget.val) := by
  intro before after
  obtain ⟨holder, amount, asked, outcome⟩ := Service.recordVolume_eq_ok answered
  obtain ⟨named, measured, dated⟩ := Service.reportOf_eq_ok asked
  obtain ⟨tick, tick_eq, -, -, era_eq⟩ := Parameters.eraOf_eq_ok dated
  refine ⟨holder, amount, tick, named, measured, tick_eq, era_eq, fun nothing => ?_,
    fun something => ?_⟩
  · obtain ⟨-, kept⟩ | ⟨something, -⟩ := outcome
    · exact congrArg Database.tables kept
    · exact absurd nothing something
  · obtain ⟨nothing, -⟩ | ⟨-, name, rfl, booked, written⟩ := outcome
    · exact absurd nothing something
    · exact ⟨name, rfl, Service.booked_of_book (Database.run_of_write written)⟩

/-- Two accounts have reported in the first era, and one of them in the second. -/
def Node.busy : Node :=
  Service.sample.run
    [⟨.free, .recordVolume (.text "a") (.int 30) (.int 0)⟩,
      ⟨.free, .recordVolume (.text "b") (.int 10) (.int 99)⟩,
      ⟨.free, .recordVolume (.text "b") (.int 7) (.int 100)⟩]
    (Node.empty.on .stamped)

/-- The other account reports in the second era as well: its record gains three quarters of the budget
for the first. -/
theorem recordVolume_outcome_sample :
    let outcome := (Service.sample.recordVolume (.text "a") (.int 5) (.int 105)).run.run Node.busy
    outcome.1 = .ok 100 ∧
      Node.busy.database.tables.Booked outcome.2.database.tables "a" 5 100 1000000 ∧
      outcome.2.database.tables.total 100 = 12 ∧
      outcome.2.database.tables.record "a" = ⟨750000, 5, 100⟩ := by
  intro outcome
  have answered : outcome.1 = .ok 100 := ok_of_toOption (by decide +kernel)
  obtain ⟨holder, amount, tick, named, measured, -, -, -, booked⟩ := recordVolume_outcome answered
  obtain rfl : .named "a" = holder := Except.ok.inj named
  obtain rfl : (⟨5, by decide⟩ : Amount) = amount := Option.some.inj measured
  obtain ⟨name, name_eq, changed⟩ := booked (by decide)
  cases name_eq
  refine ⟨answered, changed, changed.total.trans ?_, changed.record.trans ?_⟩ <;> decide +kernel

/-- A claim that succeeds answers what its account has confirmed, with the award for an era that it
closes.  If that is nothing, nothing changes; otherwise it moves from the record to the balance, and
nothing else changes.  Another claim in the same era answers zero and changes nothing. -/
theorem claim_outcome {s : Service} (bundled : s.balances = .bundled) {account at_ : Value}
    {node : Node} {answer : Int}
    (answered : ((s.claim account at_).run.run node).1 = .ok answer) :
    let before := node.database.tables
    let next := ((s.claim account at_).run.run node).2
    ∃ (name : String) (era : Int), s.claimOf account at_ node.clock = .ok (name, era) ∧
      (before.record name).lastEra ≤ era ∧
      answer = (before.record name).confirmed + (before.record name).gain era
        (before.total (before.record name).lastEra) s.parameters.budget.val ∧
      (answer = 0 → next.database.tables = before) ∧
      (answer ≠ 0 → before.PaidOut next.database.tables s.parameters.token name era answer) ∧
      ∀ account' at_', s.claimOf account' at_' next.clock = .ok (name, era) →
        ((s.claim account' at_').run.run next).1 = .ok 0 ∧
          ((s.claim account' at_').run.run next).2.database.tables = next.database.tables := by
  intro before next
  obtain ⟨name, era, rotation, asked, written⟩ := Service.claim_eq_ok answered
  have paid := Database.run_of_write written
  obtain ⟨turns, amount_eq, outcome⟩ := Service.payOut_eq_ok paid
  refine ⟨name, era, asked, turns.lastEra_le, amount_eq.trans turns.confirmed_eq_gain,
    fun nothing => ?_, fun something => Service.paidOut_of_payOut bundled something paid,
    fun account' at_' asked_again => ?_⟩
  · obtain ⟨-, kept⟩ | ⟨something, -⟩ := outcome
    · exact kept
    · exact absurd nothing something
  · obtain ⟨era_nonneg, era_le⟩ := Service.claimOf_bounds asked
    obtain ⟨again, paid_again⟩ := Service.payOut_run_again bundled era_nonneg era_le paid
    have admitted : next.database.contention.refusal? = none := by
      rw [Database.contention_of_write written]
      rfl
    obtain ⟨outcome_eq, tables_eq⟩ := Database.write_eq_ok_iff.2 ⟨admitted, paid_again⟩
    obtain ⟨answer_eq, database_eq⟩ :=
      Service.claim_of_write asked_again (Prod.ext outcome_eq rfl)
    exact ⟨answer_eq, database_eq ▸ tables_eq⟩

/-- The account that has reported in two eras claims in the second: a quarter of the budget for the
first era moves to its balance, and its volume in the second stays pending. -/
theorem claim_outcome_sample :
    let outcome := (Service.sample.claim (.text "b") (.int 105)).run.run Node.busy
    outcome.1 = .ok 250000 ∧
      Node.busy.database.tables.PaidOut outcome.2.database.tables 0 "b" 100 250000 ∧
      outcome.2.database.tables.balance 0 "b" = 250000 ∧
      outcome.2.database.tables.rewards.get? "b" = some ⟨"0", "7", 100⟩ ∧
      ((Service.sample.claim (.text "b") (.int 199)).run.run outcome.2).1 = .ok 0 := by
  intro outcome
  have answered : outcome.1 = .ok 250000 := ok_of_toOption (by decide +kernel)
  obtain ⟨name, era, asked, -, -, -, paidOut, again⟩ := claim_outcome rfl answered
  obtain ⟨named, rfl⟩ : .named "b" = Account.named name ∧ 100 = era :=
    Prod.mk.inj (Except.ok.inj asked)
  cases named
  have changed := paidOut (by decide)
  refine ⟨answered, changed, changed.balance.trans ?_, (changed.kept ?_ ?_).trans ?_,
    (again (.text "b") (.int 199) rfl).1⟩ <;> decide +kernel

end EraRewards
