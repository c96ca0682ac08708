import EraRewards.Proofs.Booking
import EraRewards.Proofs.Independence

/-!
# What a successful transaction has done

A transaction that succeeds has read every cell that it needed, so it tells what these cells hold even
where nothing is known of the other rows.  Each lemma here reads off a success what was found and what
was written.
-/

namespace EraRewards

open Effect

/-! ## Cells that have been read -/

theorem cellValue_of_readCell {cell : String} {n : Int} (read : readCell cell = .ok n) :
    cellValue (some cell) = n ∧ n.natAbs < Integer.writingBound := by
  rw [readCell] at read
  split at read
  · rename_i found
    cases read
    exact ⟨by simp [cellValue, found], Integer.read?_natAbs_lt found⟩
  · cases read

theorem cellValue_write_of_short {n : Int} (short : n.natAbs < Integer.writingBound) :
    cellValue (some (Integer.write n)) = n := by
  simp [cellValue, Integer.read?_write_of_natAbs_lt short]

theorem readCell_write_of_short {n : Int} (short : n.natAbs < Integer.writingBound) :
    readCell (Integer.write n) = .ok n := by
  simp [readCell, Integer.read?_write_of_natAbs_lt short]

/-- A checked sum with an amount is short enough to be read back. -/
theorem natAbs_add_lt {n : Int} (short : n.natAbs < Integer.writingBound) {gain : Int}
    (nonneg : 0 ≤ gain) (bounded : n + gain ≤ maxAmount) :
    (n + gain).natAbs < Integer.writingBound := by
  have room := Integer.maxAmount_lt_writingBound
  omega

theorem Amount.eq_of_ofArgument {field : String} {n : Int} {amount : Amount}
    (measured : ofArgument field (.int n) = .ok amount) : n = amount.val := by
  rw [ofArgument, ofNamed, ofValue?, ofInt?] at measured
  split at measured
  · rename_i found
    split at found
    · rename_i range
      cases found
      cases measured
      exact (Int.toNat_of_nonneg range.1).symm
    · cases found
  · cases measured

theorem bindColumn_eq_ok {n column : Int} (bound : bindColumn n = .ok column) : column = n := by
  rw [bindColumn] at bound
  split at bound
  · exact (Except.ok.inj bound).symm
  · cases bound

namespace Reward

/-- Records whose amounts are short enough to be read back. -/
structure Short (r : Reward) : Prop where
  /-- The confirmed reward is short. -/
  confirmed : r.confirmed.natAbs < Integer.writingBound
  /-- The pending volume is short. -/
  pending : r.pending.natAbs < Integer.writingBound

theorem short_zero : Short {} where
  confirmed := Nat.lt_of_le_of_lt (Nat.zero_le _) Integer.maxAmount_lt_writingBound
  pending := Nat.lt_of_le_of_lt (Nat.zero_le _) Integer.maxAmount_lt_writingBound

theorem Short.taken {r : Reward} (short : r.Short) : Short { r with confirmed := 0 } where
  confirmed := short_zero.confirmed
  pending := short.pending

theorem Turns.short {r : Reward} {era total budget : Int} {incoming : Amount} {rotation : Rotation}
    (turns : r.Turns era incoming.val total budget rotation) (short : r.Short)
    (budget_nonneg : 0 ≤ budget) : rotation.reward.Short := by
  have incoming_short : ((incoming.val : Int)).natAbs < Integer.writingBound :=
    Nat.lt_of_le_of_lt incoming.le_max Integer.maxAmount_lt_writingBound
  cases turns with
  | same current bounded =>
      exact ⟨short.confirmed, natAbs_add_lt short.pending (Int.natCast_nonneg _) bounded⟩
  | idle later nothing => exact ⟨short.confirmed, incoming_short⟩
  | closing later something total_pos bounded =>
      exact ⟨natAbs_add_lt short.confirmed (award_nonneg budget_nonneg _ _) bounded, incoming_short⟩

/-- Only a rotation that closes an era depends on a total. -/
theorem Turns.total_congr {r : Reward} {era incoming total other budget : Int} {rotation : Rotation}
    (turns : r.Turns era incoming total budget rotation)
    (same_total : r.lastEra < era → 0 < r.pending → total = other) :
    r.Turns era incoming other budget rotation := by
  cases turns with
  | same current bounded => exact .same current bounded
  | idle later nothing => exact .idle later nothing
  | closing later something total_pos bounded =>
      obtain rfl := same_total later something
      exact .closing later something total_pos bounded

theorem turns_of_rotate {r next : Reward} {era incoming total budget awarded : Int}
    (rotated : r.rotate era incoming total budget = .ok (next, awarded))
    (total_le : ¬(era ≠ r.lastEra ∧ 0 < r.pending) → total ≤ 0) :
    r.Turns era incoming total budget
      ⟨awarded, decide (era ≠ r.lastEra ∧ 0 < r.pending), next⟩ := by
  rw [rotate] at rotated
  split at rotated
  · rename_i current
    obtain ⟨pending, summed, rotated⟩ := ok_of_bind rotated
    obtain ⟨bounded, rfl⟩ := Amount.checkedSum_eq_ok_iff.1 summed
    cases rotated
    have turns : r.Turns era incoming total budget
        ⟨0, false, { r with pending := r.pending + incoming }⟩ := .same current bounded
    simpa [current] using turns
  · rename_i moved
    split at rotated
    · cases rotated
    · rename_i not_earlier
      have later : r.lastEra < era := lt_of_le_of_ne (not_lt.1 not_earlier) (Ne.symm moved)
      split at rotated
      · rename_i nothing
        cases rotated
        have turns : r.Turns era incoming total budget
            ⟨0, false, { r with pending := incoming, lastEra := era }⟩ := .idle later nothing
        simpa [nothing] using turns
      · rename_i something
        split at rotated
        · cases rotated
        · rename_i total_pos
          obtain ⟨confirmed, summed, rotated⟩ := ok_of_bind rotated
          obtain ⟨bounded, rfl⟩ := Amount.checkedSum_eq_ok_iff.1 summed
          cases rotated
          have closing : era ≠ r.lastEra ∧ 0 < r.pending := by
            by_contra open_
            exact total_pos (total_le open_)
          rw [decide_eq_true closing]
          exact .closing later closing.2 (not_le.1 total_pos) bounded

end Reward

/-! ## Tables that are read back -/

namespace Tables

variable {t : Tables}

theorem record_setRecord_of_short {r : Reward} (short : r.Short) (account : String) :
    (t.setRecord account r).record account = r := by
  simp [record, setRecord, RewardRow.reward, RewardRow.ofReward,
    cellValue_write_of_short short.confirmed, cellValue_write_of_short short.pending]

theorem total_setTotal_of_short {n : Int} (short : n.natAbs < Integer.writingBound) (era : Int) :
    (t.setTotal era n).total era = n := by
  simp [total, setTotal, cellValue_write_of_short short]

theorem total_setTotal_of_ne {era other : Int} (distinct : other ≠ era) (n : Int) :
    (t.setTotal era n).total other = t.total other := by
  simp [total, setTotal, distinct]

theorem balance_setBalance_of_short {n : Int} (short : n.natAbs < Integer.writingBound)
    (token : Int) (account : String) : (t.setBalance token account n).balance token account = n := by
  simp [balance, setBalance, cellValue_write_of_short short]

theorem settle_setRecord (account : String) (first r : Reward) :
    (t.setRecord account first).settle account r = t.settle account r := by
  rw [settle, settle]
  split
  · exact setRecord_setRecord account first _
  · exact dropRecord_setRecord account first

end Tables

variable {t after : Tables}

namespace Volumes

variable {era total : Int}

theorem totalOf_eq_ok (answered : (totalOf era).run.run t = (.ok total, after)) :
    total = t.total era ∧ total.natAbs < Integer.writingBound ∧ after = t := by
  obtain ⟨column, between, bound, looked_up⟩ := ok_of_run_bind answered
  obtain ⟨column_eq, rfl⟩ := ok_of_run_lift bound
  obtain rfl := bindColumn_eq_ok column_eq
  rw [run_bind, run_get] at looked_up
  dsimp only at looked_up
  cases found : between.totals.get? column with
  | none =>
      rw [found] at looked_up
      cases looked_up
      exact ⟨by simp [Tables.total, found, cellValue], Reward.short_zero.pending, rfl⟩
  | some cell =>
      rw [found] at looked_up
      obtain ⟨read, rfl⟩ := ok_of_run_lift looked_up
      obtain ⟨value, short⟩ := cellValue_of_readCell read
      exact ⟨by rw [Tables.total, found, value], short, rfl⟩

theorem setCell_eq_ok {cell : String} {result : Unit}
    (stored : (setCell era cell).run.run t = (.ok result, after)) :
    after = { t with totals := t.totals.insert era cell } := by
  obtain ⟨column, between, bound, written⟩ := ok_of_run_bind stored
  obtain ⟨column_eq, rfl⟩ := ok_of_run_lift bound
  obtain rfl := bindColumn_eq_ok column_eq
  cases written
  rfl

theorem accumulate_eq_ok {delta : Amount}
    (added : (accumulate era delta).run.run t = (.ok total, after)) :
    t.total era + delta.val ≤ maxAmount ∧ total = t.total era + delta.val ∧
      total.natAbs < Integer.writingBound ∧ after = t.setTotal era total := by
  obtain ⟨found, between, looked_up, rest⟩ := ok_of_run_bind added
  obtain ⟨rfl, short, rfl⟩ := totalOf_eq_ok looked_up
  obtain ⟨sum, last, summed, writing⟩ := ok_of_run_bind rest
  obtain ⟨sum_eq, rfl⟩ := ok_of_run_liftLedger summed
  obtain ⟨bounded, rfl⟩ := Amount.checkedSum_eq_ok_iff.1 sum_eq
  obtain ⟨result, stored, setting, returned⟩ := ok_of_run_bind writing
  obtain rfl := setCell_eq_ok setting
  cases returned
  exact ⟨bounded, rfl, natAbs_add_lt short (Int.natCast_nonneg _) bounded, rfl⟩

end Volumes

namespace Records

variable {account : String}

theorem find_eq_ok {r : Reward} (answered : (find account).run.run t = (.ok r, after)) :
    r = t.record account ∧ r.Short ∧ after = t := by
  rw [find, run_bind, run_get] at answered
  dsimp only at answered
  cases found : t.rewards.get? account with
  | none =>
      rw [found] at answered
      cases answered
      exact ⟨by simp [Tables.record, found], Reward.short_zero, rfl⟩
  | some row =>
      rw [found] at answered
      obtain ⟨row_read, rfl⟩ := ok_of_run_lift answered
      obtain ⟨confirmed, confirmed_read, rest⟩ := ok_of_bind row_read
      obtain ⟨pending, pending_read, record_eq⟩ := ok_of_bind rest
      cases record_eq
      obtain ⟨confirmed_eq, confirmed_short⟩ := cellValue_of_readCell confirmed_read
      obtain ⟨pending_eq, pending_short⟩ := cellValue_of_readCell pending_read
      refine ⟨?_, ⟨confirmed_short, pending_short⟩, rfl⟩
      simp [Tables.record, found, RewardRow.reward, confirmed_eq, pending_eq]

theorem put_eq_ok {r : Reward} {result : Unit}
    (stored : (put account r).run.run t = (.ok result, after)) : after = t.setRecord account r := by
  obtain ⟨column, between, bound, written⟩ := ok_of_run_bind stored
  obtain ⟨column_eq, rfl⟩ := ok_of_run_lift bound
  obtain rfl := bindColumn_eq_ok column_eq
  cases written
  rfl

/-- A preview that succeeds turns the record that it finds, with the total of the era that the record
leaves. -/
theorem preview_eq_ok {budget era : Int} {incoming : Amount} {rotation : Rotation}
    (previewed : (preview budget account era incoming).run.run t = (.ok rotation, after)) :
    (t.record account).Turns era incoming.val (t.total (t.record account).lastEra) budget rotation ∧
      (t.record account).Short ∧ after = t := by
  obtain ⟨r, between, looked_up, rest⟩ := ok_of_run_bind previewed
  obtain ⟨rfl, short, rfl⟩ := find_eq_ok looked_up
  obtain ⟨total, last, totalled, turning⟩ := ok_of_run_bind rest
  obtain ⟨⟨next, awarded⟩, _, rotated, returned⟩ := ok_of_run_bind turning
  obtain ⟨rotate_eq, rfl⟩ := ok_of_run_liftLedger rotated
  cases returned
  by_cases closing : era ≠ (between.record account).lastEra ∧ 0 < (between.record account).pending
  · rw [closedTotal, if_pos (decide_eq_true closing)] at totalled
    obtain ⟨rfl, -, rfl⟩ := Volumes.totalOf_eq_ok totalled
    exact ⟨Reward.turns_of_rotate rotate_eq fun open_ => absurd closing open_, short, rfl⟩
  · rw [closedTotal, if_neg (by simpa using closing)] at totalled
    cases totalled
    have turns := Reward.turns_of_rotate rotate_eq fun _ => le_rfl
    exact ⟨turns.total_congr fun later something => absurd ⟨later.ne', something⟩ closing, short, rfl⟩

theorem rotate_eq_ok {budget era : Int} {incoming : Amount} {rotation : Rotation}
    (rotated : (rotate budget account era incoming).run.run t = (.ok rotation, after)) :
    (t.record account).Turns era incoming.val (t.total (t.record account).lastEra) budget rotation ∧
      (t.record account).Short ∧ after = t.setRecord account rotation.reward := by
  obtain ⟨turned, between, previewed, storing⟩ := ok_of_run_bind rotated
  obtain ⟨turns, short, rfl⟩ := preview_eq_ok previewed
  obtain ⟨result, last, stored, returned⟩ := ok_of_run_bind storing
  obtain rfl := put_eq_ok stored
  cases returned
  exact ⟨turns, short, rfl⟩

theorem take_eq_ok {amount : Int} (taken : (take account).run.run t = (.ok amount, after)) :
    amount = (t.record account).confirmed ∧ after = t.settle account (t.record account) := by
  obtain ⟨present, between, looked_up, rest⟩ := ok_of_run_bind taken
  cases looked_up
  split at rest
  · obtain ⟨r, last, found, settling⟩ := ok_of_run_bind rest
    obtain ⟨rfl, -, rfl⟩ := find_eq_ok found
    rw [Tables.settle]
    split at settling
    · rename_i something
      obtain ⟨result, settled, stored, returned⟩ := ok_of_run_bind settling
      obtain rfl := put_eq_ok stored
      cases returned
      exact ⟨rfl, (if_pos something).symm⟩
    · rename_i nothing
      obtain ⟨result, settled, dropped, returned⟩ := ok_of_run_bind settling
      cases dropped
      cases returned
      exact ⟨rfl, (if_neg nothing).symm⟩
  · cases rest

end Records

namespace Balances

variable {token amount : Int} {account : String} {balances : Balances}

theorem balanceOf_eq_ok {balance : Int} (answered : balanceOf token account balances = .ok balance) :
    balance = cellValue (balances.get? ⟨token, account⟩) ∧
      balance.natAbs < Integer.writingBound := by
  obtain ⟨column, column_eq, looked_up⟩ := ok_of_bind answered
  obtain rfl := bindColumn_eq_ok column_eq
  rw [Account.column, ok_bind] at looked_up
  cases found : balances.get? ⟨column, account⟩ with
  | none =>
      rw [found] at looked_up
      cases looked_up
      exact ⟨by simp [cellValue], Reward.short_zero.pending⟩
  | some cell =>
      rw [found] at looked_up
      obtain ⟨value, short⟩ := cellValue_of_readCell looked_up
      exact ⟨value.symm, short⟩

theorem credit_eq_ok {result : Unit} {after : Balances}
    (credited : (credit token account amount).run.run balances = (.ok result, after)) :
    0 ≤ amount ∧
      (cellValue (balances.get? ⟨token, account⟩) + amount).natAbs < Integer.writingBound ∧
      after = balances.insert ⟨token, account⟩
        (Integer.write (cellValue (balances.get? ⟨token, account⟩) + amount)) := by
  obtain ⟨gain, between, measured, rest⟩ := ok_of_run_bind credited
  obtain ⟨measure_eq, rfl⟩ := ok_of_run_liftLedger measured
  obtain rfl := Amount.eq_of_ofArgument measure_eq
  rw [run_bind, run_get] at rest
  obtain ⟨balance, found, looked_up, adding⟩ := ok_of_run_bind rest
  obtain ⟨answered, rfl⟩ := ok_of_run_lift looked_up
  obtain ⟨rfl, short⟩ := balanceOf_eq_ok answered
  obtain ⟨sum, last, summed, stored⟩ := ok_of_run_bind adding
  obtain ⟨sum_eq, rfl⟩ := ok_of_run_liftLedger summed
  obtain ⟨bounded, rfl⟩ := Amount.checkedSum_eq_ok_iff.1 sum_eq
  cases stored
  exact ⟨Int.natCast_nonneg _, natAbs_add_lt short (Int.natCast_nonneg _) bounded, rfl⟩

end Balances

namespace Service

variable {s : Service} {account : String} {era amount : Int} {rotation : Rotation}

/-- A report that has been booked has turned the record with the total of the era that it left, as
that total was before the report. -/
theorem book_eq_ok {volume : Amount} {total : Int}
    (booked : (s.book account volume era).run.run t = (.ok (total, rotation), after)) :
    total = t.total era + volume.val ∧ total.natAbs < Integer.writingBound ∧
      (t.record account).Turns era volume.val (t.total (t.record account).lastEra)
        s.parameters.budget.val rotation ∧
      rotation.reward.Short ∧
      after = (t.setTotal era total).setRecord account rotation.reward := by
  rw [book_named] at booked
  obtain ⟨sum, between, added, rest⟩ := ok_of_run_bind booked
  obtain ⟨-, rfl, sum_short, rfl⟩ := Volumes.accumulate_eq_ok added
  obtain ⟨turned, last, rotated, returned⟩ := ok_of_run_bind rest
  obtain ⟨turns, short, rfl⟩ := Records.rotate_eq_ok rotated
  cases returned
  rw [Tables.record_setTotal] at turns short
  have kept := turns.total_congr fun later _ => Tables.total_setTotal_of_ne later.ne _
  exact ⟨rfl, sum_short, kept, kept.short short (Int.natCast_nonneg _), rfl⟩

theorem credit_eq_ok (bundled : s.balances = .bundled) {result : Unit}
    (credited : (s.credit account amount).run.run t = (.ok result, after)) :
    0 ≤ amount ∧
      (t.balance s.parameters.token account + amount).natAbs < Integer.writingBound ∧
      after = t.setBalance s.parameters.token account
        (t.balance s.parameters.token account + amount) := by
  rw [credit_run, bundled] at credited
  obtain ⟨outcome_eq, rfl⟩ := Prod.mk.inj credited
  obtain ⟨nonneg, short, balances_eq⟩ :=
    Balances.credit_eq_ok (Prod.ext (ok_of_mapError outcome_eq) rfl)
  refine ⟨nonneg, short, ?_⟩
  rw [Tables.setBalance]
  exact congrArg (fun balances => { t with balances }) balances_eq

/-- A pay-out that succeeds has turned the record, and has settled what it confirms unless that is
nothing. -/
theorem payOut_eq_ok (paid : (s.payOut account era).run.run t = (.ok (amount, rotation), after)) :
    (t.record account).Turns era 0 (t.total (t.record account).lastEra) s.parameters.budget.val
        rotation ∧
      amount = rotation.reward.confirmed ∧
      (amount = 0 ∧ after = t ∨
        amount ≠ 0 ∧
          (s.credit account amount).run.run (t.settle account rotation.reward) =
            (.ok (), after)) := by
  rw [payOut_named] at paid
  obtain ⟨turned, between, previewed, rest⟩ := ok_of_run_bind paid
  obtain ⟨turns, short, rfl⟩ := Records.preview_eq_ok previewed
  split at rest
  · rename_i nothing
    cases rest
    exact ⟨turns, nothing.symm, .inl ⟨rfl, rfl⟩⟩
  · rename_i something
    obtain ⟨result, stored, storing, taking⟩ := ok_of_run_bind rest
    obtain rfl := Records.put_eq_ok storing
    obtain ⟨found, settled, taken, crediting⟩ := ok_of_run_bind taking
    obtain ⟨rfl, rfl⟩ := Records.take_eq_ok taken
    obtain ⟨⟨⟩, last, credited, returned⟩ := ok_of_run_bind crediting
    cases returned
    rw [Tables.record_setRecord_of_short (turns.short short (Int.natCast_nonneg _)),
      Tables.settle_setRecord] at credited
    rw [Tables.record_setRecord_of_short (turns.short short (Int.natCast_nonneg _))]
    exact ⟨turns, rfl, .inr ⟨something, credited⟩⟩

end Service
end EraRewards
