import EraRewards.Proofs.Contents
import EraRewards.Proofs.Effect
import EraRewards.Proofs.Rotation
import EraRewards.Service

/-!
# Transactions on sound tables

On sound tables every look-up of a transaction succeeds, so a transaction fails only where a checked
sum, a rotation or the balance store does.  Each equation here says what a transaction answers and
which tables it leaves, also where it fails half-way.
-/

namespace EraRewards

open Effect

variable {t : Tables}

theorem Reward.Turns.storable {r : Reward} {era incoming total budget : Int} {rotation : Rotation}
    (turn : r.Turns era incoming total budget rotation) (storable : r.Storable)
    (incoming_nonneg : 0 ≤ incoming) (incoming_le : incoming ≤ maxAmount) (era_nonneg : 0 ≤ era)
    (era_le : era ≤ maxTick) (budget_nonneg : 0 ≤ budget) : rotation.reward.Storable := by
  cases turn with
  | same current bounded =>
      exact { storable with
        pending_nonneg := add_nonneg storable.pending_nonneg incoming_nonneg
        pending_le := bounded }
  | idle later nothing =>
      exact { storable with
        pending_nonneg := incoming_nonneg
        pending_le := incoming_le
        lastEra_nonneg := era_nonneg
        lastEra_le := era_le }
  | closing later something total_pos bounded =>
      exact
        { confirmed_nonneg :=
            add_nonneg storable.confirmed_nonneg (award_nonneg budget_nonneg _ _)
          confirmed_le := bounded
          pending_nonneg := incoming_nonneg
          pending_le := incoming_le
          lastEra_nonneg := era_nonneg
          lastEra_le := era_le }

/-- Rotation of the record of an account as the tables have it. -/
def Tables.rotation (t : Tables) (budget : Int) (account : String) (era incoming : Int) :
    Except LedgerError Rotation :=
  (t.record account).rotation era incoming (t.total (t.record account).lastEra) budget

/-- A report counts towards its era before its account's record turns, which does not matter. -/
theorem Tables.rotation_setTotal (sound : t.Sound) {total : Int} (nonneg : 0 ≤ total)
    (le_max : total ≤ maxAmount) (budget : Int) (account : String) (era incoming : Int) :
    (t.setTotal era total).rotation budget account era incoming =
      t.rotation budget account era incoming := by
  rw [rotation, rotation, record_setTotal, total_setTotal nonneg le_max]
  by_cases current : (t.record account).lastEra = era
  · refine Reward.rotation_of_not_closing (sound.storable account).pending_nonneg ?_ _ _ _ _
    simp [current]
  · rw [if_neg current]

namespace Volumes

theorem totalOf_run (sound : t.Sound) {era : Int} (nonneg : 0 ≤ era) (le_max : era ≤ maxTick) :
    (totalOf era).run.run t = (.ok (t.total era), t) := by
  simp only [totalOf, run_bind, run_lift, run_get, bindColumn_of_tick nonneg le_max, Tables.total]
  cases found : t.totals.get? era with
  | none => rfl
  | some cell =>
      obtain ⟨amount, rfl⟩ := sound.totals era cell found
      have amount_le : (amount.val : Int) ≤ maxAmount := Int.ofNat_le.2 amount.le_max
      simp only [run_lift, readCell_write (Int.natCast_nonneg _) amount_le,
        cellValue_write (Int.natCast_nonneg _) amount_le]

theorem accumulate_run (sound : t.Sound) {era : Int} (nonneg : 0 ≤ era) (le_max : era ≤ maxTick)
    (delta : Amount) :
    (accumulate era delta).run.run t =
      match Amount.checkedSum "era_volume" (t.total era) delta.val with
      | .ok total => (.ok total, t.setTotal era total)
      | .error error => (.error (.ledger error), t) := by
  simp only [accumulate, run_bind, totalOf_run sound nonneg le_max, run_liftLedger]
  cases Amount.checkedSum "era_volume" (t.total era) delta.val with
  | error error => rfl
  | ok total =>
      simp only [Except.mapError, setCell, run_bind, run_lift, run_modify, run_pure,
        bindColumn_of_tick nonneg le_max]
      rfl

end Volumes

namespace Records

theorem find_run_of_row {account : String} {r : Reward} (storable : r.Storable)
    (found : t.rewards.get? account = some (.ofReward r)) :
    (find account).run.run t = (.ok r, t) := by
  simp only [find, run_bind, run_get, found, run_lift, ofRow, RewardRow.ofReward,
    readCell_write storable.confirmed_nonneg storable.confirmed_le,
    readCell_write storable.pending_nonneg storable.pending_le]
  rfl

theorem find_run_of_absent {account : String} (absent : t.rewards.get? account = none) :
    (find account).run.run t = (.ok {}, t) := by
  rw [find, run_bind, run_get]
  dsimp only
  rw [absent, run_pure]

theorem find_run (sound : t.Sound) (account : String) :
    (find account).run.run t = (.ok (t.record account), t) := by
  cases found : t.rewards.get? account with
  | none => simp only [find, run_bind, run_get, run_pure, Tables.record, found] ; rfl
  | some row =>
      obtain ⟨r, storable, -, rfl⟩ := sound.rewards account row found
      rw [find_run_of_row storable found, Tables.record, found]
      simp [RewardRow.reward_ofReward storable]

theorem put_run {r : Reward} (storable : r.Storable) (account : String) :
    (put account r).run.run t = (.ok (), t.setRecord account r) := by
  simp only [put, putRow, run_bind, run_lift, run_modify,
    bindColumn_of_tick storable.lastEra_nonneg storable.lastEra_le]
  rfl

theorem drop_run (account : String) :
    (drop account).run.run t = (.ok (), t.dropRecord account) := rfl

/-- The total that a preview looks up is the one that its rotation needs. -/
theorem closedTotal_run (sound : t.Sound) (budget : Int) (account : String) (era incoming : Int) :
    ∃ total,
      (closedTotal (era ≠ (t.record account).lastEra ∧ 0 < (t.record account).pending)
        (t.record account)).run.run t = (.ok total, t) ∧
      t.rotation budget account era incoming =
        (t.record account).rotation era incoming total budget := by
  have storable := sound.storable account
  by_cases closing : era ≠ (t.record account).lastEra ∧ 0 < (t.record account).pending
  · refine ⟨t.total (t.record account).lastEra, ?_, rfl⟩
    rw [closedTotal, if_pos (decide_eq_true closing)]
    exact Volumes.totalOf_run sound storable.lastEra_nonneg storable.lastEra_le
  · refine ⟨0, ?_, Reward.rotation_of_not_closing storable.pending_nonneg closing _ _ _ _⟩
    rw [closedTotal, if_neg (by simpa using closing), run_pure]

/-- A preview turns the record that it finds, with the total that it looks up. -/
theorem preview_run_of_found {account : String} {r : Reward}
    (found : (find account).run.run t = (.ok r, t)) {era total : Int}
    (totalled : (closedTotal (era ≠ r.lastEra ∧ 0 < r.pending) r).run.run t = (.ok total, t))
    (budget : Int) (incoming : Amount) :
    (preview budget account era incoming).run.run t =
      ((r.rotation era incoming.val total budget).mapError .ledger, t) := by
  rw [preview, run_bind, found]
  dsimp only
  rw [run_bind, totalled]
  dsimp only
  rw [run_bind, run_liftLedger, Reward.rotation]
  cases r.rotate era incoming.val total budget <;> rfl

theorem preview_run (sound : t.Sound) (budget : Int) (account : String) (era : Int)
    (incoming : Amount) :
    (preview budget account era incoming).run.run t =
      ((t.rotation budget account era incoming.val).mapError .ledger, t) := by
  obtain ⟨total, total_run, rotation_eq⟩ :=
    closedTotal_run sound budget account era incoming.val
  rw [rotation_eq]
  exact preview_run_of_found (find_run sound account) total_run budget incoming

/-- A preview that closes no era looks up no total. -/
theorem preview_run_of_open {account : String} {r : Reward}
    (found : (find account).run.run t = (.ok r, t)) {era : Int}
    (open_ : ¬(era ≠ r.lastEra ∧ 0 < r.pending)) (budget : Int) (incoming : Amount) :
    (preview budget account era incoming).run.run t =
      ((r.rotation era incoming.val 0 budget).mapError .ledger, t) := by
  have totalled : (closedTotal (era ≠ r.lastEra ∧ 0 < r.pending) r).run.run t = (.ok 0, t) := by
    rw [closedTotal, if_neg (by simpa using open_), run_pure]
  exact preview_run_of_found found totalled budget incoming

theorem turns_of_rotation (sound : t.Sound) {budget : Int} {account : String} {era incoming : Int}
    {rotation : Rotation} (rotated : t.rotation budget account era incoming = .ok rotation) :
    (t.record account).Turns era incoming (t.total (t.record account).lastEra) budget rotation :=
  (Reward.rotation_eq_ok_iff (sound.storable account).pending_nonneg).1 rotated

theorem rotate_run (sound : t.Sound) (budget : Amount) (account : String) {era : Int}
    (nonneg : 0 ≤ era) (le_max : era ≤ maxTick) (incoming : Amount) :
    (rotate budget.val account era incoming).run.run t =
      match t.rotation budget.val account era incoming.val with
      | .ok rotation => (.ok rotation, t.setRecord account rotation.reward)
      | .error error => (.error (.ledger error), t) := by
  rw [rotate, run_bind, preview_run sound]
  cases rotated : t.rotation budget.val account era incoming.val with
  | error error => rfl
  | ok rotation =>
      have storable := (turns_of_rotation sound rotated).storable (sound.storable account)
        (Int.natCast_nonneg _) (Int.ofNat_le.2 incoming.le_max) nonneg le_max
        (Int.natCast_nonneg _)
      simp only [Except.mapError, run_bind, put_run storable, run_pure]

theorem take_run {r : Reward} (storable : r.Storable) (account : String) :
    (take account).run.run (t.setRecord account r) = (.ok r.confirmed, t.settle account r) := by
  have found : (t.setRecord account r).rewards.get? account = some (.ofReward r) := by
    simp [Tables.setRecord]
  simp only [take, contains, run_bind, run_get, run_pure, Table.contains, found, Option.isSome_some,
    if_true, find_run_of_row storable found, Tables.settle]
  by_cases something : 0 < r.pending
  · rw [if_pos something, if_pos something, run_bind, put_run storable.taken]
    simp only [run_pure, Tables.setRecord_setRecord]
  · rw [if_neg something, if_neg something, run_bind, drop_run]
    simp only [run_pure, Tables.dropRecord_setRecord]

end Records

namespace Service

variable (s : Service)

theorem book_named (name : String) (volume : Amount) (era : Int) :
    s.book name volume era = do
      let total ← Volumes.accumulate era volume
      let rotation ← Records.rotate s.parameters.budget.val name era volume
      return (total, rotation) := rfl

theorem payOut_named (name : String) (era : Int) :
    s.payOut name era = do
      let rotation ← Records.preview s.parameters.budget.val name era .zero
      if rotation.confirmed = 0 then return (0, rotation)
      Records.put name rotation.reward
      let amount ← Records.take name
      s.credit name amount
      return (amount, rotation) := rfl

theorem book_broken (letters : List Letter) (volume : Amount) (era : Int) :
    s.book (.broken letters) volume era =
      Volumes.accumulate era volume >>= fun _ => throw .unencodable := rfl

theorem payOut_broken (letters : List Letter) (era : Int) :
    s.payOut (.broken letters) era = throw .unencodable := rfl

/-- Volume can be booked only for an account that can be stored. -/
theorem exists_named_of_book {account : Account} {volume : Amount} {era : Int}
    {booked : Int × Rotation} {after : Tables}
    (succeeded : (s.book account volume era).run.run t = (.ok booked, after)) :
    ∃ name : String, account = name := by
  cases account with
  | named name => exact ⟨name, rfl⟩
  | broken letters =>
      rw [book_broken] at succeeded
      obtain ⟨total, between, -, thrown⟩ := ok_of_run_bind succeeded
      cases thrown

/-- Only an account that can be stored is paid. -/
theorem exists_named_of_payOut {account : Account} {era : Int} {paid : Int × Rotation}
    {after : Tables} (succeeded : (s.payOut account era).run.run t = (.ok paid, after)) :
    ∃ name : String, account = name := by
  cases account with
  | named name => exact ⟨name, rfl⟩
  | broken letters =>
      rw [payOut_broken] at succeeded
      cases succeeded

/-- The pay-out to an account that no column takes fails, if not for another writer. -/
theorem write_payOut_broken (letters : List Letter) (era : Int) (db : Database) :
    (db.write (s.payOut (.broken letters) era)).1 =
      .error (db.contention.refusal?.getD .unencodable) := by
  rw [payOut_broken, Database.write]
  cases db.contention <;> rfl

/-- Booking volume fails at the total of the era, with nothing written, or at the rotation, with the
total written; otherwise it leaves the total and the turned record. -/
theorem book_run (sound : t.Sound) (account : String) (volume : Amount) {era : Int}
    (nonneg : 0 ≤ era) (le_max : era ≤ maxTick) :
    (s.book account volume era).run.run t =
      match Amount.checkedSum "era_volume" (t.total era) volume.val with
      | .error error => (.error (.ledger error), t)
      | .ok total =>
        match t.rotation s.parameters.budget.val account era volume.val with
        | .error error => (.error (.ledger error), t.setTotal era total)
        | .ok rotation =>
          (.ok (total, rotation), (t.setTotal era total).setRecord account rotation.reward) := by
  rw [book_named, run_bind, Volumes.accumulate_run sound nonneg le_max]
  cases summed : Amount.checkedSum "era_volume" (t.total era) volume.val with
  | error error => rfl
  | ok total =>
      obtain ⟨bounded, rfl⟩ := Amount.checkedSum_eq_ok_iff.1 summed
      have total_nonneg : 0 ≤ t.total era + volume.val :=
        add_nonneg (sound.total_nonneg era) (Int.natCast_nonneg _)
      have summed_sound := sound.setTotal total_nonneg bounded era
      dsimp only
      rw [run_bind, Records.rotate_run summed_sound _ _ nonneg le_max,
        Tables.rotation_setTotal sound total_nonneg bounded]
      cases t.rotation s.parameters.budget.val account era volume.val <;> rfl

/-- Booking volume for an account that no column takes fails at the total of the era, with nothing
written, or else with the total written. -/
theorem book_broken_run (sound : t.Sound) (letters : List Letter) (volume : Amount) {era : Int}
    (nonneg : 0 ≤ era) (le_max : era ≤ maxTick) :
    (s.book (.broken letters) volume era).run.run t =
      match Amount.checkedSum "era_volume" (t.total era) volume.val with
      | .error error => (.error (.ledger error), t)
      | .ok total => (.error .unencodable, t.setTotal era total) := by
  rw [book_broken, run_bind, Volumes.accumulate_run sound nonneg le_max]
  cases Amount.checkedSum "era_volume" (t.total era) volume.val <;> rfl

/-- Booking volume succeeds if neither the sum nor the rotation fails. -/
theorem book_eq_ok_iff (sound : t.Sound) (account : String) (volume : Amount) {era : Int}
    (nonneg : 0 ≤ era) (le_max : era ≤ maxTick) {booked : Int × Rotation} {after : Tables} :
    (s.book account volume era).run.run t = (.ok booked, after) ↔
      t.total era + volume.val ≤ maxAmount ∧
        t.rotation s.parameters.budget.val account era volume.val = .ok booked.2 ∧
        booked.1 = t.total era + volume.val ∧
        after =
          (t.setTotal era (t.total era + volume.val)).setRecord account booked.2.reward := by
  obtain ⟨total, rotation⟩ := booked
  rw [book_run s sound account volume nonneg le_max]
  constructor
  · intro run_eq
    split at run_eq
    · cases run_eq
    · rename_i summed
      obtain ⟨bounded, rfl⟩ := Amount.checkedSum_eq_ok_iff.1 summed
      split at run_eq
      · cases run_eq
      · rename_i rotated
        cases run_eq
        exact ⟨bounded, rotated, rfl, rfl⟩
  · rintro ⟨bounded, rotated, rfl, rfl⟩
    rw [Amount.checkedSum_eq_ok_iff.2 ⟨bounded, rfl⟩, rotated]

theorem credit_run (account : String) (amount : Int) (t : Tables) :
    (s.credit account amount).run.run t =
      ((((s.balances.credit s.parameters.token account amount).run.run t.balances).1).mapError
          (creditFailure account amount),
        { t with
          balances :=
            ((s.balances.credit s.parameters.token account amount).run.run t.balances).2 }) := by
  rw [credit, run_adapt]
  rfl

/-- A claim turns the record, takes the confirmed reward out of it and has it credited, unless the
rotation fails or confirms nothing; then nothing is written. -/
theorem payOut_run (sound : t.Sound) (account : String) {era : Int} (nonneg : 0 ≤ era)
    (le_max : era ≤ maxTick) :
    (s.payOut account era).run.run t =
      match t.rotation s.parameters.budget.val account era 0 with
      | .error error => (.error (.ledger error), t)
      | .ok rotation =>
        if rotation.confirmed = 0 then (.ok (0, rotation), t)
        else
          match (s.credit account rotation.confirmed).run.run (t.settle account rotation.reward) with
          | (.error failure, after) => (.error failure, after)
          | (.ok (), after) => (.ok (rotation.confirmed, rotation), after) := by
  rw [payOut_named, run_bind, Records.preview_run sound]
  have zero_val : ((Amount.zero.val : Nat) : Int) = 0 := rfl
  rw [zero_val]
  cases rotated : t.rotation s.parameters.budget.val account era 0 with
  | error error => rfl
  | ok rotation =>
      have storable := (Records.turns_of_rotation sound rotated).storable (sound.storable account)
        le_rfl (Int.natCast_nonneg _) nonneg le_max (Int.natCast_nonneg _)
      simp only [Except.mapError]
      by_cases nothing : rotation.confirmed = 0
      · rw [if_pos nothing, if_pos nothing, run_pure]
      · rw [if_neg nothing, if_neg nothing, run_bind, Records.put_run storable]
        dsimp only
        rw [run_bind, Records.take_run storable]
        dsimp only
        rw [run_bind, Rotation.confirmed]
        rcases (s.credit account rotation.reward.confirmed).run.run
          (t.settle account rotation.reward) with ⟨_ | _, _⟩ <;> rfl

/-- A pay-out succeeds if the rotation does, and if what it confirms can be credited. -/
theorem payOut_eq_ok_iff (sound : t.Sound) (account : String) {era : Int} (nonneg : 0 ≤ era)
    (le_max : era ≤ maxTick) {amount : Int} {rotation : Rotation} {after : Tables} :
    (s.payOut account era).run.run t = (.ok (amount, rotation), after) ↔
      t.rotation s.parameters.budget.val account era 0 = .ok rotation ∧
        amount = rotation.confirmed ∧
        (rotation.confirmed = 0 ∧ after = t ∨
          rotation.confirmed ≠ 0 ∧ (s.credit account rotation.confirmed).run.run
            (t.settle account rotation.reward) = (.ok (), after)) := by
  rw [payOut_run s sound account nonneg le_max]
  constructor
  · intro run_eq
    split at run_eq
    · cases run_eq
    · rename_i rotated
      split at run_eq
      · rename_i nothing
        cases run_eq
        exact ⟨rotated, nothing.symm, .inl ⟨nothing, rfl⟩⟩
      · rename_i something
        split at run_eq
        · cases run_eq
        · rename_i credited
          cases run_eq
          exact ⟨rotated, rfl, .inr ⟨something, credited⟩⟩
  · rintro ⟨rotated, rfl, ⟨nothing, rfl⟩ | ⟨something, credited⟩⟩
    · rw [rotated]
      dsimp only
      rw [if_pos nothing, nothing]
    · rw [rotated]
      dsimp only
      rw [if_neg something, credited]

end Service
end EraRewards
