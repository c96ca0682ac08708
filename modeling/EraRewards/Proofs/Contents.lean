import EraRewards.Balance
import EraRewards.Era
import EraRewards.Proofs.Numeral
import EraRewards.Proofs.Rotation
import EraRewards.Proofs.TableSum

/-!
# What the tables hold

Stored tables are looked at as a record for every account, a total for every era and a balance for
every token and account.  Tables are sound when every cell is the decimal text of an amount and every
stored record has pending volume; then each look-up answers what was last stored.
-/

namespace EraRewards

/-- Number in a text cell; zero without a cell. -/
def cellValue (cell : Option String) : Int := (cell.bind Integer.read?).getD 0

theorem cellValue_write {n : Int} (nonneg : 0 ≤ n) (le_max : n ≤ maxAmount) :
    cellValue (some (Integer.write n)) = n := by
  simp [cellValue, Integer.read?_write_of_le nonneg le_max]

theorem readCell_write {n : Int} (nonneg : 0 ≤ n) (le_max : n ≤ maxAmount) :
    readCell (Integer.write n) = .ok n := by
  simp [readCell, Integer.read?_write_of_le nonneg le_max]

theorem bindColumn_of_tick {n : Int} (nonneg : 0 ≤ n) (le_max : n ≤ maxTick) :
    bindColumn n = .ok n := by
  have fits : -maxColumn - 1 ≤ n ∧ n ≤ maxColumn := by
    rw [maxTick] at le_max
    rw [maxColumn]
    omega
  simp [bindColumn, fitsColumn, fits]

namespace Reward

/-- Records that can be stored and read back. -/
structure Storable (r : Reward) : Prop where
  /-- Rewards are not negative. -/
  confirmed_nonneg : 0 ≤ r.confirmed
  /-- The confirmed reward is an amount. -/
  confirmed_le : r.confirmed ≤ maxAmount
  /-- Volumes are not negative. -/
  pending_nonneg : 0 ≤ r.pending
  /-- The pending volume is an amount. -/
  pending_le : r.pending ≤ maxAmount
  /-- Eras are not negative. -/
  lastEra_nonneg : 0 ≤ r.lastEra
  /-- The era fits its column. -/
  lastEra_le : r.lastEra ≤ maxTick

theorem storable_zero : Storable {} := by
  constructor <;> decide

theorem Storable.taken {r : Reward} (storable : r.Storable) :
    Storable { r with confirmed := 0 } where
  confirmed_nonneg := le_refl 0
  confirmed_le := Int.natCast_nonneg _
  pending_nonneg := storable.pending_nonneg
  pending_le := storable.pending_le
  lastEra_nonneg := storable.lastEra_nonneg
  lastEra_le := storable.lastEra_le

/-- The record that is left of another when its confirmed reward has been taken. -/
def settled (r : Reward) : Reward := if 0 < r.pending then { r with confirmed := 0 } else {}

@[simp] theorem settled_confirmed (r : Reward) : r.settled.confirmed = 0 := by
  rw [settled]
  split <;> rfl

theorem settled_pendingIn {r : Reward} (pending_nonneg : 0 ≤ r.pending) (era : Int) :
    r.settled.pendingIn era = r.pendingIn era := by
  rw [settled]
  split
  · rfl
  · have nothing : r.pending = 0 := by omega
    simp [pendingIn, nothing]

theorem pendingIn_nonneg {r : Reward} (pending_nonneg : 0 ≤ r.pending) (era : Int) :
    0 ≤ r.pendingIn era := by
  rw [pendingIn]
  split <;> omega

end Reward

namespace RewardRow

/-- The row of a record. -/
def ofReward (r : Reward) : RewardRow :=
  ⟨Integer.write r.confirmed, Integer.write r.pending, r.lastEra⟩

/-- The record in a row. -/
def reward (row : RewardRow) : Reward :=
  ⟨cellValue (some row.confirmed), cellValue (some row.pending), row.lastEra⟩

theorem reward_ofReward {r : Reward} (storable : r.Storable) : (ofReward r).reward = r := by
  rw [reward, ofReward, cellValue_write storable.confirmed_nonneg storable.confirmed_le,
    cellValue_write storable.pending_nonneg storable.pending_le]

end RewardRow

namespace Tables

variable (t : Tables)

/-- Record of an account; the record of zeros without a row. -/
def record (account : String) : Reward := ((t.rewards.get? account).map RewardRow.reward).getD {}

/-- Total of an era; zero without a row. -/
def total (era : Int) : Int := cellValue (t.totals.get? era)

/-- Balance of an account in a token; zero without a row. -/
def balance (token : Int) (account : String) : Int := cellValue (t.balances.get? ⟨token, account⟩)

/-- Sum of the volumes that the stored records hold pending in an era, records without an account
included. -/
def pendingIn (era : Int) : Int :=
  (t.rewards.sum fun row => row.reward.pendingIn era) +
    (t.nameless.map fun row => row.reward.pendingIn era).sum

/-- Tables with the total of an era replaced. -/
def setTotal (era total : Int) : Tables :=
  { t with totals := t.totals.insert era (Integer.write total) }

/-- Tables with the record of an account replaced. -/
def setRecord (account : String) (r : Reward) : Tables :=
  { t with rewards := t.rewards.insert account (.ofReward r) }

/-- Tables without the record of an account. -/
def dropRecord (account : String) : Tables := { t with rewards := t.rewards.erase account }

/-- Tables after the confirmed reward has been taken from the given record of an account. -/
def settle (account : String) (r : Reward) : Tables :=
  if 0 < r.pending then t.setRecord account { r with confirmed := 0 } else t.dropRecord account

/-- Tables with the balance of an account in a token replaced. -/
def setBalance (token : Int) (account : String) (amount : Int) : Tables :=
  { t with balances := t.balances.insert ⟨token, account⟩ (Integer.write amount) }

variable {t}

@[simp] theorem record_setTotal (era total : Int) (account : String) :
    (t.setTotal era total).record account = t.record account := rfl

@[simp] theorem pendingIn_setTotal (era total other : Int) :
    (t.setTotal era total).pendingIn other = t.pendingIn other := rfl

@[simp] theorem total_setRecord (account : String) (r : Reward) (era : Int) :
    (t.setRecord account r).total era = t.total era := rfl

@[simp] theorem setRecord_setRecord (account : String) (first last : Reward) :
    (t.setRecord account first).setRecord account last = t.setRecord account last := by
  rw [setRecord, setRecord, setRecord, Table.insert_insert]

@[simp] theorem dropRecord_setRecord (account : String) (r : Reward) :
    (t.setRecord account r).dropRecord account = t.dropRecord account := by
  rw [dropRecord, setRecord, dropRecord, Table.erase_insert]

theorem total_settle (account : String) (r : Reward) (era : Int) :
    (t.settle account r).total era = t.total era := by
  rw [settle]
  split <;> rfl

theorem balances_settle (account : String) (r : Reward) :
    (t.settle account r).balances = t.balances := by
  rw [settle]
  split <;> rfl

theorem balance_settle (account : String) (r : Reward) (token : Int) (holder : String) :
    (t.settle account r).balance token holder = t.balance token holder := by
  rw [balance, balances_settle, balance]

theorem total_setTotal {n : Int} (nonneg : 0 ≤ n) (le_max : n ≤ maxAmount) (era other : Int) :
    (t.setTotal era n).total other = if other = era then n else t.total other := by
  simp only [total, setTotal, Table.get?_insert]
  split
  · exact cellValue_write nonneg le_max
  · rfl

theorem record_setRecord {r : Reward} (storable : r.Storable) (account other : String) :
    (t.setRecord account r).record other = if other = account then r else t.record other := by
  simp only [record, setRecord, Table.get?_insert]
  split
  · simp [RewardRow.reward_ofReward storable]
  · rfl

theorem record_dropRecord (account other : String) :
    (t.dropRecord account).record other = if other = account then {} else t.record other := by
  simp only [record, dropRecord, Table.get?_erase]
  split <;> rfl

theorem record_settle {r : Reward} (storable : r.Storable) (account other : String) :
    (t.settle account r).record other =
      if other = account then r.settled else t.record other := by
  rw [settle, Reward.settled]
  split
  · exact record_setRecord storable.taken account other
  · exact record_dropRecord account other

theorem balance_setBalance {n : Int} (nonneg : 0 ≤ n) (le_max : n ≤ maxAmount)
    (token other : Int) (account holder : String) :
    (t.setBalance token account n).balance other holder =
      if other = token ∧ holder = account then n else t.balance other holder := by
  simp only [balance, setBalance, Table.get?_insert, BalanceKey.mk.injEq]
  split
  · exact cellValue_write nonneg le_max
  · rfl

/-- Two tables with the same rows are the same. -/
theorem ext_get? {first second : Tables}
    (rewards : ∀ account, first.rewards.get? account = second.rewards.get? account)
    (nameless : first.nameless = second.nameless)
    (totals : ∀ era, first.totals.get? era = second.totals.get? era)
    (balances : ∀ key, first.balances.get? key = second.balances.get? key)
    (schemaVersion : first.schemaVersion = second.schemaVersion) : first = second := by
  obtain ⟨_, _, _, _, _⟩ := first
  obtain ⟨_, _, _, _, _⟩ := second
  obtain rfl := Table.ext_get? rewards
  obtain rfl := Table.ext_get? totals
  obtain rfl := Table.ext_get? balances
  cases nameless
  cases schemaVersion
  rfl

private theorem share_pendingIn (t : Tables) (account : String) (era : Int) :
    t.rewards.share (fun row => row.reward.pendingIn era) account =
      (t.record account).pendingIn era := by
  rw [Table.share, record]
  cases t.rewards.get? account with
  | none => simp [Reward.pendingIn]
  | some row => rfl

/-- A record that replaces another puts its pending volume in the place of the other's. -/
theorem pendingIn_setRecord {r : Reward} (storable : r.Storable) (account : String) (era : Int) :
    (t.setRecord account r).pendingIn era + (t.record account).pendingIn era =
      t.pendingIn era + r.pendingIn era := by
  have changed := t.rewards.sum_insert_add account (.ofReward r) fun row => row.reward.pendingIn era
  rw [share_pendingIn, RewardRow.reward_ofReward storable] at changed
  simp only [pendingIn, setRecord]
  omega

theorem pendingIn_dropRecord (account : String) (era : Int) :
    (t.dropRecord account).pendingIn era + (t.record account).pendingIn era = t.pendingIn era := by
  have changed := t.rewards.sum_erase_add account fun row => row.reward.pendingIn era
  rw [share_pendingIn] at changed
  simp only [pendingIn, dropRecord]
  omega

theorem pendingIn_settle {r : Reward} (storable : r.Storable) (account : String) (era : Int) :
    (t.settle account r).pendingIn era + (t.record account).pendingIn era =
      t.pendingIn era + r.pendingIn era := by
  rw [settle]
  split
  · exact pendingIn_setRecord storable.taken account era
  · have nothing : r.pending = 0 := le_antisymm (by omega) storable.pending_nonneg
    have changed := t.pendingIn_dropRecord account era
    have unchanged : r.pendingIn era = 0 := by simp [Reward.pendingIn, nothing]
    omega

/-- Records and totals that can be read back. -/
structure Sound (t : Tables) : Prop where
  /-- Every stored record has pending volume. -/
  rewards : ∀ account row, t.rewards.get? account = some row →
    ∃ r : Reward, r.Storable ∧ 0 < r.pending ∧ row = .ofReward r
  /-- Every record has an account. -/
  nameless : t.nameless = []
  /-- Every stored total is an amount. -/
  totals : ∀ era cell, t.totals.get? era = some cell →
    ∃ amount : Amount, cell = Integer.write amount.val

namespace Sound

theorem storable (sound : t.Sound) (account : String) : (t.record account).Storable := by
  rw [record]
  cases found : t.rewards.get? account with
  | none => exact Reward.storable_zero
  | some row =>
      obtain ⟨r, storable, -, rfl⟩ := sound.rewards account row found
      simpa [RewardRow.reward_ofReward storable] using storable

theorem total_nonneg (sound : t.Sound) (era : Int) : 0 ≤ t.total era := by
  rw [total]
  cases found : t.totals.get? era with
  | none => exact le_rfl
  | some cell =>
      obtain ⟨amount, rfl⟩ := sound.totals era cell found
      rw [cellValue_write (Int.natCast_nonneg _) (Int.ofNat_le.2 amount.le_max)]
      exact Int.natCast_nonneg _

theorem total_le (sound : t.Sound) (era : Int) : t.total era ≤ maxAmount := by
  rw [total]
  cases found : t.totals.get? era with
  | none => exact Int.natCast_nonneg _
  | some cell =>
      obtain ⟨amount, rfl⟩ := sound.totals era cell found
      rw [cellValue_write (Int.natCast_nonneg _) (Int.ofNat_le.2 amount.le_max)]
      exact Int.ofNat_le.2 amount.le_max

theorem pendingIn_row_nonneg (sound : t.Sound) (era : Int) :
    ∀ row ∈ t.rewards.rows, 0 ≤ row.2.reward.pendingIn era := by
  intro row member
  obtain ⟨r, storable, -, row_eq⟩ :=
    sound.rewards row.1 row.2 (Table.get?_eq_some_iff.2 member)
  rw [row_eq, RewardRow.reward_ofReward storable]
  exact Reward.pendingIn_nonneg storable.pending_nonneg era

/-- One record does not hold more volume pending than all together. -/
theorem pendingIn_le (sound : t.Sound) (account : String) (era : Int) :
    (t.record account).pendingIn era ≤ t.pendingIn era := by
  rw [← share_pendingIn, pendingIn, sound.nameless, List.map_nil, List.sum_nil, add_zero]
  exact Table.share_le_sum (sound.pendingIn_row_nonneg era) account

theorem setTotal (sound : t.Sound) {n : Int} (nonneg : 0 ≤ n) (le_max : n ≤ maxAmount)
    (era : Int) : (t.setTotal era n).Sound where
  rewards := sound.rewards
  nameless := sound.nameless
  totals other cell found := by
    simp only [Tables.setTotal, Table.get?_insert] at found
    split at found
    · obtain ⟨m, rfl⟩ := Int.eq_ofNat_of_zero_le nonneg
      exact ⟨⟨m, Int.ofNat_le.1 le_max⟩, (Option.some.inj found).symm⟩
    · exact sound.totals other cell found

theorem setRecord (sound : t.Sound) {r : Reward} (storable : r.Storable)
    (something : 0 < r.pending) (account : String) : (t.setRecord account r).Sound where
  rewards other row found := by
    simp only [Tables.setRecord, Table.get?_insert] at found
    split at found
    · exact ⟨r, storable, something, (Option.some.inj found).symm⟩
    · exact sound.rewards other row found
  nameless := sound.nameless
  totals := sound.totals

theorem dropRecord (sound : t.Sound) (account : String) : (t.dropRecord account).Sound where
  rewards other row found := by
    simp only [Tables.dropRecord, Table.get?_erase] at found
    split at found
    · cases found
    · exact sound.rewards other row found
  nameless := sound.nameless
  totals := sound.totals

theorem settle (sound : t.Sound) {r : Reward} (storable : r.Storable) (account : String) :
    (t.settle account r).Sound := by
  rw [Tables.settle]
  split
  · rename_i something
    exact sound.setRecord storable.taken something account
  · exact sound.dropRecord account

end Sound
end Tables
end EraRewards
