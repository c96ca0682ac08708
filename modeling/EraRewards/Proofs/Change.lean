import EraRewards.Proofs.Booking
import EraRewards.Proofs.Journal

/-!
# Changes

A ledger changes the tables in two ways: it books a report of volume, or it pays a claim.  Either way
the record of one account is turned, and no other record is touched.
-/

namespace EraRewards

/-- Changes that a ledger commits, with the entry and the tables that they leave. -/
inductive Service.Commits (s : Service) (before : Tables) : Entry → Tables → Prop
  /-- Volume counts towards the total of its era and is added to the turned record. -/
  | report {account : String} {volume : Amount} {era : Int} {rotation : Rotation}
      (something : volume.val ≠ 0) (era_nonneg : 0 ≤ era) (era_le : era ≤ maxTick)
      (bounded : before.total era + volume.val ≤ maxAmount)
      (rotated : before.rotation s.parameters.budget.val account era volume.val = .ok rotation) :
      Commits s before ⟨account, era, volume.val, 0, before.record account, rotation⟩
        ((before.setTotal era (before.total era + volume.val)).setRecord account rotation.reward)
  /-- A confirmed reward is taken out of the turned record and credited. -/
  | payment {account : String} {era : Int} {rotation : Rotation} {after : Tables}
      (something : rotation.confirmed ≠ 0) (era_nonneg : 0 ≤ era) (era_le : era ≤ maxTick)
      (rotated : before.rotation s.parameters.budget.val account era 0 = .ok rotation)
      (credited : (s.credit account rotation.confirmed).run.run
        (before.settle account rotation.reward) = (.ok (), after)) :
      Commits s before
        ⟨account, era, 0, rotation.confirmed, before.record account, rotation⟩ after

namespace Service

variable {s : Service}

/-- A credit writes balances and nothing else. -/
theorem eq_of_credit {account : String} {amount : Int} {t after : Tables}
    {result : Except Failure Unit}
    (credited : (s.credit account amount).run.run t = (result, after)) :
    after = { t with balances := after.balances } := by
  rw [credit_run] at credited
  cases credited
  rfl

namespace Commits

variable {before after : Tables} {entry : Entry}

/-- A change turns the record of its account. -/
theorem turns (sound : before.Sound) (commits : s.Commits before entry after) :
    (before.record entry.account).Turns entry.era entry.volume
      (before.total (before.record entry.account).lastEra) s.parameters.budget.val
      entry.rotation := by
  cases commits with
  | report something era_nonneg era_le bounded rotated =>
      exact Records.turns_of_rotation sound rotated
  | payment something era_nonneg era_le rotated credited =>
      exact Records.turns_of_rotation sound rotated

theorem found_eq (commits : s.Commits before entry after) :
    entry.found = before.record entry.account := by
  cases commits <;> rfl

theorem storable (sound : before.Sound) (commits : s.Commits before entry after) :
    entry.rotation.reward.Storable := by
  have turns := commits.turns sound
  cases commits with
  | @report account volume era rotation something era_nonneg era_le bounded rotated =>
      exact turns.storable (sound.storable account) (Int.natCast_nonneg _)
        (Int.ofNat_le.2 volume.le_max) era_nonneg era_le (Int.natCast_nonneg _)
  | @payment account era rotation after something era_nonneg era_le rotated credited =>
      exact turns.storable (sound.storable account) le_rfl (Int.natCast_nonneg _) era_nonneg era_le
        (Int.natCast_nonneg _)

/-- A change turns no record but that of its account. -/
theorem record_of_ne (sound : before.Sound) (commits : s.Commits before entry after)
    {account : String} (other : account ≠ entry.account) :
    after.record account = before.record account := by
  have storable := commits.storable sound
  cases commits with
  | report something era_nonneg era_le bounded rotated =>
      rw [Tables.record_setRecord storable, if_neg other, Tables.record_setTotal]
  | @payment here era rotation after something era_nonneg era_le rotated credited =>
      have kept : after.record account = (before.settle here rotation.reward).record account := by
        rw [eq_of_credit credited]
        rfl
      rw [kept, Tables.record_settle storable, if_neg other]

/-- A change leaves the turned record, without its confirmed reward if that was paid. -/
theorem record_eq (sound : before.Sound) (commits : s.Commits before entry after) :
    after.record entry.account = entry.rotation.reward ∧ entry.paid = 0 ∨
      after.record entry.account = entry.rotation.reward.settled ∧
        entry.paid = entry.rotation.reward.confirmed := by
  have storable := commits.storable sound
  cases commits with
  | report something era_nonneg era_le bounded rotated =>
      exact .inl ⟨by rw [Tables.record_setRecord storable, if_pos rfl], rfl⟩
  | @payment here era rotation after something era_nonneg era_le rotated credited =>
      have kept : after.record here = (before.settle here rotation.reward).record here := by
        rw [eq_of_credit credited]
        rfl
      exact .inr ⟨by rw [kept, Tables.record_settle storable, if_pos rfl], rfl⟩

theorem pendingIn_record (sound : before.Sound) (commits : s.Commits before entry after)
    (era : Int) :
    (after.record entry.account).pendingIn era = entry.rotation.reward.pendingIn era := by
  rcases commits.record_eq sound with ⟨turned, -⟩ | ⟨settled, -⟩
  · rw [turned]
  · rw [settled, Reward.settled_pendingIn (commits.storable sound).pending_nonneg]

/-- Sound tables stay sound through a change. -/
theorem sound (sound : before.Sound) (commits : s.Commits before entry after) :
    after.Sound := by
  have turns := commits.turns sound
  have storable := commits.storable sound
  cases commits with
  | @report account volume era rotation something era_nonneg era_le bounded rotated =>
      have total_nonneg : 0 ≤ before.total era + volume.val :=
        add_nonneg (sound.total_nonneg era) (Int.natCast_nonneg _)
      have pending_pos : 0 < rotation.reward.pending := by
        have grown := turns.incoming_le (sound.storable account).pending_nonneg
        dsimp only at grown
        omega
      exact (sound.setTotal total_nonneg bounded era).setRecord storable pending_pos account
  | @payment account era rotation after something era_nonneg era_le rotated credited =>
      have settled := sound.settle storable account
      rw [eq_of_credit credited]
      exact ⟨settled.rewards, settled.nameless, settled.totals⟩

end Commits
end Service
end EraRewards
