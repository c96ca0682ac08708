import EraRewards.Ledger.Records
import Mathlib.Tactic

/-!
# What a rotation does

A record turns to an era in one of three ways: it stays in its era and gathers volume, it moves on
without pending volume, or it moves on and closes the era that it leaves.  Closing an era awards the
pro-rata part of the budget that falls to the pending volume.
-/

namespace EraRewards

/-- Part of a budget that falls to a volume in a total: the share is rounded down to whole parts, and
the part of the budget that it makes is rounded down again. -/
def proRata (volume total budget : Int) : Int := volume * 10 ^ 18 / total * budget / 10 ^ 18

@[simp] theorem proRata_zero (total budget : Int) : proRata 0 total budget = 0 := by
  simp [proRata]

theorem proRata_nonneg {volume total budget : Int} (volume_nonneg : 0 ≤ volume)
    (total_nonneg : 0 ≤ total) (budget_nonneg : 0 ≤ budget) : 0 ≤ proRata volume total budget := by
  rw [proRata]
  positivity

namespace Share

theorem parts_ofRatio {num den : Int} (num_nonneg : 0 ≤ num) (num_le : num ≤ den)
    (den_pos : 0 < den) : ((ofRatio num den).parts : Int) = num * 10 ^ 18 / den := by
  have whole : ((wholeParts : Nat) : Int) = 10 ^ 18 := by norm_num [wholeParts]
  unfold ofRatio
  split
  · have num_zero : num = 0 := by omega
    simp [zero, num_zero]
  · split
    · have num_eq : num = den := by omega
      rw [num_eq, Int.mul_ediv_cancel_left _ den_pos.ne']
      exact whole
    · rw [Int.natCast_ediv, Int.natCast_mul, Int.toNat_of_nonneg num_nonneg,
        Int.toNat_of_nonneg den_pos.le, whole]

theorem mulFloor_eq (share : Share) (amount : Int) :
    share.mulFloor amount = share.parts * amount / 10 ^ 18 := by
  rw [mulFloor, Int.fdiv_eq_ediv_of_nonneg _ (Int.natCast_nonneg _)]
  rfl

end Share

namespace Reward

theorem award_nonneg {budget : Int} (budget_nonneg : 0 ≤ budget) (pending total : Int) :
    0 ≤ award pending total budget := by
  rw [award, Share.mulFloor_eq]
  positivity

/-- The volume of an account in an era is awarded the pro-rata part of the budget. -/
theorem award_eq_proRata {pending total : Int} (pending_nonneg : 0 ≤ pending)
    (pending_le : pending ≤ total) (total_pos : 0 < total) (budget : Int) :
    award pending total budget = proRata pending total budget := by
  rw [award, Share.mulFloor_eq, Share.parts_ofRatio pending_nonneg pending_le total_pos, proRata]

/-- Volume that a record holds pending in an era. -/
def pendingIn (r : Reward) (era : Int) : Int := if r.lastEra = era then r.pending else 0

/-- Outcome of a rotation: the reward that was awarded, whether an era was closed, and the record. -/
def rotation (r : Reward) (era incoming total budget : Int) : Except LedgerError Rotation :=
  (r.rotate era incoming total budget).map fun next =>
    ⟨next.2, era ≠ r.lastEra ∧ 0 < r.pending, next.1⟩

/-- The three ways in which a record turns to an era. -/
inductive Turns (r : Reward) (era incoming total budget : Int) : Rotation → Prop
  /-- The record stays in its era. -/
  | same (current : era = r.lastEra) (bounded : r.pending + incoming ≤ maxAmount) :
      Turns r era incoming total budget ⟨0, false, { r with pending := r.pending + incoming }⟩
  /-- The record leaves an era in which nothing is pending. -/
  | idle (later : r.lastEra < era) (nothing : r.pending = 0) :
      Turns r era incoming total budget ⟨0, false, { r with pending := incoming, lastEra := era }⟩
  /-- The record leaves an era and closes it. -/
  | closing (later : r.lastEra < era) (something : 0 < r.pending) (total_pos : 0 < total)
      (bounded : r.confirmed + award r.pending total budget ≤ maxAmount) :
      Turns r era incoming total budget
        ⟨award r.pending total budget, true,
          { confirmed := r.confirmed + award r.pending total budget
            pending := incoming
            lastEra := era }⟩

namespace Turns

variable {r : Reward} {era incoming total budget : Int} {rotation : Rotation}

theorem lastEra_le (turns : r.Turns era incoming total budget rotation) : r.lastEra ≤ era := by
  cases turns with
  | same current bounded => exact current.ge
  | idle later nothing => exact later.le
  | closing later something total_pos bounded => exact later.le

theorem lastEra_eq (turns : r.Turns era incoming total budget rotation) :
    rotation.reward.lastEra = era := by
  cases turns with
  | same current bounded => exact current.symm
  | idle later nothing => rfl
  | closing later something total_pos bounded => rfl

/-- A rotation that closes an era awards its part to what was pending in it. -/
theorem of_rotated (turns : r.Turns era incoming total budget rotation)
    (rotated : rotation.rotated = true) :
    r.lastEra < era ∧ 0 < r.pending ∧ 0 < total ∧
      rotation.awarded = award r.pending total budget := by
  cases turns with
  | same current bounded => cases rotated
  | idle later nothing => cases rotated
  | closing later something total_pos bounded => exact ⟨later, something, total_pos, rfl⟩

theorem awarded_of_not_rotated (turns : r.Turns era incoming total budget rotation)
    (kept : rotation.rotated ≠ true) : rotation.awarded = 0 := by
  cases turns with
  | same current bounded => rfl
  | idle later nothing => rfl
  | closing later something total_pos bounded => exact absurd rfl kept

/-- What is awarded is confirmed. -/
theorem confirmed_eq (turns : r.Turns era incoming total budget rotation) :
    rotation.reward.confirmed = r.confirmed + rotation.awarded := by
  cases turns with
  | same current bounded => exact (add_zero _).symm
  | idle later nothing => exact (add_zero _).symm
  | closing later something total_pos bounded => rfl

theorem awarded_nonneg (turns : r.Turns era incoming total budget rotation)
    (budget_nonneg : 0 ≤ budget) : 0 ≤ rotation.awarded := by
  cases turns with
  | same current bounded => exact le_rfl
  | idle later nothing => exact le_rfl
  | closing later something total_pos bounded => exact award_nonneg budget_nonneg _ _

theorem incoming_le (turns : r.Turns era incoming total budget rotation)
    (pending_nonneg : 0 ≤ r.pending) : incoming ≤ rotation.reward.pending := by
  cases turns with
  | same current bounded => exact le_add_of_nonneg_left pending_nonneg
  | idle later nothing => exact le_rfl
  | closing later something total_pos bounded => exact le_rfl

/-- Pending volume stays in its era unless the era is closed, and incoming volume is added in the era
to which the record turns. -/
theorem pendingIn_add (turns : r.Turns era incoming total budget rotation) (other : Int) :
    rotation.reward.pendingIn other +
        (if rotation.rotated = true ∧ r.lastEra = other then r.pending else 0) =
      r.pendingIn other + if era = other then incoming else 0 := by
  cases turns with
  | same current bounded =>
      subst current
      by_cases here : r.lastEra = other <;> simp [pendingIn, here]
  | idle later nothing =>
      by_cases here : r.lastEra = other <;> simp [pendingIn, here, nothing]
  | closing later something total_pos bounded =>
      by_cases here : r.lastEra = other <;> simp [pendingIn, here, add_comm]

end Turns

theorem rotation_of_eq {r : Reward} {era : Int} (current : era = r.lastEra)
    (incoming total budget : Int) :
    r.rotation era incoming total budget =
      (Amount.checkedSum "pending_vol" r.pending incoming).map fun pending =>
        ⟨0, false, { r with pending }⟩ := by
  rw [rotation, rotate, if_pos current]
  cases Amount.checkedSum "pending_vol" r.pending incoming with
  | error failure => rfl
  | ok pending => simp [current, Except.map, bind, Except.bind, pure, Except.pure]

theorem rotation_of_lt {r : Reward} {era : Int} (earlier : era < r.lastEra)
    (incoming total budget : Int) :
    r.rotation era incoming total budget = .error (.eraBeforeLastUpdate era r.lastEra) := by
  rw [rotation, rotate, if_neg earlier.ne, if_pos earlier]
  rfl

theorem rotation_of_idle {r : Reward} {era : Int} (later : r.lastEra < era)
    (nothing : r.pending = 0) (incoming total budget : Int) :
    r.rotation era incoming total budget =
      .ok ⟨0, false, { r with pending := incoming, lastEra := era }⟩ := by
  rw [rotation, rotate, if_neg later.ne', if_neg later.not_gt, if_pos nothing]
  simp [Except.map, nothing]

theorem rotation_of_closing {r : Reward} {era : Int} (later : r.lastEra < era)
    (something : 0 < r.pending) {total : Int} (total_pos : 0 < total) (incoming budget : Int) :
    r.rotation era incoming total budget =
      (Amount.checkedSum "confirmed" r.confirmed (award r.pending total budget)).map fun confirmed =>
        ⟨award r.pending total budget, true, ⟨confirmed, incoming, era⟩⟩ := by
  rw [rotation, rotate, if_neg later.ne', if_neg later.not_gt, if_neg something.ne',
    if_neg total_pos.not_ge]
  dsimp only
  cases Amount.checkedSum "confirmed" r.confirmed (award r.pending total budget) with
  | error failure => rfl
  | ok confirmed =>
      simp [something, later.ne', Except.map, bind, Except.bind, pure, Except.pure]

theorem rotation_of_closing_nothing {r : Reward} {era : Int} (later : r.lastEra < era)
    (something : 0 < r.pending) {total : Int} (total_le : total ≤ 0) (incoming budget : Int) :
    r.rotation era incoming total budget =
      .error (.eraTotalIsZero r.lastEra (.int r.pending)) := by
  rw [rotation, rotate, if_neg later.ne', if_neg later.not_gt, if_neg something.ne',
    if_pos total_le]
  rfl

/-- Each of the three turns is a rotation. -/
theorem Turns.rotation_eq {r : Reward} {era incoming total budget : Int} {rotation : Rotation}
    (turns : r.Turns era incoming total budget rotation) :
    r.rotation era incoming total budget = .ok rotation := by
  cases turns with
  | same current bounded =>
      rw [rotation_of_eq current, Amount.checkedSum_eq_ok_iff.2 ⟨bounded, rfl⟩]
      rfl
  | idle later nothing => exact rotation_of_idle later nothing _ _ _
  | closing later something total_pos bounded =>
      rw [rotation_of_closing later something total_pos,
        Amount.checkedSum_eq_ok_iff.2 ⟨bounded, rfl⟩]
      rfl

/-- A rotation succeeds exactly by one of the three turns. -/
theorem rotation_eq_ok_iff {r : Reward} (pending_nonneg : 0 ≤ r.pending)
    {era incoming total budget : Int} {rotation : Rotation} :
    r.rotation era incoming total budget = .ok rotation ↔
      Turns r era incoming total budget rotation := by
  constructor
  · intro turned
    rcases lt_trichotomy era r.lastEra with earlier | current | later
    · rw [rotation_of_lt earlier] at turned
      cases turned
    · rw [rotation_of_eq current] at turned
      cases sum : Amount.checkedSum "pending_vol" r.pending incoming with
      | error failure => simp [sum, Except.map] at turned
      | ok pending =>
          obtain ⟨bounded, rfl⟩ := Amount.checkedSum_eq_ok_iff.1 sum
          simp only [sum, Except.map, Except.ok.injEq] at turned
          exact turned ▸ .same current bounded
    · rcases pending_nonneg.eq_or_lt with nothing | something
      · rw [rotation_of_idle later nothing.symm] at turned
        cases turned
        exact .idle later nothing.symm
      · rcases le_or_gt total 0 with total_le | total_pos
        · rw [rotation_of_closing_nothing later something total_le] at turned
          cases turned
        · rw [rotation_of_closing later something total_pos] at turned
          cases sum : Amount.checkedSum "confirmed" r.confirmed (award r.pending total budget) with
          | error failure => simp [sum, Except.map] at turned
          | ok confirmed =>
              obtain ⟨bounded, rfl⟩ := Amount.checkedSum_eq_ok_iff.1 sum
              simp only [sum, Except.map, Except.ok.injEq] at turned
              exact turned ▸ .closing later something total_pos bounded
  · exact Turns.rotation_eq

/-- A rotation that closes nothing does not look at the total. -/
theorem rotation_of_not_closing {r : Reward} (pending_nonneg : 0 ≤ r.pending) {era : Int}
    (open_ : ¬(era ≠ r.lastEra ∧ 0 < r.pending)) (incoming total other budget : Int) :
    r.rotation era incoming total budget = r.rotation era incoming other budget := by
  rcases lt_trichotomy era r.lastEra with earlier | current | later
  · rw [rotation_of_lt earlier, rotation_of_lt earlier]
  · rw [rotation_of_eq current, rotation_of_eq current]
  · have nothing : r.pending = 0 := by
      have := mt (And.intro later.ne') open_
      omega
    rw [rotation_of_idle later nothing, rotation_of_idle later nothing]

end Reward
end EraRewards
