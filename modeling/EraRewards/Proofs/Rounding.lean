import EraRewards.Proofs.Acceptance
import EraRewards.Proofs.Apportionment
import EraRewards.Proofs.Outcome

/-!
# Rounding

A share of an amount is rounded down twice, to whole parts of the share and to whole units of the
amount, and a ratio outside the unit interval counts as the nearer end of it.  The result falls short
of the exact product by less than one unit and `10 ^ -18` of the amount.  Awards grow with the volume
and with the budget and shrink as the total grows, and a volume that is split up is awarded no more
than the whole of it.
-/

namespace EraRewards

namespace Share

variable {num den amount : Int}

theorem parts_ofRatio_eq_clamp (num : Int) (den_pos : 0 < den) :
    ((ofRatio num den).parts : Int) = min (10 ^ 18) (max 0 (num * 10 ^ 18 / den)) := by
  rcases le_or_gt 0 num with num_nonneg | num_neg
  · have quotient_nonneg : 0 ≤ num * 10 ^ 18 / den := by positivity
    rw [parts_ofRatio_eq_min num_nonneg den_pos, max_eq_right quotient_nonneg, min_comm]
  · have quotient_nonpos : num * 10 ^ 18 / den ≤ 0 :=
      Int.ediv_nonpos_of_nonpos_of_neg (by omega) den_pos
    have nothing : ofRatio num den = zero := if_pos num_neg.le
    rw [nothing, max_eq_left quotient_nonpos]
    norm_num [zero]

/-- A numerator outside the unit interval counts as the nearer end of it. -/
theorem ofRatio_clamp (num : Int) (den_pos : 0 < den) :
    ofRatio (min (max num 0) den) den = ofRatio num den := by
  rcases le_or_gt num 0 with num_nonpos | num_pos
  · rw [max_eq_right num_nonpos, min_eq_left den_pos.le]
    simp [ofRatio, num_nonpos]
  · rw [max_eq_left num_pos.le]
    rcases le_or_gt den num with den_le | num_lt
    · rw [min_eq_right den_le]
      simp [ofRatio, num_pos.not_ge, den_pos.not_ge, den_le]
    · rw [min_eq_left num_lt.le]

/-- A share of an amount is the pro-rata part of the amount that falls to the numerator. -/
theorem mulFloor_ofRatio (num : Int) (den_pos : 0 < den) (amount : Int) :
    (ofRatio num den).mulFloor amount = proRata (min (max num 0) den) den amount := by
  have nonneg : 0 ≤ min (max num 0) den := le_min (le_max_right _ _) den_pos.le
  rw [← ofRatio_clamp num den_pos, mulFloor_eq, parts_ofRatio nonneg (min_le_right _ _) den_pos,
    proRata]

theorem mulFloor_le (share : Share) (amount_nonneg : 0 ≤ amount) : share.mulFloor amount ≤ amount := by
  have parts_le : (share.parts : Int) ≤ 10 ^ 18 := by exact_mod_cast share.le_whole
  rw [mulFloor_eq]
  apply Int.ediv_le_of_le_mul (by norm_num)
  rw [mul_comm amount]
  gcongr

theorem parts_ofRatio_mono (den_pos : 0 < den) {more : Int} (num_le : num ≤ more) :
    ((ofRatio num den).parts : Int) ≤ (ofRatio more den).parts := by
  have quotient_le : num * 10 ^ 18 / den ≤ more * 10 ^ 18 / den :=
    Int.ediv_le_ediv den_pos (by gcongr)
  rw [parts_ofRatio_eq_clamp num den_pos, parts_ofRatio_eq_clamp more den_pos]
  gcongr

theorem parts_ofRatio_anti (num : Int) (den_pos : 0 < den) {larger : Int} (den_le : den ≤ larger) :
    ((ofRatio num larger).parts : Int) ≤ (ofRatio num den).parts := by
  rcases le_or_gt num 0 with num_nonpos | num_pos
  · -- Of nothing, or of less, every denominator makes nothing.
    have nothing (den : Int) : ofRatio num den = zero := if_pos num_nonpos
    rw [nothing, nothing]
  · have larger_pos := den_pos.trans_le den_le
    have quotient_nonneg : 0 ≤ num * 10 ^ 18 / larger := by positivity
    have quotient_le : num * 10 ^ 18 / larger ≤ num * 10 ^ 18 / den := by
      apply Int.le_ediv_of_mul_le den_pos
      calc num * 10 ^ 18 / larger * den
          ≤ num * 10 ^ 18 / larger * larger := by gcongr
        _ ≤ num * 10 ^ 18 := Int.ediv_mul_le _ larger_pos.ne'
    rw [parts_ofRatio_eq_clamp num larger_pos, parts_ofRatio_eq_clamp num den_pos]
    gcongr

theorem mulFloor_mono {share larger : Share} (parts_le : (share.parts : Int) ≤ larger.parts)
    (amount_nonneg : 0 ≤ amount) : share.mulFloor amount ≤ larger.mulFloor amount := by
  rw [mulFloor_eq, mulFloor_eq]
  exact Int.ediv_le_ediv (by norm_num) (by gcongr)

/-- A share of more is more. -/
theorem monotone_mulFloor (share : Share) : Monotone share.mulFloor := by
  intro amount more amount_le
  rw [mulFloor_eq, mulFloor_eq]
  exact Int.ediv_le_ediv (by norm_num) (by gcongr)

/-- Every ratio with a positive denominator can be formed, and its share is the ratio rounded down to
whole parts, cut at nothing and at everything.  The share of an amount that is not negative does not
exceed the exact product, let alone the amount, and falls short of the product by less than one unit
and `10 ^ -18` of the amount. -/
theorem mulFloor_near (num : Int) (den_pos : 0 < den) (amount_nonneg : 0 ≤ amount) :
    ∃ share, ofValues (.int num) (.int den) = .ok share ∧ ofParts (.int share.parts) = .ok share ∧
      (share.parts : Int) ∈ Set.Icc 0 (10 ^ 18) ∧
      (share.parts : Int) = min (10 ^ 18) (max 0 (num * 10 ^ 18 / den)) ∧
      ∃ product, share.mulFloorOfValue (.int amount) = .ok product ∧
        let part := min (max num 0) den
        product ≤ part * amount / den ∧ part * amount / den ≤ amount ∧
        part * amount * 10 ^ 18 - product * den * 10 ^ 18 < den * (amount + 10 ^ 18) ∧
        (product : ℚ) ≤ part * amount / den ∧
        (part * amount / den : ℚ) - product < 1 + amount / 10 ^ 18 := by
  have product_eq := mulFloor_ofRatio num den_pos amount
  set part := min (max num 0) den with part_eq
  have part_le : part ≤ den := min_le_right _ _
  have below : proRata part den amount * den ≤ part * amount := proRata_mul_le den_pos amount_nonneg
  have near : part * amount * 10 ^ 18 < ((proRata part den amount + 1) * 10 ^ 18 + amount) * den :=
    mul_lt_proRata den_pos amount_nonneg
  rw [← product_eq] at below near
  have den_pos' : (0 : ℚ) < den := by exact_mod_cast den_pos
  refine ⟨ofRatio num den, ofValues_of_pos num den_pos, ofParts_parts _,
    ⟨Int.natCast_nonneg _, by exact_mod_cast (ofRatio num den).le_whole⟩,
    parts_ofRatio_eq_clamp num den_pos, (ofRatio num den).mulFloor amount, rfl,
    Int.le_ediv_of_mul_le den_pos below, ?_, ?_, ?_, ?_⟩
  · apply Int.ediv_le_of_le_mul den_pos
    rw [mul_comm amount]
    gcongr
  · linarith
  · rw [le_div_iff₀ den_pos']
    exact_mod_cast below
  · have near' : (part * amount * 10 ^ 18 : ℚ) <
        (((ofRatio num den).mulFloor amount + 1) * 10 ^ 18 + amount) * den := by exact_mod_cast near
    rw [sub_lt_iff_lt_add, div_lt_iff₀ den_pos']
    linarith

/-- All but one of the largest total, and the largest budget. -/
theorem mulFloor_near_sample :
    let most : Int := 2 ^ 128 - 1
    0 < most ∧ ∃ share, ofValues (.int (most - 1)) (.int most) = .ok share ∧
      (share.parts : Int) = 10 ^ 18 - 1 ∧
      ∃ product, share.mulFloorOfValue (.int most) = .ok product ∧ product ≤ most - 1 ∧
        (most - 1) * 10 ^ 18 - product * 10 ^ 18 < most + 10 ^ 18 := by
  intro most
  have most_pos : 0 < most := by decide
  obtain ⟨share, formed, -, -, parts_eq, product, product_eq, product_le, -, near, -⟩ :=
    mulFloor_near (most - 1) most_pos most_pos.le
  refine ⟨most_pos, share, formed, parts_eq.trans (by decide), product, product_eq,
    product_le.trans_eq (by decide), ?_⟩
  have part_eq : min (max (most - 1) 0) most = most - 1 := by decide
  rw [part_eq] at near
  refine lt_of_mul_lt_mul_left ?_ most_pos.le
  linarith

end Share

/-- Parts of two volumes do not exceed the part of both together. -/
theorem proRata_add_le {total budget : Int} (total_pos : 0 < total) (budget_nonneg : 0 ≤ budget)
    (left right : Int) :
    proRata left total budget + proRata right total budget ≤ proRata (left + right) total budget := by
  have shares : left * 10 ^ 18 / total + right * 10 ^ 18 / total ≤ (left + right) * 10 ^ 18 / total := by
    rw [add_mul]
    exact Int.ediv_add_ediv_le_add_ediv total_pos
  calc proRata left total budget + proRata right total budget
      ≤ (left * 10 ^ 18 / total * budget + right * 10 ^ 18 / total * budget) / 10 ^ 18 :=
        Int.ediv_add_ediv_le_add_ediv (by norm_num)
    _ = (left * 10 ^ 18 / total + right * 10 ^ 18 / total) * budget / 10 ^ 18 := by rw [add_mul]
    _ ≤ proRata (left + right) total budget := Int.ediv_le_ediv (by norm_num) (by gcongr)

theorem sum_proRata_le_proRata_sum {total budget : Int} (total_pos : 0 < total)
    (budget_nonneg : 0 ≤ budget) (volumes : List Int) :
    (volumes.map fun volume => proRata volume total budget).sum ≤
      proRata volumes.sum total budget := by
  induction volumes with
  | nil => simp
  | cons volume volumes induction =>
      calc ((volume :: volumes).map fun volume => proRata volume total budget).sum
          ≤ proRata volume total budget + proRata volumes.sum total budget := by simpa using induction
        _ ≤ proRata (volume :: volumes).sum total budget := by
          simpa using proRata_add_le total_pos budget_nonneg volume volumes.sum

namespace Reward

/-- A volume that is split up over some accounts is awarded no more than the whole of it, which is
awarded no more than the budget.  Awards do not shrink as the volume or the budget grows, nor grow
with the total. -/
theorem sum_award_le_award_sum {total budget : Int} (total_pos : 0 < total)
    (budget_nonneg : 0 ≤ budget) :
    (∀ volumes : List Int, (∀ volume ∈ volumes, 0 ≤ volume) → volumes.sum ≤ total →
      (volumes.map fun volume => award volume total budget).sum ≤ award volumes.sum total budget ∧
        award volumes.sum total budget ≤ budget) ∧
    Monotone (fun volume => award volume total budget) ∧
    (∀ volume, Monotone fun budget => award volume total budget) ∧
    ∀ volume, AntitoneOn (fun total => award volume total budget) (Set.Ioi 0) := by
  refine ⟨fun volumes nonneg sum_le => ⟨?_, Share.mulFloor_le _ budget_nonneg⟩,
    fun volume more volume_le => ?_, fun volume => Share.monotone_mulFloor _,
    fun volume total total_pos larger _ total_le => ?_⟩
  · have award_eq (volume : Int) (mem : volume ∈ volumes) :
        award volume total budget = proRata volume total budget :=
      award_eq_proRata (nonneg volume mem) ((List.single_le_sum nonneg volume mem).trans sum_le)
        total_pos budget
    rw [List.map_congr_left award_eq, award_eq_proRata (List.sum_nonneg nonneg) sum_le total_pos]
    exact sum_proRata_le_proRata_sum total_pos budget_nonneg volumes
  · exact Share.mulFloor_mono (Share.parts_ofRatio_mono total_pos volume_le) budget_nonneg
  · exact Share.mulFloor_mono (Share.parts_ofRatio_anti volume total_pos total_le) budget_nonneg

/-- Three thirds of a budget beyond the resolution of a share. -/
theorem sum_award_le_award_sum_sample :
    ([1, 1, 1].map fun volume => award volume 3 (10 ^ 20)).sum = 99999999999999999900 ∧
      ([1, 1, 1].map fun volume => award volume 3 (10 ^ 20)).sum ≤ award 3 3 (10 ^ 20) ∧
      award 3 3 (10 ^ 20) ≤ 10 ^ 20 ∧ award 1 4 (10 ^ 20) ≤ award 2 3 (10 ^ 20) := by
  obtain ⟨split, mono, -, anti⟩ :=
    @sum_award_le_award_sum 3 (10 ^ 20) (by decide) (by decide)
  obtain ⟨thirds_le, whole_le⟩ := split [1, 1, 1] (by decide) (by decide)
  refine ⟨by decide, thirds_le, whole_le, ?_⟩
  calc award 1 4 (10 ^ 20)
      ≤ award 1 3 (10 ^ 20) := anti 1 (by decide : (0 : Int) < 3) (by decide : (0 : Int) < 4) (by decide)
    _ ≤ award 2 3 (10 ^ 20) := mono (by decide : (1 : Int) ≤ 2)

end Reward
end EraRewards
