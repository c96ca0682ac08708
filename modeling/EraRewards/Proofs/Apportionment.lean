import EraRewards.Proofs.Rotation

/-!
# Apportionment

A pro-rata part is rounded down twice.  It never exceeds the exact part, and falls short of it by less
than one unit and `10 ^ -18` of the budget.  So the parts of any number of volumes stay within the
budget, and what they leave of it is bounded by their number.
-/

namespace EraRewards

variable {volume total budget : Int}

/-- A part does not exceed its exact value. -/
theorem proRata_mul_le (total_pos : 0 < total) (budget_nonneg : 0 ≤ budget) :
    proRata volume total budget * total ≤ volume * budget := by
  have share := Int.ediv_mul_le (volume * 10 ^ 18) total_pos.ne'
  have part : proRata volume total budget * 10 ^ 18 ≤ volume * 10 ^ 18 / total * budget :=
    Int.ediv_mul_le _ (by norm_num)
  refine le_of_mul_le_mul_right ?_ (show (0 : Int) < 10 ^ 18 by norm_num)
  calc proRata volume total budget * total * 10 ^ 18
      = proRata volume total budget * 10 ^ 18 * total := by ring
    _ ≤ volume * 10 ^ 18 / total * budget * total := by gcongr
    _ = volume * 10 ^ 18 / total * total * budget := by ring
    _ ≤ volume * 10 ^ 18 * budget := by gcongr
    _ = volume * budget * 10 ^ 18 := by ring

/-- A part falls short of its exact value by less than one unit and `10 ^ -18` of the budget. -/
theorem mul_lt_proRata (total_pos : 0 < total) (budget_nonneg : 0 ≤ budget) :
    volume * budget * 10 ^ 18 <
      ((proRata volume total budget + 1) * 10 ^ 18 + budget) * total := by
  have share := (Int.lt_ediv_add_one_mul_self (volume * 10 ^ 18) total_pos).le
  have part : volume * 10 ^ 18 / total * budget < (proRata volume total budget + 1) * 10 ^ 18 :=
    Int.lt_ediv_add_one_mul_self _ (by norm_num)
  calc volume * budget * 10 ^ 18
      = volume * 10 ^ 18 * budget := by ring
    _ ≤ (volume * 10 ^ 18 / total + 1) * total * budget := by gcongr
    _ = (volume * 10 ^ 18 / total * budget + budget) * total := by ring
    _ < ((proRata volume total budget + 1) * 10 ^ 18 + budget) * total := by gcongr

/-- The whole volume is awarded the whole budget. -/
theorem proRata_self (total_pos : 0 < total) (budget : Int) : proRata total total budget = budget := by
  rw [proRata, Int.mul_ediv_cancel_left _ total_pos.ne', Int.mul_ediv_cancel_left _ (by norm_num)]

section Parties

variable {ι : Type} {parties : Finset ι} {volume : ι → Int}

/-- Parts of volumes within a total stay within the budget. -/
theorem sum_proRata_le (total_nonneg : 0 ≤ total) (budget_nonneg : 0 ≤ budget)
    (covered : ∑ party ∈ parties, volume party ≤ total) :
    ∑ party ∈ parties, proRata (volume party) total budget ≤ budget := by
  rcases total_nonneg.eq_or_lt with nothing | total_pos
  · simpa [proRata, ← nothing] using budget_nonneg
  · refine le_of_mul_le_mul_right ?_ total_pos
    calc (∑ party ∈ parties, proRata (volume party) total budget) * total
        = ∑ party ∈ parties, proRata (volume party) total budget * total := Finset.sum_mul _ _ _
      _ ≤ ∑ party ∈ parties, volume party * budget :=
        Finset.sum_le_sum fun _ _ => proRata_mul_le total_pos budget_nonneg
      _ = (∑ party ∈ parties, volume party) * budget := (Finset.sum_mul _ _ _).symm
      _ ≤ total * budget := by gcongr
      _ = budget * total := mul_comm _ _

/-- Parts of volumes that make up a total leave little of the budget. -/
theorem sub_sum_proRata_lt (total_pos : 0 < total) (budget_nonneg : 0 ≤ budget)
    (nonempty : parties.Nonempty) (whole : ∑ party ∈ parties, volume party = total) :
    (budget - ∑ party ∈ parties, proRata (volume party) total budget) * 10 ^ 18 <
      parties.card * (10 ^ 18 + budget) := by
  have exceeded : budget * 10 ^ 18 * total <
      (∑ party ∈ parties, ((proRata (volume party) total budget + 1) * 10 ^ 18 + budget)) *
        total := by
    calc budget * 10 ^ 18 * total
        = (∑ party ∈ parties, volume party) * (budget * 10 ^ 18) := by rw [whole]; ring
      _ = ∑ party ∈ parties, volume party * budget * 10 ^ 18 := by
        simp only [Finset.sum_mul, mul_assoc]
      _ < ∑ party ∈ parties, ((proRata (volume party) total budget + 1) * 10 ^ 18 + budget) *
          total :=
        Finset.sum_lt_sum_of_nonempty nonempty fun _ _ => mul_lt_proRata total_pos budget_nonneg
      _ = _ := (Finset.sum_mul _ _ _).symm
  have budget_lt := lt_of_mul_lt_mul_right exceeded total_pos.le
  rw [Finset.sum_add_distrib, ← Finset.sum_mul, Finset.sum_add_distrib, Finset.sum_const,
    Finset.sum_const, nsmul_eq_mul, nsmul_eq_mul] at budget_lt
  linarith

end Parties
end EraRewards
