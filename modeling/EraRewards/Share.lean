import EraRewards.Value.Reading

/-!
# Shares

A share is a ratio between zero and one, held as a whole number of parts of `10 ^ 18`.  Both the
ratio and a share of an amount are rounded down, so a product never exceeds the exact result.
-/

namespace EraRewards

/-- The number of parts that make one, `10 ^ 18`. -/
def wholeParts : Nat := 1000000000000000000

/-- A ratio in the unit interval. -/
structure Share where
  /-- Number of parts. -/
  parts : Nat
  /-- A share does not exceed one. -/
  le_whole : parts ≤ wholeParts

/-- An integer of the unit interval keeps its bound as a natural number. -/
theorem toNat_le_wholeParts {n : Int} (h : 0 ≤ n ∧ n ≤ wholeParts) : n.toNat ≤ wholeParts :=
  Int.toNat_le.2 h.2

namespace Share

/-- Nothing. -/
def zero : Share := ⟨0, Nat.zero_le _⟩

/-- Everything. -/
def one : Share := ⟨wholeParts, Nat.le_refl _⟩

/-- The ratio of two integers, rounded down to whole parts: zero unless the numerator is positive,
one when the numerator reaches the denominator. -/
def ofRatio (num den : Int) : Share :=
  if num ≤ 0 then zero
  else if h : den ≤ num then one
  else ⟨num.toNat * wholeParts / den.toNat,
    Nat.div_le_of_le_mul (Nat.mul_le_mul_right _ (by omega))⟩

/-- A share of an integer, rounded down. -/
def mulFloor (share : Share) (amount : Int) : Int :=
  ((share.parts : Int) * amount).fdiv (wholeParts : Nat)

/-- The share with a given number of parts. -/
def ofParts : Value → Except Failure Share
  | .int n =>
    if h : 0 ≤ n ∧ n ≤ wholeParts then .ok ⟨n.toNat, toNat_le_wholeParts h⟩
    else .error (.shareRange
      ("parts must be in 0.." ++ Integer.write wholeParts ++ "; got: " ++ Integer.write n))
  | _ => .error .shareKind

/-- The ratio of the integer readings of two values; the denominator must be positive. -/
def ofValues (num den : Value) : Except Failure Share := do
  let num ← num.toInt
  let den ← den.toInt
  if den ≤ 0 then throw .shareOfNothing else return ofRatio num den

/-- A share of the integer reading of a value. -/
def mulFloorOfValue (share : Share) (amount : Value) : Except Failure Int :=
  amount.toInt.map share.mulFloor

end Share
end EraRewards
