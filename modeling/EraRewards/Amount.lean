import EraRewards.Value.Reading

/-!
# Amounts

Volumes, rewards and balances are unsigned 128-bit integers.  An argument counts as an amount only
if it is an integer in range; a sum that leaves the range is rejected instead of wrapping around.
-/

namespace EraRewards

/-- The greatest amount, `2 ^ 128 - 1`. -/
def maxAmount : Nat := 340282366920938463463374607431768211455

/-- An unsigned 128-bit quantity. -/
structure Amount where
  /-- The quantity. -/
  val : Nat
  /-- It fits 128 bits. -/
  le_max : val ≤ maxAmount
  deriving DecidableEq

namespace Amount

/-- The amount zero. -/
def zero : Amount := ⟨0, Nat.zero_le _⟩

instance : Inhabited Amount := ⟨zero⟩

/-- The amount equal to an integer, if the integer is in range. -/
def ofInt? (n : Int) : Option Amount :=
  if h : 0 ≤ n ∧ n ≤ maxAmount then some ⟨n.toNat, by omega⟩ else none

/-- The amount that a value is; no other kind than an integer is converted. -/
def ofValue? : Value → Option Amount
  | .int n => ofInt? n
  | _ => none

/-- The amount in an argument, whose name may be of any kind. -/
def ofNamed (field value : Value) : Except LedgerError Amount :=
  match ofValue? value with
  | some amount => .ok amount
  | none => .error (.notAmount field value)

/-- The amount in the named argument. -/
def ofArgument (field : String) (value : Value) : Except LedgerError Amount :=
  ofNamed (.text field) value

/-- Sum of two integers unless it exceeds the greatest amount. -/
def checkedSum (what : String) (a b : Int) : Except LedgerError Int :=
  if a + b ≤ maxAmount then .ok (a + b)
  else .error (.sumOverflow what (Integer.write a) (Integer.write b))

/-- Sum of the integer readings of two values unless it exceeds the greatest amount. -/
def checkedSumOfValues (what : String) (a b : Value) : Except Failure Int := do
  let sum := (← a.toInt) + (← b.toInt)
  if sum ≤ maxAmount then return sum
  else throw (.ledger (.sumOverflow what a.display b.display))

theorem checkedSum_eq_ok_iff {what : String} {a b sum : Int} :
    checkedSum what a b = .ok sum ↔ a + b ≤ maxAmount ∧ sum = a + b := by
  unfold checkedSum
  split
  · simp_all [eq_comm]
  · simp only [reduceCtorEq, false_iff]
    omega

@[simp] theorem ofInt?_val (amount : Amount) : ofInt? amount.val = some amount := by
  have := amount.le_max
  simp [ofInt?, this]

end Amount
end EraRewards
