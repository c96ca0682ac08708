import EraRewards.Ledger.Volumes
import EraRewards.Reward

/-!
# Reward records in the ledger

An account without a row has the record of zeros.  A rotation is previewed, and stored only if the
caller wants it; taking the confirmed reward zeroes it and drops a record that holds nothing else.
-/

namespace EraRewards

/-- Outcome of a rotation for an account. -/
structure Rotation where
  /-- Reward awarded for the closed era. -/
  awarded : Int
  /-- Whether the record was turned away from an era with pending volume. -/
  rotated : Bool
  /-- The record after the rotation. -/
  reward : Reward
  deriving DecidableEq, Repr

namespace Rotation

/-- Reward that may be withdrawn after the rotation. -/
def confirmed (rotation : Rotation) : Int := rotation.reward.confirmed

end Rotation

namespace Records

/-- The record in a row. -/
def ofRow (row : RewardRow) : Except Failure Reward := do
  return { confirmed := ← readCell row.confirmed, pending := ← readCell row.pending,
           lastEra := row.lastEra }

/-- Whether an account has a row. -/
def contains (account : String) : Transaction Bool := do
  return (← get).rewards.contains account

/-- Record of an account. -/
def find (account : String) : Transaction Reward := do
  match (← get).rewards.get? account with
  | none => return {}
  | some row => ofRow row

/-- Stores a row for an account. -/
def putRow (account : String) (row : RewardRow) : Transaction Unit := do
  let lastEra ← bindColumn row.lastEra
  modify fun tables =>
    { tables with rewards := tables.rewards.insert account { row with lastEra } }

/-- Stores the record of an account. -/
def put (account : String) (reward : Reward) : Transaction Unit :=
  putRow account
    ⟨Integer.write reward.confirmed, Integer.write reward.pending, reward.lastEra⟩

/-- Removes the record of an account. -/
def drop (account : String) : Transaction Unit :=
  modify fun tables => { tables with rewards := tables.rewards.erase account }

/-- Total of the era that a rotation closes; zero when none is closed. -/
def closedTotal (closing : Bool) (reward : Reward) : Transaction Int :=
  if closing then Volumes.totalOf reward.lastEra else return 0

/-- Rotation of the record of an account to an era, without storing it. -/
def preview (budget : Int) (account : String) (era : Int) (incoming : Amount) :
    Transaction Rotation := do
  let reward ← find account
  let closing := era ≠ reward.lastEra ∧ 0 < reward.pending
  let total ← closedTotal closing reward
  let (next, awarded) ← reward.rotate era incoming.val total budget
  return { awarded, rotated := closing, reward := next }

/-- Rotation of the record of an account to an era. -/
def rotate (budget : Int) (account : String) (era : Int) (incoming : Amount) :
    Transaction Rotation := do
  let rotation ← preview budget account era incoming
  put account rotation.reward
  return rotation

/-- Withdraws the confirmed reward of an account and answers how much it was. -/
def take (account : String) : Transaction Int := do
  if ← contains account then
    let reward ← find account
    if 0 < reward.pending then put account { reward with confirmed := 0 } else drop account
    return reward.confirmed
  else throw (.ledger (.noRewardRecord (.text account)))

/-- Record of an account of any kind; one without a name has the record of zeros. -/
def findValue (account : Value) : Transaction Reward := do
  match ← bindText account with
  | some account => find account
  | none => return {}

/-- Whether an account of any kind has a row that can be found. -/
def containsValue (account : Value) : Transaction Bool := do
  match ← bindText account with
  | some account => contains account
  | none => return false

/-- Removes the record of an account of any kind. -/
def dropValue (account : Value) : Transaction Unit := do
  match ← bindText account with
  | some account => drop account
  | none => return ()

/-- Stores a row for an account of any kind; without a name it becomes one more nameless row. -/
def putRowValue (account : Value) (row : RewardRow) : Transaction Unit := do
  match ← bindText account with
  | some account => putRow account row
  | none =>
    let lastEra ← bindColumn row.lastEra
    modify fun tables => { tables with nameless := tables.nameless ++ [{ row with lastEra }] }

/-- Stores a record with fields of any kind for an account of any kind. -/
def putValues (account : Value) (record : UnreadReward) : Transaction Unit := do
  let confirmed ← record.confirmed.written
  let pending ← record.pending.written
  putRowValue account ⟨confirmed, pending, ← record.lastEra.toInt⟩

/-- Preview of a rotation with account, volume and era of any kind.  Whether an era is closed is
decided by the era as it was given, the rotation itself by the integer that it stands for. -/
def previewValues (budget : Int) (account era incoming : Value) : Transaction Rotation := do
  let incoming ← Amount.ofArgument "volume" incoming
  let reward ← findValue account
  let closing := !era.equals (.int reward.lastEra) && decide (0 < reward.pending)
  let total ← closedTotal closing reward
  let (next, awarded) ← reward.rotate (← era.toInt) incoming.val total budget
  return { awarded, rotated := closing, reward := next }

/-- Rotation with account, volume and era of any kind. -/
def rotateValues (budget : Int) (account era incoming : Value) : Transaction Rotation := do
  let rotation ← previewValues budget account era incoming
  putValues account (UnreadReward.ofReward rotation.reward)
  return rotation

/-- Withdraws the confirmed reward of an account of any kind. -/
def takeValue (account : Value) : Transaction Int := do
  match ← bindText account with
  | some name =>
    if ← contains name then take name else throw (.ledger (.noRewardRecord account))
  | none => throw (.ledger (.noRewardRecord account))

end Records
end EraRewards
