import EraRewards.Amount
import EraRewards.Share

/-!
# Reward records

A record holds what an account may withdraw and the volume that it has traded in the latest era in
which it was active.  Turning to a later era converts that volume into a share of the era's budget;
this is the rotation of the record.  A rotation needs nothing but the total of the closed era, so it
may happen at any later time.
-/

namespace EraRewards

/-- Accrual record of one account. -/
structure Reward where
  /-- Finalised reward, withdrawn by a claim. -/
  confirmed : Int := 0
  /-- Volume of the era `lastEra`, not yet converted. -/
  pending : Int := 0
  /-- First tick of the era for which the record was last changed. -/
  lastEra : Int := 0
  deriving DecidableEq, Repr, Inhabited

namespace Reward

/-- Interchange form of a record; the 128-bit fields are texts. -/
def toValue (r : Reward) : Value :=
  .object [("confirmed", .text (Integer.write r.confirmed)),
    ("pending_vol", .text (Integer.write r.pending)), ("last_modify_era", .int r.lastEra)]

/-- Part of an era's budget that falls to the pending volume, given the total of that era. -/
def award (pending total budget : Int) : Int := (Share.ofRatio pending total).mulFloor budget

/-- Rotation of a record to an era in which `incoming` volume is added.  `total` is the volume of
the era `r.lastEra`, which is looked at only when that era has closed with pending volume.  Answers
the new record and the reward that was awarded. -/
def rotate (r : Reward) (era incoming total budget : Int) : Except LedgerError (Reward × Int) :=
  if era = r.lastEra then do
    let pending ← Amount.checkedSum "pending_vol" r.pending incoming
    return ({ r with pending }, 0)
  else if era < r.lastEra then
    -- The total of an earlier era may still grow.
    .error (.eraBeforeLastUpdate era r.lastEra)
  else if r.pending = 0 then .ok ({ r with pending := incoming, lastEra := era }, 0)
  else if total ≤ 0 then .error (.eraTotalIsZero r.lastEra (.int r.pending))
  else do
    let awarded := award r.pending total budget
    let confirmed ← Amount.checkedSum "confirmed" r.confirmed awarded
    return ({ confirmed, pending := incoming, lastEra := era }, awarded)

end Reward

/-- A record whose fields have not been read as integers. -/
structure UnreadReward where
  /-- Finalised reward. -/
  confirmed : Value
  /-- Volume that is not yet converted. -/
  pending : Value
  /-- Era of the last change. -/
  lastEra : Value

namespace UnreadReward

/-- A record whose fields are integers. -/
def ofReward (r : Reward) : UnreadReward := ⟨.int r.confirmed, .int r.pending, .int r.lastEra⟩

/-- Interchange form of a record. -/
def toValue (r : UnreadReward) : Except Failure Value := do
  return .object [("confirmed", .text (← r.confirmed.written)),
    ("pending_vol", .text (← r.pending.written)), ("last_modify_era", .int (← r.lastEra.toInt))]

/-- The record after a rotation that converts its pending volume, and the reward that was awarded. -/
def convert (r : UnreadReward) (era incoming total budget : Value) :
    Except Failure (UnreadReward × Int) := do
  let awarded ← (← Share.ofValues r.pending total).mulFloorOfValue budget
  let confirmed ← Amount.checkedSumOfValues "confirmed" r.confirmed (.int awarded)
  let incoming ← incoming.toInt
  return (⟨.int confirmed, .int incoming, .int (← era.toInt)⟩, awarded)

/-- Rotation of a record by arguments of any kind.  Fields and arguments are compared as they are,
and each is read as an integer only where it is used. -/
def rotate (r : UnreadReward) (era incoming total budget : Value) :
    Except Failure (UnreadReward × Int) := do
  if era.equals r.lastEra then
    let pending ← Amount.checkedSumOfValues "pending_vol" r.pending incoming
    return ({ r with pending := .int pending }, 0)
  else if ← era.precedes r.lastEra then
    let era ← era.toInt
    throw (.ledger (.eraBeforeLastUpdate era (← r.lastEra.toInt)))
  else if r.pending.equals (.int 0) then
    let incoming ← incoming.toInt
    return ({ r with pending := .int incoming, lastEra := .int (← era.toInt) }, 0)
  else if (← total.toInt) ≤ 0 then
    throw (.ledger (.eraTotalIsZero (← r.lastEra.toInt) r.pending))
  else r.convert era incoming total budget

end UnreadReward
end EraRewards
