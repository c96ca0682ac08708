import EraRewards.Amount
import EraRewards.Era

/-!
# Parameters of a ledger

The length of an era, the budget of an era and the token that claims are paid in.  They are fixed
once a ledger has been written with them.
-/

namespace EraRewards

/-- Accepted parameters. -/
structure Parameters where
  /-- Ticks in an era. -/
  eraDuration : Int
  /-- An era has at least one tick. -/
  eraDuration_pos : 0 < eraDuration
  /-- Reward that is shared out for an era. -/
  budget : Amount
  /-- Token in which claims are paid. -/
  token : Int

namespace Parameters

/-- Parameters in arguments of any kind. -/
def ofValues (eraDuration budget token : Value) : Except Failure Parameters := do
  let ⟨eraDuration, eraDuration_pos⟩ ← Era.durationOfValue eraDuration
  match Amount.ofValue? budget with
  | none => throw (.config (.budgetKind budget))
  | some budget => return { eraDuration, eraDuration_pos, budget, token := ← token.toInt }

/-- First tick of the era around a tick, which must be one that can be stored. -/
def eraOf (p : Parameters) (tick : Value) : Except LedgerError Int := do
  let tick ← Era.tickOfValue tick
  if maxTick < tick then throw (.tickOutOfRange tick)
  else return Era.startOf tick p.eraDuration

end Parameters
end EraRewards
