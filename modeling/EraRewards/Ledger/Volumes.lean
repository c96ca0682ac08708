import EraRewards.Amount
import EraRewards.Storage.Database

/-!
# Volume totals

The total of an era is the volume of all accounts in it.  An era without a row has total zero.
-/

namespace EraRewards
namespace Volumes

/-- Total volume of an era. -/
def totalOf (era : Int) : Transaction Int := do
  let era ← bindColumn era
  match (← get).totals.get? era with
  | none => return 0
  | some cell => readCell cell

/-- Stores a text as the total of an era. -/
def setCell (era : Int) (cell : String) : Transaction Unit := do
  let era ← bindColumn era
  modify fun tables => { tables with totals := tables.totals.insert era cell }

/-- The key of a row that is stored without one: the one after the greatest. -/
def nextKey (tables : Tables) : Int :=
  match tables.totals.rows.getLast? with
  | some row => row.1 + 1
  | none => 1

/-- Stores a text as the total of an era of any kind. -/
def setCellOfValue (era : Value) (cell : String) : Transaction Unit := do
  match ← bindKey era with
  | some era => setCell era cell
  | none => setCell (nextKey (← get)) cell

/-- Adds volume to the total of an era and answers the new total. -/
def accumulate (era : Int) (delta : Amount) : Transaction Int := do
  let total ← Amount.checkedSum "era_volume" (← totalOf era) delta.val
  setCell era (Integer.write total)
  return total

/-- Adds volume of any kind to the total of an era of any kind. -/
def accumulateValues (era delta : Value) : Transaction Int := do
  let delta ← Amount.ofArgument "volume" delta
  accumulate (← era.toInt) delta

end Volumes
end EraRewards
