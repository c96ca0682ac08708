import EraRewards.Account
import EraRewards.Amount
import EraRewards.Storage.Database

/-!
# Balances

A claim is credited to a balance store, which also tells balances.  The bundled store keeps token
balances in the database of the ledger; any other store writes there what it likes through the open
transaction and must fail if the credit did not happen.
-/

namespace EraRewards

/-- Token balances of accounts. -/
abbrev Balances := Table BalanceKey String

/-- A step on the balances alone. -/
abbrev BalanceStep (α : Type) : Type := ExceptT Failure (StateM Balances) α

/-- An asset ledger that credits claims. -/
structure BalanceStore where
  /-- Adds an amount to the balance of an account. -/
  credit (token : Int) (account : String) (amount : Int) : BalanceStep Unit
  /-- Balance of an account; to tell it changes nothing. -/
  balanceOf (token : Int) (account : Account) (balances : Balances) : Except Failure Int

namespace Balances

/-- A step on the balances as a step of a transaction. -/
def within {α : Type} (step : BalanceStep α) : Transaction α :=
  ExceptT.mk fun tables =>
    let (result, balances) := step.run.run tables.balances
    (result, { tables with balances })

/-- Balance of an account; zero without a row. -/
def balanceOf (token : Int) (account : Account) (balances : Balances) : Except Failure Int := do
  let token ← bindColumn token
  let name ← account.column
  match balances.get? ⟨token, name⟩ with
  | none => return 0
  | some cell => readCell cell

/-- Adds an amount to the balance of an account. -/
def credit (token : Int) (account : String) (amount : Int) : BalanceStep Unit := do
  let amount ← Amount.ofArgument "amount" (.int amount)
  let balance ← Amount.checkedSum "balance" (← balanceOf token account (← get)) amount.val
  modify fun balances => balances.insert ⟨token, account⟩ (Integer.write balance)

/-- Adds an amount of any kind; the amount is checked before the token. -/
def creditValues (token : Value) (account : String) (amount : Value) : BalanceStep Unit := do
  let amount ← Amount.ofArgument "amount" amount
  credit (← token.toInt) account amount.val

end Balances

namespace BalanceStore

/-- The store in the database of the ledger. -/
def bundled : BalanceStore := ⟨Balances.credit, Balances.balanceOf⟩

/-- A store that takes no credits. -/
def offline : BalanceStore where
  credit _ _ _ := throw (.foreign "RuntimeError" "asset ledger offline")
  balanceOf := Balances.balanceOf

/-- A store that fails after it has written the credit. -/
def failingLate : BalanceStore where
  credit token account amount := do
    Balances.credit token account amount
    throw (.foreign "KeyError" "'late failure'")
  balanceOf := Balances.balanceOf

/-- A store that refuses every credit. -/
def refusing : BalanceStore where
  credit _ _ _ := throw (.ledger ⟨.creditFailed, .text "refused", .null⟩)
  balanceOf := Balances.balanceOf

end BalanceStore
end EraRewards
