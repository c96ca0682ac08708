import EraRewards.Storage.Column
import EraRewards.Table

/-!
# Stored tables

What a database holds: a reward record per account, a volume total per era, a balance per token and
account, and the version of the schema.  Amounts are stored as decimal text because they do not fit
a 64-bit column; era keys and token ids do fit, and are refused otherwise.
-/

open Std (TransOrd LawfulEqOrd)

namespace EraRewards

/-- Stored form of a reward record. -/
structure RewardRow where
  /-- Text of the confirmed reward. -/
  confirmed : String
  /-- Text of the pending volume. -/
  pending : String
  /-- Era of the last change. -/
  lastEra : Int
  deriving DecidableEq, Repr, Inhabited

/-- Key of a balance. -/
structure BalanceKey where
  /-- Token in which the balance is held. -/
  token : Int
  /-- Holder of the balance. -/
  account : String
  deriving DecidableEq, Repr, Inhabited

namespace BalanceKey

/-- Balances are ordered by token, then by account. -/
def order : BalanceKey → BalanceKey → Ordering :=
  compareLex (compareOn BalanceKey.token) (compareOn BalanceKey.account)

instance : Ord BalanceKey := ⟨order⟩

instance : TransOrd BalanceKey :=
  inferInstanceAs
    (Std.TransCmp (compareLex (compareOn BalanceKey.token) (compareOn BalanceKey.account)))

instance : LawfulEqOrd BalanceKey where
  eq_of_compare {a b} h := by
    obtain ⟨tokens, accounts⟩ := Ordering.then_eq_eq.1 h
    obtain ⟨ta, aa⟩ := a
    obtain ⟨tb, ab⟩ := b
    have ht : ta = tb := Std.LawfulEqCmp.eq_of_compare tokens
    have ha : aa = ab := Std.LawfulEqCmp.eq_of_compare accounts
    rw [ht, ha]

end BalanceKey

/-- Everything that a database holds. -/
structure Tables where
  /-- Reward records by account. -/
  rewards : Table String RewardRow
  /-- Reward records that were stored without an account, which no look-up finds. -/
  nameless : List RewardRow
  /-- Text of the volume total by era. -/
  totals : Table Int String
  /-- Text of the balance by token and account. -/
  balances : Table BalanceKey String
  /-- Text of the schema version; absent in a new database. -/
  schemaVersion : Option String

namespace Tables

/-- A new database. -/
def empty : Tables := ⟨.empty, [], .empty, .empty, none⟩

instance : Inhabited Tables := ⟨empty⟩

end Tables

end EraRewards
