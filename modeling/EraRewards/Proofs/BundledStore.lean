import EraRewards.Proofs.Deployment

/-!
# The store that comes with the ledger

The balance store that comes with the ledger keeps balances in the tables, as decimal text like every
other amount.  As long as only this store has written balances, all of them can be read back, and a
credit fails only where a balance would grow too large or where its token does not fit a column.
-/

namespace EraRewards

open Effect

namespace Tables

variable {t : Tables}

/-- Balances that can be read back. -/
def Legible (t : Tables) : Prop :=
  ∀ key cell, t.balances.get? key = some cell → ∃ amount : Amount, cell = Integer.write amount.val

namespace Legible

theorem setBalance (legible : t.Legible) {n : Int} (nonneg : 0 ≤ n) (le_max : n ≤ maxAmount)
    (token : Int) (account : String) : (t.setBalance token account n).Legible := by
  intro key cell found
  simp only [Tables.setBalance, Table.get?_insert] at found
  split at found
  · obtain ⟨m, rfl⟩ := Int.eq_ofNat_of_zero_le nonneg
    exact ⟨⟨m, Int.ofNat_le.1 le_max⟩, (Option.some.inj found).symm⟩
  · exact legible key cell found

theorem settle (legible : t.Legible) (account : String) (r : Reward) :
    (t.settle account r).Legible := by
  intro key cell found
  rw [balances_settle] at found
  exact legible key cell found

theorem balance_eq (legible : t.Legible) (token : Int) (account : String) :
    ∃ amount : Amount, t.balance token account = amount.val := by
  rw [balance]
  cases found : t.balances.get? ⟨token, account⟩ with
  | none => exact ⟨⟨0, Nat.zero_le _⟩, rfl⟩
  | some cell =>
      obtain ⟨amount, rfl⟩ := legible _ cell found
      exact ⟨amount, cellValue_write (Int.natCast_nonneg _) (Int.ofNat_le.2 amount.le_max)⟩

theorem balance_nonneg (legible : t.Legible) (token : Int) (account : String) :
    0 ≤ t.balance token account := by
  obtain ⟨amount, balance_eq⟩ := legible.balance_eq token account
  exact balance_eq ▸ Int.natCast_nonneg _

theorem balance_le (legible : t.Legible) (token : Int) (account : String) :
    t.balance token account ≤ maxAmount := by
  obtain ⟨amount, balance_eq⟩ := legible.balance_eq token account
  exact balance_eq ▸ Int.ofNat_le.2 amount.le_max

end Legible
end Tables

namespace Balances

theorem balanceOf_named {t : Tables} (legible : t.Legible) (token : Int) (account : String) :
    balanceOf token account t.balances =
      (bindColumn token).map fun _ => t.balance token account := by
  rw [balanceOf, bindColumn]
  by_cases fits : fitsColumn token = true
  · rw [if_pos fits, ok_bind, Account.column, ok_bind, Tables.balance]
    cases found : t.balances.get? ⟨token, account⟩ with
    | none => rfl
    | some cell =>
        obtain ⟨amount, rfl⟩ := legible _ cell found
        have amount_le : (amount.val : Int) ≤ maxAmount := Int.ofNat_le.2 amount.le_max
        rw [cellValue_write (Int.natCast_nonneg _) amount_le]
        exact readCell_write (Int.natCast_nonneg _) amount_le
  · rw [if_neg fits]
    rfl

/-- Crediting fails at a token that does not fit its column or at a balance that grows too large. -/
theorem credit_run {t : Tables} (legible : t.Legible) (token : Int) (account : String)
    (amount : Amount) :
    (credit token account amount.val).run.run t.balances =
      match bindColumn token with
      | .error failure => (.error failure, t.balances)
      | .ok _ =>
        match Amount.checkedSum "balance" (t.balance token account) amount.val with
        | .error error => (.error (.ledger error), t.balances)
        | .ok balance =>
          (.ok (), t.balances.insert ⟨token, account⟩ (Integer.write balance)) := by
  have measured : Amount.ofArgument "amount" (.int amount.val) = .ok amount := by
    simp [Amount.ofArgument, Amount.ofNamed, Amount.ofValue?]
  rw [credit, run_bind, run_liftLedger, measured]
  simp only [Except.mapError]
  rw [run_bind, run_get]
  dsimp only
  rw [run_bind, run_lift, balanceOf_named legible]
  cases bindColumn token with
  | error failure => rfl
  | ok column =>
      simp only [Except.map]
      rw [run_bind, run_liftLedger]
      cases Amount.checkedSum "balance" (t.balance token account) amount.val <;> rfl

end Balances

/-- Ledgers that pay their claims in a token, through the store that comes with the ledger. -/
def Service.PaysIn (s : Service) (token : Int) : Prop :=
  s.balances = .bundled ∧ s.parameters.token = token

namespace Service.PaysIn

variable {s : Service} {token : Int}

theorem of_start {env : Environment} {parameters : Parameters} {before after : Database}
    (opened : start env parameters .bundled before = (.ok s, after)) :
    s.PaysIn s.parameters.token :=
  ⟨by rw [eq_of_start opened], rfl⟩

/-- A credit adds to one balance, or fails and says what its store says. -/
theorem credit_run (pays : s.PaysIn token) {t : Tables} (legible : t.Legible) (account : String)
    {amount : Int} (nonneg : 0 ≤ amount) (le_max : amount ≤ maxAmount) :
    (s.credit account amount).run.run t =
      match bindColumn token with
      | .error failure => (.error (creditFailure account amount failure), t)
      | .ok _ =>
        match Amount.checkedSum "balance" (t.balance token account) amount with
        | .error error => (.error (.ledger error), t)
        | .ok balance => (.ok (), t.setBalance token account balance) := by
  obtain ⟨bundled, rfl⟩ := pays
  obtain ⟨n, rfl⟩ := Int.eq_ofNat_of_zero_le nonneg
  have store_run := Balances.credit_run legible s.parameters.token account ⟨n, Int.ofNat_le.1 le_max⟩
  rw [Service.credit_run, bundled, BalanceStore.bundled, store_run]
  cases bindColumn s.parameters.token with
  | error failure => rfl
  | ok column =>
      dsimp only
      cases Amount.checkedSum "balance" (t.balance s.parameters.token account) n <;> rfl

theorem eq_setBalance (pays : s.PaysIn token) {t after : Tables} (legible : t.Legible)
    {account : String} {amount : Int} (nonneg : 0 ≤ amount) (le_max : amount ≤ maxAmount)
    (credited : (s.credit account amount).run.run t = (.ok (), after)) :
    t.balance token account + amount ≤ maxAmount ∧
      after = t.setBalance token account (t.balance token account + amount) := by
  rw [pays.credit_run legible account nonneg le_max] at credited
  split at credited
  · cases credited
  · split at credited
    · cases credited
    · rename_i summed
      obtain ⟨bounded, rfl⟩ := Amount.checkedSum_eq_ok_iff.1 summed
      cases credited
      exact ⟨bounded, rfl⟩

end Service.PaysIn

theorem Service.Commits.legible {s : Service} {before after : Tables} {entry : Entry}
    (commits : s.Commits before entry after) (sound : before.Sound) (bundled : s.balances = .bundled)
    (legible : before.Legible) : after.Legible := by
  have storable := commits.storable sound
  cases commits with
  | report something era_nonneg era_le bounded rotated => exact legible
  | @payment account era rotation after something era_nonneg era_le rotated credited =>
      have settled := legible.settle account rotation.reward
      have pays : s.PaysIn s.parameters.token := ⟨bundled, rfl⟩
      obtain ⟨bounded, rfl⟩ := pays.eq_setBalance settled storable.confirmed_nonneg
        storable.confirmed_le credited
      exact settled.setBalance
        (add_nonneg (settled.balance_nonneg _ _) storable.confirmed_nonneg) bounded _ _

/-- Balances that only the store that comes with the ledger has written can be read back. -/
theorem History.legible {ledgers : Set Service} {journal : List Entry} {t : Tables}
    (history : History ledgers journal t) (bundled : ∀ s ∈ ledgers, s.balances = .bundled) :
    t.Legible := by
  induction history with
  | empty => exact fun _ _ found => by cases found
  | stamped history stamp legible => exact legible
  | committed history member commits legible =>
      exact commits.legible history.sound (bundled _ member) legible

/-! ## Questions -/

namespace History

variable {ledgers : Set Service} {journal : List Entry} {s : Service} {node : Node}

theorem rewardOf_eq (history : History ledgers journal node.database.tables) {account : Value}
    {name : String} (named : accountOfValue account = .ok name) :
    ((Service.rewardOf account).run.run node).1 = .ok (node.database.tables.record name) := by
  rw [Service.rewardOf, run_bind, run_liftLedger, named]
  exact congrArg Prod.fst (Records.find_run history.sound name)

theorem totalVolume_eq (history : History ledgers journal node.database.tables) {at_ : Value}
    {era : Int} (dated : s.parameters.eraOf at_ = .ok era) :
    ((s.totalVolume at_).run.run node).1 = .ok (node.database.tables.total era) := by
  obtain ⟨nonneg, le_max⟩ := Parameters.eraOf_bounds dated
  rw [Service.totalVolume, run_bind, run_liftLedger, dated]
  exact congrArg Prod.fst (Volumes.totalOf_run history.sound nonneg le_max)

theorem balanceOf_eq (history : History ledgers journal node.database.tables)
    (bundled : ∀ s ∈ ledgers, s.balances = .bundled) (member : s ∈ ledgers) {account : Value}
    {name : String} (named : accountOfValue account = .ok name) (token : Int) :
    ((s.balanceOf account (.int token)).run.run node).1 =
      (bindColumn token).map fun _ => node.database.tables.balance token name := by
  rw [Service.balanceOf, run_bind, run_liftLedger, named, bundled s member]
  exact Balances.balanceOf_named (history.legible bundled) token name

end History

theorem Service.balanceOf_null (s : Service) (account : Value) :
    s.balanceOf account .null = s.balanceOf account (.int s.parameters.token) := rfl

end EraRewards
