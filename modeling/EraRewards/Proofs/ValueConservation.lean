import EraRewards.Proofs.BundledStore

/-!
# Conservation of value

With the balance store that comes with the ledger, every reward that was awarded to an account is
either still confirmed in its record or in its balance, and the balance is what its claims answered.
A claim that answers nothing has looked at a rotation that awards nothing.
-/

namespace EraRewards

open Effect

namespace Tables

variable {t : Tables} {token : Int}

/-- Balances that can be read back, all of them in one token. -/
def Banked (t : Tables) (token : Int) : Prop :=
  ∀ key cell, t.balances.get? key = some cell →
    key.token = token ∧ ∃ amount : Amount, cell = Integer.write amount.val

theorem Banked.setBalance (banked : t.Banked token) {n : Int} (nonneg : 0 ≤ n)
    (le_max : n ≤ maxAmount) (account : String) : (t.setBalance token account n).Banked token := by
  intro key cell found
  simp only [Tables.setBalance, Table.get?_insert] at found
  split at found
  · rename_i same
    obtain ⟨m, rfl⟩ := Int.eq_ofNat_of_zero_le nonneg
    exact ⟨congrArg BalanceKey.token same, ⟨m, Int.ofNat_le.1 le_max⟩, (Option.some.inj found).symm⟩
  · exact banked key cell found

theorem Banked.legible (banked : t.Banked token) : t.Legible :=
  fun key cell found => (banked key cell found).2

end Tables

namespace Service.Commits

variable {s : Service} {before after : Tables} {entry : Entry} {token : Int}

/-- What a change does to balances, for a ledger that pays through the store that comes with it. -/
theorem balances_eq (commits : s.Commits before entry after) (sound : before.Sound)
    (pays : s.PaysIn token) (banked : before.Banked token) :
    after.Banked token ∧ ∀ account,
      after.balance token account = before.balance token account + entry.paidTo account := by
  have storable := commits.storable sound
  cases commits with
  | @report account volume here rotation something here_nonneg here_le bounded rotated =>
      refine ⟨banked, fun other => ?_⟩
      have unpaid : (if account = other then (0 : Int) else 0) = 0 := ite_self 0
      exact (add_zero _).symm.trans (congrArg _ unpaid.symm)
  | @payment account here rotation after something here_nonneg here_le rotated credited =>
      have settled : (before.settle account rotation.reward).Banked token := by
        intro key cell found
        rw [Tables.balances_settle] at found
        exact banked key cell found
      obtain ⟨bounded, rfl⟩ := pays.eq_setBalance settled.legible storable.confirmed_nonneg
        storable.confirmed_le credited
      have balance_nonneg :=
        add_nonneg (settled.legible.balance_nonneg token account) storable.confirmed_nonneg
      refine ⟨settled.setBalance balance_nonneg bounded account, fun other => ?_⟩
      rw [Tables.balance_setBalance balance_nonneg bounded, Tables.balance_settle,
        Tables.balance_settle, Entry.paidTo]
      by_cases own : other = account
      · subst own
        simp [Rotation.confirmed]
      · simp [own, Ne.symm own]

/-- What is awarded to an account stays confirmed until it is paid. -/
theorem confirmed_eq (commits : s.Commits before entry after) (sound : before.Sound)
    (account : String) :
    (after.record account).confirmed + entry.paidTo account =
      (before.record account).confirmed + entry.awardedTo account := by
  have turned := (commits.turns sound).confirmed_eq
  rw [Entry.paidTo, Entry.awardedTo]
  by_cases own : entry.account = account
  · rw [if_pos own, if_pos own, ← own, ← turned]
    rcases commits.record_eq sound with ⟨record_eq, unpaid⟩ | ⟨record_eq, paid⟩
    · rw [record_eq, unpaid, add_zero]
    · rw [record_eq, paid, Reward.settled_confirmed, zero_add]
  · rw [if_neg own, if_neg own, commits.record_of_ne sound (Ne.symm own)]

end Service.Commits

namespace History

variable {ledgers : Set Service} {journal : List Entry} {t : Tables} {token : Int}

theorem banked (history : History ledgers journal t) (paying : ∀ s ∈ ledgers, s.PaysIn token) :
    t.Banked token := by
  induction history with
  | empty => exact fun _ _ found => by cases found
  | stamped history stamp banked => exact banked
  | committed history member commits banked =>
      exact (commits.balances_eq history.sound (paying _ member) banked).1

/-- The balance of an account is what its claims have answered. -/
theorem balance_eq (history : History ledgers journal t) (paying : ∀ s ∈ ledgers, s.PaysIn token)
    (account : String) : t.balance token account = Entry.sum (Entry.paidTo · account) journal := by
  induction history with
  | empty => rfl
  | stamped history stamp induction => exact induction
  | committed history member commits induction =>
      have moved := commits.balances_eq history.sound (paying _ member) (history.banked paying)
      rw [Entry.sum_concat, moved.2 account, induction]

/-- What was awarded to an account is paid or still confirmed. -/
theorem confirmed_add (history : History ledgers journal t) (account : String) :
    (t.record account).confirmed + Entry.sum (Entry.paidTo · account) journal =
      Entry.sum (Entry.awardedTo · account) journal := by
  induction history with
  | empty => rfl
  | stamped history stamp induction => exact induction
  | committed history member commits induction =>
      have moved := commits.confirmed_eq history.sound account
      rw [Entry.sum_concat, Entry.sum_concat]
      omega

end History

/-- A claim that answers nothing leaves the tables alone, and the rotation that it looked at awards
nothing. -/
theorem Service.rotation_of_claim_zero {s : Service} {node : Node}
    (sound : node.database.tables.Sound) {account at_ : Value}
    (answered : ((s.claim account at_).run.run node).1 = .ok 0) :
    ((s.claim account at_).run.run node).2.database.tables = node.database.tables ∧
      ∃ (name : String) (era : Int) (rotation : Rotation),
        s.claimOf account at_ node.clock = .ok (name, era) ∧
        node.database.tables.rotation s.parameters.budget.val name era 0 = .ok rotation ∧
        (node.database.tables.record name).confirmed = 0 ∧ rotation.awarded = 0 := by
  obtain ⟨name, era, rotation, asked, written⟩ := claim_eq_ok answered
  obtain ⟨era_nonneg, era_le⟩ := claimOf_bounds asked
  obtain ⟨rotated, unconfirmed, unchanged⟩ :=
    eq_of_payOut_nothing sound rfl era_nonneg era_le (Database.run_of_write written)
  have turned := Records.turns_of_rotation sound rotated
  have awarded_nonneg := turned.awarded_nonneg (Int.natCast_nonneg _)
  have confirmed_nonneg := (sound.storable name).confirmed_nonneg
  have confirmed_eq := turned.confirmed_eq
  rw [Rotation.confirmed] at unconfirmed
  exact ⟨unchanged, name, era, rotation, asked, rotated, by omega, by omega⟩

/-- In every run of a ledger that pays through the store that comes with it, the balance of an account
and its confirmed reward are together what was awarded to it, and the balance is what its claims have
answered.  No other token is ever written, and a claim that answers nothing discards no award. -/
theorem value_conserved {env : Environment} {parameters : Parameters} {s : Service} {db : Database}
    (opened : Service.start env parameters .bundled .empty = (.ok s, db)) (node : Node)
    (turns : List Turn) :
    let now := s.run turns (node.on db)
    let journal := s.journal turns (node.on db)
    (∀ account,
      now.database.tables.balance s.parameters.token account +
          (now.database.tables.record account).confirmed =
        Entry.sum (Entry.awardedTo · account) journal ∧
      now.database.tables.balance s.parameters.token account =
        Entry.sum (Entry.paidTo · account) journal) ∧
    (∀ token account, token ≠ s.parameters.token →
      now.database.tables.balances.get? ⟨token, account⟩ = none) ∧
    ∀ contention account at_,
      ((s.claim account at_).run.run (now.facing contention)).1 = .ok 0 →
        ((s.claim account at_).run.run (now.facing contention)).2.database.tables =
          now.database.tables ∧
        ∃ (name : String) (era : Int) (rotation : Rotation),
          s.claimOf account at_ now.clock = .ok (name, era) ∧
          now.database.read (Records.preview s.parameters.budget.val name era .zero) =
            .ok rotation ∧
          rotation.awarded = 0 := by
  intro now journal
  have history : History {s} journal now.database.tables := History.started opened node turns
  have paying : ∀ other ∈ ({s} : Set Service), other.PaysIn s.parameters.token := by
    rintro other rfl
    exact .of_start opened
  refine ⟨fun account => ?_, fun token account foreign => ?_, fun contention account at_ zero => ?_⟩
  · have balance_eq := history.balance_eq paying account
    have confirmed_add := history.confirmed_add account
    exact ⟨by omega, balance_eq⟩
  · cases found : now.database.tables.balances.get? ⟨token, account⟩ with
    | none => rfl
    | some cell => exact absurd (history.banked paying _ cell found).1 foreign
  · have sound : (now.facing contention).database.tables.Sound := history.sound
    obtain ⟨unchanged, name, era, rotation, asked, rotated, -, unawarded⟩ :=
      Service.rotation_of_claim_zero sound zero
    refine ⟨unchanged, name, era, rotation, asked, ?_, unawarded⟩
    have zero_val : ((Amount.zero.val : Nat) : Int) = 0 := rfl
    rw [Database.read, Records.preview_run history.sound, zero_val]
    exact congrArg (Except.mapError Failure.ledger) rotated

/-- Two accounts share an era; one of them claims, at first in vain, the other trades on. -/
theorem value_conserved_sample :
    let turns : List Turn :=
      [⟨.free, .recordVolume (.text "a") (.int 30) (.int 0)⟩,
        ⟨.free, .recordVolume (.text "b") (.int 70) (.int 0)⟩,
        ⟨.held, .claim (.text "a") (.int 100)⟩,
        ⟨.free, .claim (.text "a") (.int 100)⟩,
        ⟨.free, .recordVolume (.text "b") (.int 5) (.int 199)⟩]
    let now := Service.sample.run turns (Node.empty.on .stamped)
    Service.start .empty .sample .bundled .empty = (.ok .sample, .stamped) ∧
      now.database.tables.balance 0 "a" = 300000 ∧
      now.database.tables.balance 0 "b" + (now.database.tables.record "b").confirmed = 700000 := by
  intro turns now
  have opened : Service.start .empty .sample .bundled .empty = (.ok .sample, .stamped) :=
    Service.start_empty .sample .bundled
  have conserved := (value_conserved opened .empty turns).1
  exact ⟨opened, (conserved "a").2.trans (by decide +kernel),
    (conserved "b").1.trans (by decide +kernel)⟩

end EraRewards
