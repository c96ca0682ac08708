import EraRewards.Proofs.BundledStore
import EraRewards.Proofs.VolumeConservation

/-!
# When calls succeed

Volume and balances are conserved, so a call to a ledger fails for no other reason than an older era
or a sum that grows too large.  What a report of volume and a claim answer is a function of the
record of the account, the totals and the balance, and the failures of corrupted tables never occur.
-/

namespace EraRewards

open Effect

namespace Amount

theorem checkedSum_of_le (what : String) {a b : Int} (le_max : a + b ≤ maxAmount) :
    checkedSum what a b = .ok (a + b) := if_pos le_max

theorem checkedSum_of_gt (what : String) {a b : Int} (large : maxAmount < a + b) :
    checkedSum what a b = .error (.sumOverflow what (Integer.write a) (Integer.write b)) :=
  if_neg large.not_ge

end Amount

namespace Reward

/-- Reward that turning to an era awards: the pro-rata part of what is pending in another era. -/
def awardAt (r : Reward) (era total budget : Int) : Int :=
  if era ≠ r.lastEra ∧ 0 < r.pending then proRata r.pending total budget else 0

theorem awardAt_nonneg {r : Reward} {total budget : Int} (total_nonneg : 0 ≤ total)
    (budget_nonneg : 0 ≤ budget) (era : Int) : 0 ≤ r.awardAt era total budget := by
  rw [awardAt]
  split
  · rename_i closing
    exact proRata_nonneg closing.2.le total_nonneg budget_nonneg
  · exact le_rfl

/-- A storable record whose era covers its pending volume fails to turn only to an earlier era or when
its confirmed reward grows too large. -/
theorem rotation_eq {r : Reward} (storable : r.Storable) {era incoming total : Int}
    (pending_le : r.pending ≤ total)
    (room : era = r.lastEra → r.pending + incoming ≤ maxAmount) (budget : Int) :
    r.rotation era incoming total budget =
      if era < r.lastEra then .error (.eraBeforeLastUpdate era r.lastEra)
      else if maxAmount < r.confirmed + r.awardAt era total budget then
        .error (.sumOverflow "confirmed" (Integer.write r.confirmed)
          (Integer.write (r.awardAt era total budget)))
      else
        .ok ⟨r.awardAt era total budget, era ≠ r.lastEra ∧ 0 < r.pending,
          { confirmed := r.confirmed + r.awardAt era total budget
            pending := if era = r.lastEra then r.pending + incoming else incoming
            lastEra := era }⟩ := by
  have confirmed_le := storable.confirmed_le.not_gt
  rcases lt_trichotomy era r.lastEra with earlier | current | later
  · rw [rotation_of_lt earlier, if_pos earlier]
  · rw [rotation_of_eq current, Amount.checkedSum_of_le _ (room current),
      if_neg current.not_lt]
    simp [awardAt, current, confirmed_le, Except.map]
  · rw [if_neg later.not_gt]
    rcases storable.pending_nonneg.eq_or_lt with nothing | something
    · rw [rotation_of_idle later nothing.symm]
      simp [awardAt, ← nothing, later.ne', confirmed_le]
    · have total_pos := something.trans_le pending_le
      have awarded : r.awardAt era total budget = award r.pending total budget := by
        rw [awardAt, if_pos ⟨later.ne', something⟩,
          award_eq_proRata something.le pending_le total_pos]
      rw [rotation_of_closing later something total_pos, awarded]
      by_cases large : maxAmount < r.confirmed + award r.pending total budget
      · rw [Amount.checkedSum_of_gt _ large, if_pos large]
        rfl
      · rw [Amount.checkedSum_of_le _ (not_lt.1 large), if_neg large]
        simp [something, later.ne', Except.map]

end Reward

namespace Tables

variable (t : Tables)

/-- Reward that turning its record to an era awards to an account. -/
def awardAt (budget : Int) (account : String) (era : Int) : Int :=
  (t.record account).awardAt era (t.total (t.record account).lastEra) budget

/-- Answer to a report of volume, in the order in which the checks of a report come. -/
def reportAnswer (budget : Int) (account : String) (volume era : Int) : Except Failure Int :=
  let r := t.record account
  let award := t.awardAt budget account era
  if maxAmount < t.total era + volume then
    .error (.ledger
      (.sumOverflow "era_volume" (Integer.write (t.total era)) (Integer.write volume)))
  else if era < r.lastEra then .error (.ledger (.eraBeforeLastUpdate era r.lastEra))
  else if maxAmount < r.confirmed + award then
    .error (.ledger (.sumOverflow "confirmed" (Integer.write r.confirmed) (Integer.write award)))
  else .ok era

/-- Failure of a report of volume for an account that no column takes. -/
def unencodableReport (volume era : Int) : Failure :=
  if maxAmount < t.total era + volume then
    .ledger (.sumOverflow "era_volume" (Integer.write (t.total era)) (Integer.write volume))
  else .unencodable

/-- Answer to a claim that is credited in a token. -/
def claimAnswer (budget token : Int) (account : String) (era : Int) : Except Failure Int :=
  let r := t.record account
  let award := t.awardAt budget account era
  let balance := t.balance token account
  if era < r.lastEra then .error (.ledger (.eraBeforeLastUpdate era r.lastEra))
  else if maxAmount < r.confirmed + award then
    .error (.ledger (.sumOverflow "confirmed" (Integer.write r.confirmed) (Integer.write award)))
  else if maxAmount < balance + (r.confirmed + award) then
    .error (.ledger (.sumOverflow "balance" (Integer.write balance)
      (Integer.write (r.confirmed + award))))
  else .ok (r.confirmed + award)

end Tables

namespace History

variable {ledgers : Set Service} {journal : List Entry} {t : Tables} {s : Service} {node : Node}

/-- Since no record holds more pending than the total of its era, no rotation divides by zero. -/
theorem rotation_eq (history : History ledgers journal t) (account : String) {era incoming : Int}
    (room : era = (t.record account).lastEra → (t.record account).pending + incoming ≤ maxAmount)
    (budget : Int) :
    t.rotation budget account era incoming =
      if era < (t.record account).lastEra then
        .error (.eraBeforeLastUpdate era (t.record account).lastEra)
      else if maxAmount < (t.record account).confirmed + t.awardAt budget account era then
        .error (.sumOverflow "confirmed" (Integer.write (t.record account).confirmed)
          (Integer.write (t.awardAt budget account era)))
      else
        .ok ⟨t.awardAt budget account era,
          era ≠ (t.record account).lastEra ∧ 0 < (t.record account).pending,
          { confirmed := (t.record account).confirmed + t.awardAt budget account era
            pending :=
              if era = (t.record account).lastEra then (t.record account).pending + incoming
              else incoming
            lastEra := era }⟩ :=
  Reward.rotation_eq (history.sound.storable account) (history.pending_le_total account) room budget

/-- A report of volume that is not zero answers by the totals and the record of its account. -/
theorem recordVolume_eq (history : History ledgers journal node.database.tables)
    (admitted : node.database.contention.refusal? = none) {account volume at_ : Value} {name : String}
    {amount : Amount} {era : Int} (asked : s.reportOf account volume at_ = .ok (name, amount, era))
    (something : amount.val ≠ 0) :
    ((s.recordVolume account volume at_).run.run node).1 =
      node.database.tables.reportAnswer s.parameters.budget.val name amount.val era := by
  obtain ⟨era_nonneg, era_le⟩ := Parameters.eraOf_bounds (Service.reportOf_eq_ok asked).2.2
  rw [Service.recordVolume_answer asked something, Database.write_outcome admitted,
    s.book_run history.sound name amount era_nonneg era_le, Tables.reportAnswer]
  by_cases large : maxAmount < node.database.tables.total era + amount.val
  · rw [Amount.checkedSum_of_gt _ large, if_pos large]
    rfl
  · have covered := history.pending_le_total name
    have room (current : era = (node.database.tables.record name).lastEra) :
        (node.database.tables.record name).pending + amount.val ≤ maxAmount := by
      rw [← current] at covered
      omega
    rw [Amount.checkedSum_of_le _ (not_lt.1 large), if_neg large, history.rotation_eq name room]
    by_cases earlier : era < (node.database.tables.record name).lastEra
    · simp only [if_pos earlier]
      rfl
    · by_cases exceeds : maxAmount < (node.database.tables.record name).confirmed +
          node.database.tables.awardAt s.parameters.budget.val name era
      · simp only [if_neg earlier, if_pos exceeds]
        rfl
      · simp only [if_neg earlier, if_neg exceeds]
        rfl

/-- A report of volume for an account that no column takes fails where its record would be looked up,
unless the total of the era grows too large before that. -/
theorem recordVolume_broken (history : History ledgers journal node.database.tables)
    (admitted : node.database.contention.refusal? = none) {account volume at_ : Value}
    {letters : List Letter} {amount : Amount} {era : Int}
    (asked : s.reportOf account volume at_ = .ok (.broken letters, amount, era))
    (something : amount.val ≠ 0) :
    ((s.recordVolume account volume at_).run.run node).1 =
      .error (node.database.tables.unencodableReport amount.val era) := by
  obtain ⟨era_nonneg, era_le⟩ := Parameters.eraOf_bounds (Service.reportOf_eq_ok asked).2.2
  rw [Service.recordVolume_answer asked something, Database.write_outcome admitted,
    s.book_broken_run history.sound letters amount era_nonneg era_le, Tables.unencodableReport]
  by_cases large : maxAmount < node.database.tables.total era + amount.val
  · rw [Amount.checkedSum_of_gt _ large, if_pos large]
    rfl
  · rw [Amount.checkedSum_of_le _ (not_lt.1 large), if_neg large]
    rfl

/-- A claim answers by the record of its account and, if it pays anything, by what comes of its
credit. -/
theorem claim_eq_credited (history : History ledgers journal node.database.tables)
    (admitted : node.database.contention.refusal? = none) {account at_ : Value} {name : String}
    {era : Int} (asked : s.claimOf account at_ node.clock = .ok (name, era)) :
    let t := node.database.tables
    let r := t.record name
    let award := t.awardAt s.parameters.budget.val name era
    ∃ turned : Reward, ((s.claim account at_).run.run node).1 =
      if era < r.lastEra then .error (.ledger (.eraBeforeLastUpdate era r.lastEra))
      else if maxAmount < r.confirmed + award then
        .error (.ledger (.sumOverflow "confirmed" (Integer.write r.confirmed) (Integer.write award)))
      else if r.confirmed + award = 0 then .ok 0
      else ((s.credit name (r.confirmed + award)).run.run (t.settle name turned)).1.map
        fun _ => r.confirmed + award := by
  intro t r award
  obtain ⟨era_nonneg, era_le⟩ := Service.claimOf_bounds asked
  have room (_ : era = r.lastEra) : r.pending + 0 ≤ maxAmount :=
    (add_zero _).le.trans (history.sound.storable name).pending_le
  refine ⟨{ confirmed := r.confirmed + award, lastEra := era,
            pending := if era = r.lastEra then r.pending + 0 else 0 }, ?_⟩
  rw [Service.claim_answer asked, Database.write_outcome admitted,
    s.payOut_run history.sound name era_nonneg era_le, history.rotation_eq name room]
  by_cases earlier : era < r.lastEra
  · simp only [t, r, if_pos earlier]
    rfl
  by_cases exceeds : maxAmount < r.confirmed + award
  · simp only [t, r, award, if_neg earlier, if_pos exceeds]
    rfl
  by_cases nothing : r.confirmed + award = 0
  · simp only [t, r, award, if_neg earlier, Rotation.confirmed, nothing, if_true]
    rfl
  · simp only [t, r, award, if_neg earlier, if_neg exceeds, Rotation.confirmed, nothing, if_false]
    rcases (s.credit name (r.confirmed + award)).run.run (t.settle name _) with ⟨_ | _, _⟩ <;> rfl

/-- A claim answers by the record and the balance of its account. -/
theorem claim_eq (history : History ledgers journal node.database.tables)
    (bundled : ∀ s ∈ ledgers, s.balances = .bundled) (member : s ∈ ledgers)
    (fits : fitsColumn s.parameters.token = true)
    (admitted : node.database.contention.refusal? = none) {account at_ : Value} {name : String}
    {era : Int} (asked : s.claimOf account at_ node.clock = .ok (name, era)) :
    ((s.claim account at_).run.run node).1 =
      node.database.tables.claimAnswer s.parameters.budget.val s.parameters.token name era := by
  have storable := history.sound.storable name
  have legible := history.legible bundled
  have pays : s.PaysIn s.parameters.token := ⟨bundled s member, rfl⟩
  have column : bindColumn s.parameters.token = .ok s.parameters.token := if_pos fits
  have award_nonneg : 0 ≤ node.database.tables.awardAt s.parameters.budget.val name era :=
    Reward.awardAt_nonneg (history.sound.total_nonneg _) (Int.natCast_nonneg _) era
  obtain ⟨turned, answered⟩ := history.claim_eq_credited admitted asked
  rw [answered, Tables.claimAnswer]
  by_cases earlier : era < (node.database.tables.record name).lastEra
  · simp only [if_pos earlier]
  by_cases exceeds : maxAmount < (node.database.tables.record name).confirmed +
      node.database.tables.awardAt s.parameters.budget.val name era
  · simp only [if_neg earlier, if_pos exceeds]
  simp only [if_neg earlier, if_neg exceeds]
  by_cases nothing : (node.database.tables.record name).confirmed +
      node.database.tables.awardAt s.parameters.budget.val name era = 0
  · have balance_le := (legible.balance_le s.parameters.token name).not_gt
    simp only [nothing, if_true, add_zero, if_neg balance_le]
  · simp only [nothing, if_false]
    rw [pays.credit_run (legible.settle _ _) name
      (add_nonneg storable.confirmed_nonneg award_nonneg) (not_lt.1 exceeds), column,
      Tables.balance_settle]
    by_cases full : maxAmount < node.database.tables.balance s.parameters.token name +
        ((node.database.tables.record name).confirmed +
          node.database.tables.awardAt s.parameters.budget.val name era)
    · rw [if_pos full]
      dsimp only
      rw [Amount.checkedSum_of_gt _ full]
      rfl
    · rw [if_neg full]
      dsimp only
      rw [Amount.checkedSum_of_le _ (not_lt.1 full)]
      rfl

end History

theorem Service.rewardOf_broken {account : Value} {letters : List Letter}
    (named : accountOfValue account = .ok (.broken letters)) (node : Node) :
    ((rewardOf account).run.run node).1 = .error .unencodable := by
  rw [rewardOf, run_bind, run_liftLedger, named]
  rfl

theorem Tables.reportAnswer_eq_ok_iff {t : Tables} {budget volume era : Int} {account : String} :
    (∃ answer, t.reportAnswer budget account volume era = .ok answer) ↔
      t.total era + volume ≤ maxAmount ∧ (t.record account).lastEra ≤ era ∧
        (t.record account).confirmed + t.awardAt budget account era ≤ maxAmount := by
  simp only [reportAnswer]
  split
  · simp; omega
  · split
    · simp; omega
    · split
      · simp; omega
      · simp; omega

theorem Tables.claimAnswer_eq_ok_iff {t : Tables} (legible : t.Legible) {budget token era : Int}
    {account : String} :
    (∃ answer, t.claimAnswer budget token account era = .ok answer) ↔
      (t.record account).lastEra ≤ era ∧
        t.balance token account + (t.record account).confirmed + t.awardAt budget account era ≤
          maxAmount := by
  have balance_nonneg := legible.balance_nonneg token account
  simp only [claimAnswer]
  split
  · simp; omega
  · split
    · simp; omega
    · split
      · simp; omega
      · simp; omega

/-- A report of volume that is not zero succeeds exactly if no other writer holds the database, the
era is not before that of the record, and neither the total nor the confirmed reward grows too
large. -/
theorem History.recordVolume_succeeds_iff {ledgers : Set Service} {journal : List Entry} {s : Service}
    {node : Node} (history : History ledgers journal node.database.tables)
    {account volume at_ : Value} {name : String} {amount : Amount} {era : Int}
    (asked : s.reportOf account volume at_ = .ok (name, amount, era)) (something : amount.val ≠ 0) :
    let t := node.database.tables
    (∃ answer, ((s.recordVolume account volume at_).run.run node).1 = .ok answer) ↔
      node.database.contention.refusal? = none ∧ t.total era + amount.val ≤ maxAmount ∧
        (t.record name).lastEra ≤ era ∧
        (t.record name).confirmed + t.awardAt s.parameters.budget.val name era ≤ maxAmount := by
  intro t
  cases refusal : node.database.contention.refusal? with
  | some failure => simp [Service.recordVolume_of_refusal asked something refusal]
  | none =>
      rw [history.recordVolume_eq refusal asked something, Tables.reportAnswer_eq_ok_iff]
      simp only [true_and, t]

/-! ## Failures that never occur -/

/-- Rejections for which stored volumes would have to disagree. -/
def LedgerError.IsFatal (error : LedgerError) : Prop :=
  error.code = .divideByZero ∨ error.code = .rewardNotFound ∨
    error.reason = .text "pending_vol_overflow"

/-- Failures for which stored volumes would have to disagree. -/
def Failure.IsFatal : Failure → Prop
  | .ledger error => error.IsFatal
  | .shareKind | .shareRange _ | .shareOfNothing => True
  | _ => False

theorem not_isFatal_of_accountOfValue {account : Value} {error : LedgerError}
    (refused : accountOfValue account = .error error) : ¬error.IsFatal := by
  rw [accountOfValue.eq_def] at refused
  split at refused
  · dsimp only at refused
    split at refused
    · cases refused
      simp [LedgerError.IsFatal, LedgerError.missingAccount]
    · cases refused
  · cases refused
  · cases refused
    simp [LedgerError.IsFatal, LedgerError.missingAccount]

theorem not_isFatal_of_ofArgument {field : String} {value : Value} {error : LedgerError}
    (refused : Amount.ofArgument field value = .error error) : ¬error.IsFatal := by
  rw [Amount.ofArgument, Amount.ofNamed] at refused
  split at refused
  · cases refused
  · cases refused
    simp [LedgerError.IsFatal, LedgerError.notAmount]

theorem Parameters.not_isFatal_of_eraOf {p : Parameters} {tick : Value} {error : LedgerError}
    (refused : p.eraOf tick = .error error) : ¬error.IsFatal := by
  rcases error_of_bind refused with bad | ⟨n, -, late⟩
  · rw [Era.tickOfValue.eq_def] at bad
    split at bad
    · split at bad
      · cases bad
      · cases bad
        simp [LedgerError.IsFatal, LedgerError.badTick]
    · cases bad
      simp [LedgerError.IsFatal, LedgerError.badTick]
  · split at late
    · cases late
      simp [LedgerError.IsFatal, LedgerError.tickOutOfRange]
    · cases late

theorem Value.not_isFatal_of_toInt {value : Value} {failure : Failure}
    (unread : value.toInt = .error failure) : ¬failure.IsFatal := by
  rw [toInt.eq_def] at unread
  split at unread
  · cases unread
  · cases unread
  · split at unread <;> cases unread <;> exact id
  · split at unread <;> cases unread
    exact id
  · cases unread
    exact id

theorem Contention.not_isFatal_of_refusal {contention : Contention} {failure : Failure}
    (refused : contention.refusal? = some failure) : ¬failure.IsFatal := by
  cases contention <;> cases refused <;> exact id

theorem Tables.not_isFatal_of_reportAnswer {t : Tables} {budget volume era : Int} {account : String}
    {failure : Failure} (failed : t.reportAnswer budget account volume era = .error failure) :
    ¬failure.IsFatal := by
  simp only [reportAnswer] at failed
  split at failed
  · cases failed
    simp [Failure.IsFatal, LedgerError.IsFatal, LedgerError.sumOverflow]
  · split at failed
    · cases failed
      simp [Failure.IsFatal, LedgerError.IsFatal, LedgerError.eraBeforeLastUpdate]
    · split at failed
      · cases failed
        simp [Failure.IsFatal, LedgerError.IsFatal, LedgerError.sumOverflow]
      · cases failed

theorem Tables.not_isFatal_unencodableReport (t : Tables) (volume era : Int) :
    ¬(t.unencodableReport volume era).IsFatal := by
  rw [unencodableReport]
  split <;> simp [Failure.IsFatal, LedgerError.IsFatal, LedgerError.sumOverflow]

theorem Tables.not_isFatal_of_claimAnswer {t : Tables} {budget token era : Int} {account : String}
    {failure : Failure} (failed : t.claimAnswer budget token account era = .error failure) :
    ¬failure.IsFatal := by
  simp only [claimAnswer] at failed
  split at failed
  · cases failed
    simp [Failure.IsFatal, LedgerError.IsFatal, LedgerError.eraBeforeLastUpdate]
  · split at failed
    · cases failed
      simp [Failure.IsFatal, LedgerError.IsFatal, LedgerError.sumOverflow]
    · split at failed
      · cases failed
        simp [Failure.IsFatal, LedgerError.IsFatal, LedgerError.sumOverflow]
      · cases failed

namespace History

variable {ledgers : Set Service} {journal : List Entry} {s : Service} {node : Node}

theorem not_isFatal_of_recordVolume (history : History ledgers journal node.database.tables)
    {account volume at_ : Value} {failure : Failure}
    (failed : ((s.recordVolume account volume at_).run.run node).1 = .error failure) :
    ¬failure.IsFatal := by
  cases asked : s.reportOf account volume at_ with
  | error error =>
      obtain ⟨after, run_eq, -⟩ := s.recordVolume_run account volume at_ node
      simp only [run_eq, Service.reported, asked] at failed
      cases failed
      rcases error_of_bind asked with unnamed | ⟨name, -, asked⟩
      · exact not_isFatal_of_accountOfValue unnamed
      rcases error_of_bind asked with unmeasured | ⟨amount, -, asked⟩
      · exact not_isFatal_of_ofArgument unmeasured
      rcases error_of_bind asked with undated | ⟨era, -, asked⟩
      · exact Parameters.not_isFatal_of_eraOf undated
      · cases asked
  | ok request =>
      obtain ⟨holder, amount, era⟩ := request
      by_cases nothing : amount.val = 0
      · rw [Service.recordVolume_run_of_nothing asked nothing] at failed
        cases failed
      · cases refusal : node.database.contention.refusal? with
        | some refused =>
            rw [Service.recordVolume_of_refusal asked nothing refusal] at failed
            cases failed
            exact Contention.not_isFatal_of_refusal refusal
        | none =>
            cases holder with
            | named name =>
                rw [history.recordVolume_eq refusal asked nothing] at failed
                exact Tables.not_isFatal_of_reportAnswer failed
            | broken letters =>
                rw [history.recordVolume_broken refusal asked nothing] at failed
                obtain rfl := Except.error.inj failed
                exact Tables.not_isFatal_unencodableReport _ _ _

theorem not_isFatal_of_claim (history : History ledgers journal node.database.tables)
    (bundled : ∀ s ∈ ledgers, s.balances = .bundled) (member : s ∈ ledgers)
    (fits : fitsColumn s.parameters.token = true) {account at_ : Value} {failure : Failure}
    (failed : ((s.claim account at_).run.run node).1 = .error failure) : ¬failure.IsFatal := by
  cases asked : s.claimOf account at_ node.clock with
  | error refused =>
      obtain ⟨after, run_eq, -⟩ := s.claim_run account at_ node
      simp only [run_eq, Service.claimed, asked] at failed
      cases failed
      rcases error_of_bind asked with unnamed | ⟨name, -, asked⟩
      · obtain ⟨error, refused, rfl⟩ := error_of_mapError unnamed
        exact not_isFatal_of_accountOfValue refused
      rcases error_of_bind asked with unread | ⟨tick, -, asked⟩
      · rw [Service.tickOf.eq_def] at unread
        split at unread
        · cases reading : node.clock.next.toInt with
          | error failure =>
              rw [reading] at unread
              cases unread
              exact Value.not_isFatal_of_toInt reading
          | ok tick =>
              rw [reading] at unread
              cases unread
        · cases unread
      rcases error_of_bind asked with undated | ⟨era, -, asked⟩
      · obtain ⟨error, refused, rfl⟩ := error_of_mapError undated
        exact Parameters.not_isFatal_of_eraOf refused
      · cases asked
  | ok request =>
      obtain ⟨holder, era⟩ := request
      cases refusal : node.database.contention.refusal? with
      | some refused =>
          rw [Service.claim_answer asked, Database.write_of_refusal refusal] at failed
          cases failed
          exact Contention.not_isFatal_of_refusal refusal
      | none =>
          cases holder with
          | named name =>
              rw [history.claim_eq bundled member fits refusal asked] at failed
              exact Tables.not_isFatal_of_claimAnswer failed
          | broken letters =>
              rw [Service.claim_broken asked, refusal] at failed
              cases failed
              exact id

end History

theorem Share.ofValues_of_pos (num : Int) {den : Int} (den_pos : 0 < den) :
    Share.ofValues (.int num) (.int den) = .ok (Share.ofRatio num den) :=
  if_neg den_pos.not_ge

theorem Share.ofParts_parts (share : Share) : Share.ofParts (.int share.parts) = .ok share := by
  have range : 0 ≤ (share.parts : Int) ∧ (share.parts : Int) ≤ wholeParts :=
    ⟨Int.natCast_nonneg _, Int.ofNat_le.2 share.le_whole⟩
  simp [ofParts, range.2]

/-- The share that a rotation takes of an era can be formed, and makes its pro-rata part. -/
theorem History.exists_share {ledgers : Set Service} {journal : List Entry} {t : Tables}
    (history : History ledgers journal t) {account : String}
    (something : 0 < (t.record account).pending) (budget : Int) :
    ∃ share,
      Share.ofValues (.int (t.record account).pending)
          (.int (t.total (t.record account).lastEra)) = .ok share ∧
        Share.ofParts (.int share.parts) = .ok share ∧
        share.mulFloor budget =
          proRata (t.record account).pending (t.total (t.record account).lastEra) budget := by
  have covered := history.pending_le_total account
  have total_pos := something.trans_le covered
  exact ⟨_, Share.ofValues_of_pos _ total_pos, Share.ofParts_parts _,
    Reward.award_eq_proRata something.le covered total_pos budget⟩

/-- In a deployment whose ledgers pay through the store that comes with them, a report of volume
succeeds exactly if the era is not before that of the record and neither the total nor the confirmed
reward grows too large, and a claim succeeds exactly if the era is not before that of the record and
the balance does not grow too large.  An account that no column takes has no record that could be
looked up, and neither call succeeds for it.  The share of an era can always be formed, and no call
fails for tables that do not belong together. -/
theorem calls_succeed_iff {node : Node} {steps : List Deployment.Step} {s : Service}
    (bundled : ∀ opening, .opening opening ∈ steps → opening.balances = .bundled)
    (present : ((Deployment.new node).run steps).ledger = some s)
    (fits : fitsColumn s.parameters.token = true) (contention : Contention) :
    let now := ((Deployment.new node).run steps).node.facing contention
    let t := now.database.tables
    let budget : Int := s.parameters.budget.val
    let token := s.parameters.token
    (∀ (account : Value) (name : String) (tick : Int), contention.refusal? = none →
      accountOfValue account = .ok name → 0 ≤ tick → tick ≤ maxTick →
      let r := t.record name
      let era := Era.startOf tick s.parameters.eraDuration
      let claimed := ((s.claim account (.int tick)).run.run now).1
      (∀ volume : Amount, volume.val ≠ 0 →
        let reported := ((s.recordVolume account (.int volume.val) (.int tick)).run.run now).1
        reported = t.reportAnswer budget name volume.val era ∧
          ((∃ answer, reported = .ok answer) ↔
            t.total era + volume.val ≤ maxAmount ∧ r.lastEra ≤ era ∧
              r.confirmed + t.awardAt budget name era ≤ maxAmount)) ∧
        claimed = t.claimAnswer budget token name era ∧
        ((∃ answer, claimed = .ok answer) ↔
          r.lastEra ≤ era ∧
            t.balance token name + r.confirmed + t.awardAt budget name era ≤ maxAmount)) ∧
    (∀ (account : Value) (letters : List Letter) (tick : Int), contention.refusal? = none →
      accountOfValue account = .ok (.broken letters) → 0 ≤ tick → tick ≤ maxTick →
      ((Service.rewardOf account).run.run now).1 = .error .unencodable ∧
      (∀ volume : Amount, volume.val ≠ 0 →
        ((s.recordVolume account (.int volume.val) (.int tick)).run.run now).1 =
          .error (t.unencodableReport volume.val (Era.startOf tick s.parameters.eraDuration))) ∧
        ((s.claim account (.int tick)).run.run now).1 = .error .unencodable) ∧
    (∀ account, 0 < (t.record account).pending →
      ∃ share,
        Share.ofValues (.int (t.record account).pending)
            (.int (t.total (t.record account).lastEra)) = .ok share ∧
          Share.ofParts (.int share.parts) = .ok share ∧
          share.mulFloor budget =
            proRata (t.record account).pending (t.total (t.record account).lastEra) budget) ∧
    ∀ account volume at_ failure,
      ((s.recordVolume account volume at_).run.run now).1 = .error failure ∨
          ((s.claim account at_).run.run now).1 = .error failure →
        ¬failure.IsFatal := by
  intro now t budget token
  have history : History {s | s.balances = .bundled} _ now.database.tables :=
    History.deployed_bundled node bundled
  have member : s ∈ {s : Service | s.balances = .bundled} :=
    Deployment.bundled_of_present bundled present
  have legible := history.legible fun _ pays => pays
  refine ⟨fun account name tick admitted named nonneg le_max => ?_,
    fun account letters tick admitted named nonneg le_max =>
      ⟨Service.rewardOf_broken named now, fun volume something => ?_, ?_⟩,
    fun account something => ?_, fun account volume at_ failure failed => ?_⟩
  · have answers := history.claim_eq (fun _ pays => pays) member fits admitted
      (s.claimOf_int named nonneg le_max now.clock)
    refine ⟨fun volume something => ?_, answers, ?_⟩
    · have answered := history.recordVolume_eq admitted
        (s.reportOf_int named volume nonneg le_max) something
      exact ⟨answered, by rw [answered]; exact Tables.reportAnswer_eq_ok_iff⟩
    · rw [answers]
      exact Tables.claimAnswer_eq_ok_iff legible
  · exact history.recordVolume_broken admitted (s.reportOf_int named volume nonneg le_max) something
  · have refusal : now.database.contention.refusal? = none := admitted
    rw [Service.claim_broken (s.claimOf_int named nonneg le_max now.clock), refusal]
    rfl
  · exact history.exists_share something budget
  · rcases failed with failed | failed
    · exact history.not_isFatal_of_recordVolume failed
    · exact history.not_isFatal_of_claim (fun _ pays => pays) member fits failed

/-- Two accounts share an era, and the database is opened again with shorter eras, another budget and
another token. -/
def reopenedSteps : List Deployment.Step :=
  [.opening ⟨.free, .empty, .int 100, .int 1000000, .int 0, .bundled, default, .absent⟩,
    .turn ⟨.free, .recordVolume (.text "a") (.int 30) (.int 0)⟩,
    .turn ⟨.free, .recordVolume (.text "b") (.int 70) (.int 50)⟩,
    .opening ⟨.free, .empty, .int 10, .int 7, .int 3, .bundled, default, .absent⟩,
    .turn ⟨.free, .recordVolume (.text "b") (.int 5) (.int 105)⟩]

/-- The ledger of the second opening. -/
def Service.reopened : Service := ⟨⟨10, by decide, ⟨7, by decide⟩, 3⟩, .bundled⟩

/-- Then one account may claim, and the other may not report in the era before its last; an account of
half a surrogate pair may do neither. -/
theorem calls_succeed_iff_sample :
    ((Deployment.new .empty).run reopenedSteps).ledger = some .reopened ∧
      let now := ((Deployment.new .empty).run reopenedSteps).node.facing .free
      (∃ answer, ((Service.reopened.claim (.text "a") (.int 99)).run.run now).1 = .ok answer) ∧
        (¬∃ answer, ((Service.reopened.recordVolume (.text "b") (.int 1) (.int 99)).run.run
          now).1 = .ok answer) ∧
        ((Service.reopened.claim (.broken [.half 0xD800]) (.int 99)).run.run now).1 =
          .error .unencodable := by
  have bundled : ∀ opening, Deployment.Step.opening opening ∈ reopenedSteps →
      opening.balances = .bundled := by
    intro opening member
    simp only [reopenedSteps, List.mem_cons, List.not_mem_nil, Deployment.Step.opening.injEq,
      reduceCtorEq, false_or, or_false] at member
    rcases member with rfl | rfl <;> rfl
  have present : ((Deployment.new .empty).run reopenedSteps).ledger = some .reopened := by rfl
  obtain ⟨answers, refusals, -⟩ := calls_succeed_iff bundled present rfl .free
  refine ⟨present, ?_, ?_, ?_⟩
  · exact (answers (.text "a") "a" 99 rfl rfl (by decide) (by decide)).2.2.2 (by decide +kernel)
  · have refused := (answers (.text "b") "b" 99 rfl rfl (by decide) (by decide)).1
      ⟨1, by decide⟩ (by decide)
    exact mt refused.2.1 (by decide +kernel)
  · exact (refusals (.broken [.half 0xD800]) [.half 0xD800] 99 rfl rfl (by decide) (by decide)).2.2

end EraRewards
