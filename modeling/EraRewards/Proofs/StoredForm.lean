import EraRewards.Proofs.BundledStore
import EraRewards.Proofs.VolumeConservation
import Mathlib.Data.List.DropRight

/-!
# The form of what is stored

Everything that a ledger stores is in one normal form.  An amount is the decimal text of an unsigned
128-bit integer, an era is the first tick of a window, a name has no blanks around it, and there is a
row for an account or an era only if there is volume to keep in it.  So each question about what is
stored is answered, and answered by what was stored last.
-/

namespace EraRewards

open Effect

/-! ## Names and eras -/

/-- Nothing is left to trim from a list that has been trimmed. -/
theorem Text.trimBy_trimBy {α : Type} (p : α → Bool) (xs : List α) :
    trimBy p (trimBy p xs) = trimBy p xs := by
  have kept : (trimBy p xs).dropWhile p = trimBy p xs := by
    -- The trimmed list begins as the list does without its front, which begins with no blank.
    have start : trimBy p xs <+: xs.dropWhile p := List.rdropWhile_prefix p _
    have front := List.dropWhile_eq_self_iff.1 (List.dropWhile_idempotent p xs)
    rw [List.dropWhile_eq_self_iff]
    intro nonempty
    rw [start.getElem nonempty]
    exact front _
  calc trimBy p (trimBy p xs) = ((trimBy p xs).dropWhile p).rdropWhile p := rfl
    _ = (trimBy p xs).rdropWhile p := by rw [kept]
    _ = trimBy p xs := List.rdropWhile_idempotent p _

theorem Text.strip_strip (s : String) : strip (strip s) = strip s := by
  rw [strip, strip, String.toList_ofList, trimBy_trimBy]

/-- Names of accounts: texts that are not empty, without blanks around them. -/
def IsAccountName (name : String) : Prop := name ≠ "" ∧ Text.strip name = name

theorem isAccountName_of_accountOfValue {account : Value} {name : String}
    (named : accountOfValue account = .ok name) : IsAccountName name := by
  rw [accountOfValue.eq_def] at named
  split at named
  · rename_i s
    dsimp only at named
    split at named
    · cases named
    · rename_i nonempty
      cases named
      exact ⟨by simpa using nonempty, Text.strip_strip s⟩
  · cases named
  · cases named

namespace Era

/-- First ticks of eras that can be stored. -/
def IsStart (duration era : Int) : Prop := duration ∣ era ∧ 0 ≤ era ∧ era ≤ maxTick

theorem dvd_startOf (tick : Int) {duration : Int} (pos : 0 < duration) :
    duration ∣ startOf tick duration := by
  rw [startOf, Int.fmod_eq_emod_of_nonneg _ pos.le]
  exact Int.dvd_self_sub_of_emod_eq rfl

end Era

theorem Parameters.isStart_of_eraOf {p : Parameters} {tick : Value} {era : Int}
    (dated : p.eraOf tick = .ok era) : Era.IsStart p.eraDuration era := by
  have bounds := eraOf_bounds dated
  obtain ⟨n, -, -, -, rfl⟩ := eraOf_eq_ok dated
  exact ⟨Era.dvd_startOf n p.eraDuration_pos, bounds⟩

/-! ## Where entries are booked -/

/-- Entries for a named account and an era. -/
def Entry.Addressed (entry : Entry) (duration : Int) : Prop :=
  IsAccountName entry.account ∧ Era.IsStart duration entry.era

namespace Service

variable {s : Service}

theorem addressed_entryOfReport {account volume at_ : Value} {node : Node} {entry : Entry}
    (listed : s.entryOfReport account volume at_ node = some entry) :
    entry.Addressed s.parameters.eraDuration := by
  simp only [entryOfReport, Option.bind_eq_bind, Option.bind_eq_some_iff] at listed
  obtain ⟨era, answered, holder, named, listed⟩ := listed
  cases holder with
  | broken letters => cases listed
  | named name =>
      simp only [Option.bind_eq_some_iff] at listed
      obtain ⟨amount, -, -, -, found, -, rotation, -, made⟩ := listed
      cases made
      obtain ⟨_, _, asked, -⟩ := recordVolume_eq_ok (ok_of_toOption answered)
      exact ⟨isAccountName_of_accountOfValue (ok_of_toOption named),
        Parameters.isStart_of_eraOf (reportOf_eq_ok asked).2.2⟩

theorem addressed_entryOfClaim {account at_ : Value} {node : Node} {entry : Entry}
    (listed : s.entryOfClaim account at_ node = some entry) :
    entry.Addressed s.parameters.eraDuration := by
  simp only [entryOfClaim, Option.bind_eq_bind, Option.bind_eq_some_iff] at listed
  obtain ⟨amount, -, -, -, ⟨holder, era⟩, asked, listed⟩ := listed
  cases holder with
  | broken letters => cases listed
  | named name =>
      simp only [Option.bind_eq_some_iff] at listed
      obtain ⟨found, -, rotation, -, made⟩ := listed
      cases made
      obtain ⟨named, tick, -, dated⟩ := claimOf_eq_ok (ok_of_toOption asked)
      exact ⟨isAccountName_of_accountOfValue named, Parameters.isStart_of_eraOf dated⟩

theorem addressed_entryOf {turn : Turn} {node : Node} {entry : Entry}
    (listed : s.entryOf turn node = some entry) : entry.Addressed s.parameters.eraDuration := by
  rw [entryOf] at listed
  split at listed
  · exact addressed_entryOfReport listed
  · exact addressed_entryOfClaim listed
  · cases listed

/-- Whatever the arguments of its calls, a ledger books for named accounts at starts of eras. -/
theorem addressed_journal (turns : List Turn) (node : Node) :
    ∀ entry ∈ s.journal turns node, entry.Addressed s.parameters.eraDuration := by
  induction turns generalizing node with
  | nil => exact fun _ member => absurd member List.not_mem_nil
  | cons turn turns induction =>
      intro entry member
      rcases List.mem_append.1 member with first | later
      · exact addressed_entryOf (Option.mem_toList.1 first)
      · exact induction (s.serve turn node) entry later

end Service

/-! ## Keys of rows -/

namespace Tables

variable {t : Tables} {duration : Int}

/-- Tables with rows for named accounts and for starts of eras only, and with no total of nothing. -/
structure Keyed (t : Tables) (duration : Int) : Prop where
  /-- A record belongs to an account and was last changed in an era. -/
  rewards : ∀ account row, t.rewards.get? account = some row →
    IsAccountName account ∧ Era.IsStart duration row.lastEra
  /-- A total belongs to an era with volume. -/
  totals : ∀ era cell, t.totals.get? era = some cell →
    Era.IsStart duration era ∧ 0 < t.total era
  /-- A balance belongs to an account. -/
  balances : ∀ key cell, t.balances.get? key = some cell → IsAccountName key.account

namespace Keyed

theorem setTotal (keyed : t.Keyed duration) {era n : Int} (start : Era.IsStart duration era)
    (pos : 0 < n) (le_max : n ≤ maxAmount) : (t.setTotal era n).Keyed duration where
  rewards := keyed.rewards
  totals other cell found := by
    rw [total_setTotal pos.le le_max]
    simp only [Tables.setTotal, Table.get?_insert] at found
    split at found
    · rename_i same
      rw [if_pos same]
      exact ⟨same ▸ start, pos⟩
    · rename_i distinct
      rw [if_neg distinct]
      exact keyed.totals other cell found
  balances := keyed.balances

theorem setRecord (keyed : t.Keyed duration) {account : String} (named : IsAccountName account)
    {r : Reward} (start : Era.IsStart duration r.lastEra) : (t.setRecord account r).Keyed duration where
  rewards other row found := by
    simp only [Tables.setRecord, Table.get?_insert] at found
    split at found
    · rename_i same
      cases found
      exact ⟨same ▸ named, start⟩
    · exact keyed.rewards other row found
  totals := keyed.totals
  balances := keyed.balances

theorem dropRecord (keyed : t.Keyed duration) (account : String) :
    (t.dropRecord account).Keyed duration where
  rewards other row found := by
    simp only [Tables.dropRecord, Table.get?_erase] at found
    split at found
    · cases found
    · exact keyed.rewards other row found
  totals := keyed.totals
  balances := keyed.balances

theorem settle (keyed : t.Keyed duration) {account : String} (named : IsAccountName account)
    {r : Reward} (start : Era.IsStart duration r.lastEra) : (t.settle account r).Keyed duration := by
  rw [Tables.settle]
  split
  · exact keyed.setRecord named start
  · exact keyed.dropRecord account

theorem setBalance (keyed : t.Keyed duration) {account : String} (named : IsAccountName account)
    (token amount : Int) : (t.setBalance token account amount).Keyed duration where
  rewards := keyed.rewards
  totals := keyed.totals
  balances key cell found := by
    simp only [Tables.setBalance, Table.get?_insert] at found
    split at found
    · rename_i same
      rw [same]
      exact named
    · exact keyed.balances key cell found

end Keyed
end Tables

theorem Service.Commits.keyed {s : Service} {before after : Tables} {entry : Entry} {duration : Int}
    (commits : s.Commits before entry after) (sound : before.Sound) (bundled : s.balances = .bundled)
    (legible : before.Legible) (addressed : entry.Addressed duration)
    (keyed : before.Keyed duration) : after.Keyed duration := by
  obtain ⟨named, start⟩ := addressed
  have storable := commits.storable sound
  have lastEra_eq := (commits.turns sound).lastEra_eq
  cases commits with
  | @report account volume era rotation something era_nonneg era_le bounded rotated =>
      have total_pos : 0 < before.total era + volume.val := by
        have := sound.total_nonneg era
        omega
      exact (keyed.setTotal start total_pos bounded).setRecord named (lastEra_eq.symm ▸ start)
  | @payment account era rotation after something era_nonneg era_le rotated credited =>
      have pays : s.PaysIn s.parameters.token := ⟨bundled, rfl⟩
      obtain ⟨-, rfl⟩ := pays.eq_setBalance (legible.settle account rotation.reward)
        storable.confirmed_nonneg storable.confirmed_le credited
      exact (keyed.settle named (lastEra_eq.symm ▸ start)).setBalance named _ _

theorem History.keyed {ledgers : Set Service} {journal : List Entry} {t : Tables} {duration : Int}
    (history : History ledgers journal t) (bundled : ∀ s ∈ ledgers, s.balances = .bundled)
    (addressed : ∀ entry ∈ journal, entry.Addressed duration) : t.Keyed duration := by
  induction history with
  | empty =>
      exact ⟨fun _ _ found => (by cases found), fun _ _ found => (by cases found),
        fun _ _ found => (by cases found)⟩
  | stamped history stamp induction =>
      have keyed := induction addressed
      exact ⟨keyed.rewards, keyed.totals, keyed.balances⟩
  | @committed journal before after entry s history member commits induction =>
      exact commits.keyed history.sound (bundled _ member) (history.legible bundled)
        (addressed entry (List.mem_append_right _ (List.mem_singleton_self entry)))
        (induction fun other listed => addressed other (List.mem_append_left _ listed))

/-! ## The normal form -/

namespace Tables

variable {t : Tables}

/-- Cells that hold an amount in decimal. -/
def IsCell (cell : String) : Prop := ∃ amount : Amount, cell = Integer.write amount.val

theorem Sound.row_eq (sound : t.Sound) {account : String} {row : RewardRow}
    (found : t.rewards.get? account = some row) :
    ∃ confirmed pending : Amount, 0 < pending.val ∧
      row.confirmed = Integer.write confirmed.val ∧ row.pending = Integer.write pending.val ∧
      t.record account = ⟨confirmed.val, pending.val, row.lastEra⟩ := by
  obtain ⟨r, storable, something, rfl⟩ := sound.rewards account row found
  have record_eq : t.record account = r := by
    simp [record, found, RewardRow.reward_ofReward storable]
  obtain ⟨confirmed, pending, lastEra⟩ := r
  obtain ⟨c, rfl⟩ := Int.eq_ofNat_of_zero_le storable.confirmed_nonneg
  obtain ⟨p, rfl⟩ := Int.eq_ofNat_of_zero_le storable.pending_nonneg
  exact ⟨⟨c, Int.ofNat_le.1 storable.confirmed_le⟩, ⟨p, Int.ofNat_le.1 storable.pending_le⟩,
    Int.ofNat_lt.1 something, rfl, rfl, record_eq⟩

theorem Sound.cell_eq (sound : t.Sound) {era : Int} {cell : String}
    (found : t.totals.get? era = some cell) :
    ∃ amount : Amount, cell = Integer.write amount.val ∧ t.total era = amount.val := by
  obtain ⟨amount, rfl⟩ := sound.totals era cell found
  refine ⟨amount, rfl, ?_⟩
  rw [total, found, cellValue_write (Int.natCast_nonneg _) (Int.ofNat_le.2 amount.le_max)]

/-- Tables in normal form, for eras of a given number of ticks. -/
structure Canonical (t : Tables) (duration : Int) : Prop where
  /-- A record belongs to an account and to an era, in which it has volume pending. -/
  rewards : ∀ account row, t.rewards.get? account = some row →
    IsAccountName account ∧ Era.IsStart duration row.lastEra ∧ IsCell row.confirmed ∧
      ∃ pending : Amount, row.pending = Integer.write pending.val ∧ 0 < pending.val
  /-- Every record belongs to an account. -/
  nameless : t.nameless = []
  /-- A total belongs to an era with volume. -/
  totals : ∀ era cell, t.totals.get? era = some cell →
    Era.IsStart duration era ∧ ∃ total : Amount, cell = Integer.write total.val ∧ 0 < total.val
  /-- A record has its era among the totals, and no more volume pending than the total. -/
  covered : ∀ account row, t.rewards.get? account = some row →
    ∃ pending total : Amount, row.pending = Integer.write pending.val ∧
      t.totals.get? row.lastEra = some (Integer.write total.val) ∧ pending.val ≤ total.val
  /-- A balance belongs to an account. -/
  balances : ∀ key cell, t.balances.get? key = some cell → IsAccountName key.account ∧ IsCell cell

end Tables

namespace History

variable {ledgers : Set Service} {journal : List Entry} {t : Tables} {duration : Int}

/-- An account has a row exactly as long as it has volume pending. -/
theorem contains_iff (history : History ledgers journal t) (account : String) :
    t.rewards.contains account = true ↔ 0 < (t.record account).pending := by
  rw [Table.contains, Tables.record]
  cases found : t.rewards.get? account with
  | none => simp
  | some row =>
      obtain ⟨r, storable, something, rfl⟩ := history.sound.rewards account row found
      simpa [RewardRow.reward_ofReward storable] using something

theorem canonical (history : History ledgers journal t)
    (bundled : ∀ s ∈ ledgers, s.balances = .bundled)
    (addressed : ∀ entry ∈ journal, entry.Addressed duration) : t.Canonical duration := by
  have sound := history.sound
  have keyed := history.keyed bundled addressed
  refine ⟨fun account row found => ?_, sound.nameless, fun era cell found => ?_,
    fun account row found => ?_, fun key cell found => ?_⟩
  · obtain ⟨named, start⟩ := keyed.rewards account row found
    obtain ⟨confirmed, pending, something, confirmed_eq, pending_eq, -⟩ := sound.row_eq found
    exact ⟨named, start, ⟨confirmed, confirmed_eq⟩, pending, pending_eq, something⟩
  · obtain ⟨start, total_pos⟩ := keyed.totals era cell found
    obtain ⟨total, rfl, total_eq⟩ := sound.cell_eq found
    exact ⟨start, total, rfl, by omega⟩
  · obtain ⟨confirmed, pending, something, -, pending_eq, record_eq⟩ := sound.row_eq found
    have covered := history.pending_le_total account
    simp only [record_eq] at covered
    cases total_found : t.totals.get? row.lastEra with
    | none =>
        have total_zero : t.total row.lastEra = 0 := by
          rw [Tables.total, total_found]
          rfl
        omega
    | some cell =>
        obtain ⟨total, rfl, total_eq⟩ := sound.cell_eq total_found
        exact ⟨pending, total, pending_eq, rfl, by omega⟩
  · exact ⟨keyed.balances key cell found, history.legible bundled key cell found⟩

end History

/-- Whatever calls a ledger with the bundled store has served on an empty database, its tables are in
normal form: an account has a row exactly as long as it has volume pending, a cell reads as what was
written into it, and every question for a total, or for the record or a balance of an account that can
be stored, is answered. -/
theorem stored_form {env : Environment} {parameters : Parameters} {s : Service} {db : Database}
    (opened : Service.start env parameters .bundled .empty = (.ok s, db)) (node : Node)
    (turns : List Turn) :
    let now := s.run turns (node.on db)
    let t := now.database.tables
    t.Canonical s.parameters.eraDuration ∧
      (∀ account, t.rewards.contains account = true ↔ 0 < (t.record account).pending) ∧
      (∀ amount : Amount, readCell (Integer.write amount.val) = .ok amount.val) ∧
      (∀ (account : Value) (name : String), accountOfValue account = .ok name →
        ((Service.rewardOf account).run.run now).1 = .ok (t.record name) ∧
          ∀ token, fitsColumn token = true →
            ((s.balanceOf account (.int token)).run.run now).1 = .ok (t.balance token name)) ∧
      ∀ at_ era, s.parameters.eraOf at_ = .ok era →
        ((s.totalVolume at_).run.run now).1 = .ok (t.total era) := by
  intro now t
  have history : History {s} (s.journal turns (node.on db)) t := History.started opened node turns
  have bundled : ∀ ledger ∈ ({s} : Set Service), ledger.balances = .bundled := by
    rintro ledger rfl
    rw [Service.eq_of_start opened]
  refine ⟨history.canonical bundled (Service.addressed_journal turns (node.on db)),
    history.contains_iff,
    fun amount => readCell_write (Int.natCast_nonneg _) (Int.ofNat_le.2 amount.le_max),
    fun account name named => ⟨history.rewardOf_eq named, fun token fits => ?_⟩,
    fun at_ era dated => history.totalVolume_eq dated⟩
  have column : bindColumn token = .ok token := if_pos fits
  rw [history.balanceOf_eq bundled rfl named, column]
  rfl

/-- Reports under names with blanks and a claim by one of two accounts. -/
def blankTurns : List Turn :=
  [⟨.free, .recordVolume (.text " a\t") (.int 30) (.int 7)⟩,
    ⟨.free, .recordVolume (.text "b") (.int 70) (.int 99)⟩,
    ⟨.free, .recordVolume (.text "b ") (.int 0) (.int 250)⟩,
    ⟨.free, .claim (.text "\na") (.int 199)⟩]

/-- The account that has claimed has a balance and no row, and the other keeps its row. -/
theorem stored_form_sample :
    let t := (Service.sample.run blankTurns (Node.empty.on .stamped)).database.tables
    t.Canonical 100 ∧ t.rewards.contains "a" = false ∧ 0 < (t.record "b").pending ∧
      t.rewards.rows = [("b", ⟨"0", "70", 0⟩)] ∧ t.totals.rows = [(0, "100")] ∧
      t.balances.rows = [(⟨0, "a"⟩, "300000")] := by
  intro t
  obtain ⟨canonical, contains_iff, -⟩ :=
    stored_form (Service.start_empty .sample .bundled) .empty blankTurns
  exact ⟨canonical, by decide +kernel, (contains_iff "b").1 (by decide +kernel), by decide +kernel,
    by decide +kernel, by decide +kernel⟩

end EraRewards
