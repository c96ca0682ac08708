import EraRewards.Proofs.Apportionment
import EraRewards.Proofs.ProRata

/-!
# The budget of an era

In a run whose changes go through the eras in order, every award of an era is a pro-rata part of the
budget against one total.  So an era never awards more than the budget, and once all its volume is
converted, what remains of the budget is bounded by the number of accounts that reported.
-/

namespace EraRewards

theorem Stage.award_le {budget : Int} {journal : List Entry} {t : Tables} {account : String}
    {era : Int} (stage : Stage budget journal t account era)
    (part_nonneg : 0 ≤ proRata (Entry.sum (Entry.volumeOf · account era) journal)
      (Entry.sum (Entry.volumeIn · era) journal) budget) :
    Entry.sum (Entry.awardedFrom · account era) journal ≤
      proRata (Entry.sum (Entry.volumeOf · account era) journal)
        (Entry.sum (Entry.volumeIn · era) journal) budget := by
  cases stage with
  | pending volume unawarded => rwa [unawarded]
  | awarded nothing award left => exact award.le

namespace History

variable {ledgers : Set Service} {journal : List Entry} {t : Tables} {budget : Int}

theorem volumeOf_nonneg (history : History ledgers journal t) (account : String) (era : Int) :
    0 ≤ Entry.sum (Entry.volumeOf · account era) journal :=
  Entry.sum_nonneg fun entry member =>
    Entry.volumeOf_nonneg (history.volume_nonneg entry member) account era

theorem volumeIn_pos (history : History ledgers journal t) {era : Int}
    (reported : ∃ entry ∈ journal, entry.era = era ∧ entry.volume ≠ 0) :
    0 < Entry.sum (Entry.volumeIn · era) journal := by
  have nonneg : ∀ entry ∈ journal, 0 ≤ entry.volumeIn era := fun entry member =>
    Entry.volumeIn_nonneg (history.volume_nonneg entry member) era
  obtain ⟨entry, member, here, something⟩ := reported
  refine (Entry.sum_nonneg nonneg).lt_of_ne fun nothing => something ?_
  have unbooked := (Entry.sum_eq_zero_iff nonneg).1 nothing.symm entry member
  rwa [Entry.volumeIn, if_pos here] at unbooked

/-- In an ordered history an era awards no more than the budget. -/
theorem awardedOut_le (history : History ledgers journal t)
    (fixed : ∀ s ∈ ledgers, (s.parameters.budget.val : Int) = budget)
    (ordered : journal.Pairwise fun first second => first.era ≤ second.era)
    (budget_nonneg : 0 ≤ budget) (era : Int) :
    Entry.sum (Entry.awardedOut · era) journal ≤ budget := by
  have total_nonneg : 0 ≤ Entry.sum (Entry.volumeIn · era) journal :=
    history.total_eq era ▸ history.sound.total_nonneg era
  have covered : ∑ account ∈ Entry.accounts journal,
      Entry.sum (Entry.volumeOf · account era) journal ≤
        Entry.sum (Entry.volumeIn · era) journal :=
    (Entry.sum_volumeOf (Entry.reporters_subset journal era)).le
  calc Entry.sum (Entry.awardedOut · era) journal
      = ∑ account ∈ Entry.accounts journal, Entry.sum (Entry.awardedFrom · account era) journal :=
        (Entry.sum_awardedFrom_accounts journal era).symm
    _ ≤ ∑ account ∈ Entry.accounts journal,
          proRata (Entry.sum (Entry.volumeOf · account era) journal)
            (Entry.sum (Entry.volumeIn · era) journal) budget :=
        Finset.sum_le_sum fun account _ => (history.stage fixed ordered account era).award_le
          (proRata_nonneg (history.volumeOf_nonneg account era) total_nonneg budget_nonneg)
    _ ≤ budget := sum_proRata_le total_nonneg budget_nonneg covered

/-- When all volume of an era has been converted, nothing of it is pending for any account. -/
theorem pendingIn_record_of_converted (history : History ledgers journal t) {era : Int}
    (converted : Entry.sum (Entry.convertedFrom · era) journal =
      Entry.sum (Entry.volumeIn · era) journal) (account : String) :
    (t.record account).pendingIn era = 0 := by
  have split := history.pendingIn_add era
  have own_le := history.sound.pendingIn_le account era
  have own_nonneg := Reward.pendingIn_nonneg (history.sound.storable account).pending_nonneg era
  omega

/-- When all volume of an era has been converted, the era has awarded their parts to the accounts that
reported in it. -/
theorem awardedOut_eq (history : History ledgers journal t)
    (fixed : ∀ s ∈ ledgers, (s.parameters.budget.val : Int) = budget)
    (ordered : journal.Pairwise fun first second => first.era ≤ second.era) {era : Int}
    (converted : Entry.sum (Entry.convertedFrom · era) journal =
      Entry.sum (Entry.volumeIn · era) journal) :
    Entry.sum (Entry.awardedOut · era) journal =
      ∑ account ∈ Entry.reporters journal era,
        proRata (Entry.sum (Entry.volumeOf · account era) journal)
          (Entry.sum (Entry.volumeIn · era) journal) budget := by
  have awarded (account : String) := (history.stage fixed ordered account era).award_eq
    (history.pendingIn_record_of_converted converted account)
  rw [← Entry.sum_awardedFrom_accounts, Finset.sum_congr rfl fun account _ => awarded account]
  symm
  apply Finset.sum_subset (Entry.reporters_subset journal era)
  intro account _ silent
  rw [Entry.sum_volumeOf_of_not_mem silent, proRata_zero]

end History

/-- In a run whose changes go through the eras in order, the rewards awarded for an era stay within
the budget. -/
theorem awards_le_budget {env : Environment} {parameters : Parameters} {balances : BalanceStore}
    {s : Service} {db : Database}
    (opened : Service.start env parameters balances .empty = (.ok s, db)) (node : Node)
    (turns : List Turn)
    (ordered : (s.journal turns (node.on db)).Pairwise fun first second => first.era ≤ second.era)
    (era : Int) :
    Entry.sum (Entry.awardedOut · era) (s.journal turns (node.on db)) ≤
      s.parameters.budget.val :=
  (History.started opened node turns).awardedOut_le (by rintro other rfl; rfl) ordered
    (Int.natCast_nonneg _) era

/-- Three accounts share an era, and two of them have been paid for it. -/
def partlyPaidEra : List Turn :=
  [⟨.free, .recordVolume (.text "a") (.int 1) (.int 0)⟩,
    ⟨.free, .recordVolume (.text "b") (.int 1) (.int 50)⟩,
    ⟨.free, .recordVolume (.text "c") (.int 1) (.int 99)⟩,
    ⟨.free, .claim (.text "a") (.int 100)⟩,
    ⟨.free, .recordVolume (.text "b") (.int 4) (.int 100)⟩]

/-- So far the era has awarded two thirds of the budget, each rounded down. -/
theorem awards_le_budget_sample :
    Service.start .empty .sample .bundled .empty = (.ok .sample, .stamped) ∧
      let journal := Service.sample.journal partlyPaidEra (Node.empty.on .stamped)
      journal.Pairwise (fun first second => first.era ≤ second.era) ∧
        Entry.sum (Entry.awardedOut · 0) journal = 666666 ∧
        Entry.sum (Entry.awardedOut · 0) journal ≤ 1000000 := by
  have opened : Service.start .empty .sample .bundled .empty = (.ok .sample, .stamped) :=
    Service.start_empty .sample .bundled
  have ordered : (Service.sample.journal partlyPaidEra (Node.empty.on .stamped)).Pairwise
      (fun first second => first.era ≤ second.era) := by decide +kernel
  exact ⟨opened, ordered, by decide +kernel,
    awards_le_budget opened .empty partlyPaidEra ordered 0⟩

/-- In a run whose changes go through the eras in order, an era whose volume has all been converted
leaves of the budget less than one unit and `10 ^ -18` of the budget for each account that reported in
it, and nothing if there is only one such account. -/
theorem dust_lt {env : Environment} {parameters : Parameters} {balances : BalanceStore}
    {s : Service} {db : Database}
    (opened : Service.start env parameters balances .empty = (.ok s, db)) (node : Node)
    (turns : List Turn)
    (ordered : (s.journal turns (node.on db)).Pairwise fun first second => first.era ≤ second.era)
    {era : Int}
    (reported : ∃ entry ∈ s.journal turns (node.on db), entry.era = era ∧ entry.volume ≠ 0)
    (converted : Entry.sum (Entry.convertedFrom · era) (s.journal turns (node.on db)) =
      Entry.sum (Entry.volumeIn · era) (s.journal turns (node.on db))) :
    let journal := s.journal turns (node.on db)
    let count : Int := (Entry.reporters journal era).card
    let budget : Int := s.parameters.budget.val
    let dust := budget - Entry.sum (Entry.awardedOut · era) journal
    dust * 10 ^ 18 < count * (10 ^ 18 + budget) ∧
      (budget ≤ 10 ^ 18 → dust < 2 * count) ∧
      (count = 1 → Entry.sum (Entry.awardedOut · era) journal = budget) := by
  intro journal count budget dust
  have history : History {s} journal (s.run turns (node.on db)).database.tables :=
    History.started opened node turns
  have total_pos := history.volumeIn_pos reported
  obtain ⟨entry, member, here, something⟩ := reported
  have reporter : entry.account ∈ Entry.reporters journal era :=
    Entry.mem_reporters.2 ⟨entry, member, ⟨here, something⟩, rfl⟩
  have whole := Entry.sum_volumeOf (Finset.Subset.refl (Entry.reporters journal era))
  have awarded : Entry.sum (Entry.awardedOut · era) journal = _ :=
    history.awardedOut_eq (by rintro other rfl; rfl) ordered converted
  have bounded : dust * 10 ^ 18 < count * (10 ^ 18 + budget) := by
    simp only [dust, awarded]
    exact sub_sum_proRata_lt total_pos (Int.natCast_nonneg _) ⟨_, reporter⟩ whole
  refine ⟨bounded, fun small => ?_, fun alone => ?_⟩
  · have count_nonneg : 0 ≤ count := Int.natCast_nonneg _
    refine lt_of_mul_lt_mul_right ?_ (show (0 : Int) ≤ 10 ^ 18 by norm_num)
    calc dust * 10 ^ 18 < count * (10 ^ 18 + budget) := bounded
      _ ≤ count * (10 ^ 18 + 10 ^ 18) := by gcongr
      _ = 2 * count * 10 ^ 18 := by ring
  · obtain ⟨account, only⟩ := Finset.card_eq_one.1 (Nat.cast_eq_one.1 alone)
    rw [only, Finset.sum_singleton] at awarded whole
    rw [awarded, whole, proRata_self total_pos]

/-- The third account is paid for the era, too. -/
def paidEra : List Turn := partlyPaidEra ++ [⟨.free, .claim (.text "c") (.int 200)⟩]

/-- Of the budget one unit remains. -/
theorem dust_lt_sample :
    Service.start .empty .sample .bundled .empty = (.ok .sample, .stamped) ∧
      let journal := Service.sample.journal paidEra (Node.empty.on .stamped)
      (Entry.reporters journal 0).card = 3 ∧
        Entry.sum (Entry.awardedOut · 0) journal = 999999 ∧
        1000000 - Entry.sum (Entry.awardedOut · 0) journal <
          2 * (Entry.reporters journal 0).card := by
  have opened : Service.start .empty .sample .bundled .empty = (.ok .sample, .stamped) :=
    Service.start_empty .sample .bundled
  have ordered : (Service.sample.journal paidEra (Node.empty.on .stamped)).Pairwise
      (fun first second => first.era ≤ second.era) := by decide +kernel
  have reported : ∃ entry ∈ Service.sample.journal paidEra (Node.empty.on .stamped),
      entry.era = 0 ∧ entry.volume ≠ 0 := by decide +kernel
  have converted :
      Entry.sum (Entry.convertedFrom · 0) (Service.sample.journal paidEra (Node.empty.on .stamped)) =
        Entry.sum (Entry.volumeIn · 0) (Service.sample.journal paidEra (Node.empty.on .stamped)) := by
    decide +kernel
  refine ⟨opened, by decide +kernel, by decide +kernel, ?_⟩
  exact (dust_lt opened .empty paidEra ordered reported converted).2.1 (by decide)

end EraRewards
