import EraRewards.Proofs.VolumeConservation

/-!
# Totals of closed eras

A rotation converts pending volume by the total of an era that its account has left.  Another account
may not have left that era yet, and what it still reports there changes the total.  The total stays as
it is exactly when no such report comes, in particular when the calls of a run go through the eras in
order.
-/

namespace EraRewards

/-- From a conversion of pending volume of an era on, the total of the era stays the same exactly when
no volume is booked in the era any more.  Volume is booked there only by accounts whose records have
not left the era, and never when the changes of the run go through the eras in order. -/
theorem total_frozen_iff {env : Environment} {parameters : Parameters} {balances : BalanceStore}
    {s : Service} {db : Database}
    (opened : Service.start env parameters balances .empty = (.ok s, db)) (node : Node)
    (before after : List Turn) {era : Int}
    (converted : ∃ entry ∈ s.journal before (node.on db), entry.Converts era) :
    let middle := s.run before (node.on db)
    let later := s.journal after middle
    ((s.run after middle).database.tables.total era = middle.database.tables.total era ↔
        ∀ entry ∈ later, entry.era = era → entry.volume = 0) ∧
      (∀ entry ∈ later, entry.era = era → entry.found.lastEra ≤ era) ∧
      ((s.journal (before ++ after) (node.on db)).Pairwise
          (fun first second => first.era ≤ second.era) →
        (s.run after middle).database.tables.total era = middle.database.tables.total era) := by
  intro middle later
  have history : History {s} (s.journal before (node.on db)) middle.database.tables :=
    History.started opened node before
  have continued := history.run (Set.mem_singleton s) after
  have total_eq : (s.run after middle).database.tables.total era =
      middle.database.tables.total era + Entry.sum (Entry.volumeIn · era) later := by
    rw [continued.total_eq era, history.total_eq era, Entry.sum_append]
  have later_nonneg : ∀ entry ∈ later, 0 ≤ entry.volumeIn era := by
    intro entry member
    have nonneg := continued.volume_nonneg entry (List.mem_append_right _ member)
    rw [Entry.volumeIn]
    split
    · exact nonneg
    · exact le_rfl
  have frozen_iff : (s.run after middle).database.tables.total era =
      middle.database.tables.total era ↔ ∀ entry ∈ later, entry.era = era → entry.volume = 0 := by
    rw [total_eq, add_eq_left, Entry.sum_eq_zero_iff later_nonneg]
    simp [Entry.volumeIn]
  refine ⟨frozen_iff, fun entry member here => ?_, fun ordered => frozen_iff.2 ?_⟩
  · obtain ⟨total, budget, turns⟩ := continued.turns entry (List.mem_append_right _ member)
    exact here ▸ turns.lastEra_le
  · -- The conversion was made in a later era, and so is everything after it.
    obtain ⟨closing, closing_mem, rotated, left⟩ := converted
    obtain ⟨total, budget, turns⟩ := history.turns closing closing_mem
    have closed := (turns.of_rotated rotated).1
    rw [s.journal_append] at ordered
    intro entry member here
    have following := (List.pairwise_append.1 ordered).2.2 closing closing_mem entry member
    omega

/-- An account reports volume in two eras, which closes the first of them. -/
def closingReports : List Turn :=
  [⟨.free, .recordVolume (.text "a") (.int 10) (.int 0)⟩,
    ⟨.free, .recordVolume (.text "a") (.int 5) (.int 100)⟩]

/-- Another account reports and claims in later eras. -/
def reportsInOrder : List Turn :=
  [⟨.free, .recordVolume (.text "b") (.int 7) (.int 150)⟩, ⟨.free, .claim (.text "b") (.int 200)⟩]

/-- Another account reports in the closed era. -/
def lateReport : List Turn := [⟨.free, .recordVolume (.text "b") (.int 7) (.int 0)⟩]

/-- Without late reports the total of the closed era stays. -/
theorem total_frozen_sample :
    Service.start .empty .sample .bundled .empty = (.ok .sample, .stamped) ∧
      (∃ entry ∈ Service.sample.journal closingReports (Node.empty.on .stamped),
        entry.Converts 0) ∧
      (Service.sample.run reportsInOrder (Service.sample.run closingReports
        (Node.empty.on .stamped))).database.tables.total 0 =
        (Service.sample.run closingReports (Node.empty.on .stamped)).database.tables.total 0 := by
  have opened : Service.start .empty .sample .bundled .empty = (.ok .sample, .stamped) :=
    Service.start_empty .sample .bundled
  have converted : ∃ entry ∈ Service.sample.journal closingReports (Node.empty.on .stamped),
      entry.Converts 0 := by decide +kernel
  have ordered : (Service.sample.journal (closingReports ++ reportsInOrder)
      (Node.empty.on .stamped)).Pairwise (fun first second => first.era ≤ second.era) := by
    decide +kernel
  exact ⟨opened, converted,
    (total_frozen_iff opened .empty closingReports reportsInOrder converted).2.2 ordered⟩

/-- The total of a closed era grows when another account reports volume in it. -/
theorem total_of_closed_era_grows :
    Service.start .empty .sample .bundled .empty = (.ok .sample, .stamped) ∧
      (∃ entry ∈ Service.sample.journal closingReports (Node.empty.on .stamped),
        entry.Converts 0) ∧
      (Service.sample.run closingReports (Node.empty.on .stamped)).database.tables.total 0 = 10 ∧
      (Service.sample.run lateReport (Service.sample.run closingReports
        (Node.empty.on .stamped))).database.tables.total 0 = 17 := by
  refine ⟨rfl, ?_, ?_, ?_⟩ <;> decide +kernel

end EraRewards
