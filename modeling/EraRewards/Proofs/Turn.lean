import EraRewards.Proofs.Change
import EraRewards.Proofs.Run

/-!
# What calls leave behind

A call that fails, asks or comes to nothing leaves the tables as they are; any other call commits one
change.  The entry of the call tells which of these it was, and which change.
-/

namespace EraRewards

open Effect

namespace Service

variable {s : Service}

theorem commits_of_book {t after : Tables} (sound : t.Sound) {account : String} {volume : Amount}
    {era total : Int} {rotation : Rotation} (something : volume.val ≠ 0) (era_nonneg : 0 ≤ era)
    (era_le : era ≤ maxTick)
    (booked : (s.book account volume era).run.run t = (.ok (total, rotation), after)) :
    s.Commits t ⟨account, era, volume.val, 0, t.record account, rotation⟩ after := by
  obtain ⟨bounded, rotated, -, rfl⟩ :=
    (s.book_eq_ok_iff sound account volume era_nonneg era_le).1 booked
  exact .report something era_nonneg era_le bounded rotated

theorem commits_of_payOut {t after : Tables} (sound : t.Sound) {account : String} {era amount : Int}
    {rotation : Rotation} (something : amount ≠ 0) (era_nonneg : 0 ≤ era) (era_le : era ≤ maxTick)
    (paid : (s.payOut account era).run.run t = (.ok (amount, rotation), after)) :
    s.Commits t ⟨account, era, 0, amount, t.record account, rotation⟩ after := by
  obtain ⟨rotated, rfl, ⟨nothing, -⟩ | ⟨-, credited⟩⟩ :=
    (s.payOut_eq_ok_iff sound account era_nonneg era_le).1 paid
  · exact absurd nothing something
  · exact .payment something era_nonneg era_le rotated credited

/-- A claim that pays nothing has written nothing. -/
theorem eq_of_payOut_nothing {t after : Tables} (sound : t.Sound) {account : String}
    {era amount : Int} {rotation : Rotation} (nothing : amount = 0) (era_nonneg : 0 ≤ era)
    (era_le : era ≤ maxTick)
    (paid : (s.payOut account era).run.run t = (.ok (amount, rotation), after)) :
    t.rotation s.parameters.budget.val account era 0 = .ok rotation ∧ rotation.confirmed = 0 ∧
      after = t := by
  obtain ⟨rotated, rfl, ⟨unconfirmed, after_eq⟩ | ⟨something, -⟩⟩ :=
    (s.payOut_eq_ok_iff sound account era_nonneg era_le).1 paid
  · exact ⟨rotated, unconfirmed, after_eq⟩
  · exact absurd nothing something

/-- What becomes of the tables, given the entry of a call: without one they stay as they are. -/
def Leaves (s : Service) (before : Tables) : Option Entry → Tables → Prop
  | none, after => after = before
  | some entry, after => s.Commits before entry after

theorem reportOf_eq_ok {account volume at_ : Value} {holder : Account} {amount : Amount} {era : Int}
    (asked : s.reportOf account volume at_ = .ok (holder, amount, era)) :
    accountOfValue account = .ok holder ∧ Amount.ofValue? volume = some amount ∧
      s.parameters.eraOf at_ = .ok era := by
  obtain ⟨holder, named, asked⟩ := ok_of_bind asked
  obtain ⟨amount, measured, asked⟩ := ok_of_bind asked
  obtain ⟨era, dated, asked⟩ := ok_of_bind asked
  cases asked
  refine ⟨named, ?_, dated⟩
  rw [Amount.ofArgument, Amount.ofNamed] at measured
  cases amount_eq : Amount.ofValue? volume with
  | none =>
      rw [amount_eq] at measured
      cases measured
  | some found =>
      rw [amount_eq] at measured
      exact congrArg some (Except.ok.inj measured)

theorem reportOf_int {account : Value} {holder : Account}
    (named : accountOfValue account = .ok holder) (volume : Amount) {tick : Int} (nonneg : 0 ≤ tick)
    (le_max : tick ≤ maxTick) :
    s.reportOf account (.int volume.val) (.int tick) =
      .ok (holder, volume, Era.startOf tick s.parameters.eraDuration) := by
  have measured : Amount.ofArgument "volume" (.int volume.val) = .ok volume := by
    simp [Amount.ofArgument, Amount.ofNamed, Amount.ofValue?]
  rw [reportOf, named, measured, Parameters.eraOf_int _ nonneg le_max]
  rfl

/-- A report of volume zero only answers the era. -/
theorem recordVolume_run_of_nothing {account volume at_ : Value} {holder : Account} {amount : Amount}
    {era : Int} (asked : s.reportOf account volume at_ = .ok (holder, amount, era))
    (nothing : amount.val = 0) (node : Node) :
    (s.recordVolume account volume at_).run.run node = (.ok era, node) := by
  rw [recordVolume, run_bind, run_liftLedger, asked]
  simp only [Except.mapError, if_pos nothing]
  rfl

/-- A report of volume that is not zero answers what comes of its booking. -/
theorem recordVolume_answer {account volume at_ : Value} {holder : Account} {amount : Amount}
    {era : Int} (asked : s.reportOf account volume at_ = .ok (holder, amount, era))
    (something : amount.val ≠ 0) (node : Node) :
    ((s.recordVolume account volume at_).run.run node).1 =
      (node.database.write (s.book holder amount era)).1.map fun _ => era := by
  obtain ⟨after, run_eq, -⟩ := s.recordVolume_run account volume at_ node
  rw [run_eq]
  simp only [reported, asked, if_neg something]

/-- While another writer holds the database, a report of volume that is not zero fails for that. -/
theorem recordVolume_of_refusal {account volume at_ : Value} {holder : Account} {amount : Amount}
    {era : Int} (asked : s.reportOf account volume at_ = .ok (holder, amount, era))
    (something : amount.val ≠ 0) {node : Node} {failure : Failure}
    (refusal : node.database.contention.refusal? = some failure) :
    ((s.recordVolume account volume at_).run.run node).1 = .error failure := by
  rw [recordVolume_answer asked something, Database.write_of_refusal refusal]
  rfl

/-- A report of volume that succeeds and is not zero has written its booking, for an account that can
be stored. -/
theorem recordVolume_eq_ok {account volume at_ : Value} {node : Node} {era : Int}
    (answered : ((s.recordVolume account volume at_).run.run node).1 = .ok era) :
    ∃ holder amount, s.reportOf account volume at_ = .ok (holder, amount, era) ∧
      (amount.val = 0 ∧
          ((s.recordVolume account volume at_).run.run node).2.database = node.database ∨
        amount.val ≠ 0 ∧ ∃ name : String, holder = name ∧ ∃ booked,
          node.database.write (s.book name amount era) =
            (.ok booked, ((s.recordVolume account volume at_).run.run node).2.database)) := by
  obtain ⟨after, run_eq, kept⟩ := s.recordVolume_run account volume at_ node
  rw [run_eq] at answered ⊢
  rw [kept]
  simp only [reported] at answered ⊢
  cases asked : s.reportOf account volume at_ with
  | error error =>
      rw [asked] at answered
      cases answered
  | ok request =>
      obtain ⟨holder, amount, period⟩ := request
      rw [asked] at answered
      dsimp only at answered ⊢
      by_cases nothing : amount.val = 0
      · rw [if_pos nothing] at answered
        cases answered
        exact ⟨holder, amount, rfl, .inl ⟨nothing, by rw [if_pos nothing]⟩⟩
      · rw [if_neg nothing] at answered
        cases written : node.database.write (s.book holder amount period) with
        | mk outcome database =>
        rw [written] at answered
        cases outcome with
        | error failure => cases answered
        | ok booked =>
            cases answered
            obtain ⟨name, rfl⟩ := s.exists_named_of_book (Database.run_of_write written)
            refine ⟨name, amount, rfl, .inr ⟨nothing, name, rfl, booked, ?_⟩⟩
            rw [if_neg nothing, written]

/-- A report of volume that fails leaves the tables as they were. -/
theorem recordVolume_tables_of_error {account volume at_ : Value} {node : Node} {failure : Failure}
    (failed : ((s.recordVolume account volume at_).run.run node).1 = .error failure) :
    ((s.recordVolume account volume at_).run.run node).2.database.tables =
      node.database.tables := by
  obtain ⟨after, run_eq, kept⟩ := s.recordVolume_run account volume at_ node
  rw [run_eq] at failed ⊢
  rw [kept]
  simp only [reported] at failed ⊢
  cases asked : s.reportOf account volume at_ with
  | error error => rfl
  | ok request =>
      obtain ⟨holder, amount, era⟩ := request
      rw [asked] at failed
      dsimp only at failed ⊢
      by_cases nothing : amount.val = 0
      · rw [if_pos nothing]
      · rw [if_neg nothing] at failed ⊢
        cases outcome_eq : (node.database.write (s.book holder amount era)).1 with
        | error failure => exact Database.tables_write_of_error outcome_eq
        | ok booked =>
            rw [outcome_eq] at failed
            cases failed

/-- Every report of volume that succeeds and is not zero has its entry. -/
theorem entryOfReport_eq {node : Node} (sound : node.database.tables.Sound)
    {account volume at_ : Value} {name : String} {amount : Amount} {era total : Int}
    {rotation : Rotation} {after : Tables}
    (answered : ((s.recordVolume account volume at_).run.run node).1 = .ok era)
    (asked : s.reportOf account volume at_ = .ok (name, amount, era))
    (something : amount.val ≠ 0)
    (booked : (s.book name amount era).run.run node.database.tables =
      (.ok (total, rotation), after)) :
    s.entryOfReport account volume at_ node =
      some ⟨name, era, amount.val, 0, node.database.tables.record name, rotation⟩ := by
  obtain ⟨named, measured, -⟩ := reportOf_eq_ok asked
  simp [entryOfReport, answered, named, measured, something, Except.toOption, Database.read,
    Records.find_run sound, booked]

theorem recordVolume_leaves {node : Node} (sound : node.database.tables.Sound)
    (account volume at_ : Value) :
    s.Leaves node.database.tables (s.entryOfReport account volume at_ node)
      ((s.recordVolume account volume at_).run.run node).2.database.tables := by
  cases answered : ((s.recordVolume account volume at_).run.run node).1 with
  | error failure =>
      rw [entryOfReport, answered]
      exact recordVolume_tables_of_error answered
  | ok era =>
      obtain ⟨holder, amount, asked, ⟨nothing, kept⟩ | ⟨something, name, rfl, booked, written⟩⟩ :=
        recordVolume_eq_ok answered
      · obtain ⟨named, measured, -⟩ := reportOf_eq_ok asked
        have unlisted : s.entryOfReport account volume at_ node = none := by
          cases holder <;>
            simp [entryOfReport, answered, named, measured, nothing, Except.toOption]
        rw [unlisted, kept]
        rfl
      · obtain ⟨era_nonneg, era_le⟩ := Parameters.eraOf_bounds (reportOf_eq_ok asked).2.2
        have run_book := Database.run_of_write written
        rw [entryOfReport_eq sound answered asked something run_book]
        exact commits_of_book sound something era_nonneg era_le run_book

theorem claimOf_eq_ok {account at_ : Value} {clock : Clock} {holder : Account} {era : Int}
    (asked : s.claimOf account at_ clock = .ok (holder, era)) :
    accountOfValue account = .ok holder ∧
      ∃ tick, tickOf at_ clock = .ok tick ∧ s.parameters.eraOf tick = .ok era := by
  obtain ⟨holder, named, asked⟩ := ok_of_bind asked
  obtain ⟨tick, ticked, asked⟩ := ok_of_bind asked
  obtain ⟨era, dated, asked⟩ := ok_of_bind asked
  cases asked
  exact ⟨ok_of_mapError named, tick, ticked, ok_of_mapError dated⟩

theorem claimOf_bounds {account at_ : Value} {clock : Clock} {holder : Account} {era : Int}
    (asked : s.claimOf account at_ clock = .ok (holder, era)) : 0 ≤ era ∧ era ≤ maxTick := by
  obtain ⟨-, tick, -, dated⟩ := claimOf_eq_ok asked
  exact Parameters.eraOf_bounds dated

theorem claimOf_int {account : Value} {holder : Account}
    (named : accountOfValue account = .ok holder) {tick : Int} (nonneg : 0 ≤ tick)
    (le_max : tick ≤ maxTick) (clock : Clock) :
    s.claimOf account (.int tick) clock =
      .ok (holder, Era.startOf tick s.parameters.eraDuration) := by
  have ticked : tickOf (.int tick) clock = .ok (.int tick) := rfl
  rw [claimOf, named, ticked]
  simp only [bind, Except.bind, liftM, monadLift, MonadLift.monadLift,
    Parameters.eraOf_int _ nonneg le_max]
  rfl

/-- A claim answers what comes of its pay-out. -/
theorem claim_answer {account at_ : Value} {holder : Account} {era : Int} {node : Node}
    (asked : s.claimOf account at_ node.clock = .ok (holder, era)) :
    ((s.claim account at_).run.run node).1 =
      (node.database.write (s.payOut holder era)).1.map Prod.fst := by
  obtain ⟨after, run_eq, -⟩ := s.claim_run account at_ node
  rw [run_eq]
  simp only [claimed, asked]

theorem claim_broken {account at_ : Value} {letters : List Letter} {era : Int} {node : Node}
    (asked : s.claimOf account at_ node.clock = .ok (.broken letters, era)) :
    ((s.claim account at_).run.run node).1 =
      .error (node.database.contention.refusal?.getD .unencodable) := by
  rw [claim_answer asked, write_payOut_broken]
  rfl

/-- A claim that succeeds has written its pay-out, to an account that can be stored. -/
theorem claim_eq_ok {account at_ : Value} {node : Node} {amount : Int}
    (answered : ((s.claim account at_).run.run node).1 = .ok amount) :
    ∃ (name : String) (era : Int) (rotation : Rotation),
      s.claimOf account at_ node.clock = .ok (name, era) ∧
        node.database.write (s.payOut name era) =
          (.ok (amount, rotation), ((s.claim account at_).run.run node).2.database) := by
  obtain ⟨after, run_eq, kept⟩ := s.claim_run account at_ node
  rw [run_eq] at answered ⊢
  rw [kept]
  simp only [claimed] at answered ⊢
  cases asked : s.claimOf account at_ node.clock with
  | error failure =>
      rw [asked] at answered
      cases answered
  | ok request =>
      obtain ⟨holder, era⟩ := request
      rw [asked] at answered
      dsimp only at answered ⊢
      cases written : node.database.write (s.payOut holder era) with
      | mk outcome database =>
      rw [written] at answered
      cases outcome with
      | error failure => cases answered
      | ok paid =>
          obtain ⟨amount, rotation⟩ := paid
          cases answered
          obtain ⟨name, rfl⟩ := s.exists_named_of_payOut (Database.run_of_write written)
          exact ⟨name, era, rotation, rfl, written⟩

/-- A claim that fails leaves the tables as they were. -/
theorem claim_tables_of_error {account at_ : Value} {node : Node} {failure : Failure}
    (failed : ((s.claim account at_).run.run node).1 = .error failure) :
    ((s.claim account at_).run.run node).2.database.tables = node.database.tables := by
  obtain ⟨after, run_eq, kept⟩ := s.claim_run account at_ node
  rw [run_eq] at failed ⊢
  rw [kept]
  simp only [claimed] at failed ⊢
  cases asked : s.claimOf account at_ node.clock with
  | error failure => rfl
  | ok request =>
      obtain ⟨holder, era⟩ := request
      rw [asked] at failed
      dsimp only at failed ⊢
      cases outcome_eq : (node.database.write (s.payOut holder era)).1 with
      | error failure => exact Database.tables_write_of_error outcome_eq
      | ok paid =>
          rw [outcome_eq] at failed
          cases failed

theorem entryOfClaim_eq {node : Node} (sound : node.database.tables.Sound) {account at_ : Value}
    {name : String} {era amount : Int} {rotation : Rotation} {after : Tables}
    (answered : ((s.claim account at_).run.run node).1 = .ok amount)
    (asked : s.claimOf account at_ node.clock = .ok (name, era))
    (paid : (s.payOut name era).run.run node.database.tables = (.ok (amount, rotation), after)) :
    s.entryOfClaim account at_ node =
      if amount = 0 then none
      else some ⟨name, era, 0, amount, node.database.tables.record name, rotation⟩ := by
  by_cases nothing : amount = 0 <;>
    simp [entryOfClaim, answered, asked, Except.toOption, nothing, Database.read,
      Records.find_run sound, paid]

theorem claim_leaves {node : Node} (sound : node.database.tables.Sound) (account at_ : Value) :
    s.Leaves node.database.tables (s.entryOfClaim account at_ node)
      ((s.claim account at_).run.run node).2.database.tables := by
  cases answered : ((s.claim account at_).run.run node).1 with
  | error failure =>
      rw [entryOfClaim, answered]
      exact claim_tables_of_error answered
  | ok amount =>
      obtain ⟨name, era, rotation, asked, written⟩ := claim_eq_ok answered
      obtain ⟨era_nonneg, era_le⟩ := claimOf_bounds asked
      have paid := Database.run_of_write written
      rw [entryOfClaim_eq sound answered asked paid]
      by_cases nothing : amount = 0
      · rw [if_pos nothing]
        exact (eq_of_payOut_nothing sound nothing era_nonneg era_le paid).2.2
      · rw [if_neg nothing]
        exact commits_of_payOut sound nothing era_nonneg era_le paid

/-- A call leaves the tables as its entry tells. -/
theorem serve_leaves {node : Node} (sound : node.database.tables.Sound) (turn : Turn) :
    s.Leaves node.database.tables (s.entryOf turn node) (s.serve turn node).database.tables := by
  obtain ⟨contention, call⟩ := turn
  have facing_sound : (node.facing contention).database.tables.Sound := sound
  have tables_eq {other : Node} (kept : other.database = (node.facing contention).database) :
      other.database.tables = node.database.tables := by
    rw [kept]
    rfl
  cases call with
  | recordVolume account volume at_ =>
      simp only [entryOf, serve, answer, run_map]
      exact recordVolume_leaves facing_sound account volume at_
  | claim account at_ =>
      simp only [entryOf, serve, answer, run_map]
      exact claim_leaves facing_sound account at_
  | totalVolume at_ => exact tables_eq ((keeps_totalVolume s at_).map _ _)
  | rewardOf account => exact tables_eq ((keeps_rewardOf account).map _ _)
  | confirmedOf account => exact tables_eq ((keeps_confirmedOf account).map _ _)
  | balanceOf account token => exact tables_eq ((keeps_balanceOf s account token).map _ _)
  | eraOf tick =>
      exact tables_eq ((Node.keeps_liftLedger _).bind (fun _ => Node.keeps_pure _) _)
  | now => exact tables_eq (Node.keeps_now.map _ _)

end Service
end EraRewards
