import EraRewards.Proofs.Acceptance

/-!
# The era of a record as a guard

A report in an era before that of the record is refused, so that an account does not report in an era
that it has left.  The era is kept with the record: a claim that leaves nothing pending drops the
record, and from then on the account may report in any era again.
-/

namespace EraRewards

open Effect

namespace Entry

/-- A change that leaves nothing pending, as only a claim does; the record is dropped. -/
def Empties (entry : Entry) : Prop := entry.rotation.reward.pending = 0

instance (entry : Entry) : Decidable entry.Empties :=
  inferInstanceAs (Decidable (entry.rotation.reward.pending = 0))

/-- The guard of an account after a change, given the guard before. -/
def moveGuard (account : String) (guard_ : Int) (entry : Entry) : Int :=
  if entry.account = account then if entry.Empties then 0 else entry.era else guard_

/-- Era before which an account may not report: that of its latest change, unless this change has
dropped its record. -/
def guardEra (account : String) (journal : List Entry) : Int :=
  journal.foldl (moveGuard account) 0

theorem guardEra_concat (account : String) (journal : List Entry) (entry : Entry) :
    guardEra account (journal ++ [entry]) =
      moveGuard account (guardEra account journal) entry := by
  simp [guardEra]

/-- What came before a change of an account does not matter for its guard. -/
theorem guardEra_append_cons (earlier later : List Entry) (entry : Entry) :
    guardEra entry.account (earlier ++ entry :: later) =
      guardEra entry.account (entry :: later) := by
  simp [guardEra, moveGuard]

end Entry

namespace Service.Commits

variable {s : Service} {before after : Tables} {entry : Entry}

/-- A change leaves its era with the record of its account, unless it drops the record. -/
theorem lastEra_eq (commits : s.Commits before entry after) (sound : before.Sound) :
    (after.record entry.account).lastEra = if entry.Empties then 0 else entry.era := by
  have turns := commits.turns sound
  have storable := commits.storable sound
  cases commits with
  | @report account volume era rotation something era_nonneg era_le bounded rotated =>
      have grown := turns.incoming_le (sound.storable account).pending_nonneg
      dsimp only at grown turns storable ⊢
      have held : rotation.reward.pending ≠ 0 := by omega
      change _ = if rotation.reward.pending = 0 then 0 else era
      rw [Tables.record_setRecord storable, if_pos rfl, if_neg held, turns.lastEra_eq]
  | @payment account era rotation after something era_nonneg era_le rotated credited =>
      have kept : after.record account = (before.settle account rotation.reward).record account := by
        rw [eq_of_credit credited]
        rfl
      have pending_nonneg := storable.pending_nonneg
      dsimp only at turns storable pending_nonneg ⊢
      change _ = if rotation.reward.pending = 0 then 0 else era
      rw [kept, Tables.record_settle storable, if_pos rfl, Reward.settled]
      by_cases nothing : rotation.reward.pending = 0
      · rw [if_pos nothing, if_neg (by omega)]
      · rw [if_neg nothing, if_pos (by omega)]
        exact turns.lastEra_eq

theorem moveGuard_eq (commits : s.Commits before entry after) (sound : before.Sound)
    (account : String) :
    (after.record account).lastEra =
      Entry.moveGuard account (before.record account).lastEra entry := by
  rw [Entry.moveGuard]
  by_cases own : entry.account = account
  · rw [if_pos own, ← own, commits.lastEra_eq sound]
  · rw [if_neg own, commits.record_of_ne sound (Ne.symm own)]

/-- A change that does not drop the record of an account does not lower its era. -/
theorem lastEra_le (commits : s.Commits before entry after) (sound : before.Sound) {account : String}
    (kept : entry.account = account → ¬entry.Empties) :
    (before.record account).lastEra ≤ (after.record account).lastEra := by
  rw [commits.moveGuard_eq sound, Entry.moveGuard]
  split
  · rename_i own
    subst own
    rw [if_neg (kept rfl)]
    exact (commits.turns sound).lastEra_le
  · exact le_rfl

end Service.Commits

namespace History

variable {ledgers : Set Service} {journal : List Entry}

theorem lastEra_eq {t : Tables} (history : History ledgers journal t) (account : String) :
    (t.record account).lastEra = Entry.guardEra account journal := by
  induction history with
  | empty => rfl
  | stamped history stamp induction => exact induction
  | committed history member commits induction =>
      rw [Entry.guardEra_concat, commits.moveGuard_eq history.sound, induction]

theorem lastEra_le_serve {s : Service} {node : Node}
    (history : History ledgers journal node.database.tables) (turn : Turn) {account : String}
    (kept : ∀ entry ∈ s.entryOf turn node, entry.account = account → ¬entry.Empties) :
    (node.database.tables.record account).lastEra ≤
      ((s.serve turn node).database.tables.record account).lastEra := by
  have leaves := s.serve_leaves history.sound turn
  cases entry_eq : s.entryOf turn node with
  | none =>
      rw [entry_eq] at leaves
      exact (congrArg (fun t : Tables => (t.record account).lastEra) leaves).ge
  | some entry =>
      rw [entry_eq] at leaves
      exact Service.Commits.lastEra_le leaves history.sound (kept entry entry_eq)

/-- As long as the record of an account is not dropped, its era is not lowered. -/
theorem lastEra_le_run {s : Service} (member : s ∈ ledgers) (turns : List Turn) {node : Node}
    (history : History ledgers journal node.database.tables) {account : String}
    (kept : ∀ entry ∈ s.journal turns node, entry.account = account → ¬entry.Empties) :
    (node.database.tables.record account).lastEra ≤
      ((s.run turns node).database.tables.record account).lastEra := by
  induction turns generalizing journal node with
  | nil => exact le_rfl
  | cons turn turns induction =>
      rw [Service.journal, List.forall_mem_append] at kept
      have first := history.lastEra_le_serve turn fun entry found =>
        kept.1 entry (Option.mem_toList.2 found)
      exact first.trans (induction (history.serve member turn) kept.2)

/-- As long as it is not dropped, the record of an account stays in the era of a change or a later
one. -/
theorem era_le_lastEra {s : Service} (member : s ∈ ledgers) {node : Node} {entry : Entry}
    (history : History ledgers (journal ++ [entry]) node.database.tables) (turns : List Turn)
    (kept : ∀ change ∈ entry :: s.journal turns node,
      change.account = entry.account → ¬change.Empties) :
    entry.era ≤ ((s.run turns node).database.tables.record entry.account).lastEra := by
  obtain ⟨kept_entry, kept_later⟩ := List.forall_mem_cons.1 kept
  have changed : (node.database.tables.record entry.account).lastEra = entry.era := by
    rw [history.lastEra_eq, Entry.guardEra_concat, Entry.moveGuard, if_pos rfl,
      if_neg (kept_entry rfl)]
  rw [← changed]
  exact history.lastEra_le_run member turns kept_later

/-- A report before the era of the record fails for the era or for the total of the era, and writes
nothing. -/
theorem recordVolume_fails_of_lt {s : Service} {node : Node}
    (history : History ledgers journal node.database.tables) {account volume at_ : Value}
    {name : String} {amount : Amount} {era : Int}
    (asked : s.reportOf account volume at_ = .ok (name, amount, era)) (something : amount.val ≠ 0)
    (older : era < (node.database.tables.record name).lastEra) :
    let t := node.database.tables
    let outcome := (s.recordVolume account volume at_).run.run node
    ∃ failure, outcome.1 = .error failure ∧ outcome.2.database.tables = t ∧
      (node.database.contention.refusal? = some failure ∨
        failure = .ledger (.eraBeforeLastUpdate era (t.record name).lastEra) ∨
        failure = .ledger (.sumOverflow "era_volume" (Integer.write (t.total era))
          (Integer.write amount.val))) := by
  intro t outcome
  suffices failed : ∃ failure, outcome.1 = .error failure ∧ _ from
    failed.imp fun failure failed =>
      ⟨failed.1, Service.recordVolume_tables_of_error failed.1, failed.2⟩
  cases refusal : node.database.contention.refusal? with
  | some failure =>
      exact ⟨failure, Service.recordVolume_of_refusal asked something refusal, .inl rfl⟩
  | none =>
      have answered := history.recordVolume_eq refusal asked something
      rw [Tables.reportAnswer] at answered
      by_cases large : maxAmount < t.total era + amount.val
      · rw [if_pos large] at answered
        exact ⟨_, answered, .inr (.inr rfl)⟩
      · rw [if_neg large, if_pos older] at answered
        exact ⟨_, answered, .inr (.inl rfl)⟩

end History

/-- After a change of an account, a report of the account in an older era succeeds exactly if the era
is not before the guard that the changes since have left, and no sum grows too large.  As long as no
claim has dropped the record, such a report is refused for its era or for the total of the era, and
writes nothing. -/
theorem older_report_succeeds_iff {env : Environment} {parameters : Parameters}
    {balances : BalanceStore} {s : Service} {db : Database}
    (opened : Service.start env parameters balances .empty = (.ok s, db)) (node : Node)
    (before : List Turn) (turn : Turn) (after : List Turn) {entry : Entry}
    (changed : s.entryOf turn (s.run before (node.on db)) = some entry) (contention : Contention)
    {account volume at_ : Value} {amount : Amount} {era : Int}
    (asked : s.reportOf account volume at_ = .ok (entry.account, amount, era))
    (something : amount.val ≠ 0) (older : era < entry.era) :
    let middle := s.run (before ++ [turn]) (node.on db)
    let now := s.run after middle
    let later := s.journal after middle
    let t := now.database.tables
    let r := t.record entry.account
    let outcome := (s.recordVolume account volume at_).run.run (now.facing contention)
    ((∃ answer, outcome.1 = .ok answer) ↔
      contention.refusal? = none ∧ t.total era + amount.val ≤ maxAmount ∧
        Entry.guardEra entry.account (entry :: later) ≤ era ∧
        r.confirmed + t.awardAt s.parameters.budget.val entry.account era ≤ maxAmount) ∧
    ((∀ change ∈ entry :: later, change.account = entry.account → ¬change.Empties) →
      ∃ failure, outcome.1 = .error failure ∧ outcome.2.database.tables = t ∧
        (contention.refusal? = some failure ∨
          failure = .ledger (.eraBeforeLastUpdate era r.lastEra) ∨
          failure = .ledger (.sumOverflow "era_volume" (Integer.write (t.total era))
            (Integer.write amount.val)))) := by
  intro middle now later t r outcome
  have start : History {s} (s.journal before (node.on db))
      (s.run before (node.on db)).database.tables := History.started opened node before
  have middle_eq : middle = s.serve turn (s.run before (node.on db)) := s.run_append _ _ _
  have reached : History {s} (s.journal before (node.on db) ++ [entry]) middle.database.tables := by
    have served := start.serve (Set.mem_singleton s) turn
    rwa [changed, Option.toList_some, ← middle_eq] at served
  have history : History {s} (s.journal before (node.on db) ++ entry :: later)
      (now.facing contention).database.tables := by
    have continued := reached.run (Set.mem_singleton s) after
    rwa [List.append_assoc, List.singleton_append] at continued
  have lastEra_eq : r.lastEra = Entry.guardEra entry.account (entry :: later) :=
    (history.lastEra_eq entry.account).trans (Entry.guardEra_append_cons _ _ entry)
  refine ⟨?_, fun kept => ?_⟩
  · rw [← lastEra_eq]
    exact history.recordVolume_succeeds_iff asked something
  · have guarded := reached.era_le_lastEra (Set.mem_singleton s) after kept
    exact history.recordVolume_fails_of_lt asked something (older.trans_le guarded)

/-- An account reports in an era and in a later one. -/
def reportsOfTwoEras : List Turn :=
  [⟨.free, .recordVolume (.text "a") (.int 30) (.int 0)⟩,
    ⟨.free, .recordVolume (.text "a") (.int 5) (.int 250)⟩]

/-- The account is paid for the first era, while its volume of the later one stays pending. -/
def paymentForFirstEra : List Turn :=
  [⟨.free, .claim (.text "a") (.int 260)⟩, ⟨.free, .recordVolume (.text "b") (.int 7) (.int 20)⟩]

/-- Then the account can no longer report in an era between the two. -/
theorem older_report_succeeds_iff_sample :
    Service.start .empty .sample .bundled .empty = (.ok .sample, .stamped) ∧
      let now := Service.sample.run paymentForFirstEra
        (Service.sample.run reportsOfTwoEras (Node.empty.on .stamped))
      now.database.tables.balance 0 "a" = 1000000 ∧
        ∃ failure, ((Service.sample.recordVolume (.text "a") (.int 1) (.int 199)).run.run
          (now.facing .free)).1 = .error failure := by
  have opened : Service.start .empty .sample .bundled .empty = (.ok .sample, .stamped) :=
    Service.start_empty .sample .bundled
  have changed : (Service.sample.entryOf reportsOfTwoEras[1] (Service.sample.run
      [reportsOfTwoEras[0]] (Node.empty.on .stamped))).map (fun entry =>
        (entry.account, entry.era, entry.rotation.reward.pending)) = some ("a", 200, 5) := by
    decide +kernel
  obtain ⟨entry, changed, fields⟩ := Option.map_eq_some_iff.1 changed
  obtain ⟨own, era_eq, pending_eq⟩ := by simpa only [Prod.mk.injEq] using fields
  have asked : Service.sample.reportOf (.text "a") (.int 1) (.int 199) =
      .ok (entry.account, ⟨1, by decide⟩, 100) := by
    rw [own]
    rfl
  have kept_entry : ¬entry.Empties := by
    rw [Entry.Empties, pending_eq]
    decide
  have kept_later : ∀ change ∈ Service.sample.journal paymentForFirstEra
      (Service.sample.run reportsOfTwoEras (Node.empty.on .stamped)),
      change.account = "a" → ¬change.Empties := by decide +kernel
  have refused := (older_report_succeeds_iff opened .empty [reportsOfTwoEras[0]]
    reportsOfTwoEras[1] paymentForFirstEra changed .free asked (by decide) (by omega)).2
    (List.forall_mem_cons.2 ⟨fun _ => kept_entry, own ▸ kept_later⟩)
  obtain ⟨failure, failed, -⟩ := refused
  exact ⟨opened, by decide +kernel, failure, failed⟩

/-- After a claim that drops its record, an account reports in an era before that of the claim. -/
theorem older_report_succeeds_after_claim :
    Service.start .empty .sample .bundled .empty = (.ok .sample, .stamped) ∧
      let reported := Service.sample.serve ⟨.free, .recordVolume (.text "a") (.int 10) (.int 0)⟩
        (Node.empty.on .stamped)
      let claim : Turn := ⟨.free, .claim (.text "a") (.int 100)⟩
      let paid := Service.sample.serve claim reported
      (Service.sample.entryOf claim reported).map
          (fun entry => (entry.account, entry.era, entry.paid)) = some ("a", 100, 1000000) ∧
        ((Service.sample.recordVolume (.text "a") (.int 5) (.int 0)).run.run
          (paid.facing .free)).1.toOption = some 0 := by
  refine ⟨rfl, ?_, ?_⟩ <;> decide +kernel

end EraRewards
