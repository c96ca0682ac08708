import EraRewards.Proofs.ValueConservation
import EraRewards.Proofs.VolumeConservation

/-!
# Pro-rata awards

When the changes of a run go through the eras in order, the volume of an account in an era is either
still pending as a whole or has been awarded as a whole, by one rotation and against the final total
of the era.  So a claim that comes after all eras in which an account has traded brings the account's
balance to the sum of its pro-rata parts, however often the record was turned on the way.
-/

namespace EraRewards

/-- How far an account has come with an era, given the journal that led to some tables. -/
inductive Stage (budget : Int) (journal : List Entry) (t : Tables) (account : String) (era : Int) :
    Prop
  /-- All volume of the account in the era is pending, and nothing was awarded for it. -/
  | pending
      (volume : Entry.sum (Entry.volumeOf · account era) journal = (t.record account).pendingIn era)
      (unawarded : Entry.sum (Entry.awardedFrom · account era) journal = 0)
  /-- All volume of the account in the era was awarded its part, and the run has left the era. -/
  | awarded
      (nothing : (t.record account).pendingIn era = 0)
      (award : Entry.sum (Entry.awardedFrom · account era) journal =
        proRata (Entry.sum (Entry.volumeOf · account era) journal)
          (Entry.sum (Entry.volumeIn · era) journal) budget)
      (left : ∃ entry ∈ journal, era < entry.era)

namespace Stage

variable {budget : Int} {journal : List Entry} {before after : Tables} {account : String} {era : Int}
variable {s : Service} {entry : Entry}

/-- A change for another account leaves the stage of an account as it is. -/
theorem of_other (stage : Stage budget journal before account era) (sound : before.Sound)
    (commits : s.Commits before entry after) (ordered : ∀ first ∈ journal, first.era ≤ entry.era)
    (other : entry.account ≠ account) : Stage budget (journal ++ [entry]) after account era := by
  have record_eq := commits.record_of_ne sound (Ne.symm other)
  have volume_eq : entry.volumeOf account era = 0 := by rw [Entry.volumeOf, if_neg other]
  have award_eq : entry.awardedFrom account era = 0 := by
    rw [Entry.awardedFrom, Entry.awardedTo, if_neg other, ite_self]
  cases stage with
  | pending volume unawarded =>
      refine .pending ?_ ?_
      · rw [Entry.sum_concat, volume_eq, add_zero, record_eq, volume]
      · rw [Entry.sum_concat, award_eq, unawarded, add_zero]
  | awarded nothing award left =>
      obtain ⟨later, later_mem, later_lt⟩ := left
      -- The era is behind the run, so its total has stopped growing.
      have total_eq : entry.volumeIn era = 0 := by
        have not_here : entry.era ≠ era := by
          have following := ordered later later_mem
          omega
        rw [Entry.volumeIn, if_neg not_here]
      refine .awarded ?_ ?_ ⟨later, List.mem_append_left _ later_mem, later_lt⟩
      · rw [record_eq, nothing]
      · simp only [Entry.sum_concat, volume_eq, award_eq, total_eq, add_zero]
        exact award

/-- A change for the account itself adds to its volume in the era of the change, and awards what was
pending in the era that its record leaves. -/
theorem of_own (stage : Stage budget journal before entry.account era) (sound : before.Sound)
    (total_eq : ∀ other, before.total other = Entry.sum (Entry.volumeIn · other) journal)
    (pending_le : (before.record entry.account).pending ≤
      before.total (before.record entry.account).lastEra)
    (commits : s.Commits before entry after) (fixed : (s.parameters.budget.val : Int) = budget)
    (ordered : ∀ first ∈ journal, first.era ≤ entry.era) :
    Stage budget (journal ++ [entry]) after entry.account era := by
  have turns := commits.turns sound
  have record_eq := commits.pendingIn_record sound era
  have found_eq := commits.found_eq
  have turned := turns.pendingIn_add era
  have volume_eq : entry.volumeOf entry.account era = if entry.era = era then entry.volume else 0 := by
    rw [Entry.volumeOf, if_pos rfl, Entry.volumeIn]
  have award_eq : entry.awardedFrom entry.account era =
      if entry.rotation.rotated = true ∧ (before.record entry.account).lastEra = era then
        entry.rotation.awarded
      else 0 := by
    simp only [Entry.awardedFrom, Entry.Converts, Entry.awardedTo, if_pos, found_eq]
  by_cases closing : entry.rotation.rotated = true ∧ (before.record entry.account).lastEra = era
  · -- The record leaves the era, in which everything was pending until now.
    obtain ⟨later, something, total_pos, awarded_eq⟩ := turns.of_rotated closing.1
    have here := closing.2
    have not_here : entry.era ≠ era := by omega
    have held : (before.record entry.account).pendingIn era =
        (before.record entry.account).pending := if_pos here
    have total_kept : entry.volumeIn era = 0 := by rw [Entry.volumeIn, if_neg not_here]
    rw [if_pos closing] at turned award_eq
    rw [if_neg not_here] at turned volume_eq
    cases stage with
    | pending volume unawarded =>
        refine .awarded ?_ ?_ ⟨entry, List.mem_append_right _ (List.mem_singleton_self entry), ?_⟩
        · omega
        · simp only [Entry.sum_concat, volume_eq, award_eq, total_kept, unawarded, zero_add, add_zero]
          rw [awarded_eq, Reward.award_eq_proRata something.le pending_le total_pos, fixed, volume,
            held, here, total_eq]
        · omega
    | awarded nothing award left => omega
  · rw [if_neg closing] at turned award_eq
    cases stage with
    | pending volume unawarded =>
        refine .pending ?_ ?_
        · rw [Entry.sum_concat, volume_eq, volume, record_eq]
          omega
        · rw [Entry.sum_concat, award_eq, unawarded, add_zero]
    | awarded nothing award left =>
        obtain ⟨later, later_mem, later_lt⟩ := left
        have not_here : entry.era ≠ era := by
          have following := ordered later later_mem
          omega
        have total_kept : entry.volumeIn era = 0 := by rw [Entry.volumeIn, if_neg not_here]
        rw [if_neg not_here] at turned volume_eq
        refine .awarded ?_ ?_ ⟨later, List.mem_append_left _ later_mem, later_lt⟩
        · omega
        · simp only [Entry.sum_concat, volume_eq, award_eq, total_kept, add_zero]
          exact award

theorem award_eq (stage : Stage budget journal before account era)
    (nothing : (before.record account).pendingIn era = 0) :
    Entry.sum (Entry.awardedFrom · account era) journal =
      proRata (Entry.sum (Entry.volumeOf · account era) journal)
        (Entry.sum (Entry.volumeIn · era) journal) budget := by
  cases stage with
  | pending volume unawarded => rw [unawarded, volume, nothing, proRata_zero]
  | awarded nothing award left => exact award

/-- What is pending for an account was reported by it. -/
theorem exists_report (stage : Stage budget journal before account era)
    (something : (before.record account).pendingIn era ≠ 0) :
    ∃ entry ∈ journal, entry.account = account ∧ entry.era = era ∧ entry.volume ≠ 0 := by
  cases stage with
  | pending volume unawarded =>
      rw [← volume] at something
      obtain ⟨entry, member, counts⟩ := Entry.exists_of_sum_ne_zero something
      rw [Entry.volumeOf, ite_ne_right_iff, Entry.volumeIn, ite_ne_right_iff] at counts
      exact ⟨entry, member, counts.1, counts.2.1, counts.2.2⟩
  | awarded nothing award left => exact absurd nothing something

end Stage

namespace History

variable {ledgers : Set Service} {journal : List Entry} {t : Tables} {budget : Int}

/-- In an ordered history every account has a stage for every era. -/
theorem stage (history : History ledgers journal t)
    (fixed : ∀ s ∈ ledgers, (s.parameters.budget.val : Int) = budget)
    (ordered : journal.Pairwise fun first second => first.era ≤ second.era)
    (account : String) (era : Int) : Stage budget journal t account era := by
  induction history with
  | empty => exact .pending (ite_self 0).symm rfl
  | stamped history stamp induction =>
      cases induction ordered with
      | pending volume unawarded => exact .pending volume unawarded
      | awarded nothing award left => exact .awarded nothing award left
  | @committed journal before after entry s history member commits induction =>
      obtain ⟨ordered_before, -, following⟩ := List.pairwise_append.1 ordered
      have entry_last : ∀ first ∈ journal, first.era ≤ entry.era :=
        fun first listed => following first listed entry (List.mem_singleton_self entry)
      have stage := induction ordered_before
      by_cases own : entry.account = account
      · subst own
        exact stage.of_own history.sound history.total_eq (history.pending_le_total _) commits
          (fixed s member) entry_last
      · exact stage.of_other history.sound commits entry_last own

/-- Every conversion is out of an era in which something was changed. -/
theorem lastEra_mem_eras (history : History ledgers journal t) :
    ∀ entry ∈ journal, entry.rotation.rotated = true →
      entry.found.lastEra ∈ Entry.eras journal := by
  induction history with
  | empty => exact fun _ member => absurd member List.not_mem_nil
  | stamped history stamp induction => exact induction
  | @committed journal before after last s history member commits induction =>
      intro entry listed rotated
      have grown {era : Int} (known : era ∈ Entry.eras journal) :
          era ∈ Entry.eras (journal ++ [last]) := by
        obtain ⟨first, first_mem, here⟩ := Entry.mem_eras.1 known
        exact Entry.mem_eras.2 ⟨first, List.mem_append_left _ first_mem, here⟩
      rcases List.mem_append.1 listed with earlier | new
      · exact grown (induction entry earlier rotated)
      · rw [List.mem_singleton.1 new] at rotated ⊢
        have total_pos := ((commits.turns history.sound).of_rotated rotated).2.2.1
        rw [history.total_eq] at total_pos
        rw [commits.found_eq]
        exact grown (Entry.mem_eras_of_sum_ne_zero total_pos.ne')

/-- What was awarded to an account was awarded for eras in which something was changed. -/
theorem sum_awardedFrom (history : History ledgers journal t) (account : String) :
    ∑ era ∈ Entry.eras journal, Entry.sum (Entry.awardedFrom · account era) journal =
      Entry.sum (Entry.awardedTo · account) journal := by
  rw [Entry.sum_comm]
  apply Entry.sum_congr
  intro entry member
  by_cases rotated : entry.rotation.rotated = true
  · have closed := history.lastEra_mem_eras entry member rotated
    simp [Entry.awardedFrom, Entry.Converts, rotated, closed]
  · obtain ⟨total, budget, turns⟩ := history.turns entry member
    have unawarded := turns.awarded_of_not_rotated rotated
    simp [Entry.awardedFrom, Entry.awardedTo, unawarded]

/-- An account that was awarded its part of every era and has nothing confirmed has been paid the sum
of its parts. -/
theorem balance_eq_sum (history : History ledgers journal t) {token : Int}
    (paying : ∀ s ∈ ledgers, s.PaysIn token) {account : String}
    (unconfirmed : (t.record account).confirmed = 0)
    (awarded : ∀ era, Entry.sum (Entry.awardedFrom · account era) journal =
      proRata (Entry.sum (Entry.volumeOf · account era) journal)
        (Entry.sum (Entry.volumeIn · era) journal) budget) :
    t.balance token account = ∑ era ∈ Entry.eras journal,
      proRata (Entry.sum (Entry.volumeOf · account era) journal)
        (Entry.sum (Entry.volumeIn · era) journal) budget := by
  have confirmed_add := history.confirmed_add account
  rw [unconfirmed, zero_add] at confirmed_add
  rw [history.balance_eq paying, confirmed_add, ← history.sum_awardedFrom]
  exact Finset.sum_congr rfl fun era _ => awarded era

/-- A rotation that awards nothing, made after all eras in which an account has reported volume,
leaves nothing to be awarded. -/
theorem award_eq_of_rotation (history : History ledgers journal t)
    (fixed : ∀ s ∈ ledgers, (s.parameters.budget.val : Int) = budget)
    (ordered : journal.Pairwise fun first second => first.era ≤ second.era) {account : String}
    {era : Int} {rotation : Rotation} (rotated : t.rotation budget account era 0 = .ok rotation)
    (unawarded : rotation.awarded = 0)
    (past : ∀ entry ∈ journal, entry.account = account → entry.volume ≠ 0 → entry.era < era)
    (period : Int) :
    Entry.sum (Entry.awardedFrom · account period) journal =
      proRata (Entry.sum (Entry.volumeOf · account period) journal)
        (Entry.sum (Entry.volumeIn · period) journal) budget := by
  have stage := history.stage fixed ordered account period
  by_cases nothing : (t.record account).pendingIn period = 0
  · exact stage.award_eq nothing
  · obtain ⟨entry, member, own, here, counts⟩ := stage.exists_report nothing
    have behind := past entry member own counts
    rw [Reward.pendingIn, ite_eq_right_iff, Classical.not_imp] at nothing
    obtain ⟨held, pending_ne⟩ := nothing
    have pending_le := history.pending_le_total account
    have turns := Records.turns_of_rotation history.sound rotated
    -- The record would leave the era now, so the part of the era is what the rotation awards.
    cases turns with
    | same current bounded => omega
    | idle later unpending => exact absurd unpending pending_ne
    | closing later something total_pos bounded =>
        have part := Reward.award_eq_proRata something.le pending_le total_pos budget
        cases stage with
        | pending volume unrewarded =>
            rw [Reward.pendingIn, if_pos held] at volume
            rw [unrewarded, volume, ← history.total_eq, ← held, ← part]
            exact unawarded.symm
        | awarded unpending award left =>
            rw [Reward.pendingIn, if_pos held] at unpending
            exact absurd unpending pending_ne

/-- A payment made after all eras in which an account has reported volume leaves nothing to be
awarded. -/
theorem award_eq_of_payment {s : Service} {before : Tables} {entry : Entry}
    (history : History ledgers (journal ++ [entry]) t) (sound : before.Sound)
    (commits : s.Commits before entry t)
    (fixed : ∀ s ∈ ledgers, (s.parameters.budget.val : Int) = budget)
    (ordered : (journal ++ [entry]).Pairwise fun first second => first.era ≤ second.era)
    (unreported : entry.volume = 0)
    (past : ∀ first ∈ journal, first.account = entry.account → first.volume ≠ 0 →
      first.era < entry.era) (period : Int) :
    Entry.sum (Entry.awardedFrom · entry.account period) (journal ++ [entry]) =
      proRata (Entry.sum (Entry.volumeOf · entry.account period) (journal ++ [entry]))
        (Entry.sum (Entry.volumeIn · period) (journal ++ [entry])) budget := by
  have stage := history.stage fixed ordered entry.account period
  apply stage.award_eq
  by_contra something
  obtain ⟨first, member, own, here, counts⟩ := stage.exists_report something
  rw [commits.pendingIn_record sound, Reward.pendingIn, (commits.turns sound).lastEra_eq,
    ite_eq_right_iff, Classical.not_imp] at something
  rcases List.mem_append.1 member with earlier | last
  · have behind := past first earlier own counts
    omega
  · rw [List.mem_singleton.1 last] at counts
    exact counts unreported

/-- A successful claim, made after all eras in which an account has reported volume, leaves nothing
confirmed and nothing to be awarded. -/
theorem award_eq_of_claim {s : Service} {node : Node}
    (history : History {s} journal node.database.tables) {contention : Contention}
    {account at_ : Value} {name : String} {era amount : Int}
    (ordered : (journal ++ (s.entryOf ⟨contention, .claim account at_⟩ node).toList).Pairwise
      fun first second => first.era ≤ second.era)
    (asked : s.claimOf account at_ node.clock = .ok (name, era))
    (answered : ((s.claim account at_).run.run (node.facing contention)).1 = .ok amount)
    (past : ∀ entry ∈ journal, entry.account = name → entry.volume ≠ 0 → entry.era < era) :
    ((s.serve ⟨contention, .claim account at_⟩ node).database.tables.record name).confirmed = 0 ∧
      ∀ period,
        Entry.sum (Entry.awardedFrom · name period)
            (journal ++ (s.entryOf ⟨contention, .claim account at_⟩ node).toList) =
          proRata
            (Entry.sum (Entry.volumeOf · name period)
              (journal ++ (s.entryOf ⟨contention, .claim account at_⟩ node).toList))
            (Entry.sum (Entry.volumeIn · period)
              (journal ++ (s.entryOf ⟨contention, .claim account at_⟩ node).toList))
            s.parameters.budget.val := by
  have fixed : ∀ other ∈ ({s} : Set Service),
      (other.parameters.budget.val : Int) = s.parameters.budget.val := by
    rintro other rfl
    rfl
  have sound : (node.facing contention).database.tables.Sound := history.sound
  have next := history.serve (Set.mem_singleton s) ⟨contention, .claim account at_⟩
  have served : (s.serve ⟨contention, .claim account at_⟩ node).database.tables =
      ((s.claim account at_).run.run (node.facing contention)).2.database.tables := by
    simp only [Service.serve, Service.answer, Effect.run_map]
  have asked_facing : s.claimOf account at_ (node.facing contention).clock = .ok (name, era) := asked
  obtain ⟨_, _, rotation, asked_again, written⟩ := Service.claim_eq_ok answered
  cases asked_facing.symm.trans asked_again
  have paid := Database.run_of_write written
  have entry_eq : s.entryOf ⟨contention, .claim account at_⟩ node = _ :=
    Service.entryOfClaim_eq sound answered asked_facing paid
  rw [served]
  rw [served] at next
  rw [entry_eq] at ordered next ⊢
  by_cases nothing : amount = 0
  · subst nothing
    obtain ⟨unchanged, _, _, rotation, asked_zero, rotated, unconfirmed, unawarded⟩ :=
      Service.rotation_of_claim_zero sound answered
    cases asked_facing.symm.trans asked_zero
    rw [if_pos rfl, Option.toList_none, List.append_nil] at ordered ⊢
    rw [unchanged]
    exact ⟨unconfirmed, history.award_eq_of_rotation fixed ordered rotated unawarded past⟩
  · rw [if_neg nothing, Option.toList_some] at ordered next ⊢
    obtain ⟨era_nonneg, era_le⟩ := Service.claimOf_bounds asked
    have commits := Service.commits_of_payOut sound nothing era_nonneg era_le paid
    refine ⟨?_, next.award_eq_of_payment sound commits fixed ordered rfl past⟩
    rcases commits.record_eq sound with ⟨-, unpaid⟩ | ⟨record_eq, -⟩
    · exact absurd unpaid nothing
    · rw [record_eq, Reward.settled_confirmed]

end History

/-- In a run whose changes go through the eras in order, a successful claim that comes after all eras
in which the account has reported volume leaves nothing confirmed and brings the balance to the sum
of the account's pro-rata parts of the budget. -/
theorem balance_eq_sum_proRata {env : Environment} {parameters : Parameters} {s : Service}
    {db : Database} (opened : Service.start env parameters .bundled .empty = (.ok s, db))
    (node : Node) (turns : List Turn) (contention : Contention) {account at_ : Value}
    {name : String} {era amount : Int}
    (ordered : (s.journal (turns ++ [⟨contention, .claim account at_⟩]) (node.on db)).Pairwise
      fun first second => first.era ≤ second.era)
    (asked : s.claimOf account at_ (s.run turns (node.on db)).clock = .ok (name, era))
    (answered : ((s.claim account at_).run.run
      ((s.run turns (node.on db)).facing contention)).1 = .ok amount)
    (past : ∀ entry ∈ s.journal turns (node.on db),
      entry.account = name → entry.volume ≠ 0 → entry.era < era) :
    let journal := s.journal (turns ++ [⟨contention, .claim account at_⟩]) (node.on db)
    let t := (s.run (turns ++ [⟨contention, .claim account at_⟩]) (node.on db)).database.tables
    (t.record name).confirmed = 0 ∧
      t.balance s.parameters.token name = ∑ period ∈ Entry.eras journal,
        proRata (Entry.sum (Entry.volumeOf · name period) journal)
          (Entry.sum (Entry.volumeIn · period) journal) s.parameters.budget.val := by
  intro journal t
  have before := History.started opened node turns
  have history : History {s} journal t := History.started opened node _
  have paying : ∀ other ∈ ({s} : Set Service), other.PaysIn s.parameters.token := by
    rintro other rfl
    exact .of_start opened
  have journal_eq : journal = s.journal turns (node.on db) ++
      (s.entryOf ⟨contention, .claim account at_⟩ (s.run turns (node.on db))).toList := by
    simp only [journal, s.journal_append, Service.journal, List.append_nil]
  have tables_eq : t = (s.serve ⟨contention, .claim account at_⟩
      (s.run turns (node.on db))).database.tables := by
    simp only [t, s.run_append, Service.run]
  obtain ⟨unconfirmed, awarded⟩ :=
    before.award_eq_of_claim (journal_eq ▸ ordered) asked answered past
  rw [← tables_eq] at unconfirmed
  rw [← journal_eq] at awarded
  exact ⟨unconfirmed, history.balance_eq_sum paying unconfirmed awarded⟩

/-- An account trades in two eras with others; its report in an era that it has left fails. -/
def sharedEras : List Turn :=
  [⟨.free, .recordVolume (.text "a") (.int 30) (.int 0)⟩,
    ⟨.free, .recordVolume (.text "b") (.int 70) (.int 99)⟩,
    ⟨.free, .recordVolume (.text "a") (.int 5) (.int 100)⟩,
    ⟨.free, .claim (.text "b") (.int 100)⟩,
    ⟨.free, .recordVolume (.text "c") (.int 15) (.int 150)⟩,
    ⟨.free, .recordVolume (.text "a") (.int 1) (.int 20)⟩]

/-- After both eras its claim brings its balance to the sum of both parts. -/
theorem balance_eq_sum_proRata_sample :
    Service.start .empty .sample .bundled .empty = (.ok .sample, .stamped) ∧
      (Service.sample.journal (sharedEras ++ [⟨.free, .claim (.text "a") (.int 200)⟩])
        (Node.empty.on .stamped)).Pairwise (fun first second => first.era ≤ second.era) ∧
      Service.sample.claimOf (.text "a") (.int 200)
        (Service.sample.run sharedEras (Node.empty.on .stamped)).clock = .ok ("a", 200) ∧
      ((Service.sample.claim (.text "a") (.int 200)).run.run ((Service.sample.run sharedEras
        (Node.empty.on .stamped)).facing .free)).1 = .ok 550000 ∧
      (∀ entry ∈ Service.sample.journal sharedEras (Node.empty.on .stamped),
        entry.account = "a" → entry.volume ≠ 0 → entry.era < 200) ∧
      (Service.sample.run (sharedEras ++ [⟨.free, .claim (.text "a") (.int 200)⟩])
        (Node.empty.on .stamped)).database.tables.balance 0 "a" = 550000 := by
  have opened : Service.start .empty .sample .bundled .empty = (.ok .sample, .stamped) :=
    Service.start_empty .sample .bundled
  have ordered : (Service.sample.journal (sharedEras ++ [⟨.free, .claim (.text "a") (.int 200)⟩])
      (Node.empty.on .stamped)).Pairwise (fun first second => first.era ≤ second.era) := by
    decide +kernel
  have asked : Service.sample.claimOf (.text "a") (.int 200)
      (Service.sample.run sharedEras (Node.empty.on .stamped)).clock = .ok ("a", 200) := by rfl
  have answered : ((Service.sample.claim (.text "a") (.int 200)).run.run ((Service.sample.run
      sharedEras (Node.empty.on .stamped)).facing .free)).1 = .ok 550000 :=
    Effect.ok_of_toOption (by decide +kernel)
  have past : ∀ entry ∈ Service.sample.journal sharedEras (Node.empty.on .stamped),
      entry.account = "a" → entry.volume ≠ 0 → entry.era < 200 := by decide +kernel
  have paid := (balance_eq_sum_proRata opened .empty sharedEras .free ordered asked answered past).2
  exact ⟨opened, ordered, asked, answered, past, paid.trans (by decide +kernel)⟩

end EraRewards
