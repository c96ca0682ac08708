import EraRewards.Proofs.Outcome

/-!
# When a record is touched

A record may be turned to any number of eras before it is turned to the one in which volume comes in.
These touches award together what the one rotation would have awarded, they fail where it fails, and
they leave the same tables.
-/

namespace EraRewards

open Effect

/-! ## Two turns in a row -/

namespace Rotation

/-- Two rotations in a row as one. -/
def andThen (first last : Rotation) : Rotation :=
  ⟨first.awarded + last.awarded, first.rotated || last.rotated, last.reward⟩

end Rotation

namespace Reward.Turns

variable {r : Reward} {touch era incoming total budget : Int} {first last rotation : Rotation}

/-- A record that has been touched holds no more than before. -/
theorem pending_touched_le (turns : r.Turns touch 0 total budget first) :
    first.reward.pending ≤ maxAmount := by
  cases turns with
  | same current bounded => exact bounded
  | idle later nothing => exact Int.natCast_nonneg _
  | closing later something total_pos bounded => exact Int.natCast_nonneg _

theorem touched_short (turns : r.Turns touch 0 total budget first) (short : r.Short)
    (budget_nonneg : 0 ≤ budget) : first.reward.Short := by
  have turns : r.Turns touch Amount.zero.val total budget first := turns
  exact turns.short short budget_nonneg

/-- A record that has been touched in its era is as it was. -/
theorem touched_eq (turns : r.Turns touch 0 total budget first) (current : touch = r.lastEra) :
    first = ⟨0, false, r⟩ := by
  cases turns with
  | same _ bounded => simp
  | idle later nothing => exact absurd current later.ne'
  | closing later something total_pos bounded => exact absurd current later.ne'

/-- A record that has been touched in a later era holds nothing any more. -/
theorem pending_touched (turns : r.Turns touch 0 total budget first) (later : r.lastEra < touch) :
    first.reward.pending = 0 := by
  cases turns with
  | same current bounded => exact absurd current later.ne'
  | idle _ nothing => rfl
  | closing _ something total_pos bounded => rfl

/-- A record that holds nothing takes on what comes in, in its era as in any later one. -/
theorem of_nothing (nothing : r.pending = 0) (turns : r.Turns era incoming total budget last) :
    last = ⟨0, false, ⟨r.confirmed, incoming, era⟩⟩ := by
  cases turns with
  | same current bounded => simp [nothing, current]
  | idle later _ => rfl
  | closing later something total_pos bounded => exact absurd nothing something.ne'

theorem nothing_turns (nothing : r.pending = 0) (lastEra_le : r.lastEra ≤ era)
    (incoming_le : incoming ≤ maxAmount) (total budget : Int) :
    r.Turns era incoming total budget ⟨0, false, ⟨r.confirmed, incoming, era⟩⟩ := by
  rcases lastEra_le.eq_or_lt with rfl | later
  · have bounded : r.pending + incoming ≤ maxAmount := by omega
    have turns : r.Turns r.lastEra incoming total budget _ := .same rfl bounded
    simpa [nothing] using turns
  · exact .idle later nothing

/-- Two turns in a row, the first of which brings nothing in, make one turn. -/
theorem andThen {other : Int} (first_turns : r.Turns touch 0 total budget first)
    (last_turns : first.reward.Turns era incoming other budget last)
    (same_total : touch = r.lastEra → other = total) :
    r.Turns era incoming total budget (first.andThen last) := by
  have touch_le := last_turns.lastEra_le
  rw [first_turns.lastEra_eq] at touch_le
  rcases first_turns.lastEra_le.eq_or_lt with current | moved
  · obtain rfl := same_total current.symm
    obtain rfl := first_turns.touched_eq current.symm
    simpa [Rotation.andThen] using last_turns
  · have later := moved.trans_le touch_le
    rw [last_turns.of_nothing (first_turns.pending_touched moved)]
    cases first_turns with
    | same current bounded => exact absurd current moved.ne'
    | idle _ nothing => simpa [Rotation.andThen] using idle later nothing
    | closing _ something total_pos bounded =>
        simpa [Rotation.andThen] using closing later something total_pos bounded

/-- A turn can be interrupted in any era on the way. -/
theorem exists_touch (turns : r.Turns era incoming total budget rotation)
    (pending_le : r.pending ≤ maxAmount) (incoming_le : incoming ≤ maxAmount)
    (lastEra_le : r.lastEra ≤ touch) (touch_le : touch ≤ era) :
    ∃ first last, r.Turns touch 0 total budget first ∧
      (∀ other, (touch = r.lastEra → other = total) →
        first.reward.Turns era incoming other budget last) ∧
      first.andThen last = rotation := by
  rcases lastEra_le.eq_or_lt with current | moved
  · refine ⟨⟨0, false, r⟩, rotation, ?_, fun other same_total => ?_, by simp [Rotation.andThen]⟩
    · have bounded : r.pending + 0 ≤ maxAmount := by omega
      have turns : r.Turns touch 0 total budget _ := .same current.symm bounded
      simpa using turns
    · rw [same_total current.symm]
      exact turns
  · cases turns with
    | same here bounded => omega
    | idle later nothing =>
        exact ⟨_, _, .idle moved nothing, fun other _ => nothing_turns rfl touch_le incoming_le _ _,
          rfl⟩
    | closing later something total_pos bounded =>
        refine ⟨_, _, .closing moved something total_pos bounded,
          fun other _ => nothing_turns rfl touch_le incoming_le _ _, ?_⟩
        simp [Rotation.andThen]

end Reward.Turns

/-! ## Rotations on arbitrary tables -/

namespace Tables

variable {t : Tables} {account : String} {era : Int}

/-- What a rotation of an account to an era needs can be read. -/
structure Reads (t : Tables) (account : String) (era : Int) : Prop where
  /-- The record. -/
  record : (Records.find account).run.run t = (.ok (t.record account), t)
  /-- The total of the era that the record closes. -/
  total : (t.record account).lastEra < era → 0 < (t.record account).pending →
    (Volumes.totalOf (t.record account).lastEra).run.run t =
      (.ok (t.total (t.record account).lastEra), t)

end Tables

theorem fitsColumn_of_between {low n high : Int} (low_fits : fitsColumn low = true)
    (high_fits : fitsColumn high = true) (low_le : low ≤ n) (le_high : n ≤ high) :
    fitsColumn n = true := by
  simp only [fitsColumn, Bool.and_eq_true, decide_eq_true_eq] at low_fits high_fits ⊢
  exact ⟨low_fits.1.trans low_le, le_high.trans high_fits.2⟩

namespace Volumes

/-- Records do not matter for totals. -/
theorem totalOf_run_setRecord (t : Tables) (era : Int) (account : String) (r : Reward) :
    (totalOf era).run.run (t.setRecord account r) =
      (((totalOf era).run.run t).1, t.setRecord account r) := by
  simp only [totalOf, run_bind, run_lift, run_get]
  cases bindColumn era with
  | error failure => rfl
  | ok column =>
      simp only [Tables.setRecord]
      cases t.totals.get? column <;> rfl

theorem totalOf_run_of_setRecord {t : Tables} {era total : Int} {account : String} {r : Reward}
    (read : (totalOf era).run.run (t.setRecord account r) = (.ok total, t.setRecord account r)) :
    (totalOf era).run.run t = (.ok total, t) := by
  rw [totalOf_run_setRecord] at read
  rcases answered : (totalOf era).run.run t with ⟨outcome, after⟩
  rw [answered] at read
  obtain rfl : outcome = .ok total := congrArg Prod.fst read
  rw [(totalOf_eq_ok answered).2.2]

end Volumes

namespace Records

variable {t after : Tables} {account : String} {budget : Amount} {era : Int} {incoming : Amount}
  {rotation : Rotation}

theorem find_run_setRecord {r : Reward} (short : r.Short) (t : Tables) (account : String) :
    (find account).run.run (t.setRecord account r) = (.ok r, t.setRecord account r) := by
  have found : (t.setRecord account r).rewards.get? account = some (.ofReward r) :=
    (Table.get?_insert _ _ _ _).trans (if_pos rfl)
  rw [find, run_bind, run_get]
  dsimp only
  rw [found]
  dsimp only
  rw [run_lift, ofRow, RewardRow.ofReward, readCell_write_of_short short.confirmed,
    readCell_write_of_short short.pending]
  rfl

/-- A preview does not fail where its record turns. -/
theorem preview_run_of_turns (reads : t.Reads account era)
    (turns : (t.record account).Turns era incoming.val (t.total (t.record account).lastEra)
      budget.val rotation) :
    (preview budget.val account era incoming).run.run t = (.ok rotation, t) := by
  obtain ⟨total, totalled, same_total⟩ : ∃ total,
      (closedTotal (era ≠ (t.record account).lastEra ∧ 0 < (t.record account).pending)
        (t.record account)).run.run t = (.ok total, t) ∧
      ((t.record account).lastEra < era → 0 < (t.record account).pending →
        t.total (t.record account).lastEra = total) := by
    by_cases closing : (t.record account).lastEra < era ∧ 0 < (t.record account).pending
    · refine ⟨_, ?_, fun _ _ => rfl⟩
      rw [closedTotal, if_pos (decide_eq_true ⟨closing.1.ne', closing.2⟩)]
      exact reads.total closing.1 closing.2
    · have open_ : ¬(era ≠ (t.record account).lastEra ∧ 0 < (t.record account).pending) :=
        fun moved => closing ⟨lt_of_le_of_ne turns.lastEra_le moved.1.symm, moved.2⟩
      refine ⟨0, ?_, fun later something => absurd ⟨later, something⟩ closing⟩
      rw [closedTotal, if_neg (by simpa using open_), run_pure]
  rw [preview_run_of_found reads.record totalled, (turns.total_congr same_total).rotation_eq]
  rfl

/-- A rotation that succeeds has read what it needs. -/
theorem reads_of_rotate
    (rotated : (rotate budget.val account era incoming).run.run t = (.ok rotation, after)) :
    t.Reads account era := by
  obtain ⟨turned, between, previewed, -⟩ := ok_of_run_bind rotated
  obtain ⟨r, found, looked_up, rest⟩ := ok_of_run_bind previewed
  obtain ⟨rfl, -, rfl⟩ := find_eq_ok looked_up
  obtain ⟨total, last, totalled, -⟩ := ok_of_run_bind rest
  refine ⟨looked_up, fun later something => ?_⟩
  rw [closedTotal, if_pos (decide_eq_true ⟨later.ne', something⟩)] at totalled
  obtain ⟨rfl, -, rfl⟩ := Volumes.totalOf_eq_ok totalled
  exact totalled

/-- A rotation succeeds exactly if what it needs can be read and the record turns. -/
theorem rotate_eq_ok_iff (fits : fitsColumn era = true) :
    (rotate budget.val account era incoming).run.run t = (.ok rotation, after) ↔
      t.Reads account era ∧
        (t.record account).Turns era incoming.val (t.total (t.record account).lastEra) budget.val
          rotation ∧
        after = t.setRecord account rotation.reward := by
  constructor
  · intro rotated
    obtain ⟨turns, -, after_eq⟩ := rotate_eq_ok rotated
    exact ⟨reads_of_rotate rotated, turns, after_eq⟩
  · rintro ⟨reads, turns, rfl⟩
    have column : bindColumn rotation.reward.lastEra = .ok rotation.reward.lastEra := by
      rw [turns.lastEra_eq, bindColumn, if_pos fits]
    rw [rotate, run_bind, preview_run_of_turns reads turns]
    dsimp only
    rw [run_bind, put, putRow, run_bind, run_lift, column]
    rfl

/-! ## Touches -/

/-- Rotations of an account to some eras in which nothing comes in, and then to one in which volume
comes in. -/
def rotateThrough (budget : Int) (account : String) (touches : List Int) (era : Int)
    (incoming : Amount) : Transaction (List Rotation) := do
  let touched ← touches.mapM fun touch => rotate budget account touch .zero
  let last ← rotate budget account era incoming
  return touched ++ [last]

theorem rotateThrough_cons (budget : Int) (account : String) (touch : Int) (touches : List Int)
    (era : Int) (incoming : Amount) :
    rotateThrough budget account (touch :: touches) era incoming = do
      let first ← rotate budget account touch .zero
      let others ← rotateThrough budget account touches era incoming
      return first :: others := by
  simp [rotateThrough, List.mapM_cons]

variable {touch : Int} {touches : List Int}

theorem short_of_reads (reads : t.Reads account era) : (t.record account).Short :=
  (find_eq_ok reads.record).2.1

/-- A record that is read back leaves only the total to be read. -/
theorem reads_setRecord_iff {r : Reward} (short : r.Short) :
    (t.setRecord account r).Reads account era ↔
      (r.lastEra < era → 0 < r.pending →
        (Volumes.totalOf r.lastEra).run.run t = (.ok (t.total r.lastEra), t)) := by
  have found := Tables.record_setRecord_of_short short (t := t) account
  constructor
  · intro reads later something
    have totalled := reads.total (found.symm ▸ later) (found.symm ▸ something)
    rw [found, Tables.total_setRecord] at totalled
    exact Volumes.totalOf_run_of_setRecord totalled
  · intro totalled
    refine ⟨?_, ?_⟩
    · rw [found]
      exact find_run_setRecord short t account
    · rw [found, Tables.total_setRecord]
      intro later something
      rw [Volumes.totalOf_run_setRecord, totalled later something]

/-- After a touch a rotation reads what it would have read before. -/
theorem reads_touched_iff {first : Rotation} (touched : t.Reads account touch)
    (short : first.reward.Short)
    (turns : (t.record account).Turns touch 0 (t.total (t.record account).lastEra) budget.val first) :
    (t.setRecord account first.reward).Reads account era ↔ t.Reads account era := by
  rw [reads_setRecord_iff short]
  -- A touch that moves the record leaves it nothing to close, and the total has been read by the touch.
  rcases turns.lastEra_le.eq_or_lt with current | moved
  · rw [turns.touched_eq current.symm]
    exact ⟨fun totalled => ⟨touched.record, totalled⟩, fun reads => reads.total⟩
  · refine ⟨fun _ => ⟨touched.record, fun _ => touched.total moved⟩, fun _ _ something => ?_⟩
    exact absurd (turns.pending_touched moved) something.ne'

/-- A touch on the way to an era changes neither what is awarded nor what is left. -/
theorem touch_rotate_iff (lastEra_le : (t.record account).lastEra ≤ touch) (touch_le : touch ≤ era)
    (touch_fits : fitsColumn touch = true) (fits : fitsColumn era = true)
    (pending_le : (t.record account).pending ≤ maxAmount) :
    (∃ first between last,
        (rotate budget.val account touch .zero).run.run t = (.ok first, between) ∧
        (rotate budget.val account era incoming).run.run between = (.ok last, after) ∧
        first.andThen last = rotation) ↔
      (rotate budget.val account era incoming).run.run t = (.ok rotation, after) := by
  constructor
  · rintro ⟨first, between, last, touched, rotated, rfl⟩
    obtain ⟨touch_reads, first_turns, rfl⟩ := (rotate_eq_ok_iff touch_fits).1 touched
    obtain ⟨last_reads, last_turns, rfl⟩ := (rotate_eq_ok_iff fits).1 rotated
    have short := first_turns.touched_short (short_of_reads touch_reads) (Int.natCast_nonneg _)
    rw [Tables.record_setRecord_of_short short] at last_turns
    refine (rotate_eq_ok_iff fits).2 ⟨(reads_touched_iff touch_reads short first_turns).1 last_reads,
      first_turns.andThen last_turns fun current => ?_, Tables.setRecord_setRecord _ _ _⟩
    rw [first_turns.lastEra_eq, current]
    rfl
  · intro rotated
    obtain ⟨reads, turns, rfl⟩ := (rotate_eq_ok_iff fits).1 rotated
    obtain ⟨first, last, first_turns, last_turns, rfl⟩ :=
      turns.exists_touch pending_le (Int.ofNat_le.2 incoming.le_max) lastEra_le touch_le
    have touch_reads : t.Reads account touch :=
      ⟨reads.record, fun later => reads.total (later.trans_le touch_le)⟩
    have short := first_turns.touched_short (short_of_reads touch_reads) (Int.natCast_nonneg _)
    refine ⟨first, _, last, (rotate_eq_ok_iff touch_fits).2 ⟨touch_reads, first_turns, rfl⟩,
      (rotate_eq_ok_iff fits).2 ⟨(reads_touched_iff touch_reads short first_turns).2 reads, ?_,
        (Tables.setRecord_setRecord _ _ _).symm⟩, rfl⟩
    rw [Tables.record_setRecord_of_short short]
    refine last_turns _ fun current => ?_
    rw [first_turns.lastEra_eq, current]
    rfl

theorem record_of_touch {first : Rotation} {between : Tables}
    (touched : (rotate budget.val account touch .zero).run.run t = (.ok first, between)) :
    (between.record account).lastEra = touch ∧ (between.record account).pending ≤ maxAmount := by
  obtain ⟨turns, short, rfl⟩ := rotate_eq_ok touched
  rw [Tables.record_setRecord_of_short (turns.touched_short short (Int.natCast_nonneg _))]
  exact ⟨turns.lastEra_eq, turns.pending_touched_le⟩

/-- Touches on the way to an era change neither what is awarded nor what is left. -/
theorem rotateThrough_eq_ok_iff {awarded : Int} (touches : List Int) (fits : fitsColumn era = true)
    (first_fits : fitsColumn (t.record account).lastEra = true)
    (sorted : ((t.record account).lastEra :: (touches ++ [era])).Pairwise (· ≤ ·))
    (pending_le : (t.record account).pending ≤ maxAmount) :
    (∃ rotations,
        (rotateThrough budget.val account touches era incoming).run.run t = (.ok rotations, after) ∧
        (rotations.map Rotation.awarded).sum = awarded) ↔
      ∃ rotation, (rotate budget.val account era incoming).run.run t = (.ok rotation, after) ∧
        rotation.awarded = awarded := by
  -- Each touch leaves other tables, so the tables vary in the induction; its step is
  -- `touch_rotate_iff`, which merges the first touch with the rotation that the others amount to.
  induction touches generalizing t awarded with
  | nil =>
      simp only [rotateThrough, List.mapM_nil, pure_bind, List.nil_append]
      constructor
      · rintro ⟨rotations, rotated, rfl⟩
        obtain ⟨last, between, rotated, answered⟩ := ok_of_run_bind rotated
        cases answered
        exact ⟨last, rotated, by simp⟩
      · rintro ⟨last, rotated, rfl⟩
        exact ⟨[last], by rw [run_bind, rotated]; rfl, by simp⟩
  | cons touch touches ih =>
      rw [List.cons_append, List.pairwise_cons] at sorted
      obtain ⟨lastEra_le, sorted⟩ := sorted
      have touch_ge := lastEra_le touch List.mem_cons_self
      have touch_le := (List.pairwise_cons.1 sorted).1 era (by simp)
      have touch_fits := fitsColumn_of_between first_fits fits touch_ge touch_le
      have step := @touch_rotate_iff t after account budget era incoming
      rw [rotateThrough_cons]
      constructor
      · rintro ⟨rotations, through, rfl⟩
        obtain ⟨first, between, touched, through⟩ := ok_of_run_bind through
        obtain ⟨others, between, through, answered⟩ := ok_of_run_bind through
        cases answered
        obtain ⟨touched_era, touched_le⟩ := record_of_touch touched
        rw [← touched_era] at sorted touch_fits
        obtain ⟨last, rotated, last_eq⟩ := (ih touch_fits sorted touched_le).1 ⟨others, through, rfl⟩
        rw [touched_era] at touch_fits
        refine ⟨first.andThen last, (step touch_ge touch_le touch_fits fits pending_le).1
          ⟨first, _, last, touched, rotated, rfl⟩, ?_⟩
        simp [Rotation.andThen, last_eq]
      · rintro ⟨rotation, rotated, rfl⟩
        obtain ⟨first, between, last, touched, last_rotated, rfl⟩ :=
          (step touch_ge touch_le touch_fits fits pending_le).2 rotated
        obtain ⟨touched_era, touched_le⟩ := record_of_touch touched
        rw [← touched_era] at sorted touch_fits
        obtain ⟨others, through, others_eq⟩ :=
          (ih touch_fits sorted touched_le).2 ⟨last, last_rotated, rfl⟩
        refine ⟨first :: others, ?_, by simp [Rotation.andThen, others_eq]⟩
        rw [run_bind, touched]
        dsimp only
        rw [run_bind, through]
        rfl

end Records

/-- Rotations of an account to eras in which nothing comes in, followed in one transaction by a
rotation to the era in which volume comes in, succeed exactly if that last one alone does.  They then
award together what it awards alone, and in any case the same database is left.  Nothing is asked of
the database but that the pending volume of the account is an amount and its era fits its column. -/
theorem touch_time_independent (db : Database) (budget incoming : Amount) (account : String)
    (touches : List Int) (era : Int)
    (sorted : ((db.tables.record account).lastEra :: (touches ++ [era])).Pairwise (· ≤ ·))
    (lastEra_fits : fitsColumn (db.tables.record account).lastEra = true) (era_le : era ≤ maxColumn)
    (pending_le : (db.tables.record account).pending ≤ maxAmount) :
    let several := db.write (Records.rotateThrough budget.val account touches era incoming)
    let single := db.write (Records.rotate budget.val account era incoming)
    ((∃ rotations, several.1 = .ok rotations) ↔ ∃ rotation, single.1 = .ok rotation) ∧
      several.2 = single.2 ∧
      ∀ rotations rotation, several.1 = .ok rotations → single.1 = .ok rotation →
        (rotations.map Rotation.awarded).sum = rotation.awarded := by
  have era_ge := (List.pairwise_cons.1 sorted).1 era (by simp)
  have fits : fitsColumn era = true :=
    fitsColumn_of_between lastEra_fits (by decide) era_ge era_le
  have same (after : Tables) (awarded : Int) :
      (∃ rotations, (Records.rotateThrough budget.val account touches era incoming).run.run db.tables =
          (.ok rotations, after) ∧ (rotations.map Rotation.awarded).sum = awarded) ↔
        ∃ rotation, (Records.rotate budget.val account era incoming).run.run db.tables =
          (.ok rotation, after) ∧ rotation.awarded = awarded :=
    Records.rotateThrough_eq_ok_iff touches fits lastEra_fits sorted pending_le
  intro several single
  simp only [several, single, Database.write]
  cases db.contention.refusal? with
  | some failure => simp
  | none =>
      rcases through : (Records.rotateThrough budget.val account touches era incoming).run.run
        db.tables with ⟨failure | rotations, after⟩
      · rcases alone : (Records.rotate budget.val account era incoming).run.run db.tables with
          ⟨other | rotation, last⟩
        · simp
        · obtain ⟨rotations, succeeded, -⟩ := (same last _).2 ⟨rotation, alone, rfl⟩
          rw [through] at succeeded
          cases succeeded
      · obtain ⟨rotation, alone, awarded_eq⟩ := (same after _).1 ⟨rotations, through, rfl⟩
        rw [alone]
        simp [awarded_eq]

/-- The first account is turned four times: its first two touches change nothing, the third closes the
first era, and the last takes it to the era in which it reports. -/
theorem touch_time_independent_sample :
    let db := Node.busy.database
    let several := db.write (Records.rotateThrough 1000000 "a" [0, 0, 100, 250] 300 ⟨5, by decide⟩)
    let single := db.write (Records.rotate 1000000 "a" 300 ⟨5, by decide⟩)
    single.1 = .ok ⟨750000, true, ⟨750000, 5, 300⟩⟩ ∧
      (several.1.map fun rotations => (rotations.map Rotation.awarded).sum) = .ok 750000 ∧
      several.2 = single.2 := by
  intro db several single
  have alone : single.1 = .ok ⟨750000, true, ⟨750000, 5, 300⟩⟩ :=
    ok_of_toOption (by decide +kernel)
  obtain ⟨succeed_iff, same, awarded_eq⟩ := touch_time_independent db ⟨1000000, by decide⟩
    ⟨5, by decide⟩ "a" [0, 0, 100, 250] 300 (by decide +kernel) (by decide +kernel) (by decide)
    (by decide +kernel)
  obtain ⟨rotations, succeeded⟩ := succeed_iff.2 ⟨_, alone⟩
  refine ⟨alone, ?_, same⟩
  calc several.1.map (fun rotations => (rotations.map Rotation.awarded).sum)
      = .ok (rotations.map Rotation.awarded).sum := congrArg _ succeeded
    _ = .ok 750000 := congrArg _ (awarded_eq rotations _ succeeded alone)

end EraRewards
