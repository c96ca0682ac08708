import EraRewards.Proofs.Deployment

/-!
# Conservation of volume

The total of an era is the volume that was reported in it, and each unit of it is either pending in a
stored record or was converted by one rotation.  This holds in every deployment, whatever the ticks
of its calls, and so no record holds more volume pending than the total of its era.
-/

namespace EraRewards

namespace Service.Commits

variable {s : Service} {before after : Tables} {entry : Entry}

theorem total_eq (commits : s.Commits before entry after) (sound : before.Sound) (era : Int) :
    after.total era = before.total era + entry.volumeIn era := by
  cases commits with
  | @report account volume here rotation something here_nonneg here_le bounded rotated =>
      have total_nonneg : 0 ≤ before.total here + volume.val :=
        add_nonneg (sound.total_nonneg here) (Int.natCast_nonneg _)
      rw [Tables.total_setRecord, Tables.total_setTotal total_nonneg bounded, Entry.volumeIn]
      by_cases same : era = here
      · simp [same]
      · simp [same, Ne.symm same]
  | payment something here_nonneg here_le rotated credited =>
      rw [eq_of_credit credited]
      exact (Tables.total_settle _ _ era).trans (by simp [Entry.volumeIn])

theorem pendingIn_eq (commits : s.Commits before entry after) (sound : before.Sound) (era : Int) :
    after.pendingIn era + entry.convertedFrom era = before.pendingIn era + entry.volumeIn era := by
  have turned := (commits.turns sound).pendingIn_add era
  have storable := commits.storable sound
  simp only [Entry.convertedFrom, Entry.Converts, Entry.volumeIn, commits.found_eq]
  cases commits with
  | @report account volume here rotation something here_nonneg here_le bounded rotated =>
      have placed := Tables.pendingIn_setRecord storable account era
        (t := before.setTotal here (before.total here + volume.val))
      rw [Tables.record_setTotal, Tables.pendingIn_setTotal] at placed
      dsimp only at turned placed ⊢
      omega
  | @payment account here rotation after something here_nonneg here_le rotated credited =>
      have placed := Tables.pendingIn_settle storable account era (t := before)
      have kept : after.pendingIn era = (before.settle account rotation.reward).pendingIn era := by
        rw [eq_of_credit credited]
        rfl
      dsimp only at turned placed ⊢
      omega

end Service.Commits

namespace History

variable {ledgers : Set Service} {journal : List Entry} {t : Tables}

/-- The total of an era is the volume that was reported in it. -/
theorem total_eq (history : History ledgers journal t) (era : Int) :
    t.total era = Entry.sum (Entry.volumeIn · era) journal := by
  induction history with
  | empty => rfl
  | stamped history stamp induction => exact induction
  | committed history member commits induction =>
      rw [Entry.sum_concat, commits.total_eq history.sound, induction]

/-- Volume that was reported in an era is pending or has been converted. -/
theorem pendingIn_add (history : History ledgers journal t) (era : Int) :
    t.pendingIn era + Entry.sum (Entry.convertedFrom · era) journal =
      Entry.sum (Entry.volumeIn · era) journal := by
  induction history with
  | empty => rfl
  | stamped history stamp induction => exact induction
  | committed history member commits induction =>
      have moved := commits.pendingIn_eq history.sound era
      rw [Entry.sum_concat, Entry.sum_concat]
      omega

theorem converted_nonneg (history : History ledgers journal t) (era : Int) :
    0 ≤ Entry.sum (Entry.convertedFrom · era) journal := by
  induction history with
  | empty => exact le_rfl
  | stamped history stamp induction => exact induction
  | @committed journal before after entry s history member commits induction =>
      have pending_nonneg := (history.sound.storable entry.account).pending_nonneg
      rw [Entry.sum_concat, Entry.convertedFrom, commits.found_eq]
      split
      · exact add_nonneg induction pending_nonneg
      · exact add_nonneg induction le_rfl

/-- No more of an era is pending than its total. -/
theorem pendingIn_le_total (history : History ledgers journal t) (era : Int) :
    t.pendingIn era ≤ t.total era := by
  have total := history.total_eq era
  have split := history.pendingIn_add era
  have converted := history.converted_nonneg era
  omega

/-- No record holds more volume pending than the total of its era. -/
theorem pending_le_total (history : History ledgers journal t) (account : String) :
    (t.record account).pending ≤ t.total (t.record account).lastEra := by
  have own := history.sound.pendingIn_le account (t.record account).lastEra
  rw [Reward.pendingIn, if_pos rfl] at own
  exact own.trans (history.pendingIn_le_total _)

end History

/-- In every deployment the total of an era is what was reported in it, and what is pending in it
together with what was converted out of it.  No record asks for more than the whole era. -/
theorem volume_conserved (node : Node) (steps : List Deployment.Step) (era : Int) :
    let t := ((Deployment.new node).run steps).node.database.tables
    let journal := (Deployment.new node).journal steps
    t.total era = Entry.sum (Entry.volumeIn · era) journal ∧
      t.total era = t.pendingIn era + Entry.sum (Entry.convertedFrom · era) journal ∧
      t.pendingIn era ≤ t.total era ∧
      ∀ account, (t.record account).pending ≤ t.total (t.record account).lastEra := by
  intro t journal
  have history : History Set.univ journal t := History.deployed node steps
  have split := history.pendingIn_add era
  refine ⟨history.total_eq era, ?_, history.pendingIn_le_total era, history.pending_le_total⟩
  rw [history.total_eq era, split]

end EraRewards
