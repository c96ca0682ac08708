import EraRewards.Proofs.Turn
import Mathlib.Data.Set.Basic

/-!
# Histories of tables

A history is a sequence of changes from an empty database.  Each call to a ledger continues it by the
entry of the call, so the tables of a run have the journal of the run for their history, and what
each change keeps holds at every point of every run.
-/

namespace EraRewards

/-- Tables that changes by some ledgers lead to from an empty database, and the entries of those
changes.  Opening a database stamps it. -/
inductive History (ledgers : Set Service) : List Entry → Tables → Prop
  /-- An empty database. -/
  | empty : History ledgers [] .empty
  /-- The database is stamped. -/
  | stamped {journal : List Entry} {t : Tables} (history : History ledgers journal t)
      (stamp : Option String) : History ledgers journal { t with schemaVersion := stamp }
  /-- One of the ledgers commits a change. -/
  | committed {journal : List Entry} {before after : Tables} {entry : Entry} {s : Service}
      (history : History ledgers journal before) (member : s ∈ ledgers)
      (commits : s.Commits before entry after) : History ledgers (journal ++ [entry]) after

namespace History

variable {ledgers : Set Service} {journal : List Entry}

theorem sound {t : Tables} (history : History ledgers journal t) : t.Sound := by
  induction history with
  | empty => exact ⟨fun _ _ found => (by cases found), rfl, fun _ _ found => (by cases found)⟩
  | stamped history stamp sound => exact ⟨sound.rewards, sound.nameless, sound.totals⟩
  | committed history member commits sound => exact commits.sound sound

/-- An entry tells how the record that it found was turned. -/
theorem turns {t : Tables} (history : History ledgers journal t) :
    ∀ entry ∈ journal, ∃ total budget,
      entry.found.Turns entry.era entry.volume total budget entry.rotation := by
  induction history with
  | empty => exact fun _ member => absurd member List.not_mem_nil
  | stamped history stamp induction => exact induction
  | committed history member commits induction =>
      intro other listed
      rcases List.mem_append.1 listed with earlier | last
      · exact induction other earlier
      · rw [List.mem_singleton.1 last, commits.found_eq]
        exact ⟨_, _, commits.turns history.sound⟩

theorem volume_nonneg {t : Tables} (history : History ledgers journal t) :
    ∀ entry ∈ journal, 0 ≤ entry.volume := by
  induction history with
  | empty => exact fun _ member => absurd member List.not_mem_nil
  | stamped history stamp induction => exact induction
  | committed history member commits induction =>
      intro other listed
      rcases List.mem_append.1 listed with earlier | last
      · exact induction other earlier
      · rw [List.mem_singleton.1 last]
        cases commits with
        | report something era_nonneg era_le bounded rotated => exact Int.natCast_nonneg _
        | payment something era_nonneg era_le rotated credited => exact le_rfl

theorem serve {node : Node} (history : History ledgers journal node.database.tables) {s : Service}
    (member : s ∈ ledgers) (turn : Turn) :
    History ledgers (journal ++ (s.entryOf turn node).toList)
      (s.serve turn node).database.tables := by
  have leaves := s.serve_leaves history.sound turn
  cases entry_eq : s.entryOf turn node with
  | none =>
      rw [entry_eq] at leaves
      have unchanged : (s.serve turn node).database.tables = node.database.tables := leaves
      rw [unchanged]
      simpa using history
  | some entry =>
      rw [entry_eq] at leaves
      exact history.committed member leaves

/-- The tables after a run have the history of the tables before, followed by the run's journal. -/
theorem run {s : Service} (member : s ∈ ledgers) (turns : List Turn) {node : Node}
    (history : History ledgers journal node.database.tables) :
    History ledgers (journal ++ s.journal turns node) (s.run turns node).database.tables := by
  induction turns generalizing journal node with
  | nil => simpa [Service.journal, Service.run] using history
  | cons turn turns induction =>
      have served := induction (history.serve member turn)
      rw [List.append_assoc] at served
      exact served

end History
end EraRewards
