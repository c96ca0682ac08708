import EraRewards.Table
import Mathlib.Tactic

/-!
# Sums over tables

A sum over the values of a table changes by what a key gains and loses when its row is written or
erased.  A second write to one key hides the first, and so does an erasure.
-/

open Std (TransOrd LawfulEqOrd)

namespace EraRewards
namespace Table

variable {κ ν : Type} [Ord κ]

/-- Sum of a quantity over the values of a table. -/
def sum (t : Table κ ν) (quantity : ν → Int) : Int := (t.rows.map fun row => quantity row.2).sum

theorem sum_nonneg {t : Table κ ν} {quantity : ν → Int}
    (nonneg : ∀ row ∈ t.rows, 0 ≤ quantity row.2) : 0 ≤ t.sum quantity := by
  apply List.sum_nonneg
  intro summand member
  obtain ⟨row, row_mem, rfl⟩ := List.mem_map.1 member
  exact nonneg row row_mem

variable [DecidableEq κ]

/-- What a key contributes to a sum; nothing without a row. -/
def share (t : Table κ ν) (quantity : ν → Int) (key : κ) : Int :=
  ((t.get? key).map quantity).getD 0

theorem share_of_get? {t : Table κ ν} {key : κ} {value : ν} (found : t.get? key = some value)
    (quantity : ν → Int) : t.share quantity key = quantity value := by
  simp [share, found]

private theorem filter_eq_self [TransOrd κ] {key : κ} {rows : List (κ × ν)}
    (before : ∀ row ∈ rows, compare key row.1 = .lt) :
    rows.filter (fun row => row.1 ≠ key) = rows := by
  refine List.filter_eq_self.2 fun row member => ?_
  have distinct : key ≠ row.1 := by
    rintro rfl
    simpa [Std.compare_self] using before row member
  simpa using Ne.symm distinct

private theorem sum_filter_add [TransOrd κ] (key : κ) (quantity : ν → Int) {rows : List (κ × ν)}
    (ascending : rows.Pairwise fun a b => compare a.1 b.1 = .lt) :
    ((rows.filter fun row => row.1 ≠ key).map fun row => quantity row.2).sum +
        ((lookup key rows).map quantity).getD 0 =
      (rows.map fun row => quantity row.2).sum := by
  induction rows with
  | nil => rfl
  | cons head rest induction =>
      obtain ⟨first, tail⟩ := List.pairwise_cons.1 ascending
      by_cases same : key = head.1
      · subst same
        have kept := filter_eq_self first
        simp only [ne_eq, decide_not] at kept
        simp [lookup, kept, Int.add_comm]
      · have kept := induction tail
        simp only [ne_eq, decide_not] at kept
        simp [lookup, same, Ne.symm same, ← kept, Int.add_assoc]

/-- Erasing a key takes its share out of a sum. -/
theorem sum_erase_add [TransOrd κ] (t : Table κ ν) (key : κ) (quantity : ν → Int) :
    (t.erase key).sum quantity + t.share quantity key = t.sum quantity :=
  sum_filter_add key quantity t.ascending

theorem erase_insert [TransOrd κ] [LawfulEqOrd κ] (t : Table κ ν) (key : κ) (value : ν) :
    (t.insert key value).erase key = t.erase key := by
  apply ext_get?
  intro other
  by_cases same : other = key <;> simp [same]

theorem insert_erase [TransOrd κ] [LawfulEqOrd κ] (t : Table κ ν) (key : κ) (value : ν) :
    (t.erase key).insert key value = t.insert key value := by
  apply ext_get?
  intro other
  by_cases same : other = key <;> simp [same]

theorem insert_erase_of_ne [TransOrd κ] [LawfulEqOrd κ] (t : Table κ ν) {key other : κ}
    (distinct : key ≠ other) (value : ν) :
    (t.erase other).insert key value = (t.insert key value).erase other := by
  apply ext_get?
  intro found
  by_cases same : found = key
  · simp [same, distinct]
  · simp [same]

theorem erase_comm [TransOrd κ] (t : Table κ ν) (key other : κ) :
    (t.erase other).erase key = (t.erase key).erase other := by
  apply ext_get?
  intro found
  by_cases same : found = key <;> simp [same]

theorem erase_erase [TransOrd κ] (t : Table κ ν) (key : κ) :
    (t.erase key).erase key = t.erase key := by
  apply ext_get?
  intro found
  by_cases same : found = key <;> simp [same]

theorem insert_insert [TransOrd κ] [LawfulEqOrd κ] (t : Table κ ν) (key : κ) (first last : ν) :
    (t.insert key first).insert key last = t.insert key last := by
  apply ext_get?
  intro other
  by_cases same : other = key <;> simp [same]

/-- Writing a key puts the share of its new value in the place of the old one. -/
theorem sum_insert_add [TransOrd κ] [LawfulEqOrd κ] (t : Table κ ν) (key : κ) (value : ν)
    (quantity : ν → Int) :
    (t.insert key value).sum quantity + t.share quantity key =
      t.sum quantity + quantity value := by
  have after := (t.insert key value).sum_erase_add key quantity
  have before := t.sum_erase_add key quantity
  have share_after : (t.insert key value).share quantity key = quantity value :=
    share_of_get? (by simp) quantity
  rw [erase_insert, share_after] at after
  omega

/-- A share does not exceed a sum without negative summands. -/
theorem share_le_sum [TransOrd κ] {t : Table κ ν} {quantity : ν → Int}
    (nonneg : ∀ row ∈ t.rows, 0 ≤ quantity row.2) (key : κ) :
    t.share quantity key ≤ t.sum quantity := by
  have rest : 0 ≤ (t.erase key).sum quantity :=
    sum_nonneg fun row member => nonneg row (List.mem_of_mem_filter member)
  have split := t.sum_erase_add key quantity
  omega

end Table
end EraRewards
