/-!
# Tables

A finite table is a list of rows in strictly ascending order of their keys.  The order is part of
the type, so two tables that answer every look-up alike are equal.
-/

open Std (TransOrd LawfulEqOrd)

namespace EraRewards

/-- Rows with distinct keys, ascending. -/
structure Table (κ ν : Type) [Ord κ] where
  /-- The rows. -/
  rows : List (κ × ν)
  /-- Keys ascend strictly. -/
  ascending : rows.Pairwise fun a b => compare a.1 b.1 = .lt

namespace Table

variable {κ ν : Type} [Ord κ]

/-- The table without rows. -/
def empty : Table κ ν := ⟨[], .nil⟩

instance : Inhabited (Table κ ν) := ⟨empty⟩

/-- Rows with one added, or with its value replaced. -/
def insertRow (key : κ) (value : ν) : List (κ × ν) → List (κ × ν)
  | [] => [(key, value)]
  | (k, v) :: rest =>
    match compare key k with
    | .lt => (key, value) :: (k, v) :: rest
    | .eq => (key, value) :: rest
    | .gt => (k, v) :: insertRow key value rest

theorem mem_insertRow {key : κ} {value : ν} {rows : List (κ × ν)} {row : κ × ν}
    (h : row ∈ insertRow key value rows) : row = (key, value) ∨ row ∈ rows := by
  induction rows with
  | nil => simpa [insertRow] using h
  | cons head rest ih =>
    simp only [insertRow] at h
    split at h
    · simpa using h
    · simp only [List.mem_cons] at h ⊢
      exact h.elim .inl fun h => .inr (.inr h)
    · simp only [List.mem_cons] at h ⊢
      rcases h with h | h
      · exact .inr (.inl h)
      · exact (ih h).elim .inl fun h => .inr (.inr h)

theorem ascending_insertRow [TransOrd κ] [LawfulEqOrd κ] (key : κ) (value : ν)
    {rows : List (κ × ν)} (h : rows.Pairwise fun a b => compare a.1 b.1 = .lt) :
    (insertRow key value rows).Pairwise fun a b => compare a.1 b.1 = .lt := by
  induction rows with
  | nil => simp [insertRow]
  | cons head rest ih =>
    obtain ⟨first, tail⟩ := List.pairwise_cons.1 h
    simp only [insertRow]
    split
    · rename_i before
      refine .cons (fun row hrow => ?_) h
      rcases List.mem_cons.1 hrow with rfl | hrow
      · exact before
      · exact Std.TransCmp.lt_trans before (first row hrow)
    · rename_i same
      obtain rfl := Std.LawfulEqCmp.eq_of_compare same
      exact .cons first tail
    · rename_i after
      refine .cons (fun row hrow => ?_) (ih tail)
      rcases mem_insertRow hrow with rfl | hrow
      · exact Std.OrientedCmp.gt_iff_lt.1 after
      · exact first row hrow

/-- A table with one row added, or with its value replaced. -/
def insert [TransOrd κ] [LawfulEqOrd κ] (t : Table κ ν) (key : κ) (value : ν) : Table κ ν :=
  ⟨insertRow key value t.rows, ascending_insertRow key value t.ascending⟩

variable [DecidableEq κ]

/-- Value that a list of rows gives to a key. -/
def lookup (key : κ) : List (κ × ν) → Option ν
  | [] => none
  | (k, v) :: rest => if key = k then some v else lookup key rest

/-- Value of a key. -/
def get? (t : Table κ ν) (key : κ) : Option ν := lookup key t.rows

/-- Whether a key has a row. -/
def contains (t : Table κ ν) (key : κ) : Bool := (t.get? key).isSome

/-- A table without the row of a key. -/
def erase (t : Table κ ν) (key : κ) : Table κ ν :=
  ⟨t.rows.filter fun row => row.1 ≠ key, t.ascending.filter _⟩

/-- The empty table answers no look-up. -/
@[simp] theorem get?_empty (key : κ) : (empty : Table κ ν).get? key = none := rfl

omit [Ord κ] in
theorem lookup_filter (key key' : κ) (rows : List (κ × ν)) :
    lookup key' (rows.filter fun row => row.1 ≠ key) =
      if key' = key then none else lookup key' rows := by
  induction rows with
  | nil => simp [lookup]
  | cons head rest ih => grind [lookup]

/-- Looking a key up after an erasure. -/
@[simp] theorem get?_erase (t : Table κ ν) (key key' : κ) :
    (t.erase key).get? key' = if key' = key then none else t.get? key' :=
  lookup_filter key key' t.rows

theorem lookup_insertRow [TransOrd κ] [LawfulEqOrd κ] (key key' : κ) (value : ν)
    (rows : List (κ × ν)) :
    lookup key' (insertRow key value rows) =
      if key' = key then some value else lookup key' rows := by
  induction rows with
  | nil => simp [insertRow, lookup]
  | cons head rest ih =>
    simp only [insertRow]
    split
    · simp [lookup]
    · rename_i same
      obtain rfl := Std.LawfulEqCmp.eq_of_compare same
      by_cases h : key' = head.1 <;> simp [lookup, h]
    · rename_i after
      have distinct : key ≠ head.1 := fun h => by
        simp [h, Std.compare_self] at after
      simp only [lookup, ih]
      by_cases h : key' = head.1
      · simp [h, Ne.symm distinct]
      · simp [h]

/-- Looking a key up after an insertion. -/
@[simp] theorem get?_insert [TransOrd κ] [LawfulEqOrd κ] (t : Table κ ν) (key key' : κ)
    (value : ν) :
    (t.insert key value).get? key' = if key' = key then some value else t.get? key' :=
  lookup_insertRow key key' value t.rows

omit [DecidableEq κ] in
theorem ne_of_ascending [TransOrd κ] {a : κ × ν} {rows : List (κ × ν)}
    (h : ∀ row ∈ rows, compare a.1 row.1 = .lt) {row : κ × ν} (hrow : row ∈ rows) :
    a.1 ≠ row.1 := fun same => by
  have := h row hrow
  simp [same, Std.compare_self] at this

theorem lookup_eq_some_iff [TransOrd κ] {rows : List (κ × ν)}
    (h : rows.Pairwise fun a b => compare a.1 b.1 = .lt) {key : κ} {value : ν} :
    lookup key rows = some value ↔ (key, value) ∈ rows := by
  induction rows with
  | nil => simp [lookup]
  | cons head rest ih =>
    obtain ⟨k, v⟩ := head
    obtain ⟨first, tail⟩ := List.pairwise_cons.1 h
    by_cases same : key = k
    · subst same
      have absent : (key, value) ∉ rest := fun hmem => ne_of_ascending first hmem rfl
      simp [lookup, absent, eq_comm]
    · simp [lookup, same, ih tail]

/-- A look-up finds exactly the rows. -/
theorem get?_eq_some_iff [TransOrd κ] {t : Table κ ν} {key : κ} {value : ν} :
    t.get? key = some value ↔ (key, value) ∈ t.rows :=
  lookup_eq_some_iff t.ascending

omit [DecidableEq κ] in
theorem rows_eq_of_mem_iff [TransOrd κ] {a b : List (κ × ν)}
    (ha : a.Pairwise fun x y => compare x.1 y.1 = .lt)
    (hb : b.Pairwise fun x y => compare x.1 y.1 = .lt) (h : ∀ row, row ∈ a ↔ row ∈ b) :
    a = b := by
  have antisymm (x y : κ × ν) (hx : compare x.1 y.1 = .lt) (hy : compare y.1 x.1 = .lt) : False := by
    have := Std.TransCmp.lt_trans hx hy
    simp [Std.compare_self] at this
  induction a generalizing b with
  | nil => exact (List.eq_nil_iff_forall_not_mem.2 fun row hrow => by simpa using (h row).2 hrow).symm
  | cons x a ih =>
    cases b with
    | nil => simpa using (h x).1 List.mem_cons_self
    | cons y b =>
      obtain ⟨firstA, tailA⟩ := List.pairwise_cons.1 ha
      obtain ⟨firstB, tailB⟩ := List.pairwise_cons.1 hb
      have heads : x = y := by
        rcases List.mem_cons.1 ((h x).1 List.mem_cons_self) with hx | hx
        · exact hx
        · rcases List.mem_cons.1 ((h y).2 List.mem_cons_self) with hy | hy
          · exact hy.symm
          · exact (antisymm x y (firstA y hy) (firstB x hx)).elim
      subst heads
      refine congrArg (x :: ·) (ih tailA tailB fun row => ?_)
      have notA : x ∉ a := fun hx => antisymm x x (firstA x hx) (firstA x hx)
      have notB : x ∉ b := fun hx => antisymm x x (firstB x hx) (firstB x hx)
      have hrow := h row
      simp only [List.mem_cons] at hrow
      constructor
      · intro hmem
        exact (hrow.1 (.inr hmem)).resolve_left fun same => notA (same ▸ hmem)
      · intro hmem
        exact (hrow.2 (.inr hmem)).resolve_left fun same => notB (same ▸ hmem)

/-- Two tables that answer every look-up alike are equal. -/
theorem ext_get? [TransOrd κ] {a b : Table κ ν} (h : ∀ key, a.get? key = b.get? key) : a = b := by
  obtain ⟨rowsA, ascA⟩ := a
  obtain ⟨rowsB, ascB⟩ := b
  have rows : rowsA = rowsB := rows_eq_of_mem_iff ascA ascB fun row => by
    have hrow := h row.1
    simp only [get?] at hrow
    rw [← lookup_eq_some_iff ascA, ← lookup_eq_some_iff ascB, hrow]
  subst rows
  rfl

end Table
end EraRewards
