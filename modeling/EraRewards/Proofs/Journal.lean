import EraRewards.Ledger.Records
import Mathlib.Tactic

/-!
# Journals

A journal has an entry for each call that changed the tables: a report of volume or a claim that was
paid.  An entry says what the call answered and how the record of its account was turned.  Volumes,
awards and payments are sums over the entries of a journal.
-/

namespace EraRewards

/-- A call that changed the tables. -/
structure Entry where
  /-- Account for which it was made. -/
  account : String
  /-- Era in which it was made. -/
  era : Int
  /-- Volume that was booked; zero for a claim. -/
  volume : Int
  /-- Reward that was paid out; zero for a report of volume. -/
  paid : Int
  /-- Record of the account before the call. -/
  found : Reward
  /-- Rotation of that record to the era. -/
  rotation : Rotation
  deriving DecidableEq, Repr

namespace Entry

variable (entry : Entry)

/-- Volume that was booked in an era. -/
def volumeIn (era : Int) : Int := if entry.era = era then entry.volume else 0

/-- Volume that was booked for an account in an era. -/
def volumeOf (account : String) (era : Int) : Int :=
  if entry.account = account then entry.volumeIn era else 0

/-- Whether pending volume of an era was converted into a reward. -/
def Converts (era : Int) : Prop := entry.rotation.rotated = true ∧ entry.found.lastEra = era

instance (era : Int) : Decidable (entry.Converts era) := inferInstanceAs (Decidable (_ ∧ _))

/-- Volume that was converted out of an era. -/
def convertedFrom (era : Int) : Int :=
  if entry.Converts era then entry.found.pending else 0

/-- Reward that was awarded to an account. -/
def awardedTo (account : String) : Int :=
  if entry.account = account then entry.rotation.awarded else 0

/-- Reward that was awarded to an account for an era. -/
def awardedFrom (account : String) (era : Int) : Int :=
  if entry.Converts era then entry.awardedTo account else 0

/-- Reward that was awarded for an era, to whichever account. -/
def awardedOut (era : Int) : Int := if entry.Converts era then entry.rotation.awarded else 0

/-- Reward that was paid out to an account. -/
def paidTo (account : String) : Int := if entry.account = account then entry.paid else 0

theorem volumeIn_nonneg {entry : Entry} (nonneg : 0 ≤ entry.volume) (era : Int) :
    0 ≤ entry.volumeIn era := by
  rw [volumeIn]
  split <;> omega

theorem volumeOf_nonneg {entry : Entry} (nonneg : 0 ≤ entry.volume) (account : String) (era : Int) :
    0 ≤ entry.volumeOf account era := by
  have volumeIn_nonneg := volumeIn_nonneg nonneg era
  rw [volumeOf]
  split <;> omega

/-- Sum of a quantity over the entries of a journal. -/
def sum (quantity : Entry → Int) (journal : List Entry) : Int := (journal.map quantity).sum

@[simp] theorem sum_nil (quantity : Entry → Int) : sum quantity [] = 0 := rfl

@[simp] theorem sum_cons (quantity : Entry → Int) (entry : Entry) (journal : List Entry) :
    sum quantity (entry :: journal) = quantity entry + sum quantity journal := by
  simp [sum]

@[simp] theorem sum_concat (quantity : Entry → Int) (journal : List Entry) (entry : Entry) :
    sum quantity (journal ++ [entry]) = sum quantity journal + quantity entry := by
  simp [sum]

theorem sum_append (quantity : Entry → Int) (first second : List Entry) :
    sum quantity (first ++ second) = sum quantity first + sum quantity second := by
  simp [sum]

theorem sum_nonneg {quantity : Entry → Int} {journal : List Entry}
    (nonneg : ∀ entry ∈ journal, 0 ≤ quantity entry) : 0 ≤ sum quantity journal := by
  rw [sum]
  exact List.sum_nonneg (by simpa using nonneg)

theorem sum_eq_zero_iff {quantity : Entry → Int} {journal : List Entry}
    (nonneg : ∀ entry ∈ journal, 0 ≤ quantity entry) :
    sum quantity journal = 0 ↔ ∀ entry ∈ journal, quantity entry = 0 := by
  induction journal with
  | nil => simp
  | cons entry entries induction =>
      obtain ⟨first, rest⟩ := List.forall_mem_cons.1 nonneg
      have rest_nonneg := sum_nonneg rest
      rw [sum_cons, List.forall_mem_cons, ← induction rest]
      omega

/-- Eras in which something was changed. -/
def eras (journal : List Entry) : Finset Int := (journal.map Entry.era).toFinset

theorem mem_eras {journal : List Entry} {era : Int} :
    era ∈ eras journal ↔ ∃ entry ∈ journal, entry.era = era := by
  rw [eras, List.mem_toFinset, List.mem_map]

theorem exists_of_sum_ne_zero {quantity : Entry → Int} {journal : List Entry}
    (something : sum quantity journal ≠ 0) : ∃ entry ∈ journal, quantity entry ≠ 0 := by
  by_contra nothing
  apply something
  apply List.sum_eq_zero
  intro summand listed
  obtain ⟨entry, member, rfl⟩ := List.mem_map.1 listed
  by_contra counts
  exact nothing ⟨entry, member, counts⟩

theorem mem_eras_of_sum_ne_zero {journal : List Entry} {era : Int}
    (something : sum (Entry.volumeIn · era) journal ≠ 0) : era ∈ eras journal := by
  obtain ⟨entry, member, counts⟩ := exists_of_sum_ne_zero something
  rw [volumeIn, ite_ne_right_iff] at counts
  exact mem_eras.2 ⟨entry, member, counts.1⟩

theorem sum_congr {first second : Entry → Int} {journal : List Entry}
    (same : ∀ entry ∈ journal, first entry = second entry) :
    sum first journal = sum second journal :=
  congrArg List.sum (List.map_congr_left same)

theorem sum_comm {ι : Type} (indices : Finset ι) (quantity : ι → Entry → Int)
    (journal : List Entry) :
    ∑ index ∈ indices, sum (quantity index) journal =
      sum (fun entry => ∑ index ∈ indices, quantity index entry) journal := by
  induction journal with
  | nil => exact Finset.sum_const_zero
  | cons entry entries induction =>
      simp only [sum_cons, Finset.sum_add_distrib, induction]

/-! ## Accounts -/

/-- Accounts for which something was changed. -/
def accounts (journal : List Entry) : Finset String := (journal.map Entry.account).toFinset

theorem mem_accounts {journal : List Entry} {account : String} :
    account ∈ accounts journal ↔ ∃ entry ∈ journal, entry.account = account := by
  rw [accounts, List.mem_toFinset, List.mem_map]

/-- Accounts that reported volume in an era. -/
def reporters (journal : List Entry) (era : Int) : Finset String :=
  accounts (journal.filter fun entry => entry.era = era ∧ entry.volume ≠ 0)

theorem mem_reporters {journal : List Entry} {era : Int} {account : String} :
    account ∈ reporters journal era ↔
      ∃ entry ∈ journal, (entry.era = era ∧ entry.volume ≠ 0) ∧ entry.account = account := by
  simp only [reporters, mem_accounts, List.mem_filter, decide_eq_true_eq, and_assoc]

theorem reporters_subset (journal : List Entry) (era : Int) :
    reporters journal era ⊆ accounts journal := by
  intro account reported
  obtain ⟨entry, member, -, own⟩ := mem_reporters.1 reported
  exact mem_accounts.2 ⟨entry, member, own⟩

/-- A quantity is the sum of its parts for all accounts that have one. -/
theorem sum_by_account {owners : Finset String} {quantity : Entry → Int} {journal : List Entry}
    (owned : ∀ entry ∈ journal, quantity entry ≠ 0 → entry.account ∈ owners) :
    ∑ account ∈ owners,
        sum (fun entry => if entry.account = account then quantity entry else 0) journal =
      sum quantity journal := by
  rw [sum_comm]
  apply sum_congr
  intro entry member
  rw [Finset.sum_ite_eq]
  by_cases nothing : quantity entry = 0
  · rw [nothing, ite_self]
  · rw [if_pos (owned entry member nothing)]

theorem sum_volumeOf {owners : Finset String} {journal : List Entry} {era : Int}
    (reported : reporters journal era ⊆ owners) :
    ∑ account ∈ owners, sum (volumeOf · account era) journal = sum (volumeIn · era) journal := by
  apply sum_by_account
  intro entry member something
  rw [volumeIn, ite_ne_right_iff] at something
  exact reported (mem_reporters.2 ⟨entry, member, something, rfl⟩)

theorem sum_volumeOf_of_not_mem {journal : List Entry} {era : Int} {account : String}
    (silent : account ∉ reporters journal era) : sum (volumeOf · account era) journal = 0 := by
  by_contra something
  obtain ⟨entry, member, counts⟩ := exists_of_sum_ne_zero something
  rw [volumeOf, ite_ne_right_iff, volumeIn, ite_ne_right_iff] at counts
  exact silent (mem_reporters.2 ⟨entry, member, counts.2, counts.1⟩)

theorem sum_awardedFrom_accounts (journal : List Entry) (era : Int) :
    ∑ account ∈ accounts journal, sum (awardedFrom · account era) journal =
      sum (awardedOut · era) journal := by
  have parted (account : String) : sum (awardedFrom · account era) journal =
      sum (fun entry => if entry.account = account then entry.awardedOut era else 0) journal := by
    apply sum_congr
    intro entry _
    by_cases own : entry.account = account <;> simp [awardedFrom, awardedTo, awardedOut, own]
  simp only [parted]
  exact sum_by_account fun entry member _ => mem_accounts.2 ⟨entry, member, rfl⟩

end Entry
end EraRewards
