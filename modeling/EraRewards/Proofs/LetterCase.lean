import EraRewards.Proofs.StoredForm
import EraRewards.Text.Case

/-!
# Lower case

A text that was brought to lower case stays as it is when that is done again, and when it was stripped
before it has no blanks around it.  What a letter turns into has no lower case of its own and is no
blank.  This is read off the table of case runs, in which no run leads to the members of another.
-/

namespace EraRewards
namespace Text

/-! ## The table of runs -/

/-- Code points that no letter turns into when it is brought to lower case: the blanks, the two capital
letters whose lower case is not in the table, and what is no character. -/
def avoidedIntervals : List (Nat × Nat) :=
  [(9, 13), (28, 32), (0x85, 0x85), (0xA0, 0xA0), (0x130, 0x130), (0x3A3, 0x3A3), (0x1680, 0x1680),
    (0x2000, 0x200A), (0x2028, 0x2029), (0x202F, 0x202F), (0x205F, 0x205F), (0x3000, 0x3000),
    (0xD800, 0xDFFF)]

namespace CaseRun

/-- Whether a code point is a member of a run. -/
def has (run : CaseRun) (n : Nat) : Bool :=
  run.first ≤ n && n ≤ run.last && (n - run.first) % run.step == 0

/-- Code point into which a member of a run turns. -/
def lead (run : CaseRun) (n : Nat) : Nat := (n + run.shift).toNat

/-- Whether a run leads past the members of another: before or behind them, or between them. -/
def leadsPast (run other : CaseRun) : Bool :=
  run.lead run.last < other.first || other.last < run.lead run.first ||
    other.step == 2 && (run.step == 2 || run.first == run.last) &&
      (run.lead run.first + other.first) % 2 == 1

/-- Whether a run leads to characters that are no blanks and have no lower case of their own. -/
def isSettled (run : CaseRun) : Bool :=
  0 < run.first + run.shift && run.lead run.last < 0x110000 &&
    avoidedIntervals.all (fun interval =>
      run.lead run.last < interval.1 || interval.2 < run.lead run.first) &&
    lowerRuns.toList.all run.leadsPast

theorem isSettled_of_mem : ∀ run ∈ lowerRuns.toList, run.isSettled = true := by
  have settled : lowerRuns.toList.all isSettled = true := by decide +kernel
  exact List.all_eq_true.1 settled

/-- What is known of a member of a settled run. -/
structure Leads (run : CaseRun) (n : Nat) : Prop where
  /-- It is not before what the first member turns into. -/
  first_le : run.lead run.first ≤ run.lead n
  /-- It is not behind what the last member turns into. -/
  le_last : run.lead n ≤ run.lead run.last
  /-- It keeps its distance from the first member. -/
  distance : run.lead n + run.first = run.lead run.first + n

theorem leads_of_has {run : CaseRun} {n : Nat} (settled : run.isSettled = true)
    (member : run.has n = true) : run.Leads n := by
  simp only [isSettled, has, Bool.and_eq_true, decide_eq_true_eq] at settled member
  constructor <;> simp only [lead] <;> omega

theorem not_has_of_leadsPast {run other : CaseRun} {n : Nat} (leads : run.Leads n)
    (member : run.has n = true) (past : run.leadsPast other = true) :
    other.has (run.lead n) = false := by
  obtain ⟨first_le, le_last, distance⟩ := leads
  simp only [leadsPast, has, Bool.or_eq_true, Bool.and_eq_true, decide_eq_true_eq,
    beq_iff_eq] at past member
  rw [Bool.eq_false_iff]
  intro met
  simp only [has, Bool.and_eq_true, decide_eq_true_eq, beq_iff_eq] at met
  obtain ⟨⟨other_first, other_last⟩, other_step⟩ := met
  rcases past with (before | behind) | ⟨⟨double, step⟩, odd⟩
  · omega
  · omega
  · rw [double] at other_step
    rcases step with double' | single
    · rw [double'] at member
      omega
    · omega

end CaseRun

theorem shiftCase_eq (runs : Array CaseRun) (c : Char) :
    shiftCase runs c = match runs.toList.find? fun run => run.has c.toNat with
      | some run => Char.ofNat (run.lead c.toNat)
      | none => c := by
  rw [shiftCase, ← Array.find?_toList]
  rfl

/-- Characters without a lower case of their own. -/
structure IsLow (c : Char) : Prop where
  /-- Not the capital sigma. -/
  not_sigma : c.toNat ≠ 0x3A3
  /-- Not the capital i with a dot. -/
  not_dotted : c.toNat ≠ 0x130
  /-- In no run. -/
  unshifted : shiftCase lowerRuns c = c

/-! ## What a letter turns into -/

theorem shiftCase_of_unmet {c : Char} (unmet : ∀ run ∈ lowerRuns.toList, run.has c.toNat = false) :
    shiftCase lowerRuns c = c := by
  have nowhere : lowerRuns.toList.find? (fun run => run.has c.toNat) = none :=
    List.find?_eq_none.2 fun run listed => ne_true_of_eq_false (unmet run listed)
  rw [shiftCase_eq, nowhere]

namespace CaseRun

variable {run : CaseRun} {n : Nat}

theorem avoids_of_leads (settled : run.isSettled = true) (leads : run.Leads n) :
    ∀ interval ∈ avoidedIntervals, run.lead n < interval.1 ∨ interval.2 < run.lead n := by
  simp only [isSettled, Bool.and_eq_true, List.all_eq_true, Bool.or_eq_true,
    decide_eq_true_eq] at settled
  intro interval listed
  obtain ⟨first_le, le_last, -⟩ := leads
  exact (settled.1.2 interval listed).imp (fun before => le_last.trans_lt before)
    fun behind => behind.trans_le first_le

theorem toNat_lead (settled : run.isSettled = true) (leads : run.Leads n) :
    (Char.ofNat (run.lead n)).toNat = run.lead n := by
  have avoids := avoids_of_leads settled leads (0xD800, 0xDFFF) (by decide)
  simp only [isSettled, Bool.and_eq_true, decide_eq_true_eq] at settled
  have bounded := leads.le_last.trans_lt settled.1.1.2
  have valid : (run.lead n).isValidChar := by
    dsimp only at avoids
    rw [Nat.isValidChar]
    omega
  rw [Char.ofNat, dif_pos valid]
  rfl

theorem isLow_lead (settled : run.isSettled = true) (member : run.has n = true) :
    IsLow (Char.ofNat (run.lead n)) := by
  have leads := leads_of_has settled member
  have avoids := avoids_of_leads settled leads
  have code := toNat_lead settled leads
  refine ⟨?_, ?_, ?_⟩
  · have := avoids (0x3A3, 0x3A3) (by decide)
    omega
  · have := avoids (0x130, 0x130) (by decide)
    omega
  · refine shiftCase_of_unmet fun other listed => ?_
    simp only [isSettled, Bool.and_eq_true, List.all_eq_true] at settled
    rw [code]
    exact not_has_of_leadsPast leads member (settled.2 other listed)

theorem not_isBlank_lead (settled : run.isSettled = true) (member : run.has n = true) :
    isBlank (Char.ofNat (run.lead n)) = false := by
  have leads := leads_of_has settled member
  have avoids := avoids_of_leads settled leads
  simp only [avoidedIntervals, List.forall_mem_cons] at avoids
  simp only [isBlank, isSpace, isAsciiSpace, isWideBlank, toNat_lead settled leads,
    Bool.or_eq_false_iff, Bool.and_eq_false_iff, decide_eq_false_iff_not, beq_eq_false_iff_ne]
  omega

end CaseRun

/-- What the letters turn into whose lower case is not in the table. -/
def exceptional : List Char := [Char.ofNat 0x3C2, Char.ofNat 0x3C3, 'i', Char.ofNat 0x307]

theorem isLow_of_exceptional {low : Char} (listed : low ∈ exceptional) :
    IsLow low ∧ isBlank low = false := by
  have unmet : (exceptional.all fun low => low.toNat != 0x3A3 && low.toNat != 0x130 &&
      !isBlank low && lowerRuns.toList.all fun run => !run.has low.toNat) = true := by decide +kernel
  have met := List.all_eq_true.1 unmet low listed
  simp only [Bool.and_eq_true, bne_iff_ne, Bool.not_eq_true', List.all_eq_true] at met
  obtain ⟨⟨⟨not_sigma, not_dotted⟩, black⟩, runs⟩ := met
  exact ⟨⟨not_sigma, not_dotted, shiftCase_of_unmet runs⟩, black⟩

/-- What a character turns into has no lower case of its own, and is a blank only if the character
is. -/
theorem isLow_of_mem_lowerChar {before after : List Char} {c low : Char}
    (turned : low ∈ lowerChar before c after) :
    IsLow low ∧ (isBlank c = false → isBlank low = false) := by
  rw [lowerChar] at turned
  split at turned
  · have listed : low ∈ exceptional := by
      split at turned <;> simp [List.mem_singleton.1 turned, exceptional]
    exact (isLow_of_exceptional listed).imp_right fun black _ => black
  · rename_i not_sigma
    split at turned
    · have listed : low ∈ exceptional := List.mem_append_right (exceptional.take 2) turned
      exact (isLow_of_exceptional listed).imp_right fun black _ => black
    · rename_i not_dotted
      rw [List.mem_singleton.1 turned]
      cases found : lowerRuns.toList.find? fun run => run.has c.toNat with
      | none =>
          have unshifted : shiftCase lowerRuns c = c := by rw [shiftCase_eq, found]
          rw [unshifted]
          exact ⟨⟨by simpa using not_sigma, by simpa using not_dotted, unshifted⟩, id⟩
      | some run =>
          have settled := CaseRun.isSettled_of_mem run (List.mem_of_find?_eq_some found)
          have member := List.find?_some found
          have shifted : shiftCase lowerRuns c = Char.ofNat (run.lead c.toNat) := by
            rw [shiftCase_eq, found]
          rw [shifted]
          exact ⟨CaseRun.isLow_lead settled member, fun _ => CaseRun.not_isBlank_lead settled member⟩

/-! ## Texts in lower case -/

theorem lowerChar_of_isLow {c : Char} (low : IsLow c) (before after : List Char) :
    lowerChar before c after = [c] := by
  obtain ⟨not_sigma, not_dotted, unshifted⟩ := low
  simp [lowerChar, not_sigma, not_dotted, unshifted]

theorem lowerChar_ne_nil (before : List Char) (c : Char) (after : List Char) :
    lowerChar before c after ≠ [] := by
  rw [lowerChar]
  split
  · split <;> exact List.cons_ne_nil _ _
  · split <;> exact List.cons_ne_nil _ _

theorem lowerFrom_of_isLow {cs : List Char} (low : ∀ c ∈ cs, IsLow c) (before : List Char) :
    lowerFrom before cs = cs := by
  induction cs generalizing before with
  | nil => rfl
  | cons c cs induction =>
      obtain ⟨first, rest⟩ := List.forall_mem_cons.1 low
      rw [lowerFrom, lowerChar_of_isLow first, induction rest]
      rfl

theorem isLow_of_mem_lowerFrom {before cs : List Char} {low : Char} (turned : low ∈ lowerFrom before cs) :
    IsLow low := by
  induction cs generalizing before with
  | nil => cases turned
  | cons c cs induction =>
      rcases List.mem_append.1 turned with first | rest
      · exact (isLow_of_mem_lowerChar first).1
      · exact induction rest

/-- A text in lower case stays as it is. -/
theorem lower_lower (s : String) : lower (lower s) = lower s := by
  rw [lower, lower, String.toList_ofList, lowerFrom_of_isLow fun _ => isLow_of_mem_lowerFrom]

/-- A list is trimmed if it begins and ends with nothing that is trimmed off. -/
theorem trimBy_eq_self_iff {α : Type} {p : α → Bool} {xs : List α} :
    trimBy p xs = xs ↔ (∀ x ∈ xs.head?, p x = false) ∧ ∀ x ∈ xs.getLast?, p x = false := by
  have front : xs.dropWhile p = xs ↔ ∀ x ∈ xs.head?, p x = false := by
    cases xs with
    | nil => simp
    | cons x xs => simp [List.dropWhile_eq_self_iff]
  have back : xs.rdropWhile p = xs ↔ ∀ x ∈ xs.getLast?, p x = false := by
    rw [List.rdropWhile_eq_self_iff]
    constructor
    · intro black x last
      obtain ⟨nonempty, rfl⟩ := List.mem_getLast?_eq_getLast last
      exact Bool.eq_false_iff.2 (black nonempty)
    · intro black nonempty
      exact ne_true_of_eq_false (black _ (List.getLast?_eq_getLast_of_ne_nil nonempty))
  rw [← front, ← back]
  constructor
  · intro kept
    have start : trimBy p xs <+: xs.dropWhile p := List.rdropWhile_prefix p _
    rw [kept] at start
    have whole : xs.dropWhile p = xs := (List.dropWhile_suffix p).eq_of_length_le start.length_le
    refine ⟨whole, ?_⟩
    rw [trimBy, whole] at kept
    exact kept
  · rintro ⟨whole, kept⟩
    rw [trimBy, whole]
    exact kept

theorem exists_lowerFrom_concat (before cs : List Char) (c : Char) :
    ∃ start before', lowerFrom before (cs ++ [c]) = start ++ lowerChar before' c [] := by
  induction cs generalizing before with
  | nil => exact ⟨[], before, by simp [lowerFrom]⟩
  | cons first cs induction =>
      obtain ⟨start, before', rest⟩ := induction (first :: before)
      exact ⟨lowerChar before first (cs ++ [c]) ++ start, before', by
        rw [List.cons_append, lowerFrom, rest, List.append_assoc]⟩

/-- A stripped text has no blanks around it in lower case either. -/
theorem strip_lower_strip (s : String) : strip (lower (strip s)) = lower (strip s) := by
  have trimmed := trimBy_trimBy isBlank s.toList
  rw [strip, lower, String.toList_ofList, strip, String.toList_ofList]
  generalize trimBy isBlank s.toList = cs at trimmed
  obtain ⟨first_black, last_black⟩ := trimBy_eq_self_iff.1 trimmed
  refine congrArg String.ofList (trimBy_eq_self_iff.2 ⟨fun low front => ?_, fun low back => ?_⟩)
  · cases cs with
    | nil => cases front
    | cons c cs =>
        rw [lowerFrom, Option.mem_def, List.head?_append_of_ne_nil _ (lowerChar_ne_nil _ _ _)] at front
        exact (isLow_of_mem_lowerChar (List.mem_of_head? front)).2 (first_black c rfl)
  · rcases List.eq_nil_or_concat' cs with rfl | ⟨cs, c, rfl⟩
    · cases back
    · obtain ⟨start, before, concat⟩ := exists_lowerFrom_concat [] cs c
      rw [concat, Option.mem_def,
        List.getLast?_append_of_ne_nil _ (lowerChar_ne_nil _ _ _)] at back
      exact (isLow_of_mem_lowerChar (List.mem_of_getLast? back)).2 (last_black c (by simp))

end Text
end EraRewards
