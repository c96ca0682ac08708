import EraRewards.Amount
import Mathlib.Tactic

/-!
# Numerals

Digits of any script are neither blanks nor marks, and what they denote is read digit by digit.  The
cells of a ledger hold amounts as decimal text.  A natural number that is short enough to be read is
read from its own decimal text as itself, so a stored amount is never changed by storage.
-/

namespace EraRewards

/-! ## Digits of any script -/

namespace Text

/-- Code points of the blanks. -/
def blankPoints : List Nat :=
  [9, 10, 11, 12, 13, 28, 29, 30, 31, 32, 0x85, 0xA0, 0x1680, 0x2000, 0x2001, 0x2002, 0x2003, 0x2004,
    0x2005, 0x2006, 0x2007, 0x2008, 0x2009, 0x200A, 0x2028, 0x2029, 0x202F, 0x205F, 0x3000]

theorem mem_blankPoints_of_isBlank {c : Char} (blank : isBlank c = true) : c.toNat ∈ blankPoints := by
  simp only [isBlank, isSpace, isAsciiSpace, isWideBlank, Bool.or_eq_true, Bool.and_eq_true,
    decide_eq_true_eq, beq_iff_eq] at blank
  simp only [blankPoints, List.mem_cons, List.not_mem_nil, or_false]
  omega

variable {c : Char}

theorem not_isBlank_of_digit (digit : isDigit c = true) : isBlank c = false := by
  have points : (blankPoints.all fun n => !isDigit (Char.ofNat n)) = true := by decide +kernel
  rw [Bool.eq_false_iff]
  intro blank
  have other := List.all_eq_true.1 points c.toNat (mem_blankPoints_of_isBlank blank)
  rw [Char.ofNat_toNat, digit] at other
  cases other

theorem not_isSpace_of_digit (digit : isDigit c = true) : isSpace c = false :=
  (Bool.or_eq_false_iff.1 (not_isBlank_of_digit digit)).1

theorem ne_of_digit (digit : isDigit c = true) {mark : Char} (other : isDigit mark = false) :
    c ≠ mark := by
  rintro rfl
  cases digit.symm.trans other

/-- Values of decimal digits. -/
def decimals? (cs : List Char) : Option (List Nat) := cs.mapM decimalValue?

end Text

namespace Integer

theorem digitsAfter_of_digits {cs : List Char} (digits : ∀ c ∈ cs, Text.isDigit c = true) :
    digitsAfter cs = Text.decimals? cs := by
  induction cs with
  | nil => rfl
  | cons c cs induction =>
      obtain ⟨digit, digits⟩ := List.forall_mem_cons.1 digits
      have not_mark : c ≠ '_' := Text.ne_of_digit digit (by decide +kernel)
      rw [digitsAfter.eq_3 _ _ fun _ _ equality _ => not_mark equality, induction digits,
        Text.decimals?, Text.decimals?, List.mapM_cons]

theorem digits?_of_digits {cs : List Char} (something : cs ≠ [])
    (digits : ∀ c ∈ cs, Text.isDigit c = true) : digits? cs = Text.decimals? cs := by
  obtain ⟨c, cs, rfl⟩ := List.exists_cons_of_ne_nil something
  obtain ⟨-, digits⟩ := List.forall_mem_cons.1 digits
  rw [digits?, digitsAfter_of_digits digits, Text.decimals?, Text.decimals?, List.mapM_cons]

theorem signed?_of_digits {cs : List Char} (digits : ∀ c ∈ cs, Text.isDigit c = true) :
    signed? cs = (magnitude? cs).map fun n => (n : Int) := by
  cases cs with
  | nil => rfl
  | cons c cs =>
      have digit := digits c List.mem_cons_self
      rw [signed?.eq_3]
      · exact fun _ minus => Text.ne_of_digit digit (by decide +kernel) (List.cons.inj minus).1
      · exact fun _ plus => Text.ne_of_digit digit (by decide +kernel) (List.cons.inj plus).1

/-! ## Decimal text -/

private theorem toNat_of_isDigit {c : Char} (digit : c.isDigit) : 48 ≤ c.toNat ∧ c.toNat < 58 := by
  simp [Char.isDigit, UInt32.le_iff_toNat_le] at digit
  exact ⟨digit.1, Nat.lt_succ_of_le digit.2⟩

theorem decimalValue?_of_isDigit {c : Char} (digit : c.isDigit) :
    Text.decimalValue? c = some (c.toNat - 48) := by
  have range := toNat_of_isDigit digit
  simp [Text.decimalValue?, Text.decimalZeros, range]

theorem decimals?_of_isDigit {cs : List Char} (digits : ∀ c ∈ cs, c.isDigit) :
    Text.decimals? cs = some (cs.map fun c => c.toNat - 48) := by
  induction cs with
  | nil => rfl
  | cons c cs induction =>
      obtain ⟨digit, digits⟩ := List.forall_mem_cons.1 digits
      have rest := induction digits
      rw [Text.decimals?] at rest ⊢
      rw [List.mapM_cons, decimalValue?_of_isDigit digit, rest]
      rfl

theorem isDigit_of_mem_toDigits {n : Nat} : ∀ c ∈ Nat.toDigits 10 n, c.isDigit :=
  fun _ member => Nat.isDigit_of_mem_toDigits (by decide) (by decide) member

theorem digit_of_mem_toDigits {n : Nat} : ∀ c ∈ Nat.toDigits 10 n, Text.isDigit c = true := by
  intro c member
  rw [Text.isDigit, decimalValue?_of_isDigit (isDigit_of_mem_toDigits c member)]
  rfl

theorem ofDigits_map (cs : List Char) :
    ofDigits (cs.map fun c => c.toNat - 48) = Nat.ofDigitChars 10 cs 0 := by
  rw [ofDigits, List.foldl_map, Nat.ofDigitChars_eq_foldl]
  rfl

private theorem writingBound_eq : writingBound = 10 ^ maxDigits := by
  unfold writingBound
  generalize maxDigits = digits
  rfl

theorem magnitude?_toDigits {n : Nat} (short : n < writingBound) :
    magnitude? (Nat.toDigits 10 n) = some n := by
  have length_le : (Nat.toDigits 10 n).length ≤ maxDigits := by
    rw [writingBound_eq] at short
    exact (Nat.length_toDigits_le_iff (by decide) (by decide)).2 short
  rw [magnitude?, digits?_of_digits Nat.toDigits_ne_nil digit_of_mem_toDigits,
    decimals?_of_isDigit isDigit_of_mem_toDigits]
  simp [length_le, ofDigits_map]

private theorem dropWhile_eq_self {α : Type} {p : α → Bool} {xs : List α}
    (kept : ∀ x ∈ xs, p x = false) : xs.dropWhile p = xs := by
  cases xs with
  | nil => rfl
  | cons x xs => simp [kept x List.mem_cons_self]

theorem trimBy_eq_self {α : Type} {p : α → Bool} {xs : List α} (kept : ∀ x ∈ xs, p x = false) :
    Text.trimBy p xs = xs := by
  rw [Text.trimBy, dropWhile_eq_self kept, dropWhile_eq_self, List.reverse_reverse]
  intro x member
  exact kept x (List.mem_reverse.1 member)

/-- A natural number is read from its decimal text. -/
theorem read?_write {n : Nat} (short : n < writingBound) : read? (write n) = some (n : Int) := by
  have letters : (write n).toList = Nat.toDigits 10 n := Nat.toList_repr
  rw [read?, letters,
    trimBy_eq_self fun c member => Text.not_isSpace_of_digit (digit_of_mem_toDigits c member),
    signed?_of_digits digit_of_mem_toDigits, magnitude?_toDigits short]
  rfl

theorem maxAmount_lt_writingBound : maxAmount < writingBound := by
  rw [writingBound_eq]
  calc
    maxAmount < 10 ^ 39 := by decide
    _ ≤ 10 ^ maxDigits := Nat.pow_le_pow_right (by decide) (by decide)

/-- An integer in the range of amounts is read from its decimal text. -/
theorem read?_write_of_le {n : Int} (nonneg : 0 ≤ n) (le_max : n ≤ maxAmount) :
    read? (write n) = some n := by
  obtain ⟨m, rfl⟩ := Int.eq_ofNat_of_zero_le nonneg
  exact read?_write (Nat.lt_of_le_of_lt (Int.ofNat_le.1 le_max) maxAmount_lt_writingBound)

/-! ## Numbers that have been read -/

private theorem lt_ten_of_decimalValue? {c : Char} {digit : Nat}
    (valued : Text.decimalValue? c = some digit) : digit < 10 := by
  obtain ⟨first, found, rfl⟩ := Option.map_eq_some_iff.1 valued
  have range := List.find?_some found
  simp only [Bool.and_eq_true, decide_eq_true_eq] at range
  omega

private theorem lt_ten_of_cons {c : Char} {rest : Option (List Nat)} {digits : List Nat}
    (read : (do
      let digit ← Text.decimalValue? c
      return digit :: (← rest)) = some digits)
    (small : ∀ others, rest = some others → ∀ digit ∈ others, digit < 10) :
    ∀ digit ∈ digits, digit < 10 := by
  obtain ⟨first, valued, read⟩ := Option.bind_eq_some_iff.1 read
  obtain ⟨others, others_eq, read⟩ := Option.bind_eq_some_iff.1 read
  cases read
  exact List.forall_mem_cons.2 ⟨lt_ten_of_decimalValue? valued, small others others_eq⟩

theorem lt_ten_of_digitsAfter {cs : List Char} {digits : List Nat}
    (read : digitsAfter cs = some digits) : ∀ digit ∈ digits, digit < 10 := by
  fun_induction digitsAfter cs generalizing digits with
  | case1 =>
      cases read
      exact fun _ member => by cases member
  | case2 c rest induction => exact lt_ten_of_cons read fun _ others_eq => induction others_eq
  | case3 c rest _ induction => exact lt_ten_of_cons read fun _ others_eq => induction others_eq

theorem lt_ten_of_digits? {cs : List Char} {digits : List Nat} (read : digits? cs = some digits) :
    ∀ digit ∈ digits, digit < 10 := by
  cases cs with
  | nil => cases read
  | cons c rest => exact lt_ten_of_cons read fun _ others_eq => lt_ten_of_digitsAfter others_eq

theorem ofDigits_lt {digits : List Nat} (small : ∀ digit ∈ digits, digit < 10) :
    ofDigits digits < 10 ^ digits.length := by
  have reversed : ofDigits digits = Nat.ofDigits 10 digits.reverse := by
    rw [Nat.ofDigits_eq_foldr, ofDigits, List.foldr_reverse]
    simp only [Nat.cast_id, add_comm]
  rw [reversed, ← List.length_reverse]
  exact Nat.ofDigits_lt_base_pow_length (by decide) fun digit member =>
    small digit (List.mem_reverse.1 member)

theorem magnitude?_lt {cs : List Char} {n : Nat} (read : magnitude? cs = some n) :
    n < writingBound := by
  rw [magnitude?] at read
  split at read
  · rename_i digits digits_eq
    split at read
    · rename_i length_le
      cases read
      rw [writingBound_eq]
      calc
        ofDigits digits < 10 ^ digits.length := ofDigits_lt (lt_ten_of_digits? digits_eq)
        _ ≤ 10 ^ maxDigits := Nat.pow_le_pow_right (by decide) length_le
    · cases read
  · cases read

/-- A number that has been read is short enough to be written. -/
theorem read?_natAbs_lt {text : String} {n : Int} (read : read? text = some n) :
    n.natAbs < writingBound := by
  rw [read?] at read
  unfold signed? at read
  split at read
  all_goals
    obtain ⟨m, sized, rfl⟩ := Option.map_eq_some_iff.1 read
    obtain ⟨size, magnitude_eq, size_eq⟩ := Option.bind_eq_some_iff.1 sized
    cases size_eq
    simpa using magnitude?_lt magnitude_eq

/-- An integer of either sign is read from its decimal text. -/
theorem read?_write_of_natAbs_lt {n : Int} (short : n.natAbs < writingBound) :
    read? (write n) = some n := by
  cases n with
  | ofNat m => exact read?_write short
  | negSucc m =>
      have letters : (write (Int.negSucc m)).toList = '-' :: Nat.toDigits 10 (m + 1) := by
        change ("-" ++ Nat.repr (m + 1)).toList = _
        rw [String.toList_append, Nat.toList_repr]
        rfl
      have black : ∀ c ∈ '-' :: Nat.toDigits 10 (m + 1), Text.isSpace c = false :=
        List.forall_mem_cons.2 ⟨by decide, fun c member =>
          Text.not_isSpace_of_digit (digit_of_mem_toDigits c member)⟩
      have magnitude_eq : magnitude? (Nat.toDigits 10 (m + 1)) = some (m + 1) :=
        magnitude?_toDigits short
      rw [read?, letters, trimBy_eq_self black, signed?, magnitude_eq]
      rfl

end Integer
end EraRewards
