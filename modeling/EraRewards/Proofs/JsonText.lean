import EraRewards.Json.Reader
import EraRewards.Json.Writer
import EraRewards.Text.Lines
import Mathlib.Tactic

/-!
# Reading back a written object

An object whose members are texts is read from its document as it was written, whatever characters
the texts hold and whether characters outside ASCII are escaped or not.
-/

namespace EraRewards
namespace Json

/-! ## Escapes -/

/-- The letters of characters. -/
def lettersOf (cs : List Char) : List Letter := cs.map .char

@[simp] theorem lettersOf_nil : lettersOf [] = [] := rfl

@[simp] theorem lettersOf_cons (c : Char) (cs : List Char) :
    lettersOf (c :: cs) = .char c :: lettersOf cs := rfl

@[simp] theorem lettersOf_append (cs ds : List Char) :
    lettersOf (cs ++ ds) = lettersOf cs ++ lettersOf ds := List.map_append

@[simp] theorem length_lettersOf (cs : List Char) : (lettersOf cs).length = cs.length :=
  List.length_map _

theorem hexValue?_hexDigit : ∀ n < 16, hexValue? (Text.hexDigit n) = some n := by decide +kernel

theorem hexQuad?_hexDigits {unit : Nat} (bounded : unit < 0x10000) (rest : List Letter) :
    hexQuad? (lettersOf (Text.hexDigits 4 unit) ++ rest) = some (unit, rest) := by
  have value (n : Nat) : hexValue? (Text.hexDigit (n % 16)) = some (n % 16) :=
    hexValue?_hexDigit _ (Nat.mod_lt n (by decide))
  simp only [Text.hexDigits, List.nil_append, List.cons_append, lettersOf_cons, lettersOf_nil,
    hexQuad?, value, Option.bind_eq_bind, Option.bind_some, Option.pure_def, Option.some.injEq,
    Prod.mk.injEq, and_true]
  omega

/-- The letters behind the backslash of the escape of a unit. -/
def unitLetters (unit : Nat) : List Letter := .char 'u' :: lettersOf (Text.hexDigits 4 unit)

theorem lettersOf_escapeUnit (unit : Nat) :
    lettersOf (escapeUnit unit) = .char '\\' :: unitLetters unit := rfl

theorem length_unitLetters (unit : Nat) : (unitLetters unit).length = 5 := by
  simp [unitLetters, Text.hexDigits]

/-- A code point is below the greatest one and is no half of a surrogate pair. -/
theorem toNat_bounds (c : Char) :
    c.toNat < 0x110000 ∧ (c.toNat < 0xD800 ∨ 0xDFFF < c.toNat) := by
  have valid := c.valid
  rw [UInt32.isValidChar, Nat.isValidChar] at valid
  have code : c.val.toNat = c.toNat := rfl
  omega

theorem isFirstHalf_iff {unit : Nat} :
    Letter.isFirstHalf unit = true ↔ 0xD800 ≤ unit ∧ unit ≤ 0xDBFF := by
  simp [Letter.isFirstHalf]

theorem isSecondHalf_iff {unit : Nat} :
    Letter.isSecondHalf unit = true ↔ 0xDC00 ≤ unit ∧ unit ≤ 0xDFFF := by
  simp [Letter.isSecondHalf]

/-- The escape of a character of the first plane stands for the character. -/
theorem unicodeEscape_of_char {c : Char} (bounded : c.toNat < 0x10000) {rest : List Letter}
    (rest_ne : rest ≠ []) :
    unicodeEscape (unitLetters c.toNat ++ rest) = .ok (.char c, rest) := by
  obtain ⟨-, valid⟩ := toNat_bounds c
  have first : Letter.isFirstHalf c.toNat = false := by
    rw [Bool.eq_false_iff, ne_eq, isFirstHalf_iff]
    omega
  have second : Letter.isSecondHalf c.toNat = false := by
    rw [Bool.eq_false_iff, ne_eq, isSecondHalf_iff]
    omega
  have followed : rest.isEmpty = false := by simpa using rest_ne
  rw [unicodeEscape, unitLetters, List.cons_append, List.drop_succ_cons, List.drop_zero,
    hexQuad?_hexDigits bounded]
  simp [followed, first, second, Letter.ofUnit]

/-- The escapes of two halves of a surrogate pair stand for the character that they form. -/
theorem unicodeEscape_of_pair {high low : Nat} (first : Letter.isFirstHalf high = true)
    (second : Letter.isSecondHalf low = true) {rest : List Letter} (rest_ne : rest ≠ []) :
    unicodeEscape (unitLetters high ++ (.char '\\' :: unitLetters low ++ rest)) =
      .ok (.join high low, rest) := by
  have high_lt : high < 0x10000 := by
    have := isFirstHalf_iff.1 first
    omega
  have low_lt : low < 0x10000 := by
    have := isSecondHalf_iff.1 second
    omega
  have long : 6 < (.char '\\' :: unitLetters low ++ rest).length := by
    have := List.length_pos_iff.2 rest_ne
    simp only [List.cons_append, List.length_cons, List.length_append, length_unitLetters]
    omega
  have escapes : (.char '\\' :: unitLetters low ++ rest).take 2 = [.char '\\', .char 'u'] := rfl
  have behind : (.char '\\' :: unitLetters low ++ rest).drop 2 =
      lettersOf (Text.hexDigits 4 low) ++ rest := rfl
  have followed : (Letter.char '\\' :: unitLetters low ++ rest).isEmpty = false := rfl
  generalize (Letter.char '\\' :: unitLetters low ++ rest) = after at long escapes behind followed ⊢
  rw [unicodeEscape, unitLetters, List.cons_append, List.drop_succ_cons, List.drop_zero,
    hexQuad?_hexDigits high_lt]
  simp [followed, first, long, escapes, behind, hexQuad?_hexDigits low_lt, second]

/-! ## String literals -/

/-- The characters between the quotes of a string literal. -/
def literalBody (style : Style) (cs : List Char) : List Char := cs.flatMap (literalChar style)

theorem toList_writeText (style : Style) (s : String) :
    (writeText style s).toList = '\x22' :: literalBody style s.toList ++ ['\x22'] := by
  rw [writeText, String.toList_ofList]
  rfl

theorem stringAfter_escapeUnit (start fuel : Nat) (read : List Letter) {unit : Nat} {decoded : Letter}
    {after rest : List Letter}
    (reads : unicodeEscape (unitLetters unit ++ after) = .ok (decoded, rest)) :
    stringAfter start (fuel + 1) read (lettersOf (escapeUnit unit) ++ after) =
      stringAfter start fuel (decoded :: read) rest := by
  obtain ⟨digits, digits_eq⟩ : ∃ digits, unitLetters unit ++ after = .char 'u' :: digits := ⟨_, rfl⟩
  rw [digits_eq] at reads
  rw [lettersOf_escapeUnit, List.cons_append, digits_eq, stringAfter.eq_def]
  simp only [reads]
  rfl

theorem stringAfter_escapeChar (c : Char) (start fuel : Nat) (read : List Letter) {rest : List Letter}
    (rest_ne : rest ≠ []) :
    stringAfter start (fuel + 1) read (lettersOf (escapeChar c) ++ rest) =
      stringAfter start fuel (.char c :: read) rest := by
  rw [escapeChar]
  split
  · rename_i bounded
    exact stringAfter_escapeUnit _ _ _ (unicodeEscape_of_char bounded rest_ne)
  · rename_i beyond
    obtain ⟨bounded, -⟩ := toNat_bounds c
    have first : Letter.isFirstHalf (0xD800 + (c.toNat - 0x10000) / 0x400) = true := by
      rw [isFirstHalf_iff]
      omega
    have second : Letter.isSecondHalf (0xDC00 + (c.toNat - 0x10000) % 0x400) = true := by
      rw [isSecondHalf_iff]
      omega
    have joined : Letter.join (0xD800 + (c.toNat - 0x10000) / 0x400)
        (0xDC00 + (c.toNat - 0x10000) % 0x400) = .char c := by
      have code : 0x10000 + (0xD800 + (c.toNat - 0x10000) / 0x400 - 0xD800) * 0x400 +
          (0xDC00 + (c.toNat - 0x10000) % 0x400 - 0xDC00) = c.toNat := by omega
      rw [Letter.join, code, Char.ofNat_toNat]
    have reads := unicodeEscape_of_pair first second rest_ne
    rw [joined] at reads
    rw [lettersOf_append, List.append_assoc]
    exact stringAfter_escapeUnit _ _ _ reads

/-- One step of the reader takes what is written for one character. -/
theorem stringAfter_literalChar (style : Style) (c : Char) (start fuel : Nat) (read : List Letter)
    {rest : List Letter} (rest_ne : rest ≠ []) :
    stringAfter start (fuel + 1) read (lettersOf (literalChar style c) ++ rest) =
      stringAfter start fuel (.char c :: read) rest := by
  rw [literalChar]
  -- Seven characters have an escape of their own.
  iterate 7
    split
    · rename_i own
      rw [eq_of_beq own]
      rfl
  split
  · have bounded : c.toNat < 0x10000 := by omega
    exact stringAfter_escapeUnit _ _ _ (unicodeEscape_of_char bounded rest_ne)
  split
  · exact stringAfter_escapeChar c _ _ _ rest_ne
  · rename_i quote backslash _ _ _ _ _ control _
    have not_quote : (Letter.char c == .char '\x22') = false := by simpa using quote
    have not_backslash : (Letter.char c == .char '\\') = false := by simpa using backslash
    have not_control : (Letter.char c).has (·.toNat < 0x20) = false := by simpa [Letter.has] using control
    rw [lettersOf_cons, lettersOf_nil, List.cons_append, List.nil_append, stringAfter.eq_def]
    simp only [not_quote, not_backslash, not_control, Bool.false_eq_true, if_false]

theorem literalChar_ne_nil (style : Style) (c : Char) : literalChar style c ≠ [] := by
  -- Seven characters have an escape of their own, and then come the controls.
  rw [literalChar]
  iterate 8
    split
    · exact List.cons_ne_nil _ _
  split
  · rw [escapeChar]
    split <;> exact List.cons_ne_nil _ _
  · exact List.cons_ne_nil _ _

theorem length_le_literalBody (style : Style) (cs : List Char) :
    cs.length ≤ (literalBody style cs).length := by
  induction cs with
  | nil => exact Nat.zero_le _
  | cons c cs induction =>
      have first := List.length_pos_iff.2 (literalChar_ne_nil style c)
      rw [literalBody, List.flatMap_cons, List.length_append, List.length_cons]
      rw [literalBody] at induction
      omega

theorem stringAfter_literalBody (style : Style) (cs : List Char) (start fuel : Nat)
    (read after : List Letter) :
    stringAfter start (fuel + cs.length + 1) read
        (lettersOf (literalBody style cs) ++ .char '\x22' :: after) =
      .ok (read.reverse ++ lettersOf cs, after) := by
  induction cs generalizing read with
  | nil =>
      rw [lettersOf_nil, List.append_nil]
      rfl
  | cons c cs induction =>
      rw [literalBody, List.flatMap_cons, lettersOf_append, List.append_assoc, List.length_cons,
        ← Nat.add_assoc, stringAfter_literalChar style c _ _ _ (by simp)]
      rw [literalBody] at induction
      rw [induction, List.reverse_cons, List.append_assoc]
      rfl

/-- A string literal is read as the characters that were written. -/
theorem stringLiteral_literalBody (style : Style) (cs : List Char) (after : List Letter) :
    stringLiteral (lettersOf (literalBody style cs) ++ .char '\x22' :: after) =
      .ok (lettersOf cs, after) := by
  have short := length_le_literalBody style cs
  obtain ⟨fuel, fuel_eq⟩ := Nat.exists_eq_add_of_le'
    (show cs.length ≤ (lettersOf (literalBody style cs) ++ .char '\x22' :: after).length by
      rw [List.length_append, length_lettersOf]
      omega)
  rw [stringLiteral, fuel_eq, stringAfter_literalBody]
  rfl

/-! ## Objects -/

/-- The object whose members are texts. -/
def objectOf (given : List (String × String)) : Value :=
  .object (given.map fun member => (member.1, .text member.2))

/-- The characters of a member that is a text. -/
def memberChars (style : Style) (member : String × String) : List Char :=
  (writeText style member.1).toList ++ ':' :: (writeText style member.2).toList

theorem text?_ofText (s : String) : Letter.text? (Letter.ofText s) = some s := by
  have chars (cs : List Char) : (cs.map Letter.char).mapM Letter.char? = some cs := by
    induction cs with
    | nil => rfl
    | cons c cs induction => simp [induction, Letter.char?]
  rw [Letter.text?, Letter.ofText, chars, Option.map_some, String.ofList_toList]

theorem ofText_injective : Function.Injective Letter.ofText := by
  intro s t same
  have read := congrArg Letter.text? same
  rw [text?_ofText, text?_ofText] at read
  exact Option.some.inj read

theorem ofMembers_texts (given : List (String × String)) :
    Value.ofMembers (given.map fun member => (Letter.ofText member.1, .text member.2)) =
      objectOf given := by
  have names : (given.map fun member => (Letter.ofText member.1, Value.text member.2)).mapM
      (fun member => (Letter.text? member.1).map (·, member.2)) =
        some (given.map fun member => (member.1, .text member.2)) := by
    induction given with
    | nil => rfl
    | cons member given induction => simp [induction, text?_ofText]
  rw [Value.ofMembers, names]
  rfl

theorem skipGaps_of_mark {c : Char} (mark : isGap c = false) (rest : List Letter) :
    skipGaps (.char c :: rest) = .char c :: rest := by
  rw [skipGaps, List.dropWhile_cons_of_neg]
  simpa [Letter.has] using mark

theorem skipGaps_writeText (style : Style) (s : String) (after : List Letter) :
    skipGaps (lettersOf (writeText style s).toList ++ after) =
      lettersOf (writeText style s).toList ++ after := by
  rw [toList_writeText, List.cons_append, lettersOf_cons, List.cons_append]
  exact skipGaps_of_mark (by decide) _

theorem value_writeText (style : Style) (s : String) (fuel levels : Nat) (after : List Letter) :
    value (fuel + 1) levels (lettersOf (writeText style s).toList ++ after) = .ok (.text s, after) := by
  rw [toList_writeText]
  simp only [List.cons_append, lettersOf_cons, lettersOf_append, lettersOf_nil, List.append_assoc,
    List.nil_append]
  rw [value.eq_def]
  simp only [stringLiteral_literalBody]
  rw [Value.ofLetters, show lettersOf s.toList = Letter.ofText s from rfl, text?_ofText]

theorem members_memberChars (style : Style) (member : String × String) (fuel levels : Nat)
    (read : List (List Letter × Value)) (after : List Letter) :
    members (fuel + 2) levels read (lettersOf (memberChars style member) ++ after) =
      match skipGaps after with
      | .char '\x7d' :: rest =>
        .ok (.ofMembers (Value.setMember read (Letter.ofText member.1) (.text member.2)), rest)
      | .char ',' :: rest =>
        members (fuel + 1) levels (Value.setMember read (Letter.ofText member.1) (.text member.2))
          (skipGaps rest)
      | start => .error (faultAt start) := by
  rw [memberChars, toList_writeText]
  simp only [List.cons_append, lettersOf_cons, lettersOf_append, List.append_assoc, List.nil_append]
  rw [members.eq_def]
  simp only [stringLiteral_literalBody]
  rw [skipGaps_of_mark (by decide)]
  simp only [skipGaps_writeText, value_writeText]
  rfl

theorem setMember_of_new {read : List (List Letter × Value)} {name : List Letter}
    (new : name ∉ read.map Prod.fst) (found : Value) :
    Value.setMember read name found = read ++ [(name, found)] := by
  have absent : (read.any fun entry => entry.1 == name) = false := by
    rw [List.any_eq_false]
    intro entry listed same
    exact new (eq_of_beq same ▸ List.mem_map_of_mem listed)
  rw [Value.setMember, absent]
  rfl

/-- The characters of members that are texts, one after the other. -/
def membersChars (style : Style) (given : List (String × String)) : List Char :=
  [','].intercalate (given.map (memberChars style))

theorem membersChars_cons_cons (style : Style) (first second : String × String)
    (others : List (String × String)) :
    membersChars style (first :: second :: others) =
      memberChars style first ++ ',' :: membersChars style (second :: others) := by
  rw [membersChars, List.map_cons, List.map_cons, List.intercalate_cons_cons, List.append_assoc]
  rfl

theorem exists_membersChars_eq (style : Style) (first : String × String)
    (others : List (String × String)) :
    ∃ tail, membersChars style (first :: others) = '\x22' :: tail := by
  cases others with
  | nil =>
      rw [membersChars, List.map_singleton, List.intercalate_singleton, memberChars, toList_writeText]
      exact ⟨_, rfl⟩
  | cons second others =>
      rw [membersChars_cons_cons, memberChars, toList_writeText]
      exact ⟨_, rfl⟩

theorem skipGaps_membersChars (style : Style) (first : String × String)
    (others : List (String × String)) (after : List Letter) :
    skipGaps (lettersOf (membersChars style (first :: others)) ++ after) =
      lettersOf (membersChars style (first :: others)) ++ after := by
  obtain ⟨tail, head⟩ := exists_membersChars_eq style first others
  rw [head, lettersOf_cons, List.cons_append]
  exact skipGaps_of_mark (by decide) _

theorem length_le_membersChars (style : Style) (first : String × String)
    (others : List (String × String)) :
    others.length < (membersChars style (first :: others)).length := by
  induction others generalizing first with
  | nil =>
      obtain ⟨tail, head⟩ := exists_membersChars_eq style first []
      simp [head]
  | cons second others induction =>
      have later := induction second
      rw [membersChars_cons_cons]
      simp only [List.length_append, List.length_cons]
      omega

/-- Members whose names are new are read in their order. -/
theorem members_membersChars (style : Style) (levels : Nat) (after : List Letter) (fuel : Nat)
    (first : String × String) (others : List (String × String)) (read : List (List Letter × Value))
    (distinct : (read.map Prod.fst ++
      (first :: others).map fun member => Letter.ofText member.1).Nodup) :
    members (fuel + others.length + 2) levels read
        (lettersOf (membersChars style (first :: others)) ++ .char '\x7d' :: after) =
      .ok (.ofMembers (read ++ (first :: others).map fun member =>
        (Letter.ofText member.1, .text member.2)), after) := by
  induction others generalizing fuel first read with
  | nil =>
      have new : Letter.ofText first.1 ∉ read.map Prod.fst := fun old =>
        List.disjoint_of_nodup_append distinct old (List.mem_singleton_self _)
      rw [membersChars, List.map_singleton, List.intercalate_singleton, List.length_nil,
        members_memberChars, skipGaps_of_mark (by decide), setMember_of_new new]
      rfl
  | cons second others induction =>
      have new : Letter.ofText first.1 ∉ read.map Prod.fst := fun old =>
        List.disjoint_of_nodup_append distinct old List.mem_cons_self
      rw [membersChars_cons_cons, lettersOf_append, lettersOf_cons, List.append_assoc,
        List.cons_append, List.length_cons]
      have later := induction fuel second (read ++ [(Letter.ofText first.1, .text first.2)])
        (by simpa using distinct)
      rw [← skipGaps_membersChars] at later
      rw [members_memberChars, skipGaps_of_mark (by decide), setMember_of_new new]
      refine later.trans ?_
      rw [List.append_assoc]
      rfl

theorem writeMembers_texts (style : Style) (given : List (String × String)) :
    writeMembers style (given.map fun member => (member.1, .text member.2)) =
      given.map fun member => (member.1, writeText style member.2) := by
  induction given with
  | nil => rfl
  | cons member given induction =>
      rw [List.map_cons, writeMembers, induction]
      rfl

theorem toList_write_objectOf (escaped : Bool) (given : List (String × String)) :
    (write (.plain escaped) (objectOf given)).toList =
      '\x7b' :: membersChars (.plain escaped) given ++ ['\x7d'] := by
  have members_eq : (given.map fun member => (member.1, writeText (.plain escaped) member.2)).map
      (fun entry => writeText (.plain escaped) entry.1 ++ ":" ++ entry.2) =
        given.map fun member => String.ofList (memberChars (.plain escaped) member) := by
    rw [List.map_map]
    refine List.map_congr_left fun member _ => String.toList_injective ?_
    simp [memberChars]
  have joined : (",".intercalate (given.map fun member =>
      String.ofList (memberChars (.plain escaped) member))).toList =
        membersChars (.plain escaped) given := by
    rw [String.toList_intercalate, List.map_map, membersChars]
    refine congrArg _ (List.map_congr_left fun member _ => ?_)
    exact String.toList_ofList
  rw [objectOf, write, writeMembers_texts]
  simp only [Style.plain, Bool.false_eq_true, if_false] at members_eq joined ⊢
  rw [members_eq, String.toList_append, String.toList_append, joined]
  rfl

/-! ## Line breaks -/

theorem unifyBreaks_of_not_mem {cs : List Char} (unbroken : '\r' ∉ cs) : Text.unifyBreaks cs = cs := by
  induction cs with
  | nil => rfl
  | cons c cs induction =>
      have first : c ≠ '\r' := fun own => unbroken (own ▸ List.mem_cons_self)
      rw [Text.unifyBreaks.eq_4 _ _ (fun _ own => absurd own first) fun own => absurd own first,
        induction fun rest => unbroken (List.mem_cons_of_mem _ rest)]

theorem return_not_mem_escapeUnit (unit : Nat) : '\r' ∉ escapeUnit unit := by
  have digit (n : Nat) : Text.hexDigit (n % 16) ≠ '\r' := by
    have bounded := Nat.mod_lt n (show 0 < 16 by decide)
    generalize n % 16 = m at bounded
    revert m
    decide
  simp [escapeUnit, Text.hexDigits, (digit _).symm]

theorem return_not_mem_literalChar (style : Style) (c : Char) : '\r' ∉ literalChar style c := by
  rw [literalChar]
  iterate 7
    split
    · decide
  split
  · exact return_not_mem_escapeUnit _
  split
  · rw [escapeChar]
    split
    · exact return_not_mem_escapeUnit _
    · exact fun listed => (List.mem_append.1 listed).elim (return_not_mem_escapeUnit _)
        (return_not_mem_escapeUnit _)
  · rename_i carriage _ _ _ _ _
    rw [List.mem_singleton]
    rintro rfl
    exact carriage rfl

theorem return_not_mem_writeText (style : Style) (s : String) :
    '\r' ∉ (writeText style s).toList := by
  rw [toList_writeText, literalBody]
  intro listed
  simp only [List.cons_append, List.mem_cons, List.mem_append, List.mem_flatMap, List.not_mem_nil,
    or_false] at listed
  rcases listed with quote | ⟨c, -, listed⟩ | quote
  · cases quote
  · exact return_not_mem_literalChar style c listed
  · cases quote

theorem return_not_mem_memberChars (style : Style) (member : String × String) :
    '\r' ∉ memberChars style member := by
  intro listed
  rw [memberChars, List.mem_append, List.mem_cons] at listed
  rcases listed with name | colon | text
  · exact return_not_mem_writeText style _ name
  · cases colon
  · exact return_not_mem_writeText style _ text

theorem return_not_mem_membersChars (style : Style) (given : List (String × String)) :
    '\r' ∉ membersChars style given := by
  induction given with
  | nil => exact List.not_mem_nil
  | cons first others induction =>
      cases others with
      | nil =>
          rw [membersChars, List.map_singleton, List.intercalate_singleton]
          exact return_not_mem_memberChars style first
      | cons second others =>
          rw [membersChars_cons_cons, List.mem_append, List.mem_cons]
          rintro (own | comma | later)
          · exact return_not_mem_memberChars style first own
          · cases comma
          · exact induction later

/-- The document of an object whose members are texts with different names is read as the object. -/
theorem readWithin_write (escaped : Bool) {given : List (String × String)}
    (distinct : (given.map Prod.fst).Nodup) (levels : Nat) :
    readWithin (levels + 1)
        (lettersOf (Text.unifyBreaks (write (.plain escaped) (objectOf given)).toList)) =
      .ok (objectOf given) := by
  have unbroken : '\r' ∉ (write (.plain escaped) (objectOf given)).toList := by
    rw [toList_write_objectOf]
    simpa using return_not_mem_membersChars (.plain escaped) given
  rw [unifyBreaks_of_not_mem unbroken, toList_write_objectOf, readWithin]
  cases given with
  | nil => rfl
  | cons first others =>
      generalize length_eq : (lettersOf ('\x7b' ::
        membersChars (.plain escaped) (first :: others) ++ ['\x7d'])).length = length
      have room := length_le_membersChars (.plain escaped) first others
      rw [length_lettersOf, List.cons_append, List.length_cons, List.length_append] at length_eq
      obtain ⟨fuel, rfl⟩ : ∃ fuel, length = fuel + others.length + 1 :=
        ⟨length - others.length - 1, by omega⟩
      have new : ((first :: others).map fun member => Letter.ofText member.1).Nodup := by
        have letters := distinct.map ofText_injective
        rwa [List.map_map] at letters
      have read := members_membersChars (.plain escaped) levels [] (2 * fuel + others.length + 1) first
        others [] new
      rw [List.nil_append, ofMembers_texts] at read
      have steps : 2 * (fuel + others.length + 1) + 2 =
          2 * fuel + others.length + 1 + others.length + 2 + 1 := by omega
      have opened : value (2 * (fuel + others.length + 1) + 2) (levels + 1) (.char '\x7b' ::
          (lettersOf (membersChars (.plain escaped) (first :: others)) ++ [.char '\x7d'])) =
            .ok (objectOf (first :: others), []) := by
        rw [steps, ← read, value.eq_def]
        simp only [skipGaps_membersChars]
        obtain ⟨tail, head⟩ := exists_membersChars_eq (.plain escaped) first others
        rw [head]
        rfl
      rw [List.cons_append, lettersOf_cons, lettersOf_append, skipGaps_of_mark (by decide),
        lettersOf_cons, lettersOf_nil, opened]
      rfl

end Json
end EraRewards
