/-!
# Letters

Escapes and UTF-16 units can write half of a surrogate pair without the other half.  Such a half is no
character and has no place in an encoded text, but a text may be read that holds one.  A letter is a
character or such a half.
-/

namespace EraRewards

/-- A part of a text that has been read. -/
inductive Letter
  /-- A character. -/
  | char (c : Char)
  /-- Half of a surrogate pair that stands alone, by its UTF-16 unit. -/
  | half (unit : Nat)
  deriving DecidableEq, Repr, Inhabited

namespace Letter

/-- Whether a UTF-16 unit is the first half of a surrogate pair. -/
def isFirstHalf (unit : Nat) : Bool := 0xD800 ≤ unit && unit ≤ 0xDBFF

/-- Whether a UTF-16 unit is the second half of a surrogate pair. -/
def isSecondHalf (unit : Nat) : Bool := 0xDC00 ≤ unit && unit ≤ 0xDFFF

/-- The letter with a code point, if there is one. -/
def ofCode? (code : Nat) : Option Letter :=
  if isFirstHalf code || isSecondHalf code then some (half code)
  else if code ≤ 0x10FFFF then some (char (Char.ofNat code))
  else none

/-- The letter of a UTF-16 unit without a partner. -/
def ofUnit (unit : Nat) : Letter :=
  if isFirstHalf unit || isSecondHalf unit then half unit else char (Char.ofNat unit)

/-- The character that two halves of a surrogate pair form. -/
def join (first second : Nat) : Letter :=
  char (Char.ofNat (0x10000 + (first - 0xD800) * 0x400 + (second - 0xDC00)))

/-- The character that a letter is, if it is one. -/
def char? : Letter → Option Char
  | char c => some c
  | half _ => none

/-- Whether a letter is a character with a property. -/
def has (p : Char → Bool) : Letter → Bool
  | char c => p c
  | half _ => false

/-- The letters of a text. -/
def ofText (s : String) : List Letter := s.toList.map char

/-- The text that letters form, if all of them are characters. -/
def text? (letters : List Letter) : Option String := (letters.mapM char?).map String.ofList

/-- Letters after a change of the characters between halves, `run` of which, reversed, have been
read. -/
def mapRunsFrom (change : String → String) (run : List Char) : List Letter → List Letter
  | [] => ofText (change (String.ofList run.reverse))
  | char c :: rest => mapRunsFrom change (c :: run) rest
  | half unit :: rest =>
    ofText (change (String.ofList run.reverse)) ++ half unit :: mapRunsFrom change [] rest

/-- Letters after a change of the texts between halves. -/
def mapRuns (change : String → String) (letters : List Letter) : List Letter :=
  mapRunsFrom change [] letters

end Letter
end EraRewards
