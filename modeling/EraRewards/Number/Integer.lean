import EraRewards.Text.Blank
import EraRewards.Text.Digit

/-!
# Integers as text

An integer is written in decimal without leading zeros.  Reading is more liberal: white space around
the numeral, one sign, decimal digits of any script and single underscores between digits are
accepted, up to a fixed number of digits.
-/

namespace EraRewards
namespace Integer

/-- The most digits that a numeral may have. -/
def maxDigits : Nat := 4300

/-- Digit values of the rest of a numeral, in which an underscore stands only before a digit. -/
def digitsAfter : List Char → Option (List Nat)
  | [] => some []
  | '_' :: c :: rest => do
    let digit ← Text.decimalValue? c
    return digit :: (← digitsAfter rest)
  | c :: rest => do
    let digit ← Text.decimalValue? c
    return digit :: (← digitsAfter rest)

/-- Digit values of an unsigned numeral, which begins with a digit. -/
def digits? : List Char → Option (List Nat)
  | [] => none
  | c :: rest => do
    let digit ← Text.decimalValue? c
    return digit :: (← digitsAfter rest)

/-- Number with the given decimal digits, most significant first. -/
def ofDigits (digits : List Nat) : Nat := digits.foldl (fun value digit => 10 * value + digit) 0

/-- Value of an unsigned numeral of at most `maxDigits` digits. -/
def magnitude? (cs : List Char) : Option Nat :=
  match digits? cs with
  | some digits => if digits.length ≤ maxDigits then some (ofDigits digits) else none
  | none => none

/-- Value of a numeral with an optional sign. -/
def signed? : List Char → Option Int
  | '-' :: rest => (magnitude? rest).map fun n => -(n : Int)
  | '+' :: rest => (magnitude? rest).map fun n => (n : Int)
  | cs => (magnitude? cs).map fun n => (n : Int)

/-- The integer that a text denotes. -/
def read? (s : String) : Option Int := signed? (Text.trimBy Text.isSpace s.toList)

/-- Value of a digit of a base up to sixteen: a decimal digit of any script, or a letter. -/
def digitIn? (base : Nat) (c : Char) : Option Nat :=
  let n := c.toNat
  let value? := match Text.decimalValue? c with
    | some digit => some digit
    | none =>
      if 97 ≤ n && n ≤ 102 then some (n - 87)
      else if 65 ≤ n && n ≤ 70 then some (n - 55)
      else none
  value?.filter (· < base)

/-- Value of an unsigned numeral of any length in a base.  Before its digits a zero with the letter of
the base may stand. -/
def magnitudeIn? (base : Nat) (letter : Char) (cs : List Char) : Option Nat :=
  let digits := match cs with
    | '0' :: mark :: rest => if mark == letter || mark == letter.toUpper then rest else cs
    | _ => cs
  if digits.isEmpty then none
  else (digits.mapM (digitIn? base)).map
    (·.foldl (fun value digit => base * value + digit) 0)

/-- The integer that a text denotes in a base whose numerals have no limit, a power of two. -/
def readIn? (base : Nat) (letter : Char) (cs : List Char) : Option Int :=
  match Text.trimBy Text.isSpace cs with
  | '-' :: rest => (magnitudeIn? base letter rest).map fun n => -(n : Int)
  | '+' :: rest => (magnitudeIn? base letter rest).map fun n => (n : Int)
  | cs => (magnitudeIn? base letter cs).map fun n => (n : Int)

/-- The least number that has too many digits to be written. -/
def writingBound : Nat := Nat.pow 10 maxDigits

/-- Whether an integer is short enough to be written in decimal. -/
def isWritable (n : Int) : Bool := n.natAbs < writingBound

/-- An integer in decimal. -/
def write (n : Int) : String := toString n

/-- An integer in decimal, if it is short enough. -/
def write? (n : Int) : Option String := if isWritable n then some (write n) else none

end Integer
end EraRewards
