import EraRewards.Number.Double
import EraRewards.Number.Integer
import EraRewards.Text.Case

/-!
# Doubles as text

A double may be written with digits of any script, with or without a point and an exponent; white
space around it does not count, and infinity and not-a-number are written in words.
-/

namespace EraRewards
namespace Double

/-- Values of the digits at the beginning of a text, and the text after them. -/
def leadingDigits : List Char → List Nat × List Char
  | [] => ([], [])
  | c :: rest =>
    match Text.decimalValue? c with
    | some digit => ((digit :: (leadingDigits rest).1), (leadingDigits rest).2)
    | none => ([], c :: rest)

/-- Decimal exponent that makes up the rest of a numeral; zero if nothing is left. -/
def exponentOf? : List Char → Option Int
  | [] => some 0
  | mark :: rest =>
    let (negative, size) := match rest with
      | '-' :: size => (true, size)
      | '+' :: size => (false, size)
      | size => (false, size)
    match leadingDigits size with
    | (digit :: digits, []) =>
      if mark == 'e' || mark == 'E' then
        let size : Int := (Integer.ofDigits (digit :: digits) : Nat)
        some (if negative then -size else size)
      else none
    | _ => none

/-- Number that an unsigned numeral denotes. -/
def magnitudeOf? (negative : Bool) (cs : List Char) : Option Double :=
  match Text.lower (String.ofList cs) with
  | "inf" | "infinity" => some (infinite negative)
  | "nan" => some notANumber
  | _ =>
    let (whole, rest) := leadingDigits cs
    let (places, rest) := match rest with
      | '.' :: rest => leadingDigits rest
      | rest => ([], rest)
    if whole.isEmpty && places.isEmpty then none
    else (exponentOf? rest).map fun exponent =>
      ofDecimal negative (Integer.ofDigits (whole ++ places)) (exponent - (places.length : Int))

/-- Number that a text denotes. -/
def read? (cs : List Char) : Option Double :=
  match Text.trimBy Text.isSpace cs with
  | '-' :: rest => magnitudeOf? true rest
  | '+' :: rest => magnitudeOf? false rest
  | cs => magnitudeOf? false cs

end Double
end EraRewards
