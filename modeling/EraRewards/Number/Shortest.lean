import EraRewards.Number.Double

/-!
# Decimal text of a double

A finite double is written with the fewest digits that read back as the same number; of two such
numerals of one length the nearer is taken.  If the number of digits is limited, it is rounded to so
many, a half going up.  The layout (where positional notation ends, how an exponent looks) is a record
of its own.
-/

namespace EraRewards

/-- How the digits of a double are set out. -/
structure DoubleLayout where
  /-- Least decimal exponent that is written positionally. -/
  positionalFrom : Int
  /-- First decimal exponent that is written with an exponent mark. -/
  positionalBelow : Int
  /-- Least number of exponent digits. -/
  exponentWidth : Nat
  /-- Text of infinity. -/
  infinity : String
  /-- Text of not-a-number. -/
  notANumber : String
  /-- Number of digits, if it is limited. -/
  digits? : Option Nat := none
  /-- Whether a lone digit before an exponent is followed by a point and a zero. -/
  pointed : Bool := false
  /-- Whether a negative zero keeps its sign. -/
  signedZero : Bool := true

namespace Double

/-- Number of decimal digits before the point, or minus the zeros right after it. -/
def decimalPoint (num den : Nat) : Int :=
  if den ≤ num then (Nat.toDigits 10 (num / den)).length
  else
    -- Far more places than the smallest double has leading zeros.
    let places : Nat := 400
    ((Nat.toDigits 10 (num * Nat.pow 10 places / den)).length : Int) - places

/-- Nearest decimal of `count` digits to `num / den` that reads back as `x`, with its exponent. -/
def decimalOf? (x : Double) (num den : Nat) (point : Int) (count : Nat) : Option (Nat × Int) :=
  let exponent := point - count
  let scaledNum := num * Nat.pow 10 (-exponent).toNat
  let scaledDen := den * Nat.pow 10 exponent.toNat
  let below := scaledNum / scaledDen
  let rest := scaledNum % scaledDen
  let readsBack (coefficient : Nat) : Bool := ofDecimal false coefficient exponent == x
  match readsBack below, readsBack (below + 1) with
  | true, true =>
    if scaledDen < 2 * rest || (2 * rest == scaledDen && below % 2 == 1) then
      some (below + 1, exponent)
    else some (below, exponent)
  | true, false => some (below, exponent)
  | false, true => some (below + 1, exponent)
  | false, false => none

/-- Coefficient and exponent of the shortest decimal that reads back as a positive number. -/
def shortest (m : Nat) (e : Int) : Nat × Int :=
  let num := scaleUp m e
  let den := scaleDown e
  let point := decimalPoint num den
  match (List.range 17).findSome? fun i =>
      decimalOf? (finite false m e) num den point (i + 1) with
  | some found => found
  | none => (num / den, 0)

/-- Coefficient of `count` digits and exponent of the decimal next to a positive number. -/
def rounded (count m : Nat) (e : Int) : Nat × Int :=
  let num := scaleUp m e
  let den := scaleDown e
  let exponent := decimalPoint num den - count
  let scaledNum := num * Nat.pow 10 (-exponent).toNat
  let scaledDen := den * Nat.pow 10 exponent.toNat
  ((2 * scaledNum + scaledDen) / (2 * scaledDen), exponent)

/-- A coefficient without its trailing zeros, and the number of zeros taken off. -/
def dropZeros : Nat → Nat → Nat × Nat
  | 0, n => (n, 0)
  | fuel + 1, n =>
    if n % 10 == 0 then
      let (rest, zeros) := dropZeros fuel (n / 10)
      (rest, zeros + 1)
    else (n, 0)

/-- Digits with a point after the first `point` of them, filled up with zeros. -/
def positional (digits : List Char) (point : Int) : List Char :=
  if point ≤ 0 then '0' :: '.' :: List.replicate (-point).toNat '0' ++ digits
  else if digits.length ≤ point.toNat then
    digits ++ List.replicate (point.toNat - digits.length) '0' ++ ['.', '0']
  else digits.take point.toNat ++ '.' :: digits.drop point.toNat

/-- Digits with a point after the first of them and a decimal exponent. -/
def scientific (layout : DoubleLayout) (digits : List Char) (exponent : Int) : List Char :=
  let size := (Nat.toDigits 10 exponent.natAbs)
  let lead := match digits with
    | [] => []
    | [d] => if layout.pointed then [d, '.', '0'] else [d]
    | d :: rest => d :: '.' :: rest
  lead ++ 'e' :: (if exponent < 0 then '-' else '+') ::
    (List.replicate (layout.exponentWidth - size.length) '0' ++ size)

/-- Text of a nonnegative `m * 2 ^ e`. -/
def magnitudeText (layout : DoubleLayout) (m : Nat) (e : Int) : List Char :=
  if m = 0 then ['0', '.', '0']
  else
    let (coefficient, exponent) := match layout.digits? with
      | none => shortest m e
      | some count => rounded count m e
    let (coefficient, zeros) := dropZeros 17 coefficient
    let digits := Nat.toDigits 10 coefficient
    let point := (digits.length : Int) + exponent + zeros
    if layout.positionalFrom < point && point ≤ layout.positionalBelow then
      positional digits point
    else scientific layout digits (point - 1)

/-- Text of a double. -/
def text (layout : DoubleLayout) : Double → String
  | finite negative m e =>
    let signed := negative && (layout.signedZero || m != 0)
    String.ofList ((if signed then ['-'] else []) ++ magnitudeText layout m e)
  | infinite negative => (if negative then "-" else "") ++ layout.infinity
  | .notANumber => layout.notANumber

end Double
end EraRewards
