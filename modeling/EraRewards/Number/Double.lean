/-!
# Double-precision numbers

A finite number is a signed integer of at most 53 bits times a power of two.  Decimal literals,
products and quotients are rounded to the nearest such number, a tie going to the even neighbour.
All of it is exact integer arithmetic.
-/

namespace EraRewards

/-- A number of the double-precision format. -/
inductive Double
  /-- A signed `mantissa * 2 ^ exponent`; zero has a sign too. -/
  | finite (negative : Bool) (mantissa : Nat) (exponent : Int)
  /-- An infinity. -/
  | infinite (negative : Bool)
  /-- Not a number. -/
  | notANumber
  deriving DecidableEq, Repr, Inhabited

namespace Double

/-- Numerator of `m * 2 ^ e` over `scaleDown e`. -/
def scaleUp (m : Nat) (e : Int) : Nat := m * Nat.pow 2 e.toNat

/-- Denominator that belongs to `scaleUp`. -/
def scaleDown (e : Int) : Nat := Nat.pow 2 (-e).toNat

/-- Quotient of two numbers rounded to the nearest integer, a tie going to the even one. -/
def divideToEven (num den : Nat) : Nat :=
  let quotient := num / den
  let twice := 2 * (num % den)
  if den < twice || (twice == den && quotient % 2 == 1) then quotient + 1 else quotient

/-- The least mantissa of full length, `2 ^ 52`. -/
def leastMantissa : Nat := 4503599627370496

/-- The least exponent of a nonzero number. -/
def leastExponent : Int := -1074

/-- The greatest exponent of a full mantissa. -/
def greatestExponent : Int := 971

/-- The nearest double to `num / den`, for a positive `den`. -/
def ofRatio (negative : Bool) (num den : Nat) : Double :=
  if num = 0 then finite negative 0 0
  else
    let low : Int := (num.log2 : Int) - (den.log2 : Int) - 53
    -- The quotient over `2 ^ low` lies between `2 ^ 52` and `2 ^ 54`.
    let fits := decide (scaleUp num (-low) < 2 * leastMantissa * scaleUp den low)
    let exponent := max leastExponent (if fits then low else low + 1)
    let mantissa := divideToEven (scaleUp num (-exponent)) (scaleUp den exponent)
    if mantissa = 0 then finite negative 0 0
    else if mantissa = 2 * leastMantissa then
      if greatestExponent < exponent + 1 then infinite negative
      else finite negative leastMantissa (exponent + 1)
    else if greatestExponent < exponent then infinite negative
    else finite negative mantissa exponent

/-- Decimal orders of magnitude beyond which every literal is zero or infinite. -/
def literalRange : Int := 400

/-- The nearest double to `coefficient * 10 ^ exponent`. -/
def ofDecimal (negative : Bool) (coefficient : Nat) (exponent : Int) : Double :=
  if coefficient = 0 then finite negative 0 0
  else
    let order : Int := (Nat.toDigits 10 coefficient).length + exponent
    if literalRange < order then infinite negative
    else if order < -literalRange then finite negative 0 0
    else if 0 ≤ exponent then ofRatio negative (coefficient * Nat.pow 10 exponent.toNat) 1
    else ofRatio negative coefficient (Nat.pow 10 (-exponent).toNat)

/-- The nearest double to an integer. -/
def ofInt (n : Int) : Double := ofRatio (decide (n < 0)) n.natAbs 1

/-- Product with a natural number, rounded. -/
def scaleBy (x : Double) (k : Nat) : Double :=
  match x with
  | finite negative m e => ofRatio negative (scaleUp (m * k) e) (scaleDown e)
  | other => other

/-- The number with the other sign. -/
def negate : Double → Double
  | finite negative m e => finite (!negative) m e
  | infinite negative => infinite (!negative)
  | notANumber => notANumber

/-- Whether a number is zero of either sign. -/
def isZero : Double → Bool
  | finite _ m _ => m == 0
  | _ => false

/-- Product of two numbers, rounded; zero times an infinity is not a number. -/
def mul : Double → Double → Double
  | finite s m e, finite t n f =>
    ofRatio (s != t) (scaleUp (m * n) (e + f)) (scaleDown (e + f))
  | notANumber, _ | _, notANumber => notANumber
  | infinite s, finite t n f | finite t n f, infinite s =>
    if isZero (finite t n f) then notANumber else infinite (s != t)
  | infinite s, infinite t => infinite (s != t)

/-- Sum of two numbers, rounded; opposite infinities have none, and a sum that vanishes is negative
only if both numbers are. -/
def add : Double → Double → Double
  | finite s m e, finite t n f =>
    let low := min e f
    let signed (negative : Bool) (size : Nat) : Int := if negative then -(size : Int) else size
    let sum := signed s (scaleUp m (e - low)) + signed t (scaleUp n (f - low))
    ofRatio (if sum = 0 then s && t else decide (sum < 0)) (scaleUp sum.natAbs low) (scaleDown low)
  | notANumber, _ | _, notANumber => notANumber
  | infinite s, infinite t => if s == t then infinite s else notANumber
  | infinite s, finite _ _ _ | finite _ _ _, infinite s => infinite s

/-- Whether a number has no fractional part. -/
def isIntegral : Double → Bool
  | finite _ m e => m % scaleDown e == 0
  | _ => false

/-- The integer part of a finite number. -/
def truncate? : Double → Option Int
  | finite negative m e =>
    let size : Int := (scaleUp m e / scaleDown e : Nat)
    some (if negative then -size else size)
  | _ => none

/-- Order of a number and an integer; not-a-number has none. -/
def compareInt : Double → Int → Option Ordering
  | finite negative m e, n =>
    let size : Int := (scaleUp m e : Nat)
    some (compare (if negative then -size else size) (n * (scaleDown e : Nat)))
  | infinite negative, _ => some (if negative then .lt else .gt)
  | notANumber, _ => none

/-- Order of two numbers; not-a-number has none. -/
def compare? : Double → Double → Option Ordering
  | finite s m e, finite t n f =>
    let signed (negative : Bool) (size : Nat) : Int := if negative then -(size : Int) else size
    some (compare (signed s (scaleUp m e * scaleDown f)) (signed t (scaleUp n f * scaleDown e)))
  | notANumber, _ | _, notANumber => none
  | infinite s, infinite t => some (compare t s)
  | infinite s, finite .. => some (if s then .lt else .gt)
  | finite .., infinite t => some (if t then .gt else .lt)

/-- Whether a number is neither infinite nor not-a-number. -/
def isFinite : Double → Bool
  | finite .. => true
  | _ => false

end Double
end EraRewards
