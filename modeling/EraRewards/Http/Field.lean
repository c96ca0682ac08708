import EraRewards.Amount
import EraRewards.Http.Message
import EraRewards.Json.Reader

/-!
# Fields of a request

Fields of a request are texts or integers.  An integer may be given as a truth value, as a double
without a fractional part or as a numeral; a numeral may begin with zeros, hold underscores between
its digits and end in a point with zeros.
-/

namespace EraRewards
namespace Http
namespace Field

/-- A numeral without its minus sign, and whether it has one. -/
def splitMinus : List Char → Bool × List Char
  | '-' :: rest => (true, rest)
  | cs => (false, cs)

/-- Whether the digits that a numeral begins with are too many.  A numeral that begins with a zero ends
there. -/
def isOversize (cs : List Char) : Bool :=
  let digits := (splitMinus cs).2
  digits.head? != some '0' && Integer.maxDigits < (digits.takeWhile Json.isDigit).length

/-- Whether digits are those of a number in its shortest form. -/
def isShortest (digits : List Char) : Bool :=
  digits == ['0'] ||
    (!digits.isEmpty && digits.head? != some '0' && digits.all Json.isDigit)

/-- Integer in a numeral that has its shortest form and is not too long. -/
def shortestInteger? (cs : List Char) : Option Int :=
  let (negative, digits) := splitMinus cs
  if isShortest digits && !isOversize cs then
    let size : Int := (Json.naturalOf digits : Nat)
    some (if negative then -size else size)
  else none

/-- Rest of a numeral after zeros and underscores at its beginning, the latest of which is given.
It goes on with a digit, a sign or a point, and what stands before a point is kept. -/
def afterZeros (last : Char) : List Char → Option (List Char)
  | [] => some [last]
  | c :: rest =>
    if c == '0' || c == '_' then afterZeros c rest
    else if Json.isDigit c || c == '-' then some (c :: rest)
    else if c == '.' then some (last :: c :: rest)
    else none

/-- An unsigned numeral without the zeros at its beginning. -/
def dropZeros? : List Char → Option (List Char)
  | [] => none
  | c :: rest =>
    if c == '0' then afterZeros c rest
    else if Json.isDigit c || c == '-' then some (c :: rest)
    else none

/-- A numeral without a point and the zeros after it. -/
def dropZeroPlaces (cs : List Char) : List Char :=
  match cs.dropWhile (· != '.') with
  | '.' :: '0' :: zeros => if zeros.all (· == '0') then cs.takeWhile (· != '.') else cs
  | _ => cs

/-- A numeral without its underscores, provided that each of them stands alone and inside. -/
def dropUnderscores (cs : List Char) : List Char :=
  if cs.head? == some '_' || cs.getLast? == some '_' || (cs.zip cs.tail).contains ('_', '_') then cs
  else cs.filter (· != '_')

/-- An unsigned numeral in its shortest form. -/
def shorten? (cs : List Char) : Option (List Char) :=
  (dropZeros? cs).map fun rest => dropUnderscores (dropZeroPlaces rest)

/-- A numeral in its shortest form; a plus sign is left out. -/
def shortenSigned? : List Char → Option (List Char)
  | '+' :: '-' :: _ => none
  | '+' :: rest => shorten? rest
  | '-' :: rest => (shorten? rest).map ('-' :: ·)
  | cs => shorten? cs

/-- Integer in a text.  A numeral that is too long as it stands is told apart from one that is not
understood; blanks may surround any other. -/
def integerOfText (s : String) : Except FaultKind Int :=
  let cs := s.toList
  if isOversize cs then .error .oversizeInteger
  else
    let shortened := shortenSigned? (Text.trimBy Text.isSpace cs)
    match (shortestInteger? cs).or (shortened.bind shortestInteger?) with
    | some n => .ok n
    | none => .error .unreadableInteger

/-- Magnitude from which on a double does not fit 64 bits, `2 ^ 63`. -/
def doubleBound : Int := 9223372036854775808

/-- Integer in a double, which must fit 64 bits. -/
def integerOfDouble (x : Double) : Except FaultKind Int :=
  match x.truncate? with
  | none => .error .notFinite
  | some n =>
    if !x.isIntegral then .error .fractional
    else if n < doubleBound && -doubleBound < n then .ok n
    else .error .oversizeInteger

/-- Integer in a field. -/
def integer : Value → Except FaultKind Int
  | .int n => .ok n
  | .bool b => .ok (if b then 1 else 0)
  | .float x => integerOfDouble x
  | .text s => integerOfText s
  | .broken _ => .error .unreadableInteger
  | _ => .error .notAnInteger

/-- Integer in a field that must not be negative, nor greater than a bound if there is one. -/
def natural (bound : Option Nat) (value : Value) : Except FaultKind Int := do
  let n ← integer value
  if n < 0 then throw FaultKind.tooSmall
  else if bound.any fun bound => (bound : Int) < n then throw FaultKind.tooGreat
  else return n

/-- Text in a field that must not be empty. -/
def nonemptyText : Value → Except FaultKind String
  | .text s => if s.isEmpty then .error .emptyText else .ok s
  | .broken _ => .error .unencodable
  | _ => .error .notAText

end Field
end Http
end EraRewards
