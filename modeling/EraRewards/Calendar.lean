import EraRewards.Text.Split

/-!
# Days and moments

A day of the calendar, and a moment of a day with an offset from universal time or without one.  Each
has a text of its own and a text that names its parts.  Two moments with offsets are the same if they
fall together in universal time.
-/

namespace EraRewards

/-- Number of days in a month. -/
def daysIn (year month : Nat) : Nat :=
  if month == 2 then
    if year % 4 == 0 && (year % 100 != 0 || year % 400 == 0) then 29 else 28
  else if [4, 6, 9, 11].contains month then 30
  else 31

/-- A number in decimal with leading zeros up to a width. -/
def padded (width n : Nat) : String :=
  let digits := Nat.toDigits 10 n
  String.ofList (List.replicate (width - digits.length) '0' ++ digits)

/-- A day. -/
structure Day where
  /-- The year, from one on. -/
  year : Nat
  /-- The month, from one on. -/
  month : Nat
  /-- The day of the month, from one on. -/
  day : Nat
  deriving DecidableEq, Repr

namespace Day

/-- Whether the calendar has a day. -/
def isReal (d : Day) : Bool :=
  1 ≤ d.year && d.year ≤ 9999 && 1 ≤ d.month && d.month ≤ 12 && 1 ≤ d.day &&
    d.day ≤ daysIn d.year d.month

/-- Number of days up to a day. -/
def number (d : Day) : Nat :=
  let years := d.year - 1
  let months := (List.range (d.month - 1)).map fun i => daysIn d.year (i + 1)
  365 * years + years / 4 - years / 100 + years / 400 + months.foldl (· + ·) 0 + d.day

/-- Text of a day. -/
def text (d : Day) : String := padded 4 d.year ++ "-" ++ padded 2 d.month ++ "-" ++ padded 2 d.day

/-- Parts of a day. -/
def parts (d : Day) : List String := [toString d.year, toString d.month, toString d.day]

/-- Text that names the parts of a day. -/
def inspect (d : Day) : String := "datetime.date(" ++ ", ".intercalate d.parts ++ ")"

end Day

/-- A moment. -/
structure Moment where
  /-- The day. -/
  day : Day
  /-- The hour, below 24. -/
  hour : Nat
  /-- The minute, below 60. -/
  minute : Nat
  /-- The second, below 60. -/
  second : Nat
  /-- The microsecond, below one million. -/
  micro : Nat
  /-- Seconds before universal time (negative) or after it, if they are known. -/
  offset : Option Int
  deriving DecidableEq, Repr

namespace Moment

/-- Seconds in a day. -/
def daySeconds : Int := 86400

/-- Whether there is such a moment; its offset is less than a day. -/
def isReal (m : Moment) : Bool :=
  m.day.isReal && m.hour < 24 && m.minute < 60 && m.second < 60 && m.micro < 1000000 &&
    m.offset.all fun offset => -daySeconds < offset && offset < daySeconds

/-- Seconds up to the beginning of the second of a moment, in universal time if that is known. -/
def seconds (m : Moment) : Int :=
  (m.day.number : Int) * daySeconds + (m.hour * 3600 + m.minute * 60 + m.second : Nat) -
    m.offset.getD 0

/-- Whether two moments are the same; one with an offset is none without. -/
def isSame (m n : Moment) : Bool :=
  m.offset.isSome == n.offset.isSome && m.seconds == n.seconds && m.micro == n.micro

/-- Text of an offset. -/
def offsetText (offset : Int) : String :=
  let minutes := offset.natAbs / 60
  (if offset < 0 then "-" else "+") ++ padded 2 (minutes / 60) ++ ":" ++ padded 2 (minutes % 60)

/-- Text of a moment. -/
def text (m : Moment) : String :=
  m.day.text ++ " " ++ padded 2 m.hour ++ ":" ++ padded 2 m.minute ++ ":" ++ padded 2 m.second ++
    (if m.micro = 0 then "" else "." ++ padded 6 m.micro) ++
    match m.offset with
    | some offset => offsetText offset
    | none => ""

/-- Text that names the parts of an offset; a negative one counts from the day before. -/
def inspectOffset (offset : Int) : String :=
  if offset = 0 then "datetime.timezone.utc"
  else
    let parts := if offset < 0 then "days=-1, seconds=" ++ toString (daySeconds + offset)
      else "seconds=" ++ toString offset
    "datetime.timezone(datetime.timedelta(" ++ parts ++ "))"

/-- Text that names the parts of a moment; seconds are left out at the beginning of a minute. -/
def inspect (m : Moment) : String :=
  let fine := if m.micro ≠ 0 then [toString m.second, toString m.micro]
    else if m.second ≠ 0 then [toString m.second] else []
  let zone := match m.offset with
    | some offset => ["tzinfo=" ++ inspectOffset offset]
    | none => []
  "datetime.datetime(" ++
    ", ".intercalate (m.day.parts ++ [toString m.hour, toString m.minute] ++ fine ++ zone) ++ ")"

end Moment

/-- A day or a moment. -/
inductive Date
  /-- A whole day. -/
  | day (d : Day)
  /-- A moment of a day. -/
  | moment (m : Moment)
  deriving DecidableEq, Repr

namespace Date

/-- The number that one digit up to `most` digits at the beginning of a text write, how many they are,
and the text after them. -/
def digits? (most : Nat) (cs : List Char) : Option (Nat × Nat × List Char) :=
  let digits := (cs.take most).takeWhile fun c => '0' ≤ c && c ≤ '9'
  if digits.isEmpty then none
  else
    let number := digits.foldl (fun value c => 10 * value + (c.toNat - 48)) 0
    some (number, digits.length, cs.drop digits.length)

/-- The number that exactly `count` digits at the beginning of a text write, and the text after. -/
def exactly? (count : Nat) (cs : List Char) : Option (Nat × List Char) :=
  match digits? count cs with
  | some (number, found, rest) => if found = count then some (number, rest) else none
  | none => none

/-- A text without a given character at its beginning. -/
def after? (mark : Char) : List Char → Option (List Char)
  | c :: rest => if c == mark then some rest else none
  | [] => none

/-- Whether a character is a blank between a day and a time. -/
def isGap (c : Char) : Bool := c == ' ' || c == '\t'

/-- Offset at the end of a moment: none, the letter of universal time, or a sign with hours and
perhaps minutes. -/
def offset? (cs : List Char) : Option (Option Int) :=
  match cs, cs.dropWhile isGap with
  | [], _ => some none
  | _, ['Z'] => some (some 0)
  | _, sign :: rest => do
    let (hours, _, rest) ← digits? 2 rest
    let minutes ← match rest with
      | [] => some 0
      | ':' :: rest => do
        let (minutes, rest) ← exactly? 2 rest
        if rest.isEmpty then some minutes else none
      | _ => none
    let size : Int := (hours * 3600 + minutes * 60 : Nat)
    if sign == '+' then some (some size) else if sign == '-' then some (some (-size)) else none
  | _, _ => none

/-- Microseconds in the digits of a fraction, of which six count. -/
def microOf (digits : List Char) : Nat :=
  let six := digits.take 6
  six.foldl (fun value c => 10 * value + (c.toNat - 48)) 0 * Nat.pow 10 (6 - six.length)

/-- The moment of a day that a text behind the day writes. -/
def moment? (d : Day) (cs : List Char) : Option Moment := do
  let (hour, _, rest) ← digits? 2 cs
  let (minute, rest) ← exactly? 2 (← after? ':' rest)
  let (second, rest) ← exactly? 2 (← after? ':' rest)
  let fraction := match rest with
    | '.' :: rest => rest.takeWhile fun c => '0' ≤ c && c ≤ '9'
    | _ => []
  let rest := match rest with
    | '.' :: rest => rest.drop fraction.length
    | rest => rest
  return ⟨d, hour, minute, second, microOf fraction, ← offset? rest⟩

/-- The date that a text writes, whether the calendar has it or not.  If `strict`, the month and the
day of a whole day take two digits each. -/
def read? (strict : Bool) (cs : List Char) : Option Date := do
  let (year, rest) ← exactly? 4 cs
  let (month, monthDigits, rest) ← digits? 2 (← after? '-' rest)
  let (dayOfMonth, dayDigits, rest) ← digits? 2 (← after? '-' rest)
  let d : Day := ⟨year, month, dayOfMonth⟩
  match rest with
  | [] => if strict && monthDigits + dayDigits < 4 then none else some (Date.day d)
  | c :: time =>
    if c == 'T' || c == 't' then (moment? d time).map Date.moment
    else if isGap c then (moment? d (time.dropWhile isGap)).map Date.moment
    else none

/-- Whether there is such a date. -/
def isReal : Date → Bool
  | day d => d.isReal
  | moment m => m.isReal

/-- Whether two dates are the same; a day is no moment. -/
def isSame : Date → Date → Bool
  | day d, day e => d == e
  | moment m, moment n => m.isSame n
  | _, _ => false

/-- Text of a date. -/
def text : Date → String
  | day d => d.text
  | moment m => m.text

/-- Text that names the parts of a date. -/
def inspect : Date → String
  | day d => d.inspect
  | moment m => m.inspect

end Date
end EraRewards
