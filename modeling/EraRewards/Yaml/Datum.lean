import EraRewards.Number.Numeral
import EraRewards.Text.Base64
import EraRewards.Text.Quoted
import EraRewards.Value.Layout
import EraRewards.Yaml.Cursor
import EraRewards.Yaml.Tag

/-!
# What scalars stand for

The text of a scalar is read as its kind asks.  A tag may ask for a kind that the text has not the
spelling of; then numbers are read more liberally than they are spelled, with white space and digits
of every script.  What is not a number differs from everything but itself, so it is told apart by the
node that it was read from; its usual spelling stands for one and the same wherever it is.
-/

namespace EraRewards
namespace Yaml

/-- What a scalar stands for. -/
inductive Datum
  /-- The absent value. -/
  | null
  /-- A truth value. -/
  | truth (b : Bool)
  /-- An integer. -/
  | integer (n : Int)
  /-- A double that is a number. -/
  | double (x : Double)
  /-- What is not a number, with the number of the node that it was read from unless it has the usual
  spelling. -/
  | notANumber (origin? : Option Nat)
  /-- A text. -/
  | text (letters : List Letter)
  /-- Bytes. -/
  | bytes (data : List Nat)
  /-- A date. -/
  | date (d : Date)
  deriving DecidableEq

/-- Sign of a numeral, and the numeral without it. -/
def splitSign : List Char → Bool × List Char
  | '-' :: rest => (true, rest)
  | '+' :: rest => (false, rest)
  | cs => (false, cs)

/-- The result of a reading, which fails if there is none. -/
def readable {α : Type} : Option α → Except Failure α
  | some a => .ok a
  | none => .error .unreadable

/-- Integer that a numeral without a sign denotes: a leading zero asks for base eight, a letter behind
it for base two or sixteen, and colons for base sixty. -/
def naturalOf (cs : List Char) : Except Failure Int :=
  match cs with
  | ['0'] => .ok 0
  | '0' :: 'b' :: digits => readable (Integer.readIn? 2 'b' digits)
  | '0' :: 'x' :: digits => readable (Integer.readIn? 16 'x' digits)
  | '0' :: _ => readable (Integer.readIn? 8 'o' cs)
  | _ => do
    let places ← (Text.splitAt ':' cs).mapM fun place => readable (Integer.read? (String.ofList place))
    return places.foldl (fun value place => 60 * value + place) 0

/-- Integer that a text denotes. -/
def integerOf (s : String) : Except Failure Int :=
  let (negative, size) := splitSign (s.toList.filter (· != '_'))
  if size.isEmpty then .error .emptyNumeral
  else (naturalOf size).map fun n => if negative then -n else n

/-- Sum of sexagesimal places, the last one first, each scaled by its weight. -/
def sumOfPlaces (total : Double) (weight : Nat) : List Double → Except Failure Double
  | [] => .ok total
  | place :: places =>
    let scale := Double.ofInt weight
    if !scale.isFinite then .error .placeRange
    else sumOfPlaces (total.add (place.mul scale)) (60 * weight) places

/-- Double that a numeral without a sign denotes. -/
def magnitudeOf (cs : List Char) : Except Failure Double :=
  match cs with
  | ['.', 'i', 'n', 'f'] => .ok (Double.infinite false)
  | _ =>
    if cs.contains ':' then do
      let places ← (Text.splitAt ':' cs).mapM fun place => readable (Double.read? place)
      sumOfPlaces (Double.ofInt 0) 1 places.reverse
    else readable (Double.read? cs)

/-- What the text of a node denotes as a double. -/
def doubleOf (origin : Nat) (s : String) : Except Failure Datum := do
  let cs := (Text.lower (String.ofList (s.toList.filter (· != '_')))).toList
  let (negative, size) := splitSign cs
  if cs.isEmpty then throw .emptyNumeral
  if size == ".nan".toList then return .notANumber none
  match ← magnitudeOf size with
  | .notANumber => return .notANumber (some origin)
  | x => return .double (if negative then x.negate else x)

/-- Words of truth values. -/
def truthWords : List (String × Bool) :=
  [("yes", true), ("no", false), ("true", true), ("false", false), ("on", true), ("off", false)]

/-- Bytes that a text in base 64 carries. -/
def bytesOf (s : String) : Except Failure (List Nat) :=
  if s.toList.all fun c => c.toNat < 128 then
    match Text.Base64.bytes? s.toList with
    | some bytes => .ok bytes
    | none => refused
  else refused

/-- A text without a line feed at its end. -/
def dropLineEnd (cs : List Char) : List Char :=
  if cs.getLast? == some '\n' then cs.dropLast else cs

/-- Date that a text denotes, which the calendar must have. -/
def dateOf (s : String) : Except Failure Date :=
  match Date.read? false (dropLineEnd s.toList) with
  | some date => if date.isReal then .ok date else .error .unreadable
  | none => .error .noDate

namespace Datum

/-- What a text stands for in a node of a kind; there are no scalars of the other kinds. -/
def ofText (tag : Tag) (origin : Nat) (s : String) : Except Failure Datum :=
  match tag with
  | .null => .ok null
  | .truth =>
    match truthWords.lookup (Text.lower s) with
    | some b => .ok (truth b)
    | none => .error .unknownWord
  | .integer => (integerOf s).map integer
  | .double => doubleOf origin s
  | .bytes => (bytesOf s).map bytes
  | .date => (dateOf s).map date
  | .text => .ok (text (Letter.ofText s))
  | _ => refused

/-- What letters of which some are halves of surrogate pairs stand for: they are a text and nothing
else. -/
def ofBroken (tag : Tag) (letters : List Letter) : Except Failure Datum :=
  match tag with
  | .null => .ok null
  | .truth => .error .unknownWord
  | .integer | .double => .error .unreadable
  | .date => .error .noDate
  | .text => .ok (text letters)
  | _ => refused

/-- What letters stand for in a node of a kind. -/
def ofLetters (tag : Tag) (origin : Nat) (letters : List Letter) : Except Failure Datum :=
  match Letter.text? letters with
  | some s => ofText tag origin s
  | none => ofBroken tag letters

/-- The number that a datum is equal to, if it is a number: truth values count as zero and one, and a
double without a fractional part as an integer. -/
def number? : Datum → Option (Int ⊕ Double)
  | truth b => some (.inl (if b then 1 else 0))
  | integer n => some (.inl n)
  | double x =>
    match x.truncate? with
    | some n => some (if x.isIntegral then .inl n else .inr x)
    | none => some (.inr x)
  | _ => none

/-- Whether two data are the same key of a mapping. -/
def isSame : Datum → Datum → Bool
  | date d, date e => d.isSame e
  | a, b =>
    match a.number?, b.number? with
    | some m, some n => decide (m = n)
    | none, none => decide (a = b)
    | _, _ => false

/-- One of the bytes of a text between quotes. -/
def byteText (quote : Char) (byte : Nat) : List Char :=
  if 0x7F ≤ byte then '\\' :: 'x' :: Text.hexDigits 2 byte
  else Text.quotedChar quote (Char.ofNat byte)

/-- Bytes between quotes behind a mark. -/
def bytesText (data : List Nat) : String :=
  let quote := Text.quoteFor (data.map Char.ofNat)
  String.ofList ('b' :: quote :: data.flatMap (byteText quote) ++ [quote])

/-- A datum as a value; an integer must be short enough to be written. -/
def toValue : Datum → Except Failure Value
  | null => .ok .null
  | truth b => .ok (.bool b)
  | integer n => if Integer.isWritable n then .ok (.int n) else .error .unreadable
  | double x => .ok (.float x)
  | notANumber _ => .ok (.float .notANumber)
  | text letters => .ok (.ofLetters letters)
  | bytes data => .ok (.special (bytesText data) (bytesText data))
  | date d => .ok (.special d.text d.inspect)

end Datum
end Yaml
end EraRewards
