import EraRewards.Text.Letter
import EraRewards.Text.Printable

/-!
# Quoted text

A quoted text stands between apostrophes, or between double quotes when it holds an apostrophe and
no double quote.  Inside, the backslash and the quote in use are preceded by a backslash, three
controls have letters, and every other character that is not printable is written as its code point
in hexadecimal of two, four or eight digits; so is half of a surrogate pair.
-/

namespace EraRewards
namespace Text

/-- The lower-case hexadecimal digit of a number below sixteen. -/
def hexDigit (n : Nat) : Char := if n < 10 then Char.ofNat (48 + n) else Char.ofNat (87 + n)

/-- The `width` lowest hexadecimal digits of a number. -/
def hexDigits : Nat → Nat → List Char
  | 0, _ => []
  | width + 1, n => hexDigits width (n / 16) ++ [hexDigit (n % 16)]

/-- The quote that surrounds a text. -/
def quoteFor (cs : List Char) : Char :=
  if cs.contains '\x27' && !cs.contains '\x22' then '\x22' else '\x27'

/-- One character of a quoted text. -/
def quotedChar (quote c : Char) : List Char :=
  if c == quote || c == '\\' then ['\\', c]
  else if c == '\n' then ['\\', 'n']
  else if c == '\r' then ['\\', 'r']
  else if c == '\t' then ['\\', 't']
  else if isPrintable c then [c]
  else if c.toNat < 0x100 then '\\' :: 'x' :: hexDigits 2 c.toNat
  else if c.toNat < 0x10000 then '\\' :: 'u' :: hexDigits 4 c.toNat
  else '\\' :: 'U' :: hexDigits 8 c.toNat

/-- One letter of a quoted text. -/
def quotedLetter (quote : Char) : Letter → List Char
  | .char c => quotedChar quote c
  | .half unit => '\\' :: 'u' :: hexDigits 4 unit

/-- Letters between quotes. -/
def quotedLetters (letters : List Letter) : String :=
  let quote := quoteFor (letters.filterMap Letter.char?)
  String.ofList (quote :: letters.flatMap (quotedLetter quote) ++ [quote])

/-- A text between quotes. -/
def quoted (s : String) : String :=
  let cs := s.toList
  let quote := quoteFor cs
  String.ofList (quote :: cs.flatMap (quotedChar quote) ++ [quote])

end Text
end EraRewards
