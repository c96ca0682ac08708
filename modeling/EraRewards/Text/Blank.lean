/-!
# Blank characters

Names and settings are stripped of blank characters; around a numeral only white space is skipped,
which leaves out the four information separators.  A character inside a text is never removed.
-/

namespace EraRewards
namespace Text

/-- Blank characters outside the ASCII range: the next-line control and the space separators. -/
def isWideBlank (c : Char) : Bool :=
  let n := c.toNat
  n == 0x85 || n == 0xA0 || n == 0x1680 || (0x2000 ≤ n && n ≤ 0x200A) || n == 0x2028 ||
    n == 0x2029 || n == 0x202F || n == 0x205F || n == 0x3000

/-- Tab, line feed, vertical tab, form feed, carriage return and space. -/
def isAsciiSpace (c : Char) : Bool :=
  (9 ≤ c.toNat && c.toNat ≤ 13) || c.toNat == 32

/-- White space in the sense of the character property: ASCII space and the wide blanks. -/
def isSpace (c : Char) : Bool := isAsciiSpace c || isWideBlank c

/-- Blank characters: white space and the four information separators. -/
def isBlank (c : Char) : Bool := isSpace c || (28 ≤ c.toNat && c.toNat ≤ 31)

/-- Parts of a text without those at either end that satisfy `p`. -/
def trimBy {α : Type} (p : α → Bool) (cs : List α) : List α :=
  ((cs.dropWhile p).reverse.dropWhile p).reverse

/-- A text without the blanks at either end. -/
def strip (s : String) : String := String.ofList (trimBy isBlank s.toList)

/-- Whether a text holds nothing but blanks. -/
def isBlankText (s : String) : Bool := s.toList.all isBlank

end Text
end EraRewards
