import EraRewards.Yaml.Cursor

/-!
# Quoted scalars

Between apostrophes only the apostrophe itself is escaped, by doubling it; between double quotes a
backslash begins an escape, which may write half of a surrogate pair.  Line breaks are folded, and no
document ends inside.
-/

namespace EraRewards
namespace Yaml

/-- Value of a hexadecimal digit. -/
def hexValue? (c : Char) : Option Nat :=
  let n := c.toNat
  if 48 ≤ n && n ≤ 57 then some (n - 48)
  else if 97 ≤ n && n ≤ 102 then some (n - 87)
  else if 65 ≤ n && n ≤ 70 then some (n - 55)
  else none

/-- The greatest number that can be looked up as a character, `2 ^ 31 - 1`. -/
def maxCode : Nat := 2147483647

/-- Letter with the code that `width` hexadecimal digits write. -/
def codePoint (width : Nat) (digits : List Char) : Except Failure Letter :=
  match (digits.take width).mapM hexValue? with
  | some values =>
    let code := values.foldl (fun value digit => 16 * value + digit) 0
    if values.length ≠ width then refused
    else match Letter.ofCode? code with
      | some letter => .ok letter
      | none => .error (if code ≤ maxCode then .unreadable else .codeRange)
  | none => refused

/-- Codes of the characters that are escaped by one character. -/
def simpleEscapes : List (Char × Nat) :=
  [('0', 0), ('a', 7), ('b', 8), ('t', 9), ('\t', 9), ('n', 10), ('v', 11), ('f', 12), ('r', 13),
    ('e', 27), (' ', 32), ('\x22', 34), ('/', 47), ('\\', 92), ('N', 0x85), ('_', 0xA0),
    ('L', 0x2028), ('P', 0x2029)]

/-- Letter of an escape, and how many characters it takes after the backslash. -/
def escape : List Char → Except Failure (Letter × Nat)
  | [] => refused
  | c :: rest =>
    match simpleEscapes.lookup c with
    | some code => .ok (.char (Char.ofNat code), 1)
    | none =>
      let width := if c == 'x' then 2 else if c == 'u' then 4 else if c == 'U' then 8 else 0
      if width = 0 then refused
      else (codePoint width rest).map fun decoded => (decoded, width + 1)

/-- Behind the line breaks in a quoted scalar, with the breaks; no document ends in it. -/
def quotedBreaks (c : Cursor) : Except Failure (List Char × Cursor) :=
  let (breaks, after) := afterBreaks true (c.rest.length + 1) [] c
  if after.atDocumentMark then refused else .ok (breaks, after)

/-- Rest of a quoted scalar of which `text` has been read, up to the closing quote. -/
def quotedFrom (quote : Char) :
    Nat → List Letter → Cursor → Except Failure (List Letter × Cursor)
  | 0, _, _ => refused
  | fuel + 1, text, c =>
    match c.rest with
    | [] => refused
    | ch :: rest =>
      if ch == quote then
        if quote == '\x27' && rest.head? == some '\x27' then
          quotedFrom quote fuel (text ++ [.char '\x27']) (c.skip 2)
        else .ok (text, c.next)
      else if ch == '\\' && quote == '\x22' then
        if c.next.atLineEnd then do
          let (breaks, after) ← quotedBreaks c.next
          quotedFrom quote fuel (text ++ (breaks.drop 1).map .char) after
        else do
          let (decoded, width) ← escape rest
          quotedFrom quote fuel (text ++ [decoded]) (c.skip (width + 1))
      else if beginsBlank c.rest then
        let blanks := c.rest.takeWhile fun b => b == ' ' || b == '\t'
        let spaced := c.skip blanks.length
        if spaced.atLineEnd then do
          let (breaks, after) ← quotedBreaks spaced
          quotedFrom quote fuel (text ++ (foldBreaks breaks).map .char) after
        else quotedFrom quote fuel (text ++ blanks.map .char) spaced
      else quotedFrom quote fuel (text ++ [.char ch]) c.next

/-- A quoted scalar, read from its opening quote. -/
def quoted (quote : Char) (c : Cursor) : Except Failure (List Letter × Cursor) :=
  quotedFrom quote (c.rest.length + 1) [] c.next

end Yaml
end EraRewards
