import EraRewards.Failure

/-!
# Places in YAML text

A cursor is the text still to be read, with the number of characters before it and the line and the
column at which it begins.  Columns decide how blocks are nested; lines and character counts bound a
key that is not marked as one.
-/

namespace EraRewards
namespace Yaml

/-- A document that is not understood. -/
def refused {α : Type} : Except Failure α := .error .malformedYaml

/-- Whether a character ends a line. -/
def isLineEnd (c : Char) : Bool := c == '\n' || c == '\u2028' || c == '\u2029'

/-- Characters of a text up to the end of the line. -/
def lineOf (cs : List Char) : List Char := cs.takeWhile fun c => !isLineEnd c

/-- Whether a text begins with the end of a line or ends. -/
def endsLine (cs : List Char) : Bool := cs.head?.all isLineEnd

/-- Whether a text begins with a space or the end of a line, or ends. -/
def beginsGap (cs : List Char) : Bool := cs.head?.all fun c => c == ' ' || isLineEnd c

/-- Whether a text begins with a blank or the end of a line, or ends. -/
def beginsBlank (cs : List Char) : Bool := cs.head?.all fun c => c == ' ' || c == '\t' || isLineEnd c

/-- A place in a document. -/
structure Cursor where
  /-- Text that follows. -/
  rest : List Char
  /-- Characters since the beginning of the document. -/
  index : Nat
  /-- Lines since the beginning of the document. -/
  line : Nat
  /-- Characters since the beginning of the line. -/
  column : Nat

namespace Cursor

/-- The beginning of a document. -/
def start (cs : List Char) : Cursor := ⟨cs, 0, 0, 0⟩

/-- The place after the next character.  A byte order mark takes no column. -/
def next (c : Cursor) : Cursor :=
  match c.rest with
  | [] => c
  | ch :: rest =>
    if isLineEnd ch then ⟨rest, c.index + 1, c.line + 1, 0⟩
    else if ch == '\uFEFF' then ⟨rest, c.index + 1, c.line, c.column⟩
    else ⟨rest, c.index + 1, c.line, c.column + 1⟩

/-- The place after some characters. -/
def skip (c : Cursor) : Nat → Cursor
  | 0 => c
  | count + 1 => c.next.skip count

/-- The next character. -/
def peek? (c : Cursor) : Option Char := c.rest.head?

/-- Behind the spaces. -/
def afterSpaces (c : Cursor) : Cursor := c.skip (c.rest.takeWhile (· == ' ')).length

/-- Behind the characters of the line. -/
def afterLine (c : Cursor) : Cursor := c.skip (lineOf c.rest).length

/-- Whether a line ends here. -/
def atLineEnd (c : Cursor) : Bool := c.peek?.any isLineEnd

/-- Whether three characters at the beginning of a line, followed by a blank, stand here. -/
def atMark (c : Cursor) (mark : Char) : Bool :=
  c.column == 0 && c.rest.take 3 == [mark, mark, mark] && beginsBlank (c.rest.drop 3)

/-- Whether a mark between documents stands here. -/
def atDocumentMark (c : Cursor) : Bool := c.atMark '-' || c.atMark '.'

/-- Whether an indicator followed by a blank stands here. -/
def atIndicator (c : Cursor) (mark : Char) : Bool :=
  c.peek? == some mark && beginsBlank (c.rest.drop 1)

/-- Behind spaces, comments and line breaks. -/
def toToken : Nat → Cursor → Cursor
  | 0, c => c
  | fuel + 1, c =>
    match c.peek? with
    | some ' ' => toToken fuel c.next
    | some '#' => toToken fuel c.afterLine
    | _ => if c.atLineEnd then toToken fuel c.next else c

/-- The place of the next token.  A byte order mark may begin the document. -/
def token (c : Cursor) : Cursor :=
  let c := if c.index == 0 && c.peek? == some '\uFEFF' then c.next else c
  toToken (c.rest.length + 1) c

/-- Behind what may follow on a line: spaces and a comment; nothing if there is more. -/
def endLine? (c : Cursor) : Option Cursor :=
  let c := c.afterSpaces
  let c := if c.peek? == some '#' then c.afterLine else c
  if endsLine c.rest then some c.next else none

end Cursor

/-- Line breaks folded into text: a line feed alone is a space, and further breaks take its place. -/
def foldBreaks : List Char → List Char
  | '\n' :: [] => [' ']
  | '\n' :: breaks => breaks
  | breaks => breaks

/-- Behind indentation and line breaks, with the breaks; stops where a mark between documents or the
end of the document follows a break.  Tabs count as indentation only between quotes. -/
def afterBreaks (tabs : Bool) : Nat → List Char → Cursor → List Char × Cursor
  | 0, breaks, c => (breaks, c)
  | fuel + 1, breaks, c =>
    match c.peek? with
    | none => (breaks, c)
    | some ch =>
      if isLineEnd ch then
        if c.next.atDocumentMark then (breaks ++ [ch], c.next)
        else afterBreaks tabs fuel (breaks ++ [ch]) c.next
      else if ch == ' ' || (tabs && ch == '\t') then afterBreaks tabs fuel breaks c.next
      else (breaks, c)

end Yaml
end EraRewards
