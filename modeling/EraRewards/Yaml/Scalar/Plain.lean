import EraRewards.Yaml.Cursor

/-!
# Plain scalars

A scalar without quotes ends at a colon before a blank, at a comment or, in a flow collection, at a
mark that separates its parts.  Its lines are folded into one.
-/

namespace EraRewards
namespace Yaml

/-- Whether a character separates the parts of a flow collection. -/
def isFlowMark (c : Char) : Bool := [',', '[', ']', '\x7b', '\x7d'].contains c

/-- Whether a plain scalar may begin with a text. -/
def beginsPlain (flow : Bool) : List Char → Bool
  | [] => false
  | c :: rest =>
    let reserved := "-?:,[]\x7b\x7d#&*!|>'\"%@`".toList
    !(c == ' ' || c == '\t' || isLineEnd c || reserved.contains c) ||
      (!beginsBlank rest && (c == '-' || (!flow && (c == '?' || c == ':'))))

/-- Number of characters of a plain scalar up to the next blank or mark. -/
def plainLength (flow : Bool) : List Char → Nat
  | [] => 0
  | c :: rest =>
    let colonEnds := beginsBlank rest || (flow && rest.head?.any isFlowMark)
    if c == ' ' || c == '\t' || isLineEnd c || (c == ':' && colonEnds) ||
        (flow && (isFlowMark c || c == '?')) then 0
    else plainLength flow rest + 1

/-- What has been read of a plain scalar. -/
structure PlainText where
  /-- Its characters. -/
  text : List Char
  /-- Whether a line break follows its last part. -/
  broken : Bool
  /-- Where it ends. -/
  cursor : Cursor

/-- The plain scalar of which `text` has been read and `gap` stands before the next part.  Outside
flow collections its further lines are indented at least by `indent`. -/
def plainFrom (flow : Bool) (indent : Nat) : Nat → List Char → PlainText → PlainText
  | 0, _, read => read
  | fuel + 1, gap, read =>
    let c := read.cursor
    let length := if c.peek? == some '#' then 0 else plainLength flow c.rest
    if length = 0 then read
    else
      let text := read.text ++ gap ++ c.rest.take length
      let c := c.skip length
      let spaces := c.rest.takeWhile (· == ' ')
      let spaced := c.skip spaces.length
      if spaced.atLineEnd then
        let (breaks, after) := afterBreaks false (spaced.rest.length + 1) [] spaced
        let here : PlainText := ⟨text, true, after⟩
        if after.atDocumentMark || after.peek? == some '#' || (!flow && after.column < indent) then
          here
        else plainFrom flow indent fuel (foldBreaks breaks) here
      else
        let here : PlainText := ⟨text, false, spaced⟩
        if spaces.isEmpty || spaced.peek? == some '#' then here
        else plainFrom flow indent fuel spaces here

/-- A plain scalar. -/
def plain (flow : Bool) (indent : Nat) (c : Cursor) : PlainText :=
  plainFrom flow indent (c.rest.length + 1) [] ⟨[], false, c⟩

end Yaml
end EraRewards
