import EraRewards.Yaml.Property
import EraRewards.Yaml.Scalar.Block
import EraRewards.Yaml.Scalar.Plain

/-!
# YAML tokens

A document is cut into tokens from left to right.  In block context the column of a token opens and
closes collections, which is made visible by tokens without characters of their own.  That a node was
a key is known only at the colon behind it; until then the places where a key may have begun are
remembered, one for each level of flow collections, and only while the line goes on.
-/

namespace EraRewards
namespace Yaml

/-- A part of a document. -/
inductive Token
  /-- A directive. -/
  | directive (d : Directive)
  /-- The beginning of a document. -/
  | documentStart
  /-- The end of a document. -/
  | documentEnd
  /-- A block sequence begins. -/
  | blockSequence
  /-- A block mapping begins. -/
  | blockMapping
  /-- A block collection ends. -/
  | blockEnd
  /-- An opening bracket. -/
  | flowSequence
  /-- An opening brace. -/
  | flowMapping
  /-- A closing bracket. -/
  | flowSequenceEnd
  /-- A closing brace. -/
  | flowMappingEnd
  /-- A dash. -/
  | item
  /-- A comma. -/
  | comma
  /-- A key follows. -/
  | key
  /-- A colon. -/
  | value
  /-- A reference to an anchored node. -/
  | reference (name : String)
  /-- An anchor. -/
  | anchor (name : String)
  /-- A tag. -/
  | tag (tag : WrittenTag)
  /-- The text of a scalar, and whether it has no quotes. -/
  | scalar (text : List Letter) (isPlain : Bool)
  /-- The text cannot be cut further. -/
  | fault (failure : Failure)

/-- A place where a key may have begun. -/
structure KeyStart where
  /-- Number of tokens before it. -/
  count : Nat
  /-- Whether there must be a key. -/
  required : Bool
  /-- The place. -/
  cursor : Cursor

/-- Where the cutting of a document stands. -/
structure Scan where
  /-- The place reached. -/
  cursor : Cursor
  /-- Columns of the open block collections, the innermost first. -/
  columns : List Nat
  /-- Number of open flow collections. -/
  flow : Nat
  /-- Whether a key may begin here. -/
  keyAllowed : Bool
  /-- Places where a key may have begun, by the number of flow collections open there. -/
  starts : List (Nat × KeyStart)
  /-- Tokens found, the latest first. -/
  tokens : List Token
  /-- Their number. -/
  count : Nat

namespace Scan

/-- The beginning of a document. -/
def start (cs : List Char) : Scan := ⟨Cursor.start cs, [], 0, true, [], [], 0⟩

/-- One more token. -/
def push (s : Scan) (token : Token) : Scan :=
  { s with tokens := token :: s.tokens, count := s.count + 1 }

/-- Tokens put in where `count` tokens had been found. -/
def insert (s : Scan) (count : Nat) (added : List Token) : Scan :=
  let later := s.count - count
  { s with
    tokens := s.tokens.take later ++ added.reverse ++ s.tokens.drop later
    count := s.count + added.length }

/-- The scan at the place of the next token.  In block context a key may begin on a new line. -/
def toToken (s : Scan) : Scan :=
  let cursor := s.cursor.token
  { s with
    cursor
    keyAllowed := s.keyAllowed || (s.flow == 0 && cursor.line != s.cursor.line) }

/-- The least column of the continuation of a scalar in the innermost block collection. -/
def parent (s : Scan) : Nat :=
  match s.columns with
  | [] => 0
  | column :: _ => column + 1

/-- Closes the innermost block collections whose columns satisfy a condition.  In flow collections
columns do not count. -/
def close (s : Scan) (closes : Nat → Bool) : Scan :=
  if s.flow ≠ 0 then s
  else
    let columns := s.columns.dropWhile closes
    let closed := s.columns.length - columns.length
    { s with
      columns
      tokens := List.replicate closed .blockEnd ++ s.tokens
      count := s.count + closed }

/-- Whether a column lies behind those of the open block collections. -/
def isDeeper (s : Scan) (column : Nat) : Bool := s.columns.head?.all (· < column)

/-- Opens a block collection here if the column is a new one. -/
def openBlock (s : Scan) (token : Token) : Scan :=
  let column := s.cursor.column
  if s.flow = 0 && s.isDeeper column then { s.push token with columns := column :: s.columns }
  else s

/-- Forgets the places where no key can have begun any more: it keeps to its line and has at most
1024 characters before its colon. -/
def forgetStale (s : Scan) : Except Failure Scan :=
  let isStale (k : KeyStart) : Bool :=
    k.cursor.line != s.cursor.line || k.cursor.index + 1024 < s.cursor.index
  if s.starts.any fun entry => isStale entry.2 && entry.2.required then refused
  else .ok { s with starts := s.starts.filter fun entry => !isStale entry.2 }

/-- Forgets the place where a key may have begun on this level. -/
def forgetStart (s : Scan) : Except Failure Scan :=
  if s.starts.any fun entry => entry.1 == s.flow && entry.2.required then refused
  else .ok { s with starts := s.starts.filter fun entry => entry.1 != s.flow }

/-- Remembers that a key may begin here. -/
def saveStart (s : Scan) : Except Failure Scan := do
  if !s.keyAllowed then return s
  let s ← s.forgetStart
  let required := s.flow == 0 && s.columns.head? == some s.cursor.column
  return { s with starts := (s.flow, ⟨s.count, required, s.cursor⟩) :: s.starts }

/-- A token of a node that may be a key, after which no other key may begin. -/
def nodeToken (s : Scan) (token : Token) (after : Cursor) : Except Failure Scan := do
  return { (← s.saveStart).push token with cursor := after, keyAllowed := false }

/-- A mark between documents or a directive, which closes all block collections. -/
def documentToken (s : Scan) (token : Token) (after : Cursor) : Except Failure Scan := do
  let s ← (s.close fun _ => true).forgetStart
  return { s.push token with cursor := after, keyAllowed := false }

/-- The beginning of a flow collection. -/
def openFlow (s : Scan) (token : Token) : Except Failure Scan := do
  let s := (← s.saveStart).push token
  return { s with cursor := s.cursor.next, flow := s.flow + 1, keyAllowed := true }

/-- The end of a flow collection. -/
def closeFlow (s : Scan) (token : Token) : Except Failure Scan := do
  if s.flow = 0 then refused
  let s := (← s.forgetStart).push token
  return { s with cursor := s.cursor.next, flow := s.flow - 1, keyAllowed := false }

/-- A comma. -/
def comma (s : Scan) : Except Failure Scan := do
  return { (← s.forgetStart).push .comma with cursor := s.cursor.next, keyAllowed := true }

/-- A dash, which may open a block sequence. -/
def item (s : Scan) : Except Failure Scan := do
  if s.flow = 0 && !s.keyAllowed then refused
  let s ← (s.openBlock .blockSequence).forgetStart
  return { s.push .item with cursor := s.cursor.next, keyAllowed := true }

/-- A question mark before a key. -/
def key (s : Scan) : Except Failure Scan := do
  if s.flow = 0 && !s.keyAllowed then refused
  let s ← (s.openBlock .blockMapping).forgetStart
  return { s.push .key with cursor := s.cursor.next, keyAllowed := s.flow == 0 }

/-- A colon.  If a key may have begun before it on this level, that is its key. -/
def value (s : Scan) : Except Failure Scan := do
  match s.starts.lookup s.flow with
  | some start =>
    let column := start.cursor.column
    let opens := s.flow == 0 && s.isDeeper column
    let s := s.insert start.count (if opens then [.blockMapping, .key] else [.key])
    return { s.push .value with
      cursor := s.cursor.next
      columns := if opens then column :: s.columns else s.columns
      starts := s.starts.filter fun entry => entry.1 != s.flow
      keyAllowed := false }
  | none =>
    if s.flow = 0 && !s.keyAllowed then refused
    let s ← (s.openBlock .blockMapping).forgetStart
    return { s.push .value with cursor := s.cursor.next, keyAllowed := s.flow == 0 }

/-- A plain scalar; behind a line break a key may begin. -/
def plain (s : Scan) : Except Failure Scan := do
  let s ← s.saveStart
  let read := Yaml.plain (s.flow != 0) s.parent s.cursor
  return { s.push (.scalar (read.text.map .char) true) with
    cursor := read.cursor, keyAllowed := read.broken }

/-- A quoted scalar. -/
def quoted (s : Scan) (quote : Char) : Except Failure Scan := do
  let (text, after) ← Yaml.quoted quote s.cursor
  s.nodeToken (.scalar text false) after

/-- A block scalar, behind which a key may begin. -/
def block (s : Scan) : Except Failure Scan := do
  let s ← s.forgetStart
  let (text, after) ← Yaml.block s.parent s.cursor
  return { s.push (.scalar (text.map .char) false) with cursor := after, keyAllowed := true }

/-- An anchor or an alias. -/
def named (s : Scan) (token : String → Token) : Except Failure Scan := do
  let (name, after) ← anchorName s.cursor
  s.nodeToken (token name) after

/-- A tag. -/
def tag (s : Scan) : Except Failure Scan := do
  let (tag, after) ← tagAt s.cursor
  s.nodeToken (.tag tag) after

/-- A directive. -/
def directive (s : Scan) : Except Failure Scan := do
  let (directive, after) ← directiveAt s.cursor
  s.documentToken (.directive directive) after

/-- Whether an indicator stands here; in flow collections a question mark and a colon need no blank
behind them. -/
def atIndicator (s : Scan) (mark : Char) : Bool :=
  s.cursor.atIndicator mark || (s.flow ≠ 0 && mark != '-' && s.cursor.peek? == some mark)

/-- The scan after the token that begins with a character. -/
def step (s : Scan) (ch : Char) : Except Failure Scan :=
  let c := s.cursor
  if ch == '%' && c.column == 0 then s.directive
  else if c.atMark '-' then s.documentToken .documentStart (c.skip 3)
  else if c.atMark '.' then s.documentToken .documentEnd (c.skip 3)
  else if ch == '[' then s.openFlow .flowSequence
  else if ch == '\x7b' then s.openFlow .flowMapping
  else if ch == ']' then s.closeFlow .flowSequenceEnd
  else if ch == '\x7d' then s.closeFlow .flowMappingEnd
  else if ch == ',' then s.comma
  else if s.atIndicator '-' then s.item
  else if s.atIndicator '?' then s.key
  else if s.atIndicator ':' then s.value
  else if ch == '*' then s.named .reference
  else if ch == '&' then s.named .anchor
  else if ch == '!' then s.tag
  else if (ch == '|' || ch == '>') && s.flow = 0 then s.block
  else if ch == '\x27' || ch == '\x22' then s.quoted ch
  else if beginsPlain (s.flow != 0) c.rest then s.plain
  else refused

/-- All tokens, with a failure behind those that were found.  Tokens that may still turn out to belong
to a key are not told before the failure. -/
def tokensBefore (s : Scan) (failure : Failure) : List Token :=
  let visible := s.starts.foldl (fun least entry => min least entry.2.count) s.count
  (s.tokens.drop (s.count - visible)).reverse ++ [.fault failure]

/-- The tokens of the rest of a document. -/
def run : Nat → Scan → List Token
  | 0, s => s.tokensBefore .malformedYaml
  | fuel + 1, s =>
    match s.toToken.forgetStale with
    | .error failure => s.tokensBefore failure
    | .ok s =>
      let s := s.close (s.cursor.column < ·)
      match s.cursor.peek? with
      | none =>
        match (s.close fun _ => true).forgetStart with
        | .ok s => s.tokens.reverse
        | .error failure => s.tokensBefore failure
      | some ch =>
        match s.step ch with
        | .ok s => run fuel s
        | .error failure => s.tokensBefore failure

end Scan

/-- The tokens of a document. -/
def tokens (cs : List Char) : List Token := (Scan.start cs).run (cs.length + 1)

end Yaml
end EraRewards
