import EraRewards.Yaml.Tag
import EraRewards.Yaml.Token

/-!
# YAML nodes

The tokens of a document form a graph of nodes: scalars, sequences and mappings, each with a number by
which other nodes hold it.  A reference is read as the number of the node with its anchor; an anchor is
declared once and before it is referred to, but a collection may refer to itself.
-/

namespace EraRewards
namespace Yaml

/-- What a node holds. -/
inductive Content
  /-- A text. -/
  | scalar (text : List Letter)
  /-- Nodes in order. -/
  | sequence (items : List Nat)
  /-- Keys with values, in order. -/
  | mapping (entries : List (Nat × Nat))
  deriving DecidableEq, Repr

/-- A node of a document. -/
structure Node where
  /-- Its kind. -/
  tag : Tag
  /-- What it holds. -/
  content : Content
  deriving DecidableEq, Repr

instance : Inhabited Node := ⟨⟨.null, .scalar []⟩⟩

/-- The nodes of a document by number. -/
abbrev Graph : Type := Array Node

namespace Graph

/-- The node with a number. -/
def node (g : Graph) (number : Nat) : Node := g.getD number default

/-- Kind of the node with a number. -/
def tagOf (g : Graph) (number : Nat) : Tag := (g.node number).tag

/-- Entries of a mapping. -/
def entries? (g : Graph) (number : Nat) : Option (List (Nat × Nat)) :=
  match (g.node number).content with
  | .mapping entries => some entries
  | _ => none

end Graph

/-- Tokens still to be read, and what has been declared before them. -/
structure Pending where
  /-- The tokens. -/
  tokens : List Token
  /-- Handles of tags, each with the beginning of the names that it stands for. -/
  handles : List (String × String)
  /-- Anchors with the numbers of their nodes. -/
  anchors : List (String × Nat)
  /-- The nodes begun so far. -/
  graph : Graph

/-- A step of reading nodes. -/
abbrev Reading := StateT Pending (Except Failure)

/-- Stops at a token that has no place here, or at the failure behind the last token. -/
def unexpected {α : Type} : Reading α := do
  match (← get).tokens with
  | .fault failure :: _ => throw failure
  | _ => throw .malformedYaml

/-- The next token, which stays. -/
def peek : Reading (Option Token) := do return (← get).tokens.head?

/-- Passes the next token. -/
def advance : Reading Unit := modify fun p => { p with tokens := p.tokens.drop 1 }

/-- Name of a tag behind its handle; the handle must be declared. -/
def fullName (handles : List (String × String)) (tag : WrittenTag) : Except Failure String :=
  match tag.handle? with
  | none => .ok tag.name
  | some handle =>
    match handles.lookup handle with
    | some start => .ok (start ++ tag.name)
    | none => refused

/-- Passes an anchor, if there is one. -/
def readAnchor : Reading (Option String) := do
  match ← peek with
  | some (.anchor name) => advance; return some name
  | _ => return none

/-- Passes a tag, if there is one. -/
def readTag : Reading (Option String) := do
  match ← peek with
  | some (.tag tag) => advance; return some (← fullName (← get).handles tag)
  | _ => return none

/-- Passes an anchor and a tag, which stand in any order. -/
def readProperties : Reading (Option String × Option String) := do
  match ← readAnchor with
  | some anchor => return (some anchor, ← readTag)
  | none =>
    let tag? ← readTag
    return (← readAnchor, tag?)

/-- Number of a new node.  Its anchor must be a new one. -/
def create (anchor? : Option String) (tag : Tag) (content : Content) : Reading Nat := do
  let pending ← get
  let number := pending.graph.size
  if anchor?.any fun name => (pending.anchors.lookup name).isSome then throw .malformedYaml
  set { pending with
    anchors := anchor?.toList.map (·, number) ++ pending.anchors
    graph := pending.graph.push ⟨tag, content⟩ }
  return number

/-- Fills a node that has been begun. -/
def fill (number : Nat) (content : Content) : Reading Nat := do
  modify fun p => { p with graph := p.graph.modify number fun node => { node with content } }
  return number

/-- The node of nothing at all. -/
def nothing : Reading Nat := create none .null (.scalar [])

/-- The name that asks for the kind that a node would have without a tag. -/
def noKind : String := "!"

/-- Kind of a node with a tag that may be missing. -/
def kindOf (tag? : Option String) (usual : Tag) : Tag :=
  match tag? with
  | none => usual
  | some name => if name == noKind then usual else Tag.ofName name

/-- Kind of a scalar: by its spelling, if it has no quotes or its tag asks for that. -/
def scalarKind (tag? : Option String) (isPlain : Bool) (text : List Letter) : Tag :=
  let spelled := isPlain || tag? == some noKind
  kindOf tag? (if spelled then ((Letter.text? text).map Tag.ofSpelling).getD .text else .text)

/-- Whether a token cannot begin the node of a key or a value in a block mapping. -/
def endsEntry : Option Token → Bool
  | some .key | some .value | some .blockEnd => true
  | _ => false

/-- Whether a token ends an entry of a flow mapping. -/
def endsFlowEntry : Option Token → Bool
  | some .value | some .comma | some .flowMappingEnd => true
  | _ => false

/-- Whether a token ends an entry of a flow sequence. -/
def endsFlowItem : Option Token → Bool
  | some .value | some .comma | some .flowSequenceEnd => true
  | _ => false

/-- Where a node stands. -/
inductive Place
  /-- In a flow collection, where no block collection begins. -/
  | flow
  /-- In block context. -/
  | block
  /-- In an entry of a block mapping, where a block sequence may stand in the column of the key. -/
  | entry
  deriving DecidableEq

mutual

/-- The next node, with at most `depth` levels of collections. -/
def node : Nat → Nat → Place → Reading Nat
  | 0, _, _ => throw .malformedYaml
  | _ + 1, 0, _ => throw .tooDeep
  | fuel + 1, depth + 1, place => do
    match ← peek with
    | some (.reference name) =>
      match (← get).anchors.lookup name with
      | some number => advance; return number
      | none => throw .malformedYaml
    | _ =>
      let (anchor?, tag?) ← readProperties
      match ← peek with
      | some (.scalar text isPlain) =>
        advance
        create anchor? (scalarKind tag? isPlain text) (.scalar text)
      | some .flowSequence =>
        let number ← create anchor? (kindOf tag? .sequence) (.sequence [])
        advance
        fill number (.sequence (← flowItems fuel depth true))
      | some .flowMapping =>
        let number ← create anchor? (kindOf tag? .mapping) (.mapping [])
        advance
        fill number (.mapping (← flowEntries fuel depth true))
      | found =>
        match place, found with
        | .entry, some .item =>
          let number ← create anchor? (kindOf tag? .sequence) (.sequence [])
          fill number (.sequence (← blockItems fuel depth true))
        | .block, some .blockSequence | .entry, some .blockSequence =>
          let number ← create anchor? (kindOf tag? .sequence) (.sequence [])
          advance
          fill number (.sequence (← blockItems fuel depth false))
        | .block, some .blockMapping | .entry, some .blockMapping =>
          let number ← create anchor? (kindOf tag? .mapping) (.mapping [])
          advance
          fill number (.mapping (← blockEntries fuel depth))
        | _, some (.fault failure) => throw failure
        | _, _ =>
          if anchor?.isNone && tag?.isNone then unexpected
          else create anchor? (scalarKind tag? tag?.isNone []) (.scalar [])

/-- Items of a block sequence; one in the column of a key has no token at its end. -/
def blockItems : Nat → Nat → Bool → Reading (List Nat)
  | 0, _, _ => throw .malformedYaml
  | fuel + 1, depth, inKeyColumn => do
    match ← peek with
    | some .item =>
      advance
      let next ← peek
      let isEmpty := match next with
        | some .item | some .blockEnd => true
        | some .key | some .value => inKeyColumn
        | _ => false
      let item ← if isEmpty then nothing else node fuel depth .block
      return item :: (← blockItems fuel depth inKeyColumn)
    | some .blockEnd =>
      if !inKeyColumn then advance
      return []
    | some (.fault failure) => throw failure
    | _ => if inKeyColumn then return [] else unexpected

/-- Entries of a block mapping. -/
def blockEntries : Nat → Nat → Reading (List (Nat × Nat))
  | 0, _ => throw .malformedYaml
  | fuel + 1, depth => do
    match ← peek with
    | some .key =>
      advance
      let key ← if endsEntry (← peek) then nothing else node fuel depth .entry
      let value ← match ← peek with
        | some .value => do
          advance
          if endsEntry (← peek) then nothing else node fuel depth .entry
        | some (.fault failure) => throw failure
        | _ => nothing
      return (key, value) :: (← blockEntries fuel depth)
    | some .blockEnd => advance; return []
    | _ => unexpected

/-- Items of a flow sequence; a key begins a mapping of one entry. -/
def flowItems : Nat → Nat → Bool → Reading (List Nat)
  | 0, _, _ => throw .malformedYaml
  | fuel + 1, depth, isFirst => do
    if (← peek) matches some .flowSequenceEnd then
      advance
      return []
    if !isFirst then
      match ← peek with
      | some .comma => advance
      | _ => unexpected
    match ← peek with
    | some .flowSequenceEnd => advance; return []
    | some .key =>
      if depth = 0 then throw .tooDeep
      let pair ← create none .mapping (.mapping [])
      advance
      let key ← if endsFlowItem (← peek) then nothing else node fuel (depth - 1) .flow
      let value ← match ← peek with
        | some .value => do
          advance
          match ← peek with
          | some .comma | some .flowSequenceEnd => nothing
          | _ => node fuel (depth - 1) .flow
        | some (.fault failure) => throw failure
        | _ => nothing
      return (← fill pair (.mapping [(key, value)])) :: (← flowItems fuel depth false)
    | _ =>
      let item ← node fuel depth .flow
      return item :: (← flowItems fuel depth false)

/-- Entries of a flow mapping; a node without a key mark has no value. -/
def flowEntries : Nat → Nat → Bool → Reading (List (Nat × Nat))
  | 0, _, _ => throw .malformedYaml
  | fuel + 1, depth, isFirst => do
    if (← peek) matches some .flowMappingEnd then
      advance
      return []
    if !isFirst then
      match ← peek with
      | some .comma => advance
      | _ => unexpected
    match ← peek with
    | some .flowMappingEnd => advance; return []
    | some .key =>
      advance
      let key ← if endsFlowEntry (← peek) then nothing else node fuel depth .flow
      let value ← match ← peek with
        | some .value => do
          advance
          match ← peek with
          | some .comma | some .flowMappingEnd => nothing
          | _ => node fuel depth .flow
        | some (.fault failure) => throw failure
        | _ => nothing
      return (key, value) :: (← flowEntries fuel depth false)
    | _ =>
      let key ← node fuel depth .flow
      return (key, ← nothing) :: (← flowEntries fuel depth false)

end

/-- Handles that need no declaration. -/
def usualHandles : List (String × String) := [("!", "!"), ("!!", Tag.known)]

/-- What directives declare: whether they name a version, and handles. -/
structure Prologue where
  /-- Whether the version is given. -/
  versioned : Bool
  /-- Handles with the beginnings that they stand for. -/
  handles : List (String × String)

/-- The directives before a document; the version and each handle are declared once. -/
def directives : Nat → Prologue → Reading Prologue
  | 0, _ => throw .malformedYaml
  | fuel + 1, found => do
    match ← peek with
    | some (.directive d) =>
      advance
      match d with
      | .version major =>
        if found.versioned || major ≠ 1 then throw .malformedYaml
        directives fuel { found with versioned := true }
      | .handle handle start =>
        if (found.handles.lookup handle).isSome then throw .malformedYaml
        directives fuel { found with handles := (handle, start) :: found.handles }
      | .other => directives fuel found
    | _ => return found

/-- Passes marks that end a document. -/
def endMarks : Nat → Reading Unit
  | 0 => return ()
  | fuel + 1 => do
    match ← peek with
    | some .documentEnd => advance; endMarks fuel
    | _ => return ()

/-- The levels of collections that are followed. -/
def deepest : Nat := 491

/-- The one document; none if there are no tokens. -/
def document (fuel : Nat) : Reading (Option Nat) := do
  let root ← match ← peek with
    | none => return none
    | some (.directive _) | some .documentStart => do
      let found ← directives fuel ⟨false, []⟩
      modify fun p => { p with handles := found.handles ++ usualHandles }
      match ← peek with
      | some .documentStart => advance
      | _ => unexpected
      match ← peek with
      | none | some (.directive _) | some .documentStart | some .documentEnd => nothing
      | _ => node fuel deepest .block
    | _ => node fuel deepest .block
  endMarks fuel
  match ← peek with
  | none => return some root
  | _ => unexpected

/-- The graph that the tokens of a document form, with the number of its root. -/
def graphOf (tokens : List Token) : Except Failure (Option (Graph × Nat)) := do
  let (root?, pending) ← (document (4 * tokens.length + 4)).run ⟨tokens, usualHandles, [], #[]⟩
  return root?.map fun root => (pending.graph, root)

end Yaml
end EraRewards
