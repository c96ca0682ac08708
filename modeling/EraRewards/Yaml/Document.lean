import EraRewards.Value.Layout
import EraRewards.Yaml.Datum
import EraRewards.Yaml.Merge
import EraRewards.Yaml.Scatter

/-!
# YAML documents

A document is what the nodes of a graph stand for.  A scalar stands for a datum, and a collection for
itself: since it may hold itself, what is inside is found by its number.  A node is read once, wherever
it is referred to.  A collection is read after the one that holds it, in the order in which they are
met, so that of several flaws the one nearest to the root is reported.
-/

namespace EraRewards
namespace Yaml

/-- What a node stands for. -/
inductive Item
  /-- A datum. -/
  | datum (d : Datum)
  /-- The collection that the node with a number is. -/
  | collection (number : Nat)
  deriving DecidableEq, Inhabited

/-- What a collection holds. -/
inductive Contents
  /-- Items of a sequence. -/
  | items (items : List Item)
  /-- Pairs of a sequence of pairs. -/
  | pairs (pairs : List (Item × Item))
  /-- Members of a set. -/
  | members (members : List Datum)
  /-- Keys of a mapping with their values. -/
  | entries (entries : List (Datum × Item))
  deriving DecidableEq, Inhabited

/-- A document that is being read. -/
structure Building where
  /-- The nodes, some of which may have been changed by merging. -/
  graph : Graph
  /-- What the nodes stand for that have been read. -/
  items : Array (Option Item)
  /-- Collections still to be read, the next one first. -/
  waiting : List Nat
  /-- What the collections hold that have been read. -/
  contents : Array Contents

namespace Building

/-- A step of reading a document. -/
abbrev Step := StateT Building (Except Failure)

/-- The text of a scalar.  A mapping stands for the value of its default, through at most `depth`
mappings. -/
def lettersOf (g : Graph) : Nat → Nat → Except Failure (List Letter)
  | 0, _ => .error .tooDeep
  | depth + 1, number =>
    match (g.node number).content with
    | .scalar letters => .ok letters
    | .mapping entries =>
      match entries.find? fun entry => g.tagOf entry.1 == .default with
      | some (_, value) => lettersOf g depth value
      | none => refused
    | .sequence _ => refused

/-- What a node of a scalar kind stands for.  A date is written by a scalar itself. -/
def datumOf (g : Graph) (number : Nat) : Except Failure Datum := do
  if !(g.tagOf number).isReadable then refused
  let letters ← lettersOf g (g.size + 1) number
  match g.tagOf number, (g.node number).content with
  | .date, .mapping _ => throw .mistyped
  | tag, _ => Datum.ofLetters tag number letters

/-- What a node stands for; a collection that is met for the first time waits to be read. -/
def item (number : Nat) : Step Item := do
  let building ← get
  match building.items.getD number none with
  | some item => return item
  | none =>
    let isCollection := (building.graph.tagOf number).isCollection
    let item ← if isCollection then pure (.collection number)
      else Item.datum <$> datumOf building.graph number
    set { building with
      items := building.items.modify number fun _ => some item
      waiting := if isCollection then building.waiting ++ [number] else building.waiting }
    return item

/-- What a key stands for; collections are no keys. -/
def key (number : Nat) : Step Datum := do
  match ← item number with
  | .datum d => return d
  | .collection _ => throw .malformedYaml

/-- Keys with what belongs to them; of equal keys the first stays, with what belongs to the last. -/
def distinct {α : Type} (found : List (Datum × α)) : List (Datum × α) :=
  found.foldl
    (fun kept entry =>
      if kept.any fun other => other.1.isSame entry.1 then
        kept.map fun other => if other.1.isSame entry.1 then (other.1, entry.2) else other
      else kept ++ [entry])
    []

/-- The merged mappings that are followed one inside the other. -/
def deepestMerge : Nat := 987

/-- Keys and values of a mapping, whose merge keys are replaced first. -/
def entriesOf (number : Nat) : Step (List (Datum × Item)) := do
  let building ← get
  let (entries, graph) ← (do
    Revision.flatten deepestMerge number
    Revision.entriesOf number : Revision _).run building.graph
  set { building with graph }
  return distinct (← entries.mapM fun entry => do return (← key entry.1, ← item entry.2))

/-- The pair that a mapping with one entry is. -/
def pairOf (number : Nat) : Step (Item × Item) := do
  match (← get).graph.entries? number with
  | some [(first, second)] => return (← item first, ← item second)
  | _ => throw .malformedYaml

/-- What a collection holds, whose form must be that of its kind. -/
def contentsOf (number : Nat) : Step Contents := do
  let node := (← get).graph.node number
  match node.tag, node.content with
  | .sequence, .sequence items => return .items (← items.mapM item)
  | .pairs, .sequence items => return .pairs (← items.mapM pairOf)
  | .set, .mapping _ => return .members ((← entriesOf number).map (·.1))
  | .mapping, .mapping _ => return .entries (← entriesOf number)
  | _, _ => throw .malformedYaml

/-- Reads the collections that wait, and those that are met in them. -/
def complete : Nat → Step Unit
  | 0 => return ()
  | fuel + 1 => do
    let building ← get
    match building.waiting with
    | [] => return ()
    | number :: waiting =>
      set { building with waiting }
      let contents ← contentsOf number
      modify fun b => { b with contents := b.contents.modify number fun _ => contents }
      complete fuel

end Building

/-- A document. -/
structure Document where
  /-- What the whole document is. -/
  root : Item
  /-- What its collections hold, by number. -/
  contents : Array Contents

namespace Document

/-- The document of a graph with a root.  Each node waits once at most. -/
def ofGraph (graph : Graph) (root : Nat) : Except Failure Document := do
  let step : Building.Step Item := do
    let item ← Building.item root
    Building.complete (graph.size + 1)
    return item
  let unread := graph.map fun _ => none
  let (root, building) ← step.run ⟨graph, unread, [], graph.map fun _ => .items []⟩
  return ⟨root, building.contents⟩

/-- Text of a datum that shows its kind. -/
def inspectDatum (datum : Datum) : Except Failure String := datum.toValue.map Value.inspect

/-- Text of an item that shows its kind.  `within` holds the numbers of the collections whose texts are
being made; where one of them comes again, dots stand for it. -/
def inspect (d : Document) : Nat → List Nat → Item → Except Failure String
  | 0, _, _ => .error .tooDeep
  | _ + 1, _, .datum datum => inspectDatum datum
  | depth + 1, within, .collection number =>
    let again := within.contains number
    let inner := d.inspect depth (number :: within)
    match d.contents.getD number (.items []) with
    | .items items =>
      if again then .ok "[...]"
      else do return "[" ++ ", ".intercalate (← items.mapM inner) ++ "]"
    | .pairs pairs =>
      if again then .ok "[...]"
      else do
        let parts ← pairs.mapM fun pair => do
          return "(" ++ (← inner pair.1) ++ ", " ++ (← inner pair.2) ++ ")"
        return "[" ++ ", ".intercalate parts ++ "]"
    | .members members => do
      let parts ← (Scatter.order members).mapM inspectDatum
      return if parts.isEmpty then "set()" else "\x7b" ++ ", ".intercalate parts ++ "\x7d"
    | .entries entries =>
      if again then .ok "\x7b...\x7d"
      else do
        let parts ← entries.mapM fun entry => do
          return (← inspectDatum entry.1) ++ ": " ++ (← inner entry.2)
        return "\x7b" ++ ", ".intercalate parts ++ "\x7d"

/-- The levels of collections whose text is made. -/
def deepestText : Nat := 991

/-- An item as a value; a collection is known by its text. -/
def value (d : Document) (item : Item) : Except Failure Value :=
  match item with
  | .datum datum => datum.toValue
  | .collection _ => (d.inspect deepestText [] item).map fun text => .special text text

/-- Values of the texts among the keys of the root, if it is a mapping. -/
def members? (d : Document) : Option (String → Except Failure Value) :=
  match d.root with
  | .datum _ => none
  | .collection number =>
    match d.contents.getD number (.items []) with
    | .entries entries => some fun name =>
      match entries.find? fun entry => entry.1.isSame (.text (Letter.ofText name)) with
      | some (_, item) => d.value item
      | none => .ok .null
    | _ => none

end Document
end Yaml
end EraRewards
