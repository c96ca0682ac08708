import EraRewards.Json.Writer
import EraRewards.Value.Reading

/-!
# Structured log

A log entry is an event with named fields, written as one line of JSON with sorted names, or a plain
notice.  Entries below the level of information are not kept.
-/

namespace EraRewards

/-- One entry of a log. -/
inductive LogEntry
  /-- A named event with fields. -/
  | event (name : String) (fields : List (String × Value))
  /-- A line of text. -/
  | notice (line : String)

namespace LogEntry

/-- Members of the line of an event; a field may take the place of the time stamp or of the name. -/
def members (timestamp : Int) (name : String) (fields : List (String × Value)) :
    List (String × Value) :=
  fields.foldl (fun members field => Value.setMember members field.1 field.2)
    [("ts_ms", .int timestamp), ("event", .text name)]

/-- Written form of an entry. -/
def line (timestamp : Int) : LogEntry → String
  | event name fields => Json.write .canonical (.object (members timestamp name fields))
  | notice line => line

end LogEntry

/-- Entries in the order in which they were made. -/
abbrev Log := List LogEntry

namespace Log

/-- Level of information, below which nothing is kept. -/
def informationLevel : Int := 20

/-- A log with an event added if its level, of any kind, is high enough. -/
def add (log : Log) (level : Value) (name : String) (fields : List (String × Value)) :
    Except Failure Log :=
  match level with
  | .int _ | .bool _ =>
    level.toInt.map fun n => if informationLevel ≤ n then log ++ [.event name fields] else log
  | _ => .error .mistyped

/-- Names under which an event has no fields. -/
def reserved : List String := ["logger", "event"]

/-- A log with an event of any name added.  A field may give the level, which is that of information
unless it is given, and must not be given twice. -/
def addNamed (log : Log) (level : Option Value) (name : Value) (fields : List (String × Value)) :
    Except Failure Log :=
  let kept := fields.filter fun field => field.1 != "level"
  let (event, kept) := match name with
    | .text event => (event, kept)
    | name => ("", ("event", name) :: kept)
  if fields.any fun field => reserved.contains field.1 then .error .mistyped
  else
    match level, fields.lookup "level" with
    | some _, some _ => .error .mistyped
    | given, inFields => add log ((given.or inFields).getD (.int informationLevel)) event kept

end Log
end EraRewards
