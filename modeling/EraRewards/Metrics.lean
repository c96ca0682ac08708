import EraRewards.Environment.Flag
import EraRewards.Table
import EraRewards.Value.Layout
import EraRewards.Value.Reading

/-!
# Metrics

Named integer counters and gauges.  A name is stripped of blanks, and nothing is recorded under an
empty name.
-/

namespace EraRewards

/-- Counters and gauges by name. -/
structure Metrics where
  /-- Sums of the increments. -/
  counters : Table String Int
  /-- Latest values. -/
  gauges : Table String Int

namespace Metrics

/-- Nothing recorded. -/
def empty : Metrics := ⟨.empty, .empty⟩

instance : Inhabited Metrics := ⟨empty⟩

/-- Value of a counter; zero before the first increment. -/
def counter (m : Metrics) (name : String) : Int := (m.counters.get? name).getD 0

/-- Adds to a counter. -/
def add (m : Metrics) (name : String) (amount : Int) : Metrics :=
  { m with counters := m.counters.insert name (m.counter name + amount) }

/-- Adds one to a counter. -/
def increment (m : Metrics) (name : String) : Metrics := m.add name 1

/-- Sets a gauge. -/
def set (m : Metrics) (name : String) (value : Int) : Metrics :=
  { m with gauges := m.gauges.insert name value }

/-- Name that a value stands for; none when it is blank. -/
def nameOf? (value : Value) : Option String :=
  let name := Text.strip (if value.isTruthy then value.display else "")
  if name.isEmpty then none else some name

/-- Adds the integer reading of a value to the counter named by another. -/
def addValue (m : Metrics) (name amount : Value) : Except Failure Metrics :=
  match nameOf? name with
  | none => .ok m
  | some name => amount.toInt.map (m.add name)

/-- Sets the gauge named by a value to the integer reading of another. -/
def setValue (m : Metrics) (name value : Value) : Except Failure Metrics :=
  match nameOf? name with
  | none => .ok m
  | some name => value.toInt.map (m.set name)

/-- What stands before every name in the exposition. -/
def defaultMark : String := "eraledger_"

/-- One line of the exposition. -/
def line (mark name : String) (value : Int) : String :=
  mark ++ name ++ " " ++ Integer.write value ++ "\n"

/-- Text exposition: the uptime, then counters and gauges, each sorted by name. -/
def exposition (m : Metrics) (mark : String) (uptime : Int) : String :=
  String.join (line mark "uptime_ms" uptime ::
    (m.counters.rows ++ m.gauges.rows).map fun row => line mark row.1 row.2)

/-- Whether every counter and gauge is short enough to be written. -/
def isWritable (m : Metrics) : Bool :=
  (m.counters.rows ++ m.gauges.rows).all fun row => Integer.isWritable row.2

/-- The mark that a value asks for. -/
def markOf (value : Value) : String := (nameOf? value).getD defaultMark

/-- Whether the metrics are shown to clients. -/
def enabled (env : Environment) : Bool := env.flag "ERALEDGER_METRICS_ENABLED"

end Metrics
end EraRewards
