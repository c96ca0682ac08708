import EraRewards.Value.Reading

/-!
# Clocks

A clock is the sequence of its readings; the last one repeats.  The wall clock counts windows of a
fixed number of milliseconds.
-/

namespace EraRewards

/-- Readings of a clock. -/
structure Clock where
  /-- The next reading. -/
  next : Value
  /-- The readings after it. -/
  later : List Value

namespace Clock

/-- A clock that stands still. -/
def still (reading : Value) : Clock := ⟨reading, []⟩

instance : Inhabited Clock := ⟨still (.int 0)⟩

/-- The clock with the given readings; without any it stands at zero. -/
def ofList : List Value → Clock
  | [] => default
  | next :: later => ⟨next, later⟩

/-- The clock after one reading. -/
def advance (clock : Clock) : Clock :=
  match clock.later with
  | [] => clock
  | next :: later => ⟨next, later⟩

/-- Milliseconds in a number of seconds; the product of a double is rounded before it is cut, and a text
is taken a thousand times for its product. -/
def milliseconds : Value → Except Failure Int
  | .int n => .ok (n * 1000)
  | .bool b => .ok (if b then 1000 else 0)
  | .float x => (Value.float (x.scaleBy 1000)).toInt
  | .text s => (Value.text (String.join (List.replicate 1000 s))).toInt
  | _ => .error .mistyped

/-- Number of the window of `tickMs` milliseconds around a time in seconds. -/
def wallTick (now tickMs : Value) : Except Failure Int := do
  let tickMs ← tickMs.toInt
  let now ← milliseconds now
  if tickMs = 0 then throw .zeroDivisor else return now.fdiv tickMs

/-- The wall clock at a time in seconds, with ticks of the given length. -/
def wall (now : Value) (tickMs : Int) : Clock :=
  still (match wallTick now (.int tickMs) with
    | .ok tick => .int tick
    | .error _ => .null)

end Clock
end EraRewards
