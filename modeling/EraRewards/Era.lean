import EraRewards.Value.Reading

/-!
# Eras

Time is counted in ticks, and an era is a window of consecutive ticks of fixed length that starts at
a multiple of the length.  An era is named by its first tick.
-/

namespace EraRewards

/-- The greatest tick that can be stored, `2 ^ 63 - 1`. -/
def maxTick : Int := 9223372036854775807

namespace Era

/-- First tick of the window of `duration` ticks around a tick. -/
def startOf (tick duration : Int) : Int := tick - tick.fmod duration

/-- The tick that a value is: a nonnegative integer. -/
def tickOfValue : Value → Except LedgerError Int
  | .int n => if 0 ≤ n then .ok n else .error (.badTick (.int n))
  | value => .error (.badTick value)

/-- First tick of the window around a tick, for a window length of any kind. -/
def startOfValues (tick duration : Value) : Except Failure Int := do
  let tick ← tickOfValue tick
  let duration ← duration.toInt
  if duration = 0 then throw .zeroDivisor else return startOf tick duration

/-- An accepted window length: a positive integer. -/
def durationOfValue : Value → Except ConfigError { d : Int // 0 < d }
  | .int n => if h : 0 < n then .ok ⟨n, h⟩ else .error (.eraDurationRange (.int n))
  | value => .error (.eraDurationKind value)

end Era
end EraRewards
