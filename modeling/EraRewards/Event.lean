import EraRewards.Value.Layout
import EraRewards.Value.Reading

/-!
# Claim events

Every successful claim is announced to a sink.  The sink that comes with the ledger keeps the latest
events, the oldest giving way; a foreign sink may refuse an event, which never undoes the claim.
-/

namespace EraRewards

/-- A claim has been paid out. -/
structure RewardClaimed where
  /-- Who claimed. -/
  account : Value
  /-- How much was paid. -/
  amount : Value

namespace RewardClaimed

/-- Interchange form of an event. -/
def toValue (event : RewardClaimed) : Value :=
  .object [("event", .text "RewardClaimed"), ("account", event.account),
    ("amount", .text event.amount.display)]

/-- Text of an event in a log. -/
def inspect (event : RewardClaimed) : String :=
  "RewardClaimed(account=" ++ event.account.inspect ++ ", amount=" ++ event.amount.inspect ++ ")"

end RewardClaimed

/-- The latest events, oldest first. -/
structure RecentEvents where
  /-- The most events kept. -/
  capacity : Nat
  /-- At least one event is kept. -/
  capacity_pos : 0 < capacity
  /-- The events kept. -/
  events : List RewardClaimed
  /-- No more than the capacity. -/
  length_le : events.length ≤ capacity

namespace RecentEvents

/-- Capacity unless another is asked for. -/
def defaultCapacity : Int := 1000

/-- Number of events shown unless another is asked for. -/
def defaultLimit : Int := 50

/-- No events, with a capacity of at least one. -/
def empty (capacity : Int) : RecentEvents where
  capacity := max 1 capacity.toNat
  capacity_pos := by omega
  events := []
  length_le := Nat.zero_le _

/-- The greatest capacity that can be asked for, `2 ^ 63 - 1`. -/
def maxCapacity : Int := 9223372036854775807

/-- No events, with the capacity that a value stands for. -/
def ofCapacity (capacity : Value) : Except Failure RecentEvents := do
  let capacity ← capacity.toInt
  if maxCapacity < capacity then throw .capacityRange else return empty capacity

/-- One more event; the oldest gives way when the capacity is reached. -/
def push (recent : RecentEvents) (event : RewardClaimed) : RecentEvents where
  capacity := recent.capacity
  capacity_pos := recent.capacity_pos
  events := (recent.events ++ [event]).drop (recent.events.length + 1 - recent.capacity)
  length_le := by simp; omega

/-- The latest events, at most `limit` of them. -/
def tail (recent : RecentEvents) (limit : Int) : List RewardClaimed :=
  recent.events.drop (recent.events.length - limit.toNat)

end RecentEvents

/-- Where events go. -/
inductive Sink
  /-- Nowhere. -/
  | absent
  /-- To the tail of recent events. -/
  | recent (events : RecentEvents)
  /-- To a foreign receiver, which may refuse them. -/
  | receiver (accepts : RewardClaimed → Bool)

namespace Sink

/-- The sink after an event, and whether the event was taken. -/
def emit (event : RewardClaimed) : Sink → Sink × Bool
  | absent => (absent, true)
  | recent events => (recent (events.push event), true)
  | receiver accepts => (receiver accepts, accepts event)

/-- A receiver that refuses every event. -/
def broken : Sink := receiver fun _ => false

/-- The latest events; only the tail of recent events shows any. -/
def tail (limit : Int) : Sink → Option (List RewardClaimed)
  | recent events => some (events.tail limit)
  | _ => none

end Sink
end EraRewards
