import PolicyAgent.Time.Calendar

/-!
# Timestamps

A timestamp has a local day and time and the distance of the local clock from UTC. The
distance may be missing; the agent then takes the local clock to show UTC. The instant of a
timestamp is a whole number of microseconds, so timestamps of different distances compare
exactly.
-/
namespace PolicyAgent.Time

/-- Seconds by which a local clock is ahead of UTC, less than a day either way. -/
structure Offset where
  seconds : Int
  gt : -86400 < seconds
  lt : seconds < 86400
  deriving DecidableEq

namespace Offset

def utc : Offset := ⟨0, by decide, by decide⟩

def ofSeconds? (seconds : Int) : Option Offset :=
  if h : -86400 < seconds ∧ seconds < 86400 then some ⟨seconds, h.1, h.2⟩ else none

theorem ofSeconds?_eq (o : Offset) : ofSeconds? o.seconds = some o := by
  simp [ofSeconds?, o.gt, o.lt]

end Offset

structure Timestamp where
  day : Day
  time : TimeOfDay
  offset : Option Offset
  deriving DecidableEq

namespace Timestamp

def withOffset (t : Timestamp) : Timestamp := { t with offset := some (t.offset.getD .utc) }

def withoutOffset (t : Timestamp) : Timestamp := { t with offset := none }

/-- Seconds of the local clock ahead of UTC, zero where the offset is missing. -/
def offsetSeconds (t : Timestamp) : Int := (t.offset.getD .utc).seconds

def localMicros (t : Timestamp) : Nat := t.day.number * 86400000000 + t.time.micros

/-- Microseconds from the beginning of the year 1, UTC. -/
def instant (t : Timestamp) : Int := t.localMicros - t.offsetSeconds * 1000000

def truncate (t : Timestamp) : Timestamp := { t with time := t.time.truncate }

@[simp] theorem offsetSeconds_withOffset (t : Timestamp) :
    t.withOffset.offsetSeconds = t.offsetSeconds := by
  simp [offsetSeconds, withOffset]

@[simp] theorem instant_withOffset (t : Timestamp) : t.withOffset.instant = t.instant := by
  simp [instant, localMicros, withOffset, offsetSeconds]

@[simp] theorem withOffset_withOffset (t : Timestamp) : t.withOffset.withOffset = t.withOffset := by
  simp [withOffset]

def ofInstant (micros : Nat) : Except FieldError Timestamp := do
  let day ← Day.ofNumber (micros / 86400000000)
  return ⟨day, TimeOfDay.ofMicros (micros % 86400000000), some .utc⟩

end Timestamp

end PolicyAgent.Time
