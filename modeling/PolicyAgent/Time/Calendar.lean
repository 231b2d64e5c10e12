/-!
# The calendar

Days of the Gregorian calendar, extended back to the year 1, and times of day to the
microsecond. Both carry the proof that they exist. Days are numbered from the first of
January of the year 1, which turns distances between days into subtraction.
-/
namespace PolicyAgent.Time

def isLeapYear (year : Nat) : Bool :=
  year % 4 = 0 && (year % 100 ≠ 0 || year % 400 = 0)

def daysInMonth (year month : Nat) : Nat :=
  if month = 2 then if isLeapYear year then 29 else 28
  else if month = 4 ∨ month = 6 ∨ month = 9 ∨ month = 11 then 30
  else 31

def daysBeforeMonth (year month : Nat) : Nat :=
  (List.range (month - 1)).foldl (fun days m => days + daysInMonth year (m + 1)) 0

def daysBeforeYear (year : Nat) : Nat :=
  365 * (year - 1) + (year - 1) / 4 - (year - 1) / 100 + (year - 1) / 400

def leastYear : Nat := 1

def greatestYear : Nat := 9999

inductive FieldError
  | year (n : Nat)
  | month
  | day
  | hour
  | minute
  | second
  deriving DecidableEq, Repr

def FieldError.message : FieldError → String
  | .year n => s!"year {n} is out of range"
  | .month => "month must be in 1..12"
  | .day => "day is out of range for month"
  | .hour => "hour must be in 0..23"
  | .minute => "minute must be in 0..59"
  | .second => "second must be in 0..59"

structure Day where
  year : Nat
  month : Nat
  day : Nat
  year_ge : leastYear ≤ year
  year_le : year ≤ greatestYear
  month_ge : 1 ≤ month
  month_le : month ≤ 12
  day_ge : 1 ≤ day
  day_le : day ≤ daysInMonth year month
  deriving DecidableEq

namespace Day

/-- The day with the given numbers, or the first of them that is out of range. -/
def ofNumbers (year month day : Nat) : Except FieldError Day :=
  if hy : leastYear ≤ year ∧ year ≤ greatestYear then
    if hm : 1 ≤ month ∧ month ≤ 12 then
      if hd : 1 ≤ day ∧ day ≤ daysInMonth year month then
        .ok ⟨year, month, day, hy.1, hy.2, hm.1, hm.2, hd.1, hd.2⟩
      else .error .day
    else .error .month
  else .error (.year year)

theorem ofNumbers_eq (d : Day) : ofNumbers d.year d.month d.day = .ok d := by
  simp [ofNumbers, d.year_ge, d.year_le, d.month_ge, d.month_le, d.day_ge, d.day_le]

/-- The number of a day, zero for the first of January of the year 1. -/
def number (d : Day) : Nat :=
  daysBeforeYear d.year + daysBeforeMonth d.year d.month + (d.day - 1)

/-- The month and day with a given number of days before them in the year; months from
`month` on are tried, as many as `fuel`. -/
def monthAndDay (year : Nat) : (fuel month rest : Nat) → Nat × Nat
  | 0, month, rest => (month, rest + 1)
  | fuel + 1, month, rest =>
    if rest < daysInMonth year month then (month, rest + 1)
    else monthAndDay year fuel (month + 1) (rest - daysInMonth year month)

/-- The year and the number of days before a day in it. Four centuries have 146097 days, a
century 36524, four years 1461; the last century and year of a group may be a day longer. -/
def yearAndRest (number : Nat) : Nat × Nat :=
  let eras := number / 146097
  let inEra := number % 146097
  let centuries := min 3 (inEra / 36524)
  let inCentury := inEra - centuries * 36524
  let quads := inCentury / 1461
  let inQuad := inCentury % 1461
  let years := min 3 (inQuad / 365)
  (400 * eras + 100 * centuries + 4 * quads + years + 1, inQuad - years * 365)

def ofNumber (number : Nat) : Except FieldError Day :=
  let (year, rest) := yearAndRest number
  let (month, day) := monthAndDay year 11 1 rest
  ofNumbers year month day

end Day

structure TimeOfDay where
  hour : Nat
  minute : Nat
  second : Nat
  micro : Nat
  hour_lt : hour < 24
  minute_lt : minute < 60
  second_lt : second < 60
  micro_lt : micro < 1000000
  deriving DecidableEq

namespace TimeOfDay

/-- The time with the given numbers, or the first of them that is out of range.
Microseconds are counted within the second. -/
def ofNumbers (hour minute second micro : Nat) : Except FieldError TimeOfDay :=
  if hh : hour < 24 then
    if hm : minute < 60 then
      if hs : second < 60 then
        .ok ⟨hour, minute, second, micro % 1000000, hh, hm, hs, Nat.mod_lt _ (by decide)⟩
      else .error .second
    else .error .minute
  else .error .hour

theorem ofNumbers_eq (t : TimeOfDay) : ofNumbers t.hour t.minute t.second t.micro = .ok t := by
  simp [ofNumbers, t.hour_lt, t.minute_lt, t.second_lt, Nat.mod_eq_of_lt t.micro_lt]

def micros (t : TimeOfDay) : Nat :=
  ((t.hour * 60 + t.minute) * 60 + t.second) * 1000000 + t.micro

def ofMicros (n : Nat) : TimeOfDay :=
  { hour := n / 3600000000 % 24
    minute := n / 60000000 % 60
    second := n / 1000000 % 60
    micro := n % 1000000
    hour_lt := Nat.mod_lt _ (by decide)
    minute_lt := Nat.mod_lt _ (by decide)
    second_lt := Nat.mod_lt _ (by decide)
    micro_lt := Nat.mod_lt _ (by decide) }

def truncate (t : TimeOfDay) : TimeOfDay := { t with micro := 0, micro_lt := by decide }

end TimeOfDay

end PolicyAgent.Time
