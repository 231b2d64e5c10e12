import PolicyAgent.Proofs.Time.Fraction
import PolicyAgent.Proofs.Time.Instant

/-!
# Spellings of timestamps

A timestamp can be spelt in many ways: the letters large or small, the fraction with any number
of digits, the distance from UTC in hours and minutes or, for UTC, as a letter. The reader takes
some liberties more. The digits of a fraction that do not count may be of any script, the minutes
of a distance may pass 59, and a line feed may end the text. Each spelling is read as the
timestamp that it spells, at its exact value but for what is less than a microsecond.
-/
namespace PolicyAgent.Time

open PolicyAgent.Text PolicyAgent.Decimal

/-- The end of a timestamp: a letter for UTC, or sign, hours and minutes of the distance from it,
which is less than a day. -/
inductive Zone
  | utc (isSmall : Bool)
  | distance (isBehind : Bool) (hours minutes : Nat) (lt : hours * 60 + minutes < 1440)
      (minutes_lt : minutes < 100)

namespace Zone

def minutes : Zone → Nat
  | utc _ => 0
  | distance _ _ minutes _ _ => minutes

def chars : Zone → List Char
  | utc isSmall => [if isSmall then 'z' else 'Z']
  | distance isBehind hours minutes _ _ =>
    (if isBehind then '-' else '+') :: (twoDigits hours ++ ':' :: twoDigits minutes)

/-- Seconds by which the local clock is ahead of UTC. -/
def seconds : Zone → Int
  | utc _ => 0
  | distance isBehind hours minutes _ _ =>
    if isBehind then -((hours * 60 + minutes) * 60) else (hours * 60 + minutes) * 60

def offset (zone : Zone) : Offset where
  seconds := zone.seconds
  gt := by
    cases zone with
    | utc isSmall => exact (by decide : (-86400 : Int) < 0)
    | distance isBehind hours minutes lt =>
      cases isBehind <;> simp [seconds] <;> omega
  lt := by
    cases zone with
    | utc isSmall => exact (by decide : (0 : Int) < 86400)
    | distance isBehind hours minutes lt =>
      cases isBehind <;> simp [seconds] <;> omega

end Zone

/-- A fraction behind its point; nothing for no digits. -/
def fractionChars (fraction : List Char) : List Char :=
  if fraction = [] then [] else '.' :: fraction

/-- What a text shows of a day and a time, be they in range or not. -/
structure Layout where
  year : Nat
  month : Nat
  day : Nat
  isSmall : Bool
  hour : Nat
  minute : Nat
  second : Nat
  fraction : List Char
  zone : Zone

namespace Layout

def date (l : Layout) : List Char :=
  fourDigits l.year ++ '-' :: twoDigits l.month ++ '-' :: twoDigits l.day

def clock (l : Layout) : List Char :=
  twoDigits l.hour ++ ':' :: twoDigits l.minute ++ ':' :: twoDigits l.second

def mark (l : Layout) : Char := if l.isSmall then 't' else 'T'

def chars (l : Layout) : List Char :=
  l.date ++ l.mark :: (l.clock ++ fractionChars l.fraction ++ l.zone.chars)

end Layout

/-- A text that the reader takes for a timestamp. -/
structure Spelling where
  day : Day
  isSmall : Bool
  hour : Nat
  minute : Nat
  second : Nat
  fraction : List Char
  zone : Zone
  hasLineFeed : Bool
  hour_lt : hour < 24
  minute_lt : minute < 60
  second_lt : second < 60
  digits : ∀ c ∈ fraction, (decimalDigit? c).isSome = true
  ascii : ∀ c ∈ fraction.take 6, (asciiDigit? c).isSome = true

def feedChars (hasLineFeed : Bool) : List Char := if hasLineFeed then ['\n'] else []

namespace Spelling

variable (s : Spelling)

def layout : Layout where
  year := s.day.year
  month := s.day.month
  day := s.day.day
  isSmall := s.isSmall
  hour := s.hour
  minute := s.minute
  second := s.second
  fraction := s.fraction
  zone := s.zone

def chars : List Char := s.layout.chars ++ feedChars s.hasLineFeed

def text : String := String.ofList s.chars

def timestamp : Timestamp where
  day := s.day
  time := ⟨s.hour, s.minute, s.second, microsOf s.fraction, s.hour_lt, s.minute_lt, s.second_lt,
    microsOf_lt _⟩
  offset := some s.zone.offset

/-- The moment that is spelt, in seconds from the beginning of the year 1, UTC. -/
def moment : ℚ :=
  (s.day.number * 86400 + (s.hour * 60 + s.minute) * 60 + s.second : ℕ) - s.zone.seconds
    + partOfSecond s.fraction

/-- Whole microseconds are all that a timestamp leaves off. -/
theorem instant_timestamp : s.timestamp.instant = ⌊s.moment * 1000000⌋ := by
  have hmoment : s.moment * 1000000
      = ((((s.day.number * 86400 + (s.hour * 60 + s.minute) * 60 + s.second : ℕ) : ℤ)
          - s.zone.seconds) * 1000000 : ℤ) + partOfSecond s.fraction * 1000000 := by
    rw [moment]
    push_cast
    ring
  rw [hmoment, Int.floor_intCast_add, floor_partOfSecond]
  simp only [Timestamp.instant, Timestamp.localMicros, Timestamp.offsetSeconds, timestamp,
    TimeOfDay.micros, Option.getD_some, Zone.offset]
  push_cast
  ring

end Spelling

def Zone.capital : Zone → List Char
  | utc _ => ['Z']
  | zone => zone.chars

theorem uppercaseChars_zoneChars (zone : Zone) : uppercaseChars zone.chars = zone.capital := by
  have hcolon : uppercaseChar ':' = [':'] := by decide
  cases zone with
  | utc isSmall => cases isSmall <;> decide
  | distance isBehind hours minutes =>
    have hsign : uppercaseChar (if isBehind then '-' else '+')
        = [if isBehind then '-' else '+'] := by
      cases isBehind <;> decide
    simp [Zone.capital, Zone.chars, hsign, hcolon]

theorem uppercaseChars_feedChars (hasLineFeed : Bool) :
    uppercaseChars (feedChars hasLineFeed) = feedChars hasLineFeed := by
  cases hasLineFeed <;> decide

theorem uppercaseChars_digits {cs : List Char} (h : ∀ c ∈ cs, (decimalDigit? c).isSome = true) :
    uppercaseChars cs = cs := by
  rw [uppercaseChars, List.flatMap_congr fun c hc => uppercaseChar_eq_self_of_digit (h c hc),
    List.flatMap_singleton']

theorem uppercaseChars_fractionChars {fraction : List Char}
    (h : ∀ c ∈ fraction, (decimalDigit? c).isSome = true) :
    uppercaseChars (fractionChars fraction) = fractionChars fraction := by
  have hpoint : uppercaseChar '.' = ['.'] := by decide
  unfold fractionChars
  split_ifs
  · rfl
  · simp [hpoint, uppercaseChars_digits h]

theorem Layout.uppercaseChars_mark (l : Layout) : uppercaseChar l.mark = ['T'] := by
  unfold mark
  split_ifs <;> decide

theorem Layout.uppercaseChars_chars {l : Layout}
    (h : ∀ c ∈ l.fraction, (decimalDigit? c).isSome = true) :
    uppercaseChars l.chars
      = l.date ++ 'T' :: (l.clock ++ fractionChars l.fraction ++ l.zone.capital) := by
  have hdash : uppercaseChar '-' = ['-'] := by decide
  have hcolon : uppercaseChar ':' = [':'] := by decide
  simp [chars, date, clock, hdash, hcolon, l.uppercaseChars_mark,
    uppercaseChars_fractionChars h, uppercaseChars_zoneChars]

namespace Spelling

variable (s : Spelling)

theorem clock_timestamp : s.timestamp.clock = s.layout.date ++ 'T' :: s.layout.clock := by
  simp [Timestamp.clock, Timestamp.writtenAfterYear, Layout.date, Layout.clock, layout, timestamp]

theorem uppercaseChars_chars :
    uppercaseChars s.chars = s.timestamp.clock ++
      (fractionChars s.fraction ++ (s.zone.capital ++ feedChars s.hasLineFeed)) := by
  have hlayout := Layout.uppercaseChars_chars (l := s.layout) s.digits
  rw [chars, uppercaseChars_append, hlayout, uppercaseChars_feedChars, clock_timestamp]
  simp [layout]

end Spelling

def Zone.read : Zone → List Char
  | utc _ => zeroOffset
  | zone => zone.chars

section

variable (zone : Zone) (hasLineFeed : Bool)

theorem takeOffset?_capital :
    takeOffset? (zone.capital ++ feedChars hasLineFeed) = some zone.read := by
  cases zone with
  | utc isSmall => cases hasLineFeed <;> rfl
  | distance isBehind hours minutes =>
    have hfills : Fills offsetSlots (twoDigits hours ++ ':' :: twoDigits minutes) := by
      simp [Fills, offsetSlots, twoDigits, takes_mod_digitChar, takes_mark]
    have htake := takeSlots?_append hfills (feedChars hasLineFeed)
    simp only [List.append_assoc, List.cons_append] at htake
    have hfeed : feedChars hasLineFeed = [] ∨ feedChars hasLineFeed = ['\n'] := by
      cases hasLineFeed
      · exact .inl rfl
      · exact .inr rfl
    cases isBehind <;>
      simp [Zone.capital, Zone.chars, Zone.read, takeOffset?, htake, hfeed]

theorem takeFractionOfAnyScript_append {fraction : List Char}
    (h : ∀ c ∈ fraction, (decimalDigit? c).isSome = true) :
    takeFractionOfAnyScript (fractionChars fraction ++ (zone.capital ++ feedChars hasLineFeed))
      = (fraction, zone.capital ++ feedChars hasLineFeed) := by
  obtain ⟨c, rest, heq, hdigit, hpoint⟩ : ∃ c rest,
      zone.capital ++ feedChars hasLineFeed = c :: rest ∧ (decimalDigit? c).isSome = false ∧
        c ≠ '.' := by
    cases zone with
    | utc isSmall => exact ⟨_, _, rfl, by decide, by decide⟩
    | distance isBehind hours minutes =>
      refine ⟨_, _, rfl, ?_, ?_⟩ <;> cases isBehind <;> decide
  rw [heq]
  by_cases hempty : fraction = []
  · subst hempty
    simp [fractionChars, takeFractionOfAnyScript, hpoint]
  · have htake : (fraction ++ c :: rest).takeWhile (fun c => (decimalDigit? c).isSome)
        = fraction := by
      rw [List.takeWhile_append_of_pos h, List.takeWhile_cons_of_neg (by simp [hdigit]),
        List.append_nil]
    simp only [fractionChars, if_neg hempty, List.cons_append, takeFractionOfAnyScript]
    rw [htake]
    cases fraction with
    | nil => exact absurd rfl hempty
    | cons d fraction => simp

theorem numberAt?_read : ∃ hours minutes : Nat,
    numberAt? zone.read 1 2 = some hours ∧ numberAt? zone.read 4 2 = some minutes ∧
      (if zone.read.head? = some '-' then -(((hours * 60 + minutes) * 60 : Nat) : Int)
        else ((hours * 60 + minutes) * 60 : Nat)) = zone.seconds := by
  cases zone with
  | utc isSmall => exact ⟨0, 0, rfl, rfl, rfl⟩
  | distance isBehind hours minutes lt minutes_lt =>
    refine ⟨hours, minutes, number?_twoDigits (by omega), number?_twoDigits minutes_lt, ?_⟩
    cases isBehind <;> simp [Zone.read, Zone.chars, Zone.seconds]

end

namespace Spelling

variable (s : Spelling)

theorem ofChars?_chars : Shape.ofChars? (uppercaseChars s.chars)
    = some ⟨s.timestamp.clock, s.fraction, s.zone.read⟩ := by
  rw [uppercaseChars_chars]
  simp [Shape.ofChars?, takeSlots?_append s.timestamp.fills_clock,
    takeFractionOfAnyScript_append s.zone s.hasLineFeed s.digits, takeOffset?_capital]

theorem numbers?_layout : Shape.numbers? ⟨s.timestamp.clock, s.fraction, s.zone.read⟩
    = some ⟨s.day.year, s.day.month, s.day.day, s.hour, s.minute, s.second, microsOf s.fraction,
        s.zone.seconds⟩ := by
  obtain ⟨hyear, hmonth, hday, hhour, hminute, hsecond⟩ := s.timestamp.numberAt?_clock
  obtain ⟨hours, minutes, hhours, hminutes, hseconds⟩ := numberAt?_read s.zone
  push_cast at hseconds
  simp only [Shape.numbers?, hyear, hmonth, hday, hhour, hminute, hsecond,
    number?_sixDigits s.ascii, hhours, hminutes, hseconds, Option.bind_eq_bind, Option.bind_some,
    Option.pure_def]
  rfl

theorem timestamp_numbers : Numbers.timestamp ⟨s.day.year, s.day.month, s.day.day, s.hour,
    s.minute, s.second, microsOf s.fraction, s.zone.seconds⟩ = .ok s.timestamp := by
  have hoffset : Offset.ofSeconds? s.zone.seconds = some s.zone.offset :=
    Offset.ofSeconds?_eq s.zone.offset
  have htime : TimeOfDay.ofNumbers s.hour s.minute s.second (microsOf s.fraction)
      = .ok s.timestamp.time := TimeOfDay.ofNumbers_eq s.timestamp.time
  simp only [Numbers.timestamp, hoffset, Day.ofNumbers_eq, htime]
  rfl

/-- A spelling is read as the timestamp that it spells. -/
theorem readRfc3339_spelling : Timestamp.readRfc3339 s.text = .ok s.timestamp := by
  simp only [Timestamp.readRfc3339, text, String.toList_ofList, ofChars?_chars, numbers?_layout,
    timestamp_numbers]

/-- A spelling is read at its exact value: the fields are those that it shows, of which the
fraction is cut to microseconds, and timestamps compare as the moments that are spelt, cut in the
same way. -/
theorem readRfc3339_exact (s u : Spelling) :
    Timestamp.readRfc3339 s.text
        = .ok ⟨s.day, ⟨s.hour, s.minute, s.second, microsOf s.fraction, s.hour_lt, s.minute_lt,
            s.second_lt, microsOf_lt _⟩, some s.zone.offset⟩ ∧
      (s.timestamp.instant ≤ u.timestamp.instant ↔
        ⌊s.moment * 1000000⌋ ≤ ⌊u.moment * 1000000⌋) := by
  refine ⟨s.readRfc3339_spelling, ?_⟩
  rw [instant_timestamp, instant_timestamp]

/-- Fractions of any length, small letters and offsets to both sides are read. -/
example : (Timestamp.readRfc3339 "2024-02-29t23:59:59.5z").toOption.map (·.time.micro)
      = some 500000 ∧
    (Timestamp.readRfc3339 "0001-01-01T00:00:00.0000019-23:59").toOption.map (·.instant)
      = some 86340000001 := by decide +kernel

end Spelling

end PolicyAgent.Time
