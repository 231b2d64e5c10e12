import Mathlib.Data.List.Forall2
import Mathlib.Tactic.IntervalCases
import PolicyAgent.Time.Rfc3339

/-!
# Reading a written timestamp

A timestamp is written to the second, and the reader takes every field at its place. So a
timestamp comes back cut down to the second if its offset has whole minutes and its year keeps
its four digits. In UTC a year before 1000 is written with fewer, and nothing can be read back.
-/
namespace PolicyAgent.Time

open PolicyAgent.Text PolicyAgent.Decimal

theorem asciiDigit?_digitChar {d : Nat} (h : d < 10) : asciiDigit? d.digitChar = some d := by
  interval_cases d <;> decide

theorem decimalDigit?_digitChar_isSome {d : Nat} (h : d < 10) :
    (decimalDigit? d.digitChar).isSome = true := by
  interval_cases d <;> decide

theorem digitChar_eq_zero_iff {d : Nat} (h : d < 10) : d.digitChar = '0' ↔ d = 0 := by
  interval_cases d <;> decide

theorem uppercaseChar_digitChar {d : Nat} (h : d < 10) :
    uppercaseChar d.digitChar = [d.digitChar] := by
  interval_cases d <;> decide

@[simp] theorem uppercaseChars_twoDigits (n : Nat) :
    uppercaseChars (twoDigits n) = twoDigits n := by
  simp [twoDigits, uppercaseChar_digitChar, Nat.mod_lt]

@[simp] theorem uppercaseChars_fourDigits (n : Nat) :
    uppercaseChars (fourDigits n) = fourDigits n := by
  simp [fourDigits]

theorem number?_twoDigits {n : Nat} (h : n < 100) : number? (twoDigits n) = some n := by
  have hd (m : Nat) : asciiDigit? (m % 10).digitChar = some (m % 10) :=
    asciiDigit?_digitChar (Nat.mod_lt _ (by decide))
  simp only [number?, twoDigits, List.mapM_cons, List.mapM_nil, hd, ofDigits, Option.pure_def,
    Option.bind_eq_bind, Option.bind_some, Option.map_some, List.foldl_cons, List.foldl_nil]
  congr 1
  omega

theorem number?_fourDigits {n : Nat} (h : n < 10000) : number? (fourDigits n) = some n := by
  have hd (m : Nat) : asciiDigit? (m % 10).digitChar = some (m % 10) :=
    asciiDigit?_digitChar (Nat.mod_lt _ (by decide))
  simp only [number?, fourDigits, twoDigits, List.cons_append, List.nil_append, List.mapM_cons,
    List.mapM_nil, hd, ofDigits, Option.pure_def, Option.bind_eq_bind, Option.bind_some,
    Option.map_some, List.foldl_cons, List.foldl_nil]
  congr 1
  omega

/-- Characters fill a pattern place by place. -/
def Fills (slots : List Slot) (cs : List Char) : Prop :=
  List.Forall₂ (fun slot c => slot.takes c = true) slots cs

theorem takeSlots?_append {slots : List Slot} {cs : List Char} (h : Fills slots cs)
    (rest : List Char) : takeSlots? slots (cs ++ rest) = some (cs, rest) := by
  induction h with
  | nil => rfl
  | cons hc _ ih => simp [takeSlots?, hc, ih]

theorem takes_mod_digitChar (n : Nat) : Slot.digit.takes (n % 10).digitChar = true :=
  decimalDigit?_digitChar_isSome (Nat.mod_lt _ (by decide))

theorem takes_mark (c : Char) : (Slot.mark c).takes c = true := beq_self_eq_true c

theorem Day.numbers_lt (d : Day) : d.year < 10000 ∧ d.month < 100 ∧ d.day < 100 := by
  refine ⟨Nat.lt_succ_of_le d.year_le, Nat.lt_of_le_of_lt d.month_le (by decide),
    Nat.lt_of_le_of_lt d.day_le ?_⟩
  unfold daysInMonth
  split_ifs <;> decide

namespace Timestamp

/-- The local day and time to the second, with four digits of the year. -/
def clock (t : Timestamp) : List Char := fourDigits t.day.year ++ t.writtenAfterYear

theorem fills_clock (t : Timestamp) : Fills localSlots t.clock := by
  simp [Fills, clock, localSlots, fourDigits, writtenAfterYear, twoDigits, takes_mod_digitChar,
    takes_mark]

@[simp] theorem uppercaseChars_clock (t : Timestamp) : uppercaseChars t.clock = t.clock := by
  have hdash : uppercaseChar '-' = ['-'] := by decide
  have hcolon : uppercaseChar ':' = [':'] := by decide
  have hmark : uppercaseChar 'T' = ['T'] := by decide
  simp [clock, writtenAfterYear, hdash, hcolon, hmark]

theorem numberAt?_clock (t : Timestamp) :
    numberAt? t.clock 0 4 = some t.day.year ∧ numberAt? t.clock 5 2 = some t.day.month ∧
      numberAt? t.clock 8 2 = some t.day.day ∧ numberAt? t.clock 11 2 = some t.time.hour ∧
      numberAt? t.clock 14 2 = some t.time.minute ∧
      numberAt? t.clock 17 2 = some t.time.second := by
  obtain ⟨hyear, hmonth, hday⟩ := t.day.numbers_lt
  have hhour : t.time.hour < 100 := Nat.lt_trans t.time.hour_lt (by decide)
  have hminute : t.time.minute < 100 := Nat.lt_trans t.time.minute_lt (by decide)
  have hsecond : t.time.second < 100 := Nat.lt_trans t.time.second_lt (by decide)
  exact ⟨number?_fourDigits hyear, number?_twoDigits hmonth, number?_twoDigits hday,
    number?_twoDigits hhour, number?_twoDigits hminute, number?_twoDigits hsecond⟩

end Timestamp

namespace Offset

def hoursAndMinutes (o : Offset) : List Char :=
  twoDigits (o.seconds.natAbs / 3600) ++ ':' :: twoDigits (o.seconds.natAbs / 60 % 60)

theorem written_of_dvd {o : Offset} (h : 60 ∣ o.seconds) :
    o.written = (if o.seconds < 0 then '-' else '+') :: o.hoursAndMinutes := by
  have hrest : o.seconds.natAbs % 60 = 0 := by omega
  simp [written, hoursAndMinutes, hrest]

theorem written_of_not_dvd {o : Offset} (h : ¬ 60 ∣ o.seconds) :
    o.written = (if o.seconds < 0 then '-' else '+') ::
      (o.hoursAndMinutes ++ ':' :: twoDigits (o.seconds.natAbs % 60)) := by
  have hrest : o.seconds.natAbs % 60 ≠ 0 := by omega
  simp [written, hoursAndMinutes, hrest]

theorem seconds_of_written {o : Offset} (h : 60 ∣ o.seconds) {distance : Int}
    (hdistance : distance
      = ((o.seconds.natAbs / 3600 : Nat) * 60 + (o.seconds.natAbs / 60 % 60 : Nat)) * 60) :
    (if o.written.head? = some '-' then -distance else distance) = o.seconds := by
  rw [written_of_dvd h, List.head?_cons]
  by_cases hneg : o.seconds < 0
  · rw [if_pos hneg, if_pos rfl]
    omega
  · rw [if_neg hneg, if_neg (by decide)]
    omega

theorem uppercaseChars_written (o : Offset) : uppercaseChars o.written = o.written := by
  have hminus : uppercaseChar '-' = ['-'] := by decide
  have hplus : uppercaseChar '+' = ['+'] := by decide
  have hcolon : uppercaseChar ':' = [':'] := by decide
  unfold written
  dsimp only
  split_ifs <;> simp [hminus, hplus, hcolon]

theorem fills_hoursAndMinutes (o : Offset) : Fills offsetSlots o.hoursAndMinutes := by
  simp [Fills, hoursAndMinutes, offsetSlots, twoDigits, takes_mod_digitChar, takes_mark]

theorem takeOffset?_written {o : Offset} (h : 60 ∣ o.seconds) :
    takeOffset? o.written = some o.written := by
  have htake := takeSlots?_append o.fills_hoursAndMinutes []
  rw [List.append_nil] at htake
  rw [written_of_dvd h]
  split_ifs <;> simp [takeOffset?, htake]

/-- The seconds of an offset stand where the text has to end. -/
theorem takeOffset?_written_of_not_dvd {o : Offset} (h : ¬ 60 ∣ o.seconds) :
    takeOffset? o.written = none := by
  rw [written_of_not_dvd h]
  split_ifs <;> simp [takeOffset?, takeSlots?_append o.fills_hoursAndMinutes]

theorem numberAt?_written {o : Offset} (h : 60 ∣ o.seconds) :
    numberAt? o.written 1 2 = some (o.seconds.natAbs / 3600) ∧
      numberAt? o.written 4 2 = some (o.seconds.natAbs / 60 % 60) := by
  have hlt : o.seconds.natAbs < 86400 := by
    have := o.gt
    have := o.lt
    omega
  rw [written_of_dvd h]
  exact ⟨number?_twoDigits (by omega), number?_twoDigits (by omega)⟩

end Offset

namespace Timestamp

/-- What is written of the timestamp can be read: its offset has whole minutes and its year is
written with four digits. -/
def IsReadable (t : Timestamp) : Prop :=
  60 ∣ t.offsetSeconds ∧ (t.offsetSeconds ≠ 0 ∨ 1000 ≤ t.day.year)

instance (t : Timestamp) : Decidable t.IsReadable :=
  inferInstanceAs (Decidable (_ ∧ _))

def zone (t : Timestamp) : List Char :=
  if t.offsetSeconds = 0 then ['Z'] else (t.offset.getD .utc).written

def readZone (t : Timestamp) : List Char :=
  if t.offsetSeconds = 0 then zeroOffset else (t.offset.getD .utc).written

theorem significantDigits_eq {n : Nat} (h : 1000 ≤ n) (h' : n < 10000) :
    significantDigits n = fourDigits n := by
  have hhead : (n / 100 / 10 % 10).digitChar ≠ '0' := by
    rw [Ne, digitChar_eq_zero_iff (Nat.mod_lt _ (by decide))]
    omega
  simp [significantDigits, fourDigits, twoDigits, hhead]

/-- The text is the clock and the offset, unless a year in UTC loses leading zeros. -/
theorem rfc3339Chars_eq {t : Timestamp} (h : t.offsetSeconds ≠ 0 ∨ 1000 ≤ t.day.year) :
    t.rfc3339Chars = t.clock ++ t.zone := by
  by_cases hutc : t.offsetSeconds = 0
  · have hyear : 1000 ≤ t.day.year := h.resolve_left (absurd hutc)
    have hdigits := significantDigits_eq hyear (Nat.lt_succ_of_le t.day.year_le)
    have hutc' : (t.offset.getD .utc).seconds = 0 := hutc
    simp [rfc3339Chars, zone, clock, hutc, hutc', hdigits]
  · have hutc' : (t.offset.getD .utc).seconds ≠ 0 := hutc
    simp [rfc3339Chars, zone, clock, hutc, hutc']

theorem uppercaseChars_zone (t : Timestamp) : uppercaseChars t.zone = t.zone := by
  unfold zone
  split_ifs with hutc
  · decide
  · exact Offset.uppercaseChars_written _

theorem takeOffset?_zone {t : Timestamp} (h : 60 ∣ t.offsetSeconds) :
    takeOffset? t.zone = some t.readZone := by
  unfold zone readZone
  split_ifs with hutc
  · rfl
  · exact Offset.takeOffset?_written h

theorem takeFractionOfAnyScript_zone (t : Timestamp) :
    takeFractionOfAnyScript t.zone = ([], t.zone) := by
  unfold zone
  split_ifs with hutc
  · rfl
  · unfold Offset.written
    dsimp only
    split_ifs <;> rfl

theorem ofChars?_rfc3339Chars {t : Timestamp} (h : t.IsReadable) :
    Shape.ofChars? (uppercaseChars t.rfc3339Chars) = some ⟨t.clock, [], t.readZone⟩ := by
  rw [rfc3339Chars_eq h.2, uppercaseChars_append, uppercaseChars_clock, uppercaseChars_zone]
  simp [Shape.ofChars?, takeSlots?_append t.fills_clock, takeFractionOfAnyScript_zone,
    takeOffset?_zone h.1]

/-- The numbers that a timestamp is written with, of which the microseconds are left out. -/
def numbers (t : Timestamp) : Numbers :=
  ⟨t.day.year, t.day.month, t.day.day, t.time.hour, t.time.minute, t.time.second, 0,
    t.offsetSeconds⟩

theorem numbers?_shape {t : Timestamp} (h : 60 ∣ t.offsetSeconds) :
    Shape.numbers? ⟨t.clock, [], t.readZone⟩ = some t.numbers := by
  obtain ⟨hyear, hmonth, hday, hhour, hminute, hsecond⟩ := t.numberAt?_clock
  have hfraction : number? (sixDigits []) = some 0 := by decide
  by_cases hutc : t.offsetSeconds = 0
  · have hhours : numberAt? zeroOffset 1 2 = some 0 := by decide
    have hminutes : numberAt? zeroOffset 4 2 = some 0 := by decide
    simp [Shape.numbers?, readZone, numbers, hutc, hyear, hmonth, hday, hhour, hminute, hsecond,
      hfraction, hhours, hminutes]
  · obtain ⟨hhours, hminutes⟩ := Offset.numberAt?_written h
    simp only [Shape.numbers?, readZone, numbers, hutc, hyear, hmonth, hday, hhour, hminute,
      hsecond, hfraction, hhours, hminutes, ↓reduceIte, Option.bind_eq_bind, Option.bind_some,
      Option.pure_def, Offset.seconds_of_written h rfl]
    rfl

theorem timestamp_numbers (t : Timestamp) : t.numbers.timestamp = .ok t.truncate.withOffset := by
  have hoffset : Offset.ofSeconds? t.offsetSeconds = some (t.offset.getD .utc) :=
    Offset.ofSeconds?_eq _
  have htime : TimeOfDay.ofNumbers t.time.hour t.time.minute t.time.second 0
      = .ok t.time.truncate := TimeOfDay.ofNumbers_eq t.time.truncate
  simp only [numbers, Numbers.timestamp, hoffset, Day.ofNumbers_eq, htime]
  rfl

/-- A readable timestamp is read as itself, cut down to the second. -/
theorem readRfc3339_rfc3339 {t : Timestamp} (h : t.IsReadable) :
    readRfc3339 t.rfc3339 = .ok t.truncate.withOffset := by
  simp only [readRfc3339, rfc3339, String.toList_ofList, ofChars?_rfc3339Chars h,
    numbers?_shape h.1, timestamp_numbers]

theorem uppercaseChars_significantDigits (n : Nat) :
    uppercaseChars (significantDigits n) = significantDigits n := by
  have hfixed : ∀ c ∈ significantDigits n, uppercaseChar c = [c] := by
    intro c hc
    have hc' : c ∈ fourDigits n := (List.dropWhile_suffix _).subset hc
    simp only [fourDigits, twoDigits, List.cons_append, List.nil_append, List.mem_cons,
      List.not_mem_nil, or_false] at hc'
    rcases hc' with rfl | rfl | rfl | rfl <;>
      exact uppercaseChar_digitChar (Nat.mod_lt _ (by decide))
  rw [uppercaseChars, List.flatMap_congr hfixed, List.flatMap_singleton']

theorem length_significantDigits_lt {n : Nat} (h : n < 1000) :
    (significantDigits n).length < 4 := by
  have hzero : n / 100 / 10 % 10 = 0 := by omega
  have hsuffix : significantDigits n
      = ((n / 100 % 10).digitChar :: twoDigits (n % 100)).dropWhile (· = '0') := by
    simp [significantDigits, fourDigits, twoDigits, hzero]
  rw [hsuffix]
  exact Nat.lt_succ_of_le (List.dropWhile_suffix _).length_le

theorem takeSlots?_early_dash {digits : List Char} (h : digits.length < 4) (rest : List Char) :
    takeSlots? localSlots (digits ++ '-' :: rest) = none := by
  have hdash : Slot.digit.takes '-' = false := by decide
  rcases digits with _ | ⟨a, _ | ⟨b, _ | ⟨c, _ | ⟨d, digits⟩⟩⟩⟩
  · simp [takeSlots?, localSlots, hdash]
  · simp [takeSlots?, localSlots, hdash]
  · simp [takeSlots?, localSlots, hdash]
  · simp [takeSlots?, localSlots, hdash]
  · simp at h
    omega

/-- In UTC a year before 1000 is written with less than four digits, and a dash stands where the
reader wants a digit. -/
theorem ofChars?_early_year {t : Timestamp} (hutc : t.offsetSeconds = 0)
    (hyear : t.day.year < 1000) : Shape.ofChars? (uppercaseChars t.rfc3339Chars) = none := by
  have hutc' : (t.offset.getD .utc).seconds = 0 := hutc
  have hdash : uppercaseChar '-' = ['-'] := by decide
  have hchars : uppercaseChars t.rfc3339Chars = significantDigits t.day.year ++ '-' ::
      uppercaseChars (t.writtenAfterYear.tail ++ ['Z']) := by
    simp [rfc3339Chars, hutc', writtenAfterYear, uppercaseChars_significantDigits, hdash]
  rw [hchars]
  simp [Shape.ofChars?, takeSlots?_early_dash (length_significantDigits_lt hyear)]

theorem ofChars?_of_not_dvd {t : Timestamp} (h : ¬ 60 ∣ t.offsetSeconds) :
    Shape.ofChars? (uppercaseChars t.rfc3339Chars) = none := by
  have hutc : t.offsetSeconds ≠ 0 := fun hzero => h (hzero ▸ dvd_zero _)
  have hzone : takeOffset? t.zone = none := by
    rw [zone, if_neg hutc]
    exact Offset.takeOffset?_written_of_not_dvd h
  rw [rfc3339Chars_eq (.inl hutc), uppercaseChars_append, uppercaseChars_clock, uppercaseChars_zone]
  simp [Shape.ofChars?, takeSlots?_append t.fills_clock, takeFractionOfAnyScript_zone, hzone]

theorem readRfc3339_of_not_isReadable {t : Timestamp} (h : ¬ t.IsReadable) :
    readRfc3339 t.rfc3339 = .error (.shape t.rfc3339) := by
  have hshape : Shape.ofChars? (uppercaseChars t.rfc3339Chars) = none := by
    by_cases hwhole : 60 ∣ t.offsetSeconds
    · obtain ⟨hutc, hyear⟩ := not_or.1 (not_and.1 h hwhole)
      exact ofChars?_early_year (not_not.1 hutc) (Nat.lt_of_not_le hyear)
    · exact ofChars?_of_not_dvd hwhole
  simp only [readRfc3339, rfc3339, String.toList_ofList, hshape]

theorem readRfc3339_early_year {t : Timestamp} (hutc : t.offsetSeconds = 0)
    (hyear : t.day.year < 1000) : ∃ e, readRfc3339 t.rfc3339 = .error e := by
  refine ⟨_, readRfc3339_of_not_isReadable fun h => ?_⟩
  exact absurd (h.2.resolve_left (absurd hutc)) (Nat.not_le.2 hyear)

end Timestamp

end PolicyAgent.Time
