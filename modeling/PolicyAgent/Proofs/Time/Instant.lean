import Mathlib.Order.Monotone.Basic
import Mathlib.Tactic.IntervalCases
import PolicyAgent.Proofs.Time.Written

/-!
# Instants

Offsets are whole seconds, so to cut a timestamp down to the second is to round its instant
down. What is written of a timestamp is read back as the timestamp cut down in this way, or not at
all. The year of a UTC timestamp is known from its instant; of the beginnings of years only the
one of the year 1000 matters here, since earlier UTC timestamps are not read back.
-/
namespace PolicyAgent.Time

namespace Timestamp

theorem instant_truncate (t : Timestamp) :
    t.truncate.instant = t.instant / 1000000 * 1000000 := by
  have hmicro := t.time.micro_lt
  simp only [instant, localMicros, truncate, offsetSeconds, TimeOfDay.micros, TimeOfDay.truncate]
  omega

theorem truncate_le_truncate {t u : Timestamp} (h : t.truncate.instant ≤ u.instant) :
    t.truncate.instant ≤ u.truncate.instant := by
  rw [instant_truncate] at h
  rw [instant_truncate, instant_truncate]
  omega

theorem instant_truncate_of_micro {t : Timestamp} (h : t.time.micro = 0) :
    t.truncate.instant = t.instant := by
  simp [instant, localMicros, truncate, offsetSeconds, TimeOfDay.micros, TimeOfDay.truncate, h]

/-- What is written of a timestamp can be read exactly if its offset has whole minutes and its
year four digits, as every year has that is not in UTC. It is read as the timestamp with its own
local fields, cut down to the second. -/
theorem readRfc3339_written (t : Timestamp) :
    readRfc3339 t.rfc3339
        = (if 60 ∣ t.offsetSeconds ∧ (t.offsetSeconds ≠ 0 ∨ 1000 ≤ t.day.year) then
            .ok ⟨t.day, t.time.truncate, some (t.offset.getD .utc)⟩
          else .error (.shape t.rfc3339)) ∧
      (⟨t.day, t.time.truncate, some (t.offset.getD .utc)⟩ : Timestamp).instant
        = t.instant / 1000000 * 1000000 := by
  constructor
  · split_ifs with h
    · exact readRfc3339_rfc3339 h
    · exact readRfc3339_of_not_isReadable h
  · calc t.truncate.withOffset.instant
        = t.truncate.instant := instant_withOffset _
      _ = t.instant / 1000000 * 1000000 := instant_truncate t

/-- Outside UTC an early year keeps its zeros, but an offset with seconds is not read back. -/
example : (readRfc3339 "0001-12-31T23:59:59-23:59").isOk = true ∧
    (readRfc3339 "0001-12-31T23:59:59-23:59:59").isOk = false := by decide

end Timestamp

/-- The instant from which on the years of UTC have four digits. -/
def fourDigitYears : Int := daysBeforeYear 1000 * 86400000000

def daysInYear (year : Nat) : Nat := if isLeapYear year then 366 else 365

theorem daysBeforeYear_succ {year : Nat} (h : leastYear ≤ year) :
    daysBeforeYear (year + 1) = daysBeforeYear year + daysInYear year := by
  obtain ⟨n, rfl⟩ : ∃ n, year = n + 1 := ⟨year - 1, by simp only [leastYear] at h; omega⟩
  have hfour : (4 ∣ n + 1) ↔ (n + 1) % 4 = 0 := Nat.dvd_iff_mod_eq_zero
  have hcentury : (100 ∣ n + 1) ↔ (n + 1) % 100 = 0 := Nat.dvd_iff_mod_eq_zero
  have hera : (400 ∣ n + 1) ↔ (n + 1) % 400 = 0 := Nat.dvd_iff_mod_eq_zero
  simp only [daysBeforeYear, daysInYear, isLeapYear, Nat.add_sub_cancel, Nat.succ_div, hfour,
    hcentury, hera]
  by_cases h4 : (n + 1) % 4 = 0 <;> by_cases h100 : (n + 1) % 100 = 0 <;>
    by_cases h400 : (n + 1) % 400 = 0 <;> simp [h4, h100, h400] <;> omega

theorem daysBeforeYear_mono : Monotone daysBeforeYear := by
  apply monotone_nat_of_le_succ
  intro year
  by_cases h : leastYear ≤ year
  · rw [daysBeforeYear_succ h]
    exact Nat.le_add_right _ _
  · have hzero : year = 0 := by simp only [leastYear] at h; omega
    subst hzero
    decide

theorem daysBeforeMonth_add_le (year : Nat) {month : Nat} (h : 1 ≤ month) (h' : month ≤ 12) :
    daysBeforeMonth year month + daysInMonth year month ≤ daysInYear year := by
  cases hleap : isLeapYear year <;> interval_cases month <;>
    simp [daysBeforeMonth, daysInMonth, daysInYear, List.range_succ, hleap]

theorem Day.number_lt (d : Day) : d.number < daysBeforeYear (d.year + 1) := by
  have hmonth := daysBeforeMonth_add_le d.year d.month_ge d.month_le
  have hday := d.day_ge
  have hday' := d.day_le
  rw [daysBeforeYear_succ d.year_ge, number]
  omega

theorem TimeOfDay.micros_lt (t : TimeOfDay) : t.micros < 86400000000 := by
  have := t.hour_lt
  have := t.minute_lt
  have := t.second_lt
  have := t.micro_lt
  unfold micros
  omega

theorem Timestamp.year_lt_iff {t : Timestamp} (h : t.offsetSeconds = 0) :
    t.day.year < 1000 ↔ t.instant < fourDigitYears := by
  have hmicros := t.time.micros_lt
  have hinstant : t.instant = t.day.number * 86400000000 + t.time.micros := by
    simp [instant, localMicros, h]
  constructor
  · intro hyear
    have hnumber : t.day.number < daysBeforeYear 1000 :=
      Nat.lt_of_lt_of_le t.day.number_lt (daysBeforeYear_mono hyear)
    unfold fourDigitYears
    omega
  · intro hlt
    by_contra hyear
    have hle : daysBeforeYear 1000 ≤ t.day.number := by
      have := daysBeforeYear_mono (Nat.le_of_not_lt hyear)
      unfold Day.number
      omega
    unfold fourDigitYears at hlt
    omega

theorem Timestamp.isReadable_of_le {t : Timestamp} (hwhole : 60 ∣ t.offsetSeconds)
    (h : fourDigitYears ≤ t.instant) : t.IsReadable := by
  refine ⟨hwhole, ?_⟩
  by_cases hutc : t.offsetSeconds = 0
  · right
    by_contra hyear
    exact absurd ((year_lt_iff hutc).1 (Nat.lt_of_not_le hyear)) (Int.not_lt.2 h)
  · exact Or.inl hutc

theorem dvd_fourDigitYears : 1000000 ∣ fourDigitYears := by
  unfold fourDigitYears
  omega

theorem fourDigitYears_le_truncate {t : Timestamp} (h : fourDigitYears ≤ t.instant) :
    fourDigitYears ≤ t.truncate.instant := by
  have hwhole := dvd_fourDigitYears
  rw [Timestamp.instant_truncate]
  omega

end PolicyAgent.Time
