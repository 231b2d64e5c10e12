import Mathlib.Data.List.TakeWhile
import PolicyAgent.Proofs.Time.Spelling

/-!
# The language of the timestamp reader

What the reader takes are the spellings of timestamps and nothing else. Each step of reading is
undone: the numbers determine their digits, the pieces determine the text in upper case, and the
upper case determines the text but for the size of its two letters.

A spelling is a date-time of RFC 3339 unless it makes use of one of three liberties: a line feed
at its end, digits from outside ASCII in the part of the fraction that does not count, and minutes
of an offset beyond 59.
-/
namespace PolicyAgent.Time

open PolicyAgent.Text PolicyAgent.Decimal

theorem digitChar_digitValue {c : Char} (h : (asciiDigit? c).isSome = true) :
    (digitValue c).digitChar = c := by
  have hc := of_forall_ascii
    (P := fun c => (asciiDigit? c).isSome = true → (digitValue c).digitChar = c)
    (by decide +kernel) (ascii_of_digit h)
  exact hc h

theorem eq_twoDigits_of_number? {cs : List Char} {n : Nat} (hlength : cs.length = 2)
    (h : number? cs = some n) : cs = twoDigits n ∧ n < 100 := by
  obtain ⟨a, b, rfl⟩ := List.length_eq_two.1 hlength
  obtain ⟨hascii, rfl⟩ := number?_eq_some_iff.1 h
  have ha := digitValue_lt a
  have hb := digitValue_lt b
  have hvalue : ofDigits ([a, b].map digitValue) = 10 * digitValue a + digitValue b := by
    simp [ofDigits]
  have htens : (10 * digitValue a + digitValue b) / 10 % 10 = digitValue a := by omega
  have hones : (10 * digitValue a + digitValue b) % 10 = digitValue b := by omega
  rw [hvalue]
  refine ⟨?_, by omega⟩
  rw [twoDigits, htens, hones, digitChar_digitValue (hascii a (by simp)),
    digitChar_digitValue (hascii b (by simp))]

theorem eq_fourDigits_of_number? {cs : List Char} {n : Nat} (hlength : cs.length = 4)
    (h : number? cs = some n) : cs = fourDigits n := by
  obtain ⟨hascii, rfl⟩ := number?_eq_some_iff.1 h
  have htwo : (cs.take 2).length = 2 := by simp [hlength]
  have htwo' : (cs.drop 2).length = 2 := by simp [hlength]
  obtain ⟨htake, hhigh⟩ := eq_twoDigits_of_number? htwo
    (number?_eq fun c hc => hascii c (List.mem_of_mem_take hc))
  obtain ⟨hdrop, hlow⟩ := eq_twoDigits_of_number? htwo'
    (number?_eq fun c hc => hascii c (List.mem_of_mem_drop hc))
  have hvalue : ofDigits (cs.map digitValue)
      = ofDigits ((cs.take 2).map digitValue) * 100 + ofDigits ((cs.drop 2).map digitValue) := by
    conv_lhs => rw [← List.take_append_drop 2 cs, List.map_append, ofDigits_append]
    rw [List.length_map, htwo']
    rfl
  have hdiv : ofDigits (cs.map digitValue) / 100 = ofDigits ((cs.take 2).map digitValue) := by
    omega
  have hmod : ofDigits (cs.map digitValue) % 100 = ofDigits ((cs.drop 2).map digitValue) := by
    omega
  rw [fourDigits, hdiv, hmod, ← htake, ← hdrop, List.take_append_drop]

theorem of_takeSlots? {slots : List Slot} {cs taken rest : List Char}
    (h : takeSlots? slots cs = some (taken, rest)) : cs = taken ++ rest ∧ Fills slots taken := by
  induction slots generalizing cs taken with
  | nil =>
    obtain ⟨rfl, rfl⟩ := Prod.mk.inj (Option.some.inj h)
    exact ⟨rfl, .nil⟩
  | cons slot slots ih =>
    cases cs with
    | nil => cases h
    | cons c cs =>
      simp only [takeSlots?] at h
      split_ifs at h with hc
      obtain ⟨⟨taken', rest'⟩, htake, heq⟩ := Option.map_eq_some_iff.1 h
      obtain ⟨rfl, rfl⟩ := Prod.mk.inj heq
      obtain ⟨rfl, hfills⟩ := ih htake
      exact ⟨rfl, .cons hc hfills⟩

theorem Fills.split {slots slots' : List Slot} {cs : List Char} (h : Fills (slots ++ slots') cs) :
    ∃ a b, cs = a ++ b ∧ Fills slots a ∧ Fills slots' b :=
  ⟨cs.take slots.length, cs.drop slots.length, (List.take_append_drop _ _).symm,
    (List.forall₂_take_append cs slots slots' h.flip).flip,
    (List.forall₂_drop_append cs slots slots' h.flip).flip⟩

theorem Fills.splitAt (size : Nat) {m : Char} {slots : List Slot} {cs : List Char}
    (h : Fills (List.replicate size .digit ++ .mark m :: slots) cs) :
    ∃ digits rest, cs = digits ++ m :: rest ∧ digits.length = size ∧ Fills slots rest := by
  obtain ⟨digits, rest, rfl, hdigits, hrest⟩ := h.split
  cases hrest with
  | cons hmark hrest =>
    obtain rfl := eq_of_beq hmark
    exact ⟨digits, _, rfl, by simpa using hdigits.length_eq.symm, hrest⟩

theorem exists_digits_of_fills {clock : List Char} (h : Fills localSlots clock) :
    ∃ year month day hour minute second : List Char,
      clock = year ++ '-' :: (month ++ '-' :: (day ++ 'T' :: (hour ++ ':' :: (minute ++ ':' ::
        second)))) ∧
      year.length = 4 ∧ month.length = 2 ∧ day.length = 2 ∧ hour.length = 2 ∧
      minute.length = 2 ∧ second.length = 2 := by
  obtain ⟨year, _, rfl, hyear, h⟩ := Fills.splitAt 4 h
  obtain ⟨month, _, rfl, hmonth, h⟩ := Fills.splitAt 2 h
  obtain ⟨day, _, rfl, hday, h⟩ := Fills.splitAt 2 h
  obtain ⟨hour, _, rfl, hhour, h⟩ := Fills.splitAt 2 h
  obtain ⟨minute, second, rfl, hminute, h⟩ := Fills.splitAt 2 h
  exact ⟨year, month, day, hour, minute, second, rfl, hyear, hmonth, hday, hhour, hminute,
    h.length_eq.symm⟩

theorem exists_digits_of_fills_offset {taken : List Char} (h : Fills offsetSlots taken) :
    ∃ hours minutes : List Char, taken = hours ++ ':' :: minutes ∧ hours.length = 2 ∧
      minutes.length = 2 := by
  obtain ⟨hours, minutes, rfl, hhours, h⟩ := Fills.splitAt 2 h
  exact ⟨hours, minutes, rfl, hhours, h.length_eq.symm⟩

theorem of_takeFractionOfAnyScript {cs fraction rest : List Char}
    (h : takeFractionOfAnyScript cs = (fraction, rest)) :
    cs = fractionChars fraction ++ rest ∧ ∀ c ∈ fraction, (decimalDigit? c).isSome = true := by
  unfold takeFractionOfAnyScript at h
  split at h
  · rename_i cs
    split at h
    · obtain ⟨rfl, rfl⟩ := Prod.mk.inj h
      exact ⟨rfl, nofun⟩
    · rename_i digits hempty
      obtain ⟨rfl, rfl⟩ := Prod.mk.inj h
      refine ⟨?_, fun c hc =>
        List.mem_takeWhile_imp (p := fun c => (decimalDigit? c).isSome) hc⟩
      have hprefix := List.takeWhile_prefix (l := cs) (fun c => (decimalDigit? c).isSome)
      rw [fractionChars, if_neg hempty, List.cons_append]
      exact congrArg _ (List.prefix_iff_eq_append.1 hprefix).symm
  · obtain ⟨rfl, rfl⟩ := Prod.mk.inj h
    exact ⟨rfl, nofun⟩

theorem of_takeOffset? {cs offset : List Char} (h : takeOffset? cs = some offset) :
    ∃ hasLineFeed : Bool, (cs = 'Z' :: feedChars hasLineFeed ∧ offset = zeroOffset) ∨
      ∃ sign taken, (sign = '+' ∨ sign = '-') ∧ Fills offsetSlots taken ∧
        cs = sign :: (taken ++ feedChars hasLineFeed) ∧ offset = sign :: taken := by
  have hfeed {rest : List Char} (hrest : rest = [] ∨ rest = ['\n']) :
      ∃ hasLineFeed, rest = feedChars hasLineFeed := by
    rcases hrest with rfl | rfl
    · exact ⟨false, rfl⟩
    · exact ⟨true, rfl⟩
  unfold takeOffset? at h
  split at h
  · split_ifs at h with hrest
    obtain ⟨hasLineFeed, rfl⟩ := hfeed hrest
    exact ⟨hasLineFeed, .inl ⟨rfl, (Option.some.inj h).symm⟩⟩
  · split_ifs at h with hsign
    split at h
    · rename_i htake
      split_ifs at h with hrest
      obtain ⟨rfl, hfills⟩ := of_takeSlots? htake
      obtain ⟨hasLineFeed, rfl⟩ := hfeed hrest
      exact ⟨hasLineFeed, .inr ⟨_, _, hsign, hfills, rfl, (Option.some.inj h).symm⟩⟩
    · cases h
  · cases h

theorem Shape.of_ofChars? {cs : List Char} {shape : Shape} (h : Shape.ofChars? cs = some shape) :
    ∃ rest, cs = shape.clock ++ (fractionChars shape.fraction ++ rest) ∧
      Fills localSlots shape.clock ∧ (∀ c ∈ shape.fraction, (decimalDigit? c).isSome = true) ∧
      takeOffset? rest = some shape.offset := by
  simp only [Shape.ofChars?, Option.bind_eq_bind, Option.bind_eq_some_iff, Option.pure_def,
    Option.some.injEq] at h
  obtain ⟨⟨clock, afterClock⟩, hclock, offset, hoffset, rfl⟩ := h
  obtain ⟨rfl, hfills⟩ := of_takeSlots? hclock
  cases hpair : takeFractionOfAnyScript afterClock with
  | mk fraction rest =>
    obtain ⟨rfl, hdigits⟩ := of_takeFractionOfAnyScript hpair
    simp only [hpair] at hoffset ⊢
    exact ⟨rest, rfl, hfills, hdigits, hoffset⟩

theorem Day.of_ofNumbers {year month day : Nat} {d : Day}
    (h : Day.ofNumbers year month day = .ok d) : d.year = year ∧ d.month = month ∧ d.day = day := by
  unfold Day.ofNumbers at h
  split_ifs at h
  obtain rfl := Except.ok.inj h
  exact ⟨rfl, rfl, rfl⟩

theorem TimeOfDay.of_ofNumbers {hour minute second micro : Nat} {t : TimeOfDay}
    (h : TimeOfDay.ofNumbers hour minute second micro = .ok t) :
    t.hour = hour ∧ t.minute = minute ∧ t.second = second := by
  unfold TimeOfDay.ofNumbers at h
  split_ifs at h
  obtain rfl := Except.ok.inj h
  exact ⟨rfl, rfl, rfl⟩

structure Numbers.Are (n : Numbers) (t : Timestamp) : Prop where
  year : t.day.year = n.year
  month : t.day.month = n.month
  day : t.day.day = n.day
  hour : t.time.hour = n.hour
  minute : t.time.minute = n.minute
  second : t.time.second = n.second
  offset : -86400 < n.offset ∧ n.offset < 86400

theorem Numbers.are_of_timestamp {n : Numbers} {t : Timestamp} (h : n.timestamp = .ok t) :
    n.Are t := by
  unfold Numbers.timestamp at h
  split at h
  · cases h
  · rename_i offset hoffset
    split at h
    · cases h
    · rename_i day hday
      split at h
      · cases h
      · rename_i time htime
        obtain rfl := Except.ok.inj h
        obtain ⟨hyear, hmonth, hday⟩ := Day.of_ofNumbers hday
        obtain ⟨hhour, hminute, hsecond⟩ := TimeOfDay.of_ofNumbers htime
        unfold Offset.ofSeconds? at hoffset
        split_ifs at hoffset with hrange
        exact ⟨hyear, hmonth, hday, hhour, hminute, hsecond, hrange⟩

def signedSeconds (offset : List Char) (hours minutes : Nat) : Int :=
  if offset.head? = some '-' then -((hours * 60 + minutes) * 60) else (hours * 60 + minutes) * 60

/-- Each number of a shape is written at its place. -/
structure Shape.Shows (shape : Shape) (n : Numbers) : Prop where
  year : numberAt? shape.clock 0 4 = some n.year
  month : numberAt? shape.clock 5 2 = some n.month
  day : numberAt? shape.clock 8 2 = some n.day
  hour : numberAt? shape.clock 11 2 = some n.hour
  minute : numberAt? shape.clock 14 2 = some n.minute
  second : numberAt? shape.clock 17 2 = some n.second
  micro : number? (sixDigits shape.fraction) = some n.micro
  offset : ∃ hours minutes, numberAt? shape.offset 1 2 = some hours ∧
    numberAt? shape.offset 4 2 = some minutes ∧ n.offset = signedSeconds shape.offset hours minutes

theorem Shape.shows_of_numbers? {shape : Shape} {n : Numbers} (h : shape.numbers? = some n) :
    shape.Shows n := by
  simp only [Shape.numbers?, Option.bind_eq_bind, Option.bind_eq_some_iff, Option.pure_def,
    Option.some.injEq] at h
  obtain ⟨year, hyear, month, hmonth, day, hday, hour, hhour, minute, hminute, second, hsecond,
    micro, hmicro, hours, hhours, minutes, hminutes, rfl⟩ := h
  exact ⟨hyear, hmonth, hday, hhour, hminute, hsecond, hmicro, hours, minutes, hhours, hminutes,
    rfl⟩

/-- The reader takes the numbers of a clock by their places, and so they are its digits. -/
theorem clock_of_shows {shape : Shape} {n : Numbers} {t : Timestamp} (hn : shape.Shows n)
    (ht : n.Are t) (hfills : Fills localSlots shape.clock) : shape.clock = t.clock := by
  obtain ⟨year, month, day, hour, minute, second, hclock, hyear, hmonth, hday, hhour, hminute,
    hsecond⟩ := exists_digits_of_fills hfills
  obtain ⟨_, _, _, _, rfl⟩ := List.length_eq_four.1 hyear
  obtain ⟨_, _, rfl⟩ := List.length_eq_two.1 hmonth
  obtain ⟨_, _, rfl⟩ := List.length_eq_two.1 hday
  obtain ⟨_, _, rfl⟩ := List.length_eq_two.1 hhour
  obtain ⟨_, _, rfl⟩ := List.length_eq_two.1 hminute
  obtain ⟨_, _, rfl⟩ := List.length_eq_two.1 hsecond
  obtain ⟨nyear, nmonth, nday, nhour, nminute, nsecond, -, -⟩ := hn
  rw [hclock] at nyear nmonth nday nhour nminute nsecond
  rw [hclock, eq_fourDigits_of_number? hyear nyear, (eq_twoDigits_of_number? hmonth nmonth).1,
    (eq_twoDigits_of_number? hday nday).1, (eq_twoDigits_of_number? hhour nhour).1,
    (eq_twoDigits_of_number? hminute nminute).1, (eq_twoDigits_of_number? hsecond nsecond).1,
    ← ht.year, ← ht.month, ← ht.day, ← ht.hour, ← ht.minute, ← ht.second]
  simp [Timestamp.clock, Timestamp.writtenAfterYear]

theorem exists_zone_of_shows {offset : List Char} {hours minutes : Nat} {cs : List Char}
    (h : takeOffset? cs = some offset) (hhours : numberAt? offset 1 2 = some hours)
    (hminutes : numberAt? offset 4 2 = some minutes)
    (hrange : -86400 < signedSeconds offset hours minutes ∧
      signedSeconds offset hours minutes < 86400) :
    ∃ (zone : Zone) (hasLineFeed : Bool), cs = zone.capital ++ feedChars hasLineFeed := by
  obtain ⟨hasLineFeed, ⟨rfl, -⟩ | ⟨sign, taken, hsign, hfills, rfl, rfl⟩⟩ := of_takeOffset? h
  · exact ⟨.utc false, hasLineFeed, rfl⟩
  · obtain ⟨first, last, rfl, hfirst, hlast⟩ := exists_digits_of_fills_offset hfills
    obtain ⟨_, _, rfl⟩ := List.length_eq_two.1 hfirst
    obtain ⟨_, _, rfl⟩ := List.length_eq_two.1 hlast
    obtain ⟨hfirst', -⟩ := eq_twoDigits_of_number? hfirst hhours
    obtain ⟨hlast', hlt⟩ := eq_twoDigits_of_number? hlast hminutes
    have hday : hours * 60 + minutes < 1440 := by
      unfold signedSeconds at hrange
      split_ifs at hrange <;> omega
    refine ⟨.distance (sign = '-') hours minutes hday hlt, hasLineFeed, ?_⟩
    rcases hsign with rfl | rfl <;> simp [Zone.capital, Zone.chars, hfirst', hlast']

/-- A text in upper case that is read is a spelling in upper case. -/
theorem exists_capital_spelling {cs : List Char} {shape : Shape} {n : Numbers} {t : Timestamp}
    (hshape : Shape.ofChars? cs = some shape) (hnumbers : shape.numbers? = some n)
    (ht : n.timestamp = .ok t) :
    ∃ s : Spelling, cs = s.timestamp.clock ++
      (fractionChars s.fraction ++ (s.zone.capital ++ feedChars s.hasLineFeed)) := by
  obtain ⟨rest, rfl, hfills, hdigits, hoffset⟩ := Shape.of_ofChars? hshape
  have hn := Shape.shows_of_numbers? hnumbers
  have hare := Numbers.are_of_timestamp ht
  have hascii : ∀ c ∈ shape.fraction.take 6, (asciiDigit? c).isSome = true :=
    fun c hc => ascii_of_number? hn.micro c (List.mem_append_left _ hc)
  obtain ⟨hours, minutes, hhours, hminutes, hseconds⟩ := hn.offset
  obtain ⟨zone, hasLineFeed, rfl⟩ := exists_zone_of_shows hoffset hhours hminutes
    (hseconds ▸ hare.offset)
  refine ⟨⟨t.day, false, t.time.hour, t.time.minute, t.time.second, shape.fraction, zone,
    hasLineFeed, t.time.hour_lt, t.time.minute_lt, t.time.second_lt, hdigits, hascii⟩, ?_⟩
  rw [clock_of_shows hn hare hfills]
  rfl

/-- What holds of the ASCII digits and of the signs between them. -/
structure HoldsOfDigits (p : Char → Bool) : Prop where
  digit : ∀ d < 10, p (Nat.digitChar d) = true
  dash : p '-' = true
  plus : p '+' = true
  colon : p ':' = true
  point : p '.' = true

namespace HoldsOfDigits

variable {p : Char → Bool}

theorem all_twoDigits (h : HoldsOfDigits p) (n : Nat) : (twoDigits n).all p = true := by
  have hdigit (m : Nat) : p (m % 10).digitChar = true := h.digit _ (Nat.mod_lt _ (by decide))
  rw [twoDigits, List.all_cons, hdigit, List.all_cons, hdigit]
  rfl

theorem all_date (h : HoldsOfDigits p) (l : Layout) : l.date.all p = true := by
  simp [Layout.date, fourDigits, h.all_twoDigits, h.dash]

theorem all_clock (h : HoldsOfDigits p) (l : Layout) : l.clock.all p = true := by
  simp [Layout.clock, h.all_twoDigits, h.colon]

theorem all_fractionChars (h : HoldsOfDigits p) {fraction : List Char}
    (hfraction : ∀ c ∈ fraction, p c = true) : (fractionChars fraction).all p = true := by
  unfold fractionChars
  split_ifs
  · rfl
  · exact List.all_eq_true.2 (List.forall_mem_cons.2 ⟨h.point, hfraction⟩)

theorem all_distance (h : HoldsOfDigits p) (isBehind : Bool) (hours minutes : Nat) :
    ((if isBehind then '-' else '+') :: (twoDigits hours ++ ':' :: twoDigits minutes)).all p
      = true := by
  cases isBehind <;> simp [h.all_twoDigits, h.colon, h.dash, h.plus]

end HoldsOfDigits

theorem holdsOfDigits_isDigitOrSign : HoldsOfDigits isDigitOrSign where
  digit := by decide
  dash := by decide
  plus := by decide
  colon := by decide
  point := by decide

theorem all_isDigitOrSign_feedChars (hasLineFeed : Bool) :
    (feedChars hasLineFeed).all isDigitOrSign = true := by
  cases hasLineFeed <;> decide

theorem Zone.capital_eq_or (zone : Zone) :
    zone.capital = ['Z'] ∨ zone.capital = zone.chars ∧ zone.chars.all isDigitOrSign = true := by
  cases zone with
  | utc isSmall => exact .inl rfl
  | distance isBehind hours minutes =>
    exact .inr ⟨rfl, holdsOfDigits_isDigitOrSign.all_distance isBehind hours minutes⟩

theorem Zone.all_isDigitOrMark_capital (zone : Zone) : zone.capital.all isDigitOrMark = true := by
  rcases zone.capital_eq_or with h | ⟨h, hchars⟩
  · rw [h]
    decide
  · rw [h]
    exact all_isDigitOrMark hchars

theorem exists_zone_of_capitalizes {zone : Zone} {cs : List Char}
    (h : List.Forall₂ Capitalizes cs zone.capital) : ∃ zone' : Zone, zone'.chars = cs := by
  rcases zone.capital_eq_or with hcapital | ⟨hcapital, hchars⟩
  · rw [hcapital] at h
    obtain ⟨c, _, hc, hrest, rfl⟩ := List.forall₂_cons_right_iff.1 h
    obtain rfl := List.forall₂_nil_right_iff.1 hrest
    rcases hc.2 with rfl | ⟨-, hT⟩ | ⟨rfl, -⟩
    · exact ⟨.utc false, rfl⟩
    · exact absurd hT (by decide)
    · exact ⟨.utc true, rfl⟩
  · rw [hcapital] at h
    exact ⟨zone, (eq_of_capitalizes h hchars).symm⟩

theorem exists_mark_of_capitalizes {c : Char} (h : Capitalizes c 'T') :
    ∃ isSmall : Bool, c = if isSmall then 't' else 'T' := by
  rcases h.2 with rfl | ⟨rfl, -⟩ | ⟨-, hZ⟩
  · exact ⟨false, rfl⟩
  · exact ⟨true, rfl⟩
  · exact absurd hZ (by decide)

/-- What comes to a spelling in upper case is a spelling. -/
theorem exists_spelling_of_uppercase {s : Spelling} {cs : List Char}
    (h : uppercaseChars cs = s.timestamp.clock ++
      (fractionChars s.fraction ++ (s.zone.capital ++ feedChars s.hasLineFeed))) :
    ∃ s' : Spelling, s'.chars = cs := by
  have hdate := holdsOfDigits_isDigitOrSign.all_date s.layout
  have hclock := holdsOfDigits_isDigitOrSign.all_clock s.layout
  have hfraction := holdsOfDigits_isDigitOrSign.all_fractionChars
    fun c hc => isDigitOrSign_of_digit (s.digits c hc)
  have hfeed := all_isDigitOrSign_feedChars s.hasLineFeed
  have hT : isDigitOrMark 'T' = true := by decide
  rw [s.clock_timestamp, List.append_assoc, List.cons_append] at h
  have hcapitalizes := capitalizes_of_uppercaseChars h (by
    simp [all_isDigitOrMark hdate, all_isDigitOrMark hclock, all_isDigitOrMark hfraction,
      all_isDigitOrMark hfeed, s.zone.all_isDigitOrMark_capital, hT])
  obtain ⟨_, _, rfl, h₁, hmarked⟩ := exists_append_of_capitalizes hcapitalizes
  obtain ⟨_, _, hmark, htimed, rfl⟩ := List.forall₂_cons_right_iff.1 hmarked
  obtain ⟨_, _, rfl, h₂, hrest⟩ := exists_append_of_capitalizes htimed
  obtain ⟨_, _, rfl, h₃, hend⟩ := exists_append_of_capitalizes hrest
  obtain ⟨_, _, rfl, h₄, h₅⟩ := exists_append_of_capitalizes hend
  obtain ⟨isSmall, rfl⟩ := exists_mark_of_capitalizes hmark
  obtain ⟨zone, rfl⟩ := exists_zone_of_capitalizes h₄
  obtain rfl := eq_of_capitalizes h₁ hdate
  obtain rfl := eq_of_capitalizes h₂ hclock
  obtain rfl := eq_of_capitalizes h₃ hfraction
  obtain rfl := eq_of_capitalizes h₅ hfeed
  refine ⟨{ s with isSmall, zone }, ?_⟩
  simp only [Spelling.chars, Layout.chars, List.append_assoc, List.cons_append]
  rfl

namespace Timestamp

theorem exists_spelling {text : String} {t : Timestamp} (h : readRfc3339 text = .ok t) :
    ∃ s : Spelling, s.text = text := by
  unfold readRfc3339 at h
  split at h
  · cases h
  · rename_i shape hshape
    split at h
    · cases h
    · rename_i n hnumbers
      obtain ⟨capital, hcapital⟩ := exists_capital_spelling hshape hnumbers h
      obtain ⟨s, hs⟩ := exists_spelling_of_uppercase hcapital
      exact ⟨s, by rw [Spelling.text, hs, String.ofList_toList]⟩

end Timestamp

/-- The ranges of RFC 3339. The second 60 is a leap second. -/
structure Layout.InRange (l : Layout) : Prop where
  year : l.year < 10000
  month : 1 ≤ l.month ∧ l.month ≤ 12
  day : 1 ≤ l.day ∧ l.day ≤ daysInMonth l.year l.month
  hour : l.hour < 24
  minute : l.minute < 60
  second : l.second ≤ 60
  fraction : ∀ c ∈ l.fraction, (asciiDigit? c).isSome = true
  zone : l.zone.minutes < 60

def IsDateTime (text : String) : Prop := ∃ l : Layout, l.InRange ∧ l.chars = text.toList

/-- The spelling takes none of the liberties. -/
structure Spelling.IsStrict (s : Spelling) : Prop where
  fraction : ∀ c ∈ s.fraction.drop 6, (asciiDigit? c).isSome = true
  minutes : s.zone.minutes < 60
  lineFeed : s.hasLineFeed = false

theorem Spelling.IsStrict.ascii {s : Spelling} (h : s.IsStrict) :
    ∀ c ∈ s.fraction, (asciiDigit? c).isSome = true := by
  intro c hc
  rw [← List.take_append_drop 6 s.fraction, List.mem_append] at hc
  exact hc.elim (s.ascii c) (h.fraction c)

theorem Spelling.IsStrict.inRange {s : Spelling} (h : s.IsStrict) : s.layout.InRange where
  year := Nat.lt_succ_of_le s.day.year_le
  month := ⟨s.day.month_ge, s.day.month_le⟩
  day := ⟨s.day.day_ge, s.day.day_le⟩
  hour := s.hour_lt
  minute := s.minute_lt
  second := Nat.le_of_lt s.second_lt
  fraction := h.ascii
  zone := h.minutes

/-- The characters of date-times are of ASCII, and none of them is a line feed. -/
def isPlain (c : Char) : Bool := c.toNat < 128 && c != '\n'

theorem holdsOfDigits_isPlain : HoldsOfDigits isPlain where
  digit := by decide
  dash := by decide
  plus := by decide
  colon := by decide
  point := by decide

theorem isPlain_of_digit {c : Char} (h : (asciiDigit? c).isSome = true) : isPlain c = true := by
  have hfeed : c ≠ '\n' := by
    rintro rfl
    exact absurd h (by decide)
  simp [isPlain, ascii_of_digit h, hfeed]

theorem Zone.all_isPlain_chars (zone : Zone) : zone.chars.all isPlain = true := by
  cases zone with
  | utc isSmall => cases isSmall <;> decide
  | distance isBehind hours minutes =>
    exact holdsOfDigits_isPlain.all_distance isBehind hours minutes

theorem Layout.InRange.all_isPlain {l : Layout} (h : l.InRange) : l.chars.all isPlain = true := by
  have hmark : isPlain l.mark = true := by
    unfold mark
    split_ifs <;> decide
  have hfraction := holdsOfDigits_isPlain.all_fractionChars
    fun c hc => isPlain_of_digit (h.fraction c hc)
  simp [chars, holdsOfDigits_isPlain.all_date, holdsOfDigits_isPlain.all_clock, hmark, hfraction,
    l.zone.all_isPlain_chars]

theorem ascii_of_isPlain {c : Char} (hplain : isPlain c = true)
    (hdigit : (decimalDigit? c).isSome = true) : (asciiDigit? c).isSome = true := by
  rw [isPlain, Bool.and_eq_true, decide_eq_true_eq] at hplain
  have hc := of_forall_ascii
    (P := fun c => (decimalDigit? c).isSome = true → (asciiDigit? c).isSome = true)
    (by decide +kernel) hplain.1
  exact hc hdigit

theorem twoDigits_inj {m n : Nat} (hm : m < 100) (hn : n < 100)
    (h : twoDigits m = twoDigits n) : m = n := by
  have hnumber := number?_twoDigits hm
  rw [h, number?_twoDigits hn] at hnumber
  exact (Option.some.inj hnumber).symm

theorem Zone.ending (zone : Zone) :
    (zone.minutes = 0 ∧ ∃ isSmall : Bool, zone.chars = [if isSmall then 'z' else 'Z']) ∨
      (zone.minutes < 100 ∧ ∃ front, zone.chars = front ++ twoDigits zone.minutes) := by
  cases zone with
  | utc isSmall => exact .inl ⟨rfl, isSmall, rfl⟩
  | distance isBehind hours minutes lt minutes_lt =>
    refine .inr ⟨minutes_lt, (if isBehind then '-' else '+') :: (twoDigits hours ++ [':']), ?_⟩
    simp [chars, Zone.minutes]

theorem Layout.exists_front (l : Layout) : ∃ front, l.chars = front ++ l.zone.chars :=
  ⟨l.date ++ l.mark :: (l.clock ++ fractionChars l.fraction), by simp [chars]⟩

theorem Layout.minutes_eq {l : Layout} {before : List Char} {m : Nat} (hm : m < 100)
    (hchars : l.chars = before ++ twoDigits m) : l.zone.minutes = m := by
  obtain ⟨front, hfront⟩ := l.exists_front
  rw [hfront] at hchars
  rcases l.zone.ending with ⟨-, isSmall, hzone⟩ | ⟨hlt, front, hzone⟩
  · rw [hzone, twoDigits, List.append_cons before] at hchars
    have hlast := List.append_inj_right' hchars rfl
    have hdigit := decimalDigit?_digitChar_isSome (Nat.mod_lt m (by decide : 0 < 10))
    rw [← (List.cons.inj hlast).1] at hdigit
    exact absurd hdigit (by cases isSmall <;> decide)
  · rw [hzone, ← List.append_assoc] at hchars
    exact twoDigits_inj hlt hm (List.append_inj_right' hchars rfl)

theorem Layout.mem_chars_of_mem_fraction {l : Layout} {c : Char} (h : c ∈ l.fraction) :
    c ∈ l.chars := by
  have hfraction : c ∈ fractionChars l.fraction := by
    rw [fractionChars, if_neg (List.ne_nil_of_mem h)]
    exact List.mem_cons_of_mem _ h
  simp [chars, hfraction]

/-- A spelling is a date-time exactly if it takes no liberty. -/
theorem Spelling.isDateTime_iff (s : Spelling) : IsDateTime s.text ↔ s.IsStrict := by
  rw [IsDateTime, text, String.toList_ofList]
  constructor
  · rintro ⟨l, hrange, hchars⟩
    have hplain := hrange.all_isPlain
    have hfeed : s.hasLineFeed = false := by
      cases hfeed : s.hasLineFeed with
      | false => rfl
      | true =>
        rw [hchars, chars, hfeed, List.all_append, Bool.and_eq_true] at hplain
        exact absurd hplain.2 (by decide)
    have hlayout : l.chars = s.layout.chars := by
      rw [hchars, chars, hfeed]
      exact List.append_nil _
    refine ⟨fun c hc => ?_, ?_, hfeed⟩
    · have hmem : c ∈ s.fraction := List.mem_of_mem_drop hc
      rw [hlayout, List.all_eq_true] at hplain
      exact ascii_of_isPlain (hplain c (Layout.mem_chars_of_mem_fraction hmem)) (s.digits c hmem)
    · rcases s.zone.ending with ⟨hzero, -⟩ | ⟨hlt, front, hzone⟩
      · rw [hzero]
        decide
      · have hend : s.layout.zone.chars = front ++ twoDigits s.zone.minutes := hzone
        obtain ⟨front', hfront⟩ := s.layout.exists_front
        rw [hlayout.symm, hend, ← List.append_assoc] at hfront
        exact Layout.minutes_eq hlt hfront ▸ hrange.zone
  · intro h
    refine ⟨s.layout, h.inRange, ?_⟩
    rw [chars, h.lineFeed]
    exact (List.append_nil _).symm

namespace Timestamp

/-- The texts that are read as a timestamp are its spellings, and these are date-times of RFC 3339
but for three liberties. -/
theorem readRfc3339_language (text : String) (t : Timestamp) :
    readRfc3339 text = .ok t ↔
      ∃ s : Spelling, s.text = text ∧ s.timestamp = t ∧ (IsDateTime text ↔ s.IsStrict) := by
  constructor
  · intro h
    obtain ⟨s, rfl⟩ := exists_spelling h
    rw [s.readRfc3339_spelling] at h
    exact ⟨s, rfl, Except.ok.inj h, s.isDateTime_iff⟩
  · rintro ⟨s, rfl, rfl, -⟩
    exact s.readRfc3339_spelling

/-- The liberties in turn. -/
example : (readRfc3339 "2024-03-01T12:30:45Z\n").isOk = true ∧
    (readRfc3339 "2024-03-01T12:30:45.123456٧Z").isOk = true ∧
    (readRfc3339 "2024-03-01T12:30:45+00:99").isOk = true := by decide +kernel

/-- A line feed is no part of a date-time. -/
theorem not_forall_isDateTime :
    ¬ ∀ (text : String) (t : Timestamp), readRfc3339 text = .ok t → IsDateTime text := by
  intro h
  have hok : (readRfc3339 "2024-03-01T12:30:45Z\n").isOk = true := by decide
  cases hread : readRfc3339 "2024-03-01T12:30:45Z\n" with
  | error e =>
    rw [hread] at hok
    cases hok
  | ok t =>
    obtain ⟨l, hrange, hchars⟩ := h _ t hread
    have hplain := hrange.all_isPlain
    rw [hchars] at hplain
    exact absurd hplain (by decide)

end Timestamp

end PolicyAgent.Time
