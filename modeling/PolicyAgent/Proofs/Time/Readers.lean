import PolicyAgent.Proofs.Decoding
import PolicyAgent.Proofs.Time.Language

/-!
# Two readers of one timestamp

A token is read as an RFC 3339 timestamp, and the creation date of a command by the reader of
dates, which knows many other forms. The two are compared with each other, so a text that both
take has to be the same timestamp to them. It is: the reader of dates takes the spellings that
make use of none of the liberties, and these at the value that they spell.
-/
namespace PolicyAgent.Time

open PolicyAgent.Text PolicyAgent.Decimal PolicyAgent.Json

theorem takeFixed?_append {size n : Nat} {digits : List Char} (hlength : digits.length = size)
    (h : number? digits = some n) (rest : List Char) :
    takeFixed? size (digits ++ rest) = some (n, rest) := by
  subst hlength
  rw [takeFixed?, List.take_left, List.drop_left, if_pos rfl, h, Option.map_some]

theorem takeBelow?_twoDigits {bound n : Nat} (hn : n < 100) (rest : List Char) :
    takeBelow? bound (twoDigits n ++ rest) = if n < bound then some (n, rest) else none := by
  rw [takeBelow?, takeFixed?_append (length_twoDigits n) (number?_twoDigits hn)]

theorem takeBelow?_of_lt {bound n : Nat} (hn : n < bound) (hbound : bound ≤ 100)
    (rest : List Char) : takeBelow? bound (twoDigits n ++ rest) = some (n, rest) := by
  rw [takeBelow?_twoDigits (hn.trans_le hbound), if_pos hn]

theorem takeMark?_cons (mark : Char) (rest : List Char) :
    takeMark? mark (mark :: rest) = some rest := if_pos rfl

theorem takeSign_digitChar {d : Nat} (h : d < 10) (rest : List Char) :
    takeSign (d.digitChar :: rest) = (false, d.digitChar :: rest) := by
  interval_cases d <;> rfl

theorem takeDigits_append {digits : List Char} (h : ∀ c ∈ digits, (asciiDigit? c).isSome = true)
    {c : Char} (hc : asciiDigit? c = none) (rest : List Char) :
    takeDigits (digits ++ c :: rest) = (digits.map digitValue, c :: rest) := by
  induction digits with
  | nil => simp [takeDigits, hc]
  | cons d digits ih =>
    obtain ⟨hd, hdigits⟩ := List.forall_mem_cons.1 h
    simp [takeDigits, asciiDigit?_eq hd, ih hdigits]

theorem isOrdinary_of_isPlain {c : Char} (h : isPlain c = true) : isOrdinary c = true := by
  rw [isPlain, Bool.and_eq_true, decide_eq_true_eq] at h
  exact isOrdinary_of_lt (by omega)

theorem length_le_octetCount_append {cs : List Char} (h : cs.all isPlain = true)
    (rest : List Char) : cs.length ≤ octetCount (cs ++ rest) := by
  have hfold (cs : List Char) (count : Nat) :
      count + cs.length ≤ cs.foldl (fun count c => count + c.utf8Size) count := by
    induction cs generalizing count with
    | nil => exact Nat.le_refl _
    | cons c cs ih =>
      have hc := c.utf8Size_pos
      have hcs := ih (count + c.utf8Size)
      rw [List.length_cons, List.foldl_cons]
      omega
  have hcharacters : characters (cs ++ rest) = cs ++ characters rest :=
    characters_append (fun c hc => isOrdinary_of_isPlain (List.all_eq_true.1 h c hc)) rest
  have hlength := hfold (cs ++ characters rest) 0
  rw [List.length_append] at hlength
  rw [octetCount, hcharacters]
  omega

theorem offset?_signed {sign : Char} {factor : Int} (hsign : offsetSign? sign = some factor)
    {hours minutes : Nat} (hhours : hours < 24) (hminutes : minutes < 100) (rest : List Char) :
    offset? (sign :: (twoDigits hours ++ ':' :: (twoDigits minutes ++ rest)))
      = if minutes < 60 ∧ rest = []
        then some (some (factor * ((hours * 60 + minutes) * 60 : Nat))) else none := by
  have htakeHours := takeBelow?_of_lt hhours (by decide)
  have htakeMinutes : takeBelow? 60 (twoDigits minutes ++ rest)
      = if minutes < 60 then some (minutes, rest) else none := takeBelow?_twoDigits hminutes rest
  obtain ⟨d, tail, htail⟩ : ∃ d tail,
      twoDigits hours ++ ':' :: (twoDigits minutes ++ rest) = d :: tail := ⟨_, _, rfl⟩
  rw [htail, offset?]
  · rw [← htail]
    by_cases hlt : minutes < 60 <;>
      simp [hsign, htakeHours, htakeMinutes, takeMark?_cons, hlt]
  · exact nofun

/-- An offset with minutes beyond 59 is not read, and none before a line feed. -/
theorem offset?_zone (zone : Zone) (hasLineFeed : Bool) :
    offset? (zone.chars ++ feedChars hasLineFeed)
      = if zone.minutes < 60 ∧ hasLineFeed = false then some (some zone.seconds) else none := by
  cases zone with
  | utc isSmall => cases isSmall <;> cases hasLineFeed <;> decide
  | distance isBehind hours minutes lt minutes_lt =>
    have hfeed : feedChars hasLineFeed = [] ↔ hasLineFeed = false := by
      cases hasLineFeed <;> simp [feedChars]
    have hsigned {sign : Char} {factor : Int} (hsign : offsetSign? sign = some factor) :=
      offset?_signed hsign (by omega : hours < 24) minutes_lt (feedChars hasLineFeed)
    simp only [hfeed] at hsigned
    cases isBehind
    · have hplus := hsigned (by rfl : offsetSign? '+' = some 1)
      simpa [Zone.chars, Zone.minutes, Zone.seconds] using hplus
    · have hminus := hsigned (by rfl : offsetSign? '-' = some (-1))
      simpa [Zone.chars, Zone.minutes, Zone.seconds] using hminus

theorem offset?_of_digit {c : Char} (h : (decimalDigit? c).isSome = true) (rest : List Char) :
    offset? (c :: rest) = none := by
  have hne {d : Char} (hd : (decimalDigit? d).isSome = false) : c ≠ d := by
    rintro rfl
    rw [h] at hd
    cases hd
  cases rest with
  | nil => exact if_neg (not_or.2 ⟨hne (by decide), hne (by decide)⟩)
  | cons d rest =>
    have hsign : offsetSign? c = none := by
      rw [offsetSign?, if_neg (hne (by decide)),
        if_neg (not_or.2 ⟨hne (by decide), hne (by decide)⟩)]
    simp [offset?, hsign]

/-- The digits of a fraction that the reader of dates takes. -/
def leadingDigits (fraction : List Char) : List Char :=
  fraction.takeWhile fun c => (asciiDigit? c).isSome

/-- What it leaves: nothing or a text that begins with a digit of another script. -/
def leftDigits (fraction : List Char) : List Char :=
  fraction.dropWhile fun c => (asciiDigit? c).isSome

theorem leadingDigits_append_leftDigits (fraction : List Char) :
    leadingDigits fraction ++ leftDigits fraction = fraction :=
  List.takeWhile_append_dropWhile

section

variable {fraction : List Char}

theorem ascii_of_mem_leadingDigits {c : Char} (h : c ∈ leadingDigits fraction) :
    (asciiDigit? c).isSome = true :=
  List.mem_takeWhile_imp (p := fun c => (asciiDigit? c).isSome) h

theorem leadingDigits_ne_nil (hempty : fraction ≠ [])
    (h : ∀ c ∈ fraction.take 6, (asciiDigit? c).isSome = true) : leadingDigits fraction ≠ [] := by
  cases fraction with
  | nil => exact absurd rfl hempty
  | cons c fraction =>
    have hc := h c (by simp)
    simp [leadingDigits, hc]

theorem leftDigits_eq_nil_iff :
    leftDigits fraction = [] ↔ ∀ c ∈ fraction, (asciiDigit? c).isSome = true := by
  simp [leftDigits, List.dropWhile_eq_nil_iff]

theorem leadingDigits_eq (h : leftDigits fraction = []) : leadingDigits fraction = fraction := by
  have happend := leadingDigits_append_leftDigits fraction
  rwa [h, List.append_nil] at happend

end

theorem Zone.exists_head (zone : Zone) (rest : List Char) :
    ∃ c tail, zone.chars ++ rest = c :: tail ∧ ¬ (c = '.' ∨ c = ',') ∧ asciiDigit? c = none := by
  cases zone with
  | utc isSmall => exact ⟨_, _, rfl, by cases isSmall <;> decide, by cases isSmall <;> decide⟩
  | distance isBehind hours minutes =>
    exact ⟨_, _, rfl, by cases isBehind <;> decide, by cases isBehind <;> decide⟩

theorem takeWhile_asciiDigit? {c : Char} (hc : asciiDigit? c = none) (fraction tail : List Char) :
    (fraction ++ c :: tail).takeWhile (fun c => (asciiDigit? c).isSome)
      = leadingDigits fraction := by
  induction fraction with
  | nil => simp [leadingDigits, hc]
  | cons d fraction ih =>
    rw [leadingDigits] at ih
    rw [leadingDigits, List.cons_append, List.takeWhile_cons, List.takeWhile_cons, ih]

theorem takeSeconds?_eq {second : Nat} (hsecond : second < 60) {fraction : List Char}
    (hascii : ∀ c ∈ fraction.take 6, (asciiDigit? c).isSome = true) (zone : Zone)
    (rest : List Char) :
    takeSeconds? (':' :: (twoDigits second ++ (fractionChars fraction ++ (zone.chars ++ rest))))
      = some (second, microsOf (leadingDigits fraction),
          leftDigits fraction ++ (zone.chars ++ rest)) := by
  obtain ⟨c, tail, hzone, hpoint, hc⟩ := zone.exists_head rest
  have htake := takeBelow?_of_lt hsecond (by decide)
  rw [hzone]
  by_cases hempty : fraction = []
  · have hzero : microsOf [] = 0 := by decide
    simp [takeSeconds?, htake, fractionChars, hempty, hpoint, leadingDigits, leftDigits, hzero]
  · have hsplit : fraction ++ c :: tail
        = leadingDigits fraction ++ (leftDigits fraction ++ c :: tail) := by
      rw [← List.append_assoc, leadingDigits_append_leftDigits]
    have hdrop : (fraction ++ c :: tail).drop (leadingDigits fraction).length
        = leftDigits fraction ++ c :: tail := by rw [hsplit, List.drop_left]
    have hnumber : number? (sixDigits (leadingDigits fraction))
        = some (microsOf (leadingDigits fraction)) :=
      number?_sixDigits fun c hc => ascii_of_mem_leadingDigits (List.mem_of_mem_take hc)
    -- By this the fraction is not refused as one without digits.
    have hleading := leadingDigits_ne_nil hempty hascii
    simp only [takeSeconds?, Option.bind_eq_bind, htake, fractionChars, if_neg hempty,
      List.cons_append, Option.bind_some, true_or, if_true, takeWhile_asciiDigit? hc, hnumber,
      hdrop]
    rfl

theorem offset?_leftDigits {fraction : List Char}
    (hdigits : ∀ c ∈ fraction, (decimalDigit? c).isSome = true) (zone : Zone)
    (hasLineFeed : Bool) :
    offset? (leftDigits fraction ++ (zone.chars ++ feedChars hasLineFeed))
      = if leftDigits fraction = [] ∧ zone.minutes < 60 ∧ hasLineFeed = false
        then some (some zone.seconds) else none := by
  cases hleft : leftDigits fraction with
  | nil => simp [offset?_zone]
  | cons c rest =>
    have hmem : c ∈ fraction := by
      rw [← leadingDigits_append_leftDigits fraction, hleft]
      simp
    rw [List.cons_append, offset?_of_digit (hdigits c hmem)]
    simp

namespace Spelling

variable (s : Spelling)

def afterDate : List Char :=
  s.layout.mark :: (s.layout.clock ++ (fractionChars s.fraction ++
    (s.zone.chars ++ feedChars s.hasLineFeed)))

theorem chars_eq : s.chars = fourDigits s.day.year ++ '-' :: (twoDigits s.day.month ++
    '-' :: (twoDigits s.day.day ++ s.afterDate)) := by
  simp [chars, Layout.chars, Layout.date, afterDate, layout]

theorem isStrict_iff : s.IsStrict ↔
    leftDigits s.fraction = [] ∧ s.zone.minutes < 60 ∧ s.hasLineFeed = false := by
  rw [leftDigits_eq_nil_iff]
  exact ⟨fun h => ⟨h.ascii, h.minutes, h.lineFeed⟩,
    fun ⟨hascii, hminutes, hfeed⟩ =>
      ⟨fun c hc => hascii c (List.mem_of_mem_drop hc), hminutes, hfeed⟩⟩

theorem timeAndOffset?_eq_some_iff {numbers : Nat × Nat × Nat × Nat × Option Int} :
    timeAndOffset? s.afterDate = some numbers ↔ s.IsStrict ∧
      (s.hour, s.minute, s.second, microsOf s.fraction, some s.zone.seconds) = numbers := by
  have hmark : s.layout.mark = 'T' ∨ s.layout.mark = 't' ∨ s.layout.mark = ' ' ∨
      s.layout.mark = '_' := by
    unfold Layout.mark
    split_ifs <;> simp
  have htakeHour := takeBelow?_of_lt s.hour_lt (by decide)
  have htakeMinute := takeBelow?_of_lt s.minute_lt (by decide)
  have hseconds := takeSeconds?_eq s.second_lt s.ascii s.zone (feedChars s.hasLineFeed)
  have htime : timeAndOffset? s.afterDate
      = (offset? (leftDigits s.fraction ++ (s.zone.chars ++ feedChars s.hasLineFeed))).map
          (s.hour, s.minute, s.second, microsOf (leadingDigits s.fraction), ·) := by
    have hclock : s.layout.clock
        = twoDigits s.hour ++ ':' :: (twoDigits s.minute ++ ':' :: twoDigits s.second) := by
      simp [Layout.clock, layout]
    simp only [afterDate, timeAndOffset?, if_pos hmark, hclock, List.append_assoc,
      List.cons_append, htakeHour, htakeMinute, takeMark?_cons, hseconds, Option.bind_eq_bind,
      Option.bind_some]
    exact Option.map_eq_bind.symm
  rw [htime, offset?_leftDigits s.digits, s.isStrict_iff]
  split_ifs with hstrict
  · rw [leadingDigits_eq hstrict.1]
    simp [hstrict]
  · simp [hstrict]

theorem takeDay_chars :
    takeDay s.chars = .ok (s.day.year, s.day.month, s.day.day, s.afterDate) := by
  obtain ⟨hyear, hmonth, hday⟩ := s.day.numbers_lt
  have htakeYear (rest : List Char) :
      takeFixed? 4 (fourDigits s.day.year ++ rest) = some (s.day.year, rest) :=
    takeFixed?_append (length_fourDigits _) (number?_fourDigits hyear) rest
  have htakeMonth (rest : List Char) :
      takeFixed? 2 (twoDigits s.day.month ++ rest) = some (s.day.month, rest) :=
    takeFixed?_append (length_twoDigits _) (number?_twoDigits hmonth) rest
  have htakeDay (rest : List Char) :
      takeFixed? 2 (twoDigits s.day.day ++ rest) = some (s.day.day, rest) :=
    takeFixed?_append (length_twoDigits _) (number?_twoDigits hday) rest
  have hlength : ¬ octetCount s.chars < 10 := by
    have hchars : s.chars = s.layout.date ++ s.afterDate := by
      simp [chars_eq, Layout.date, layout]
    have hdate : s.layout.date.length = 10 := by simp [Layout.date]
    rw [hchars, Nat.not_lt, ← hdate]
    exact length_le_octetCount_append (holdsOfDigits_isPlain.all_date _) _
  have hmonths : ¬ (s.day.month < 1 ∨ 12 < s.day.month) := by
    have := s.day.month_ge
    have := s.day.month_le
    omega
  have hdays : ¬ (s.day.day < 1 ∨ daysInMonth s.day.year s.day.month < s.day.day) := by
    have := s.day.day_ge
    have := s.day.day_le
    omega
  rw [takeDay, if_neg hlength, chars_eq]
  simp only [htakeYear, htakeMonth, htakeDay, takeMark?_cons, if_neg hmonths, if_neg hdays]

theorem count?_chars : count? s.chars = none := by
  have hyear := s.day.numbers_lt.1
  have hsign : takeSign s.chars = (false, s.chars) := by
    rw [chars_eq]
    exact takeSign_digitChar (Nat.mod_lt _ (by decide)) _
  have htake := takeDigits_append (ascii_of_number? (number?_fourDigits hyear))
    (by decide : asciiDigit? '-' = none)
  unfold count?
  rw [hsign, chars_eq]
  simp [htake, takeFraction]

theorem dateOfText_eq_ok_iff {t : Timestamp} :
    dateOfText s.chars = .ok t ↔ s.IsStrict ∧ s.timestamp = t := by
  unfold dateOfText
  rw [takeDay_chars]
  dsimp only
  cases htime : timeAndOffset? s.afterDate with
  | none =>
    refine ⟨nofun, fun ⟨hstrict, _⟩ => ?_⟩
    rw [s.timeAndOffset?_eq_some_iff.2 ⟨hstrict, rfl⟩] at htime
    cases htime
  | some numbers =>
    obtain ⟨hstrict, rfl⟩ := s.timeAndOffset?_eq_some_iff.1 htime
    simp [s.timestamp_numbers, hstrict]

theorem isWellFormed_text (h : s.IsStrict) : isWellFormed s.text = true := by
  have hplain : s.chars.all isPlain = true := by
    rw [chars, h.lineFeed]
    simpa [feedChars] using h.inRange.all_isPlain
  have hpoints := points_eq_map fun c hc => isOrdinary_of_isPlain (List.all_eq_true.1 hplain c hc)
  rw [isWellFormed, text, String.toList_ofList, hpoints, Point.all_isChar_map_char]

/-- The reader of dates takes the spellings without liberties, as what they spell. -/
theorem readCreationDate_eq_ok_iff {t : Timestamp} :
    readCreationDate (.string s.text) = .ok t ↔ s.IsStrict ∧ s.timestamp = t := by
  have hread : readDateText s.text.toList = dateOfText s.chars := by
    rw [text, String.toList_ofList, readDateText, count?_chars]
  rw [readCreationDate, hread, ← dateOfText_eq_ok_iff]
  split_ifs with hwell
  · rfl
  · constructor
    · intro h
      cases h
    · intro h
      exact absurd (s.isWellFormed_text (s.dateOfText_eq_ok_iff.1 h).1) hwell

end Spelling

end PolicyAgent.Time

namespace PolicyAgent

open PolicyAgent.Json PolicyAgent.Time

/-- The object is a command if its date, which is a text, can be read. -/
structure DatedBy (fields : Fields) (text : String) : Prop where
  id : ∃ s, Fields.get? fields "id" = some (.string s)
  type : HasTextType fields
  date : (lookUp fields "createdAt" "created_at").2 = some (.string text)

namespace Command

variable {fields : Fields} {text : String} {c : Command}

theorem exists_createdAt_of_datedBy (h : DatedBy fields text)
    (hdecode : decode (.object fields) = .ok c) :
    ∃ t, readCreationDate (.string text) = .ok t ∧ c.createdAt = t.withOffset := by
  obtain ⟨v, t, hlookUp, hread, hcreatedAt⟩ := (decode_object_eq_ok_iff.1 hdecode).createdAt
  rw [h.date] at hlookUp
  obtain rfl := Option.some.inj hlookUp
  exact ⟨t, hread, hcreatedAt⟩

theorem exists_decode_iff_of_datedBy (h : DatedBy fields text) :
    (∃ c, decode (.object fields) = .ok c) ↔ ∃ t, readCreationDate (.string text) = .ok t := by
  constructor
  · rintro ⟨c, hdecode⟩
    obtain ⟨t, hread, -⟩ := exists_createdAt_of_datedBy h hdecode
    exact ⟨t, hread⟩
  · rintro ⟨t, hread⟩
    exact (exists_decode_object_iff ⟨h.id, _, t, h.date, hread⟩).2 h.type

/-- A text that is read as a timestamp is the date of a command unless it takes a liberty, and
then the date is that timestamp. -/
theorem createdAt_agrees {t : Timestamp} (hread : Timestamp.readRfc3339 text = .ok t)
    (h : DatedBy fields text) :
    (∀ c, decode (.object fields) = .ok c → c.createdAt = t) ∧
      ∃ s : Spelling, s.text = text ∧ s.timestamp = t ∧
        ((∃ c, decode (.object fields) = .ok c) ↔ s.IsStrict) := by
  obtain ⟨s, rfl⟩ := Timestamp.exists_spelling hread
  rw [s.readRfc3339_spelling] at hread
  obtain rfl := Except.ok.inj hread
  refine ⟨fun c hdecode => ?_, s, rfl, rfl, ?_⟩
  · obtain ⟨t, hdate, hcreatedAt⟩ := exists_createdAt_of_datedBy h hdecode
    obtain ⟨-, rfl⟩ := s.readCreationDate_eq_ok_iff.1 hdate
    exact hcreatedAt
  · rw [exists_decode_iff_of_datedBy h]
    simp only [s.readCreationDate_eq_ok_iff, exists_and_left, exists_eq', and_true]

/-- The last microsecond but one before March in a leap year, to the west of UTC. -/
def leapDay : Timestamp where
  day := ⟨2020, 2, 29, by decide, by decide, by decide, by decide, by decide, by decide⟩
  time := ⟨23, 59, 59, 999998, by decide, by decide, by decide, by decide⟩
  offset := some ⟨-1800, by decide, by decide⟩

def fieldsDated (text : String) : Fields := [("id", .string "1"), ("createdAt", .string text)]

theorem datedBy_fieldsDated (text : String) : DatedBy (fieldsDated text) text where
  id := ⟨_, rfl⟩
  type := ⟨none, rfl⟩
  date := rfl

theorem leapDay_createdAt :
    Timestamp.readRfc3339 "2020-02-29t23:59:59.9999989-00:30" = .ok leapDay ∧
      DatedBy (fieldsDated "2020-02-29t23:59:59.9999989-00:30")
        "2020-02-29t23:59:59.9999989-00:30" ∧
      (∃ c, decode (.object (fieldsDated "2020-02-29t23:59:59.9999989-00:30")) = .ok c) ∧
      ∀ c, decode (.object (fieldsDated "2020-02-29t23:59:59.9999989-00:30")) = .ok c →
        c.createdAt = leapDay := by
  have hread : Timestamp.readRfc3339 "2020-02-29t23:59:59.9999989-00:30" = .ok leapDay := by
    decide +kernel
  have hdated := datedBy_fieldsDated "2020-02-29t23:59:59.9999989-00:30"
  have hdecode :
      (decode (.object (fieldsDated "2020-02-29t23:59:59.9999989-00:30"))).isOk = true := by
    decide +kernel
  refine ⟨hread, hdated, ?_, (createdAt_agrees hread hdated).1⟩
  cases hc : decode (.object (fieldsDated "2020-02-29t23:59:59.9999989-00:30")) with
  | ok c => exact ⟨c, rfl⟩
  | error e =>
    rw [hc] at hdecode
    cases hdecode

end Command

end PolicyAgent
