import Mathlib.Data.List.Induction
import Mathlib.Data.Nat.Digits.Defs
import Mathlib.Data.Rat.Floor
import PolicyAgent.Proofs.Text.CaseOfDigits
import PolicyAgent.Time.Rfc3339

/-!
# Fractions of a second

A fraction is a run of digits of any length, and a timestamp keeps microseconds. The reader takes
six digits: it puts zeros after a shorter run and leaves off what a longer one has more. This is
to round the fraction down to whole microseconds.
-/
namespace PolicyAgent.Time

open PolicyAgent.Text PolicyAgent.Decimal

theorem ofDigits_eq (digits : List Nat) : ofDigits digits = Nat.ofDigits 10 digits.reverse := by
  induction digits using List.reverseRecOn with
  | nil => rfl
  | append_singleton digits d ih =>
    rw [List.reverse_append, List.reverse_singleton, List.singleton_append, Nat.ofDigits_cons,
      ← ih, ofDigits, List.foldl_append, Nat.add_comm]
    rfl

theorem ofDigits_append (xs ys : List Nat) :
    ofDigits (xs ++ ys) = ofDigits xs * 10 ^ ys.length + ofDigits ys := by
  rw [ofDigits_eq, ofDigits_eq, ofDigits_eq, List.reverse_append, Nat.ofDigits_append,
    List.length_reverse, Nat.add_comm, Nat.mul_comm]

theorem ofDigits_lt {digits : List Nat} (h : ∀ d ∈ digits, d < 10) :
    ofDigits digits < 10 ^ digits.length := by
  rw [ofDigits_eq, ← List.length_reverse]
  exact Nat.ofDigits_lt_base_pow_length (by decide) fun d hd => h d (List.mem_reverse.1 hd)

theorem ofDigits_replicate_zero (n : Nat) : ofDigits (List.replicate n 0) = 0 := by
  induction n with
  | zero => rfl
  | succ n ih => simpa [ofDigits, List.replicate_succ] using ih

def digitValue (c : Char) : Nat := (decimalDigit? c).getD 0

theorem digitValue_lt (c : Char) : digitValue c < 10 := by
  unfold digitValue
  cases h : decimalDigit? c with
  | none => decide
  | some d => exact decimalDigit?_lt h

theorem ascii_of_digit {c : Char} (h : (asciiDigit? c).isSome = true) : c.toNat < 128 := by
  have hle : c ≤ '9' := by
    unfold asciiDigit? at h
    split_ifs at h with hc
    · exact hc.2
    · cases h
  exact Nat.lt_of_le_of_lt hle (by decide)

theorem asciiDigit?_eq {c : Char} (h : (asciiDigit? c).isSome = true) :
    asciiDigit? c = some (digitValue c) := by
  have hc := of_forall_ascii
    (P := fun c => (asciiDigit? c).isSome = true → asciiDigit? c = some (digitValue c))
    (by decide +kernel) (ascii_of_digit h)
  exact hc h

theorem number?_eq {cs : List Char} (h : ∀ c ∈ cs, (asciiDigit? c).isSome = true) :
    number? cs = some (ofDigits (cs.map digitValue)) := by
  have hvalues : cs.mapM asciiDigit? = some (cs.map digitValue) := by
    induction cs with
    | nil => rfl
    | cons c cs ih =>
      obtain ⟨hc, hcs⟩ := List.forall_mem_cons.1 h
      rw [List.mapM_cons, asciiDigit?_eq hc, ih hcs]
      rfl
  rw [number?, hvalues, Option.map_some]

theorem ascii_of_number? {cs : List Char} {n : Nat} (h : number? cs = some n) :
    ∀ c ∈ cs, (asciiDigit? c).isSome = true := by
  induction cs generalizing n with
  | nil => exact nofun
  | cons c cs ih =>
    simp only [number?, List.mapM_cons, Option.map_eq_some_iff, Option.bind_eq_bind,
      Option.bind_eq_some_iff] at h
    obtain ⟨_, ⟨d, hd, digits, hdigits, -⟩, -⟩ := h
    have hrest : number? cs = some (ofDigits digits) := by rw [number?, hdigits, Option.map_some]
    exact List.forall_mem_cons.2 ⟨by rw [hd]; rfl, ih hrest⟩

theorem number?_eq_some_iff {cs : List Char} {n : Nat} :
    number? cs = some n ↔
      (∀ c ∈ cs, (asciiDigit? c).isSome = true) ∧ ofDigits (cs.map digitValue) = n := by
  constructor
  · intro h
    have hascii := ascii_of_number? h
    rw [number?_eq hascii] at h
    exact ⟨hascii, Option.some.inj h⟩
  · rintro ⟨hascii, rfl⟩
    exact number?_eq hascii

/-- The microseconds that a fraction stands for: its first six digits, with zeros after a shorter
one. -/
def microsOf (fraction : List Char) : Nat :=
  ofDigits ((fraction.map digitValue ++ List.replicate 6 0).take 6)

theorem sixDigits_eq (fraction : List Char) :
    sixDigits fraction = (fraction ++ List.replicate 6 '0').take 6 := by
  rw [sixDigits, List.take_append, List.take_replicate, Nat.min_eq_left (Nat.sub_le _ _)]

theorem number?_sixDigits {fraction : List Char}
    (h : ∀ c ∈ fraction.take 6, (asciiDigit? c).isSome = true) :
    number? (sixDigits fraction) = some (microsOf fraction) := by
  have hdigits : ∀ c ∈ sixDigits fraction, (asciiDigit? c).isSome = true := by
    intro c hc
    rcases List.mem_append.1 hc with hc | hc
    · exact h c hc
    · rw [List.eq_of_mem_replicate hc]
      decide
  have hzero : digitValue '0' = 0 := by decide
  rw [number?_eq hdigits, sixDigits_eq, List.map_take, List.map_append, List.map_replicate, hzero,
    microsOf]

theorem microsOf_lt (fraction : List Char) : microsOf fraction < 1000000 := by
  have hdigits : ∀ d ∈ (fraction.map digitValue ++ List.replicate 6 0).take 6, d < 10 := by
    intro d hd
    rcases List.mem_append.1 (List.mem_of_mem_take hd) with hd | hd
    · obtain ⟨c, -, rfl⟩ := List.mem_map.1 hd
      exact digitValue_lt c
    · rw [List.eq_of_mem_replicate hd]
      decide
  have hlength : ((fraction.map digitValue ++ List.replicate 6 0).take 6).length = 6 := by simp
  have hlt := ofDigits_lt hdigits
  rw [hlength] at hlt
  exact hlt

def partOfSecond (fraction : List Char) : ℚ :=
  (ofDigits (fraction.map digitValue) : ℚ) / (10 ^ fraction.length : ℕ)

/-- What six digits leave off is less than a microsecond. -/
theorem floor_partOfSecond (fraction : List Char) :
    ⌊partOfSecond fraction * 1000000⌋ = microsOf fraction := by
  set padded := fraction.map digitValue ++ List.replicate 6 0 with hpadded
  have hscaled : ofDigits padded = ofDigits (fraction.map digitValue) * 1000000 := by
    rw [hpadded, ofDigits_append, ofDigits_replicate_zero, List.length_replicate, Nat.add_zero]
    rfl
  have hrest : (padded.drop 6).length = fraction.length := by simp [hpadded]
  have hcut : ofDigits padded
      = microsOf fraction * 10 ^ fraction.length + ofDigits (padded.drop 6) := by
    rw [microsOf, ← hpadded, ← hrest, ← ofDigits_append, List.take_append_drop]
  have hlt : ofDigits (padded.drop 6) < 10 ^ fraction.length := by
    rw [← hrest]
    refine ofDigits_lt fun d hd => ?_
    rcases List.mem_append.1 (hpadded ▸ List.mem_of_mem_drop hd) with hd | hd
    · obtain ⟨c, -, rfl⟩ := List.mem_map.1 hd
      exact digitValue_lt c
    · rw [List.eq_of_mem_replicate hd]
      decide
  calc ⌊partOfSecond fraction * 1000000⌋
      = ⌊((ofDigits padded : ℕ) : ℚ) / ((10 ^ fraction.length : ℕ) : ℚ)⌋ := by
        rw [partOfSecond, hscaled, Nat.cast_mul, div_mul_eq_mul_div]
        norm_num
    _ = ((ofDigits padded / 10 ^ fraction.length : ℕ) : ℤ) := Rat.floor_natCast_div_natCast _ _
    _ = microsOf fraction := by
        rw [hcut, Nat.mul_comm, Nat.mul_add_div (Nat.pow_pos (by decide)), Nat.div_eq_of_lt hlt,
          Nat.add_zero]

end PolicyAgent.Time
