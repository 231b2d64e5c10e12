import Mathlib
import PolicyAgent.Proofs.Lifetime
import PolicyAgent.Proofs.Schedule.Pacing

/-!
# Accepted intervals

The poll interval is a number that a text is read as, and it is refused if it is zero or less. What
is let through is above zero or NaN, as NaN is not less than anything. An interval above zero paces
the cycles, be it finite or infinite; with NaN every cycle starts as soon as the one before it is
over.
-/
namespace PolicyAgent

open PolicyAgent.Schedule

namespace Decimal.Binary64

open Float.Model.UnpackedFloat

def isNegative : Sign → Bool
  | .negative => true
  | .positive => false

def ofUnpacked : Float.Model.UnpackedFloat → Binary64
  | .notANumber => nan
  | .infinity sign => infinite (isNegative sign)
  | .zero sign => finite (isNegative sign) 0 leastExponent
  | .finite sign mantissa exponent _ => finite (isNegative sign) mantissa exponent

section

variable (bits : BitVec 64)

theorem toNat_unpackExponent :
    (@unpackExponent .binary64 bits).toNat = (bits.toNat >>> 52) % 0x800 := by
  simp [unpackExponent]

theorem toNat_unpackMantissa :
    (@unpackMantissa .binary64 bits).toNat = bits.toNat % leastNormalMantissa := by
  simp [unpackMantissa, leastNormalMantissa]

theorem isNegative_unpackSign :
    isNegative (Sign.ofBitVec (@unpackSign .binary64 bits))
      = decide (1 <<< 63 ≤ bits.toNat) := by
  have hbits := bits.isLt
  have hsign : (@unpackSign .binary64 bits).toNat = bits.toNat / 2 ^ 63 := by
    simp [unpackSign]
    omega
  unfold Sign.ofBitVec
  simp only [← BitVec.toNat_inj, hsign]
  split_ifs with h
  · simp [isNegative] at h ⊢
    omega
  · simp [isNegative] at h ⊢
    omega

/-- Read from its bits, a number has the parts that it unpacks to. -/
theorem ofBits_eq : ofBits bits.toNat = ofUnpacked (unpack .binary64 bits) := by
  have hones : (-1#11).toNat = 0x7ff := by decide
  have hmantissa : (1#1 ++ @unpackMantissa .binary64 bits).toNat
      = leastNormalMantissa + (@unpackMantissa .binary64 bits).toNat := by
    rw [BitVec.toNat_append, ← Nat.shiftLeft_add_eq_or_of_lt (BitVec.isLt _)]
    rfl
  unfold ofBits unpack
  simp only [← toNat_unpackMantissa, ← toNat_unpackExponent, ← isNegative_unpackSign,
    ← BitVec.toNat_inj, hones, BitVec.toNat_zero]
  split_ifs
  · rfl
  · rfl
  · simp [ofUnpacked, *]
  · simp [ofUnpacked, leastExponent, Float.Model.Format.exponentBias, *]
  · simp [ofUnpacked, leastExponent, Float.Model.Format.exponentBias, hmantissa]
    omega

end

theorem ofFloat_eq (x : Float) : ofFloat x = ofUnpacked x.toModel.unpack :=
  ofBits_eq x.toModel.toBits.toBitVec

theorem scale_pos {mantissa : Nat} (h : 0 < mantissa) (exponent : Int) :
    0 < scale mantissa exponent := by
  unfold scale
  split_ifs
  · simpa [Nat.shiftLeft_eq] using h
  · rw [Rat.mkRat_eq_div]
    have hpower : 0 < 1 <<< (-exponent).toNat := by simp [Nat.shiftLeft_eq]
    exact div_pos (by exact_mod_cast h) (by exact_mod_cast hpower)

theorem scale_zero (exponent : Int) : scale 0 exponent = 0 := by
  simp [scale]

end Decimal.Binary64

namespace Schedule.Seconds

open Decimal

def ofFloat (x : Float) : Seconds :=
  match Binary64.ofFloat x with
  | .nan => nan
  | .infinite negative => infinite negative
  | .finite negative mantissa exponent =>
    let magnitude := Binary64.scale mantissa exponent
    finite (if negative then -magnitude else magnitude)

theorem isNaN_iff (x : Float) : x.isNaN = true ↔ ofFloat x = nan := by
  have hunpack : x.isNaN = x.toModel.unpack.isNaN := rfl
  rw [hunpack, ofFloat, Binary64.ofFloat_eq]
  cases x.toModel.unpack <;> simp [Binary64.ofUnpacked, Float.Model.UnpackedFloat.isNaN]

theorem unpack_of_isNaN {x : Float} (h : x.isNaN = true) : x.toModel.unpack = .notANumber := by
  change x.toModel.unpack.isNaN = true at h
  cases hunpack : x.toModel.unpack with
  | notANumber => rfl
  | _ => simp [hunpack, Float.Model.UnpackedFloat.isNaN] at h

theorem eq_of_isNaN {x y : Float} (hx : x.isNaN = true) (hy : y.isNaN = true) : x = y := by
  have hbits {x : Float} (h : x.isNaN = true) :
      x.toModel.toBits.toBitVec = Float.Model.UnpackedFloat.packedNaN .binary64 := by
    have hunpack := unpack_of_isNaN h
    unfold Float.Model.unpack Float.Model.UnpackedFloat.unpack at hunpack
    dsimp only at hunpack
    split_ifs at hunpack with hexponent hmantissa
    exact x.toModel.valid.eq_packedNaN hexponent hmantissa
  obtain ⟨⟨⟨bits⟩, _⟩⟩ := x
  obtain ⟨⟨⟨bits'⟩, _⟩⟩ := y
  obtain rfl : bits = bits' := (hbits hx).trans (hbits hy).symm
  rfl

theorem isNaN_float {x : Float} (h : x.isNaN = true) : IsNaN x where
  plus time := by
    refine eq_of_isNaN ?_ h
    have hadd (u : Float.Model.UnpackedFloat) :
        Float.Model.UnpackedFloat.add .binary64 u .notANumber = .notANumber := by
      cases u <;> rfl
    change (Float.Model.pack (.add .binary64 time.toModel.unpack x.toModel.unpack)).unpack.isNaN
      = true
    rw [unpack_of_isNaN h, hadd]
    decide +kernel
  atMost time := by
    have hle : x ≤ time ↔ x.toModel.unpack.le time.toModel.unpack = true := decide_eq_true_iff
    refine decide_eq_false ?_
    rw [hle, unpack_of_isNaN h]
    exact Bool.false_ne_true
  arrive time := by
    have hlt : time < x ↔ time.toModel.unpack.lt x.toModel.unpack = true := decide_eq_true_iff
    refine if_neg ?_
    rw [hlt, unpack_of_isNaN h]
    cases time.toModel.unpack <;> exact Bool.false_ne_true

theorem unpack_zero : (0 : Float).toModel.unpack = .zero .positive := rfl

/-- Next to zero, a number is in its exact place. -/
theorem zero_order (x : Float) :
    (x ≤ 0 ↔ Timeline.atMost (ofFloat x) (finite 0) = true) ∧
      (0 < x ↔ Timeline.isBefore (finite 0) (ofFloat x) = true) := by
  have hle : x ≤ 0 ↔ x.toModel.unpack.le (.zero .positive) = true := by
    rw [← unpack_zero]
    exact decide_eq_true_iff
  have hlt : 0 < x ↔ Float.Model.UnpackedFloat.lt (.zero .positive) x.toModel.unpack = true := by
    rw [← unpack_zero]
    exact decide_eq_true_iff
  rw [hle, hlt, ofFloat, Binary64.ofFloat_eq]
  rcases x.toModel.unpack with sign | _ | sign | ⟨sign, mantissa, exponent, hmantissa⟩
  · cases sign <;> decide
  · decide
  · cases sign <;> simp [Binary64.ofUnpacked, Binary64.scale_zero] <;> decide
  · have hscale := Binary64.scale_pos hmantissa exponent
    cases sign <;>
      simp [Binary64.ofUnpacked, Binary64.isNegative, Timeline.atMost, atMost, Timeline.isBefore,
        isBefore, hscale, hscale.le, Float.Model.UnpackedFloat.le, Float.Model.UnpackedFloat.lt,
        Float.Model.UnpackedFloat.compare]

theorem isBefore_of_not_atMost {time : Seconds} (h : Timeline.atMost time (finite 0) = false)
    (hnan : time ≠ nan) : Timeline.isBefore (finite 0) time = true := by
  cases time with
  | nan => exact absurd rfl hnan
  | infinite negative => simpa [Timeline.atMost, Timeline.isBefore, atMost, isBefore] using h
  | finite q => simpa [Timeline.atMost, Timeline.isBefore, atMost, isBefore] using h

end Schedule.Seconds

/-- An interval that the settings let through is accepted for watching. If it is not NaN it is above
zero, and in exact time cycles that take no time are each waited for. A clock with rounding does
not wait for an interval that is too small to change its time. If the interval is NaN no cycle is
waited for, whatever time the cycles take, with rounding and without. -/
theorem Environment.paces_of_pollInterval {env : Environment} {interval : Float}
    (h : env.pollInterval = .ok interval) :
    Watch.isTooShort interval = false ∧
      (interval.isNaN = false → 0 < interval ∧
        ∀ (start : ℚ) (stop : Stop Seconds) (spans : List (Span Seconds)),
          (∀ span ∈ spans, span.IsInstant) →
          Paced (.finite start) (run (.ofFloat interval) stop (.finite start) spans).beats) ∧
      (interval.isNaN = true → ¬ 0 < interval ∧
        (∀ start : Seconds, NeverWaits (.ofFloat interval) start) ∧
        ∀ start : Float, NeverWaits interval start) := by
  have hshort := isTooShort_of_pollInterval h
  refine ⟨hshort, fun hnumber => ?_, fun hnan => ?_⟩
  · have hpositive : Timeline.isBefore (.finite 0) (Seconds.ofFloat interval) = true := by
      refine Seconds.isBefore_of_not_atMost ?_ ?_
      · simpa [Watch.isTooShort, (Seconds.zero_order interval).1] using hshort
      · simpa [← Seconds.isNaN_iff] using hnumber
    refine ⟨(Seconds.zero_order interval).2.2 hpositive, fun start stop spans hspans => ?_⟩
    exact (runs_runFrom _ _ _ _ _).paced hpositive (isBefore_plus hpositive start) hspans
  · rw [(Seconds.zero_order interval).2, (Seconds.isNaN_iff interval).1 hnan]
    exact ⟨Bool.false_ne_true, Seconds.isNaN_nan.neverWaits, (Seconds.isNaN_float hnan).neverWaits⟩

namespace Shop

def intervalOnly (text : String) : Environment := [("COMMANDS_POLL_INTERVAL", text)]

def instants : List (Span Seconds) := [⟨[.finite 0], .none⟩, ⟨[.finite 0, .finite 0], .none⟩]

/-- An interval of five seconds, and one that is NaN. -/
theorem paces_five_nan :
    ((intervalOnly "5").pollInterval = .ok 5 ∧ Watch.isTooShort 5 = false ∧
      Paced (.finite 0) (run (.ofFloat 5) .never (.finite 0) instants).beats) ∧
    ((intervalOnly "nan").pollInterval = .ok (0 / 0) ∧ Watch.isTooShort (0 / 0) = false ∧
      NeverWaits (Seconds.ofFloat (0 / 0)) (.finite 0) ∧ NeverWaits (0 / 0 : Float) 0) := by
  have hfive : (intervalOnly "5").pollInterval = .ok 5 := by decide +kernel
  have hnan : (intervalOnly "nan").pollInterval = .ok (0 / 0) := by decide +kernel
  obtain ⟨hshort, hpaced, -⟩ := Environment.paces_of_pollInterval hfive
  obtain ⟨hshort', -, hunpaced⟩ := Environment.paces_of_pollInterval hnan
  obtain ⟨-, hexact, hrounded⟩ := hunpaced (by decide +kernel)
  refine ⟨⟨hfive, hshort, (hpaced (by decide +kernel)).2 0 .never instants ?_⟩, hnan, hshort',
    hexact (.finite 0), hrounded 0⟩
  simp [instants, Span.IsInstant]

/-- NaN is let through, and nothing is waited for then. -/
theorem not_forall_paced :
    ¬ ∀ (env : Environment) (interval : Float), env.pollInterval = .ok interval →
      Watch.isTooShort interval = false ∧ 0 < interval ∧
        ∀ (start : ℚ) (stop : Stop Seconds) (spans : List (Span Seconds)),
          (∀ span ∈ spans, span.IsInstant) →
          Paced (.finite start) (run (.ofFloat interval) stop (.finite start) spans).beats := by
  intro h
  have hnan : (intervalOnly "nan").pollInterval = .ok (0 / 0) := by decide +kernel
  exact absurd (h _ _ hnan).2.1 (by decide +kernel)

end Shop

end PolicyAgent
