import PolicyAgent.Proofs.Schedule.Endings

/-!
# Pacing

An interval is read from a text as a number, an infinity or NaN. If it is above zero, the agent
waits before every cycle, as long as the cycles take no time themselves. With NaN it waits before
none: there is no time before a deadline that is NaN, and no deadline after one.
-/
namespace PolicyAgent.Schedule

open Timeline

/-- Seconds as a floating-point number has them, but without rounding. -/
inductive Seconds
  | nan
  | infinite (negative : Bool)
  | finite (q : ℚ)
  deriving DecidableEq

namespace Seconds

def plus : Seconds → Seconds → Seconds
  | finite p, finite q => finite (p + q)
  | infinite a, infinite b => if a = b then infinite a else nan
  | infinite a, finite _ => infinite a
  | finite _, infinite b => infinite b
  | nan, _ | _, nan => nan

def opposite : Seconds → Seconds
  | finite q => finite (-q)
  | infinite negative => infinite (!negative)
  | nan => nan

def atMost : Seconds → Seconds → Bool
  | finite p, finite q => decide (p ≤ q)
  | infinite a, infinite b => a || !b
  | infinite a, finite _ => a
  | finite _, infinite b => !b
  | nan, _ | _, nan => false

def isBefore : Seconds → Seconds → Bool
  | finite p, finite q => decide (p < q)
  | infinite a, infinite b => a && !b
  | infinite a, finite _ => a
  | finite _, infinite b => !b
  | nan, _ | _, nan => false

def times (n : Int) : Seconds → Seconds
  | finite q => finite (n * q)
  | infinite negative => if n = 0 then nan else infinite (negative != decide (n < 0))
  | nan => nan

/-- A number is less than one infinite interval away from zero. An infinity has no whole number
of intervals. -/
def count : Seconds → Seconds → Except CountError Int
  | finite p, finite q => .ok ⌊p / q⌋
  | finite p, infinite negative => .ok (if p = 0 ∨ decide (p < 0) = negative then 0 else -1)
  | infinite _, _ | nan, _ | _, nan => .error .nan

end Seconds

/-- Exact time with the infinities and NaN, in which a wait ends at its deadline. -/
instance : Timeline Seconds where
  plus := Seconds.plus
  minus a b := a.plus b.opposite
  atMost := Seconds.atMost
  isBefore := Seconds.isBefore
  times := Seconds.times
  count := Seconds.count
  arrive now deadline := if now.isBefore deadline then deadline else now

section

variable {T : Type} [Timeline T]

/-- Before each cycle the agent waits from the time when it is free until the cycle starts. -/
inductive Waits (R : T → T → Prop) : T → List (Beat T) → Prop
  | nil {time : T} : Waits R time []
  | cons {time : T} {beat : Beat T} {beats : List (Beat T)} (hwait : R time beat.start)
      (hrest : Waits R beat.finish beats) : Waits R time (beat :: beats)

abbrev Paced (time : T) (beats : List (Beat T)) : Prop :=
  Waits (fun free start => Timeline.isBefore free start = true) time beats

abbrev Unpaced (time : T) (beats : List (Beat T)) : Prop :=
  Waits (fun free start => start = free) time beats

/-- Cycles are run, and none of them is waited for. -/
def NeverWaits (interval start : T) : Prop :=
  ∀ spans : List (Span T), let trace := unstopped interval start spans
    trace.beats.length = spans.length ∧ Unpaced start trace.beats

end

variable {interval time tick next : Seconds} {stop : Stop Seconds} {span : Span Seconds}
  {spans : List (Span Seconds)} {dropped : Option ℤ} {trace : Trace Seconds}

def Span.IsInstant (span : Span Seconds) : Prop := ∀ stretch ∈ span.stretches, stretch = .finite 0

theorem Span.IsInstant.finish_eq (h : span.IsInstant) (start : Seconds) :
    span.finish start = start := by
  unfold IsInstant at h
  unfold Span.finish
  generalize span.stretches = stretches at h ⊢
  induction stretches with
  | nil => rfl
  | cons stretch rest ih =>
    obtain ⟨rfl, hrest⟩ := List.forall_mem_cons.1 h
    have hplus : plus start (.finite 0) = start := by
      cases start <;> simp [plus, Seconds.plus]
    rw [List.foldl_cons, hplus, ih hrest]

theorem arrive_of_isBefore (h : isBefore time tick = true) : arrive time tick = tick := if_pos h

theorem isBefore_plus (hinterval : isBefore (.finite 0) interval = true) (start : ℚ) :
    isBefore (.finite start) (plus (.finite start) interval) = true := by
  cases interval with
  | nan => cases hinterval
  | infinite negative => exact hinterval
  | finite q => simpa [isBefore, plus, Seconds.isBefore, Seconds.plus] using hinterval

theorem atMost_eq_false_of_isBefore (h : isBefore time tick = true) :
    atMost tick time = false := by
  cases time <;> cases tick <;> simp_all [isBefore, Seconds.isBefore, atMost, Seconds.atMost]

/-- Behind a cycle that starts on its tick and takes no time, the next tick is later, if there is
one. There is none behind an infinite wait: the ticks that it missed cannot be counted. -/
theorem isBefore_of_nextTick (hinterval : isBefore (.finite 0) interval = true)
    (htick : isBefore time tick = true) (h : nextTick interval tick tick = .ok (next, dropped)) :
    isBefore tick next = true := by
  cases tick with
  | nan => cases time <;> cases htick
  | finite q =>
    have hlater := isBefore_plus hinterval q
    have hnext : nextTick interval (.finite q) (.finite q)
        = .ok (plus (.finite q) interval, none) :=
      if_neg (Bool.eq_false_iff.1 (atMost_eq_false_of_isBefore hlater))
    obtain ⟨rfl, -⟩ := Prod.mk.inj (Except.ok.inj (hnext.symm.trans h))
    exact hlater
  | infinite negative =>
    obtain rfl : negative = false := by
      cases time <;> simp_all [isBefore, Seconds.isBefore]
    have huncounted : nextTick interval (.infinite false) (.infinite false) = .error .nan := by
      cases interval with
      | nan => cases hinterval
      | finite q => rfl
      | infinite negative =>
        obtain rfl : negative = false := by simpa [isBefore, Seconds.isBefore] using hinterval
        rfl
    nomatch huncounted.symm.trans h

theorem Runs.paced (hinterval : isBefore (.finite 0) interval = true)
    (h : Runs interval stop time tick spans trace) (htick : isBefore time tick = true)
    (hspans : ∀ span ∈ spans, span.IsInstant) : Paced time trace.beats := by
  induction h with
  | stopped | unfinished => exact .nil
  | failed => exact .cons (by rwa [Span.beat, arrive_of_isBefore htick]) .nil
  | @cycle stop time tick next dropped span spans trace hstop hnext hrest ih =>
    obtain ⟨hspan, hspans⟩ := List.forall_mem_cons.1 hspans
    have hfinish : (span.beat time tick dropped).finish = tick := by
      rw [Span.beat, arrive_of_isBefore htick, hspan.finish_eq]
    rw [hfinish] at hnext hrest ih
    refine .cons (by rwa [Span.beat, arrive_of_isBefore htick]) ?_
    rw [hfinish]
    exact ih (isBefore_of_nextTick hinterval htick hnext) hspans

section

variable {T : Type} [Timeline T] {nan time tick : T} {stop : Stop T} {spans : List (Span T)}
  {trace : Trace T}

/-- What a sum with NaN is, and how NaN compares: it is not reached, and nothing waits for it. -/
structure IsNaN (nan : T) : Prop where
  plus : ∀ time, Timeline.plus time nan = nan
  atMost : ∀ time, Timeline.atMost nan time = false
  arrive : ∀ time, Timeline.arrive time nan = time

theorem IsNaN.nextTick_eq (h : IsNaN nan) (finish : T) :
    nextTick nan nan finish = .ok (nan, none) := by
  unfold nextTick
  dsimp only
  rw [h.plus, h.atMost]
  rfl

theorem Runs.unpaced (hnan : IsNaN nan) (h : Runs nan stop time tick spans trace)
    (htick : tick = nan) : Unpaced time trace.beats := by
  induction h with
  | stopped | unfinished => exact .nil
  | failed => exact .cons (by rw [Span.beat, htick, hnan.arrive]) .nil
  | cycle hstop hnext hrest ih =>
    rw [htick, hnan.nextTick_eq, Except.ok.injEq, Prod.mk.injEq] at hnext
    exact .cons (by rw [Span.beat, htick, hnan.arrive]) (ih hnext.1.symm)

theorem IsNaN.length_beats_runFrom (h : IsNaN nan) (time : T) (spans : List (Span T)) :
    (runFrom nan .never time nan (spans.map Span.calm)).beats.length = spans.length := by
  induction spans generalizing time with
  | nil => rfl
  | cons span rest ih =>
    rw [List.map_cons, runFrom_cons (rest.map Span.calm) rfl rfl (h.nextTick_eq _)]
    exact congrArg Nat.succ (ih _)

theorem IsNaN.neverWaits (h : IsNaN nan) (start : T) : NeverWaits nan start := by
  intro spans
  unfold unstopped run
  rw [h.plus]
  exact ⟨h.length_beats_runFrom start spans, (runs_runFrom _ _ _ _ _).unpaced h rfl⟩

end

theorem Seconds.isNaN_nan : IsNaN Seconds.nan where
  plus time := by cases time <;> rfl
  atMost _ := rfl
  arrive time := by cases time <;> rfl

end PolicyAgent.Schedule
