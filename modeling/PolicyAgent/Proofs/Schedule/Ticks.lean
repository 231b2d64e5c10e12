import Mathlib.Algebra.Order.Floor.Ring
import Mathlib.Data.Rat.Floor
import Mathlib.Order.Interval.Set.Defs
import Mathlib.Tactic.Linarith
import PolicyAgent.Schedule.Run

/-!
# Ticks and cycles

With exact times every cycle belongs to a tick of the grid that the interval lays from the
beginning on. A cycle starts on its tick or, if the cycle before it was not over, right after
that one, and always before the tick that follows. The ticks that a cycle lets pass without
using the last of them are dropped. So each tick has one cycle that starts for it or drops it,
and the number of cycles never gets ahead of the ticks.
-/
namespace PolicyAgent.Schedule

/-- Exact time, in which nothing is rounded and a wait ends at its deadline. -/
instance : Timeline ℚ where
  plus := (· + ·)
  minus := (· - ·)
  atMost a b := decide (a ≤ b)
  isBefore a b := decide (a < b)
  times n x := n * x
  count stretch interval := .ok ⌊stretch / interval⌋
  arrive now deadline := max now deadline

def Span.duration (span : Span ℚ) : ℚ := span.stretches.sum

theorem Span.finish_eq (span : Span ℚ) (start : ℚ) : span.finish start = start + span.duration := by
  unfold Span.finish duration
  induction span.stretches generalizing start with
  | nil => exact (add_zero start).symm
  | cons stretch rest ih =>
    rw [List.foldl_cons, ih, List.sum_cons, ← add_assoc]
    rfl

/-- The ticks that a beat uses up: its own and those that are dropped after it. -/
def Beat.ticks {T : Type} (beat : Beat T) : ℤ := 1 + beat.dropped.getD 0

/-- The way from a tick to the next one that is waited for. -/
structure Advances (interval tick finish next : ℚ) (dropped : Option ℤ) : Prop where
  next_eq : next = tick + (1 + dropped.getD 0 : ℤ) * interval
  nonneg : 0 ≤ dropped.getD 0
  overran : dropped.isSome ↔ tick + interval ≤ finish
  due : dropped.isSome → next ≤ finish
  near : finish < next + interval

theorem Advances.add_le {interval tick finish next : ℚ} {dropped : Option ℤ}
    (hinterval : 0 < interval) (h : Advances interval tick finish next dropped) :
    tick + interval ≤ next := by
  have hone : (1 : ℚ) ≤ (1 + dropped.getD 0 : ℤ) :=
    Int.cast_one_le_of_pos (by have := h.nonneg; omega)
  have hle := le_mul_of_one_le_left hinterval.le hone
  rw [h.next_eq]
  linarith

theorem nextTick_advances {interval : ℚ} (hinterval : 0 < interval) (tick finish : ℚ) :
    ∃ next dropped, nextTick interval tick finish = .ok (next, dropped) ∧
      Advances interval tick finish next dropped := by
  by_cases h : tick + interval ≤ finish
  · have hover : nextTick interval tick finish
        = .ok (tick + interval + ⌊(finish - (tick + interval)) / interval⌋ * interval,
          some ⌊(finish - (tick + interval)) / interval⌋) :=
      if_pos (decide_eq_true h)
    generalize hdropped : ⌊(finish - (tick + interval)) / interval⌋ = dropped at hover
    obtain ⟨hle, hlt⟩ := Int.floor_eq_iff.1 hdropped
    rw [le_div_iff₀ hinterval] at hle
    rw [div_lt_iff₀ hinterval] at hlt
    refine ⟨_, _, hover, ⟨?_, ?_, ?_, ?_, ?_⟩⟩
    · simp only [Option.getD_some]
      push_cast
      ring
    · rw [Option.getD_some, ← hdropped]
      exact Int.floor_nonneg.2 (div_nonneg (sub_nonneg.2 h) hinterval.le)
    · simp [h]
    · intro _
      linarith
    · linarith
  · have hnext : nextTick interval tick finish = .ok (tick + interval, none) :=
      if_neg (by simpa [Timeline.atMost, Timeline.plus] using h)
    refine ⟨_, _, hnext, ⟨?_, le_rfl, ?_, ?_, ?_⟩⟩
    · simp
    · simp [h]
    · simp
    · linarith

section

variable {T : Type} [Timeline T] {interval time tick next : T} {stop : Stop T} {span : Span T}
  {dropped : Option ℤ}

theorem runFrom_cons (rest : List (Span T)) (hdue : stop.isDue time tick = false)
    (hduring : stop.during (Timeline.arrive time tick) = none)
    (hnext : nextTick interval tick (span.finish (Timeline.arrive time tick))
      = .ok (next, dropped)) :
    let start := Timeline.arrive time tick
    let trace := runFrom interval (stop.afterCycle span.request) (span.finish start) next rest
    runFrom interval stop time tick (span :: rest)
      = { trace with beats := ⟨tick, start, span.finish start, dropped⟩ :: trace.beats } := by
  intro start trace
  conv_lhs => unfold runFrom
  simp only [hdue, hduring, hnext, Bool.false_eq_true, if_false]
  rfl

def Span.calm (span : Span T) : Span T := { span with request := .none }

def unstopped (interval start : T) (spans : List (Span T)) : Trace T :=
  run interval .never start (spans.map Span.calm)

end

/-- The next cycle of an agent that is free from a time on, whatever stop it is to heed later. -/
theorem exists_nextBeat {interval : ℚ} (hinterval : 0 < interval) (free tick duration : ℚ) :
    ∃ next dropped, nextTick interval tick (max free tick + duration) = .ok (next, dropped) ∧
      Advances interval tick (max free tick + duration) next dropped ∧
      ∀ (stop : Stop ℚ) (span : Span ℚ) (rest : List (Span ℚ)), span.duration = duration →
        stop.isDue free tick = false → stop.during (max free tick) = none →
        let finish := max free tick + duration
        let trace := runFrom interval (stop.afterCycle span.request) finish next rest
        runFrom interval stop free tick (span :: rest)
          = { trace with beats := ⟨tick, max free tick, finish, dropped⟩ :: trace.beats } := by
  obtain ⟨next, dropped, hnext, hadvances⟩ :=
    nextTick_advances hinterval tick (max free tick + duration)
  refine ⟨next, dropped, hnext, hadvances, ?_⟩
  rintro stop span rest rfl hdue hduring
  rw [← span.finish_eq] at hnext ⊢
  exact runFrom_cons rest hdue hduring hnext

/-- A beat for the tick with a number, of an agent that is free from a time on. -/
structure Beat.Keeps (start interval : ℚ) (number : ℤ) (free duration : ℚ) (beat : Beat ℚ) :
    Prop where
  tick_eq : beat.tick = start + number * interval
  start_eq : beat.start = max beat.tick free
  start_mem : beat.start ∈ Set.Ico beat.tick (beat.tick + interval)
  finish_eq : beat.finish = beat.start + duration
  overran : beat.dropped.isSome ↔ beat.tick + interval ≤ beat.finish
  dropped_nonneg : 0 ≤ beat.dropped.getD 0
  /-- The dropped ticks have come before the cycle is over. -/
  past : ∀ n : ℤ, number < n → n < number + beat.ticks → start + n * interval ≤ beat.finish
  /-- If any have been missed, so has the tick of the next cycle. -/
  due : beat.dropped.isSome → start + (number + beat.ticks : ℤ) * interval ≤ beat.finish

/-- Beats in a row, one for each of some cycles. The ticks are numbered, and the next cycle is
for the first tick that is not used up. -/
inductive InStep (start interval : ℚ) : ℤ → ℚ → List (Span ℚ) → List (Beat ℚ) → Prop
  | nil {number : ℤ} {free : ℚ} : InStep start interval number free [] []
  | cons {number : ℤ} {free : ℚ} {span : Span ℚ} {spans : List (Span ℚ)} {beat : Beat ℚ}
      {beats : List (Beat ℚ)} (hbeat : beat.Keeps start interval number free span.duration)
      (hrest : InStep start interval (number + beat.ticks) beat.finish spans beats) :
      InStep start interval number free (span :: spans) (beat :: beats)

section

variable {start interval free duration next : ℚ} {number : ℤ} {dropped : Option ℤ}

theorem Advances.next_eq_grid
    (h : Advances interval (start + number * interval) duration next dropped) :
    next = start + (number + (1 + dropped.getD 0) : ℤ) * interval := by
  rw [h.next_eq]
  push_cast
  ring

theorem Advances.keeps (hinterval : 0 < interval)
    (hfree : free < start + number * interval + interval)
    (h : Advances interval (start + number * interval)
      (max free (start + number * interval) + duration) next dropped) :
    Beat.Keeps start interval number free duration
      ⟨start + number * interval, max free (start + number * interval),
        max free (start + number * interval) + duration, dropped⟩ where
  tick_eq := rfl
  start_eq := max_comm _ _
  start_mem := ⟨le_max_right _ _, max_lt hfree (lt_add_of_pos_right _ hinterval)⟩
  finish_eq := rfl
  overran := h.overran
  dropped_nonneg := h.nonneg
  past n hn hlt := by
    have hsome : dropped.isSome := by
      cases dropped with
      | none =>
        have hone : n < number + 1 := hlt
        omega
      | some count => rfl
    have hcast : (n : ℚ) ≤ (number + (1 + dropped.getD 0) : ℤ) := Int.cast_le.2 hlt.le
    calc start + n * interval
        ≤ start + (number + (1 + dropped.getD 0) : ℤ) * interval := by gcongr
      _ = next := h.next_eq_grid.symm
      _ ≤ _ := h.due hsome
  due hsome := h.next_eq_grid ▸ h.due hsome

theorem inStep_runFrom (hinterval : 0 < interval) (spans : List (Span ℚ))
    (hfree : free < start + number * interval + interval) :
    let trace := runFrom interval .never free (start + number * interval) (spans.map Span.calm)
    trace.ending = .unfinished ∧ InStep start interval number free spans trace.beats := by
  -- Whatever a cycle takes, it ends before the tick behind the one that is waited for next.
  induction spans generalizing free number with
  | nil => exact ⟨rfl, .nil⟩
  | cons span rest ih =>
    obtain ⟨next, dropped, -, hadvances, hrun⟩ :=
      exists_nextBeat hinterval free (start + number * interval) span.duration
    have hnear := hadvances.near
    rw [hadvances.next_eq_grid] at hnear
    obtain ⟨hending, hbeats⟩ := ih hnear
    rw [← hadvances.next_eq_grid] at hending hbeats
    rw [List.map_cons, hrun .never span.calm (rest.map Span.calm) rfl rfl rfl]
    exact ⟨hending, .cons (hadvances.keeps hinterval hfree) hbeats⟩

end

/-- The tick with a number is that of the beat, or is dropped after it. -/
def Beat.Accounts (start interval : ℚ) (beat : Beat ℚ) (n : ℤ) : Prop :=
  beat.tick ≤ start + n * interval ∧ start + n * interval < beat.tick + beat.ticks * interval

/-- A cycle starts at the end of the one before it if that one overran, and otherwise waits. -/
def Beat.Precedes (beat next : Beat ℚ) : Prop :=
  if beat.dropped.isSome then next.start = beat.finish else beat.finish < next.start

namespace Beat.Keeps

variable {start interval free duration : ℚ} {number : ℤ} {beat : Beat ℚ}

theorem one_le_ticks (h : beat.Keeps start interval number free duration) : 1 ≤ beat.ticks :=
  le_add_of_nonneg_right h.dropped_nonneg

theorem tick_add (h : beat.Keeps start interval number free duration) :
    beat.tick + beat.ticks * interval = start + (number + beat.ticks : ℤ) * interval := by
  rw [h.tick_eq]
  push_cast
  ring

theorem precedes {next : Beat ℚ} {later : ℚ} (h : beat.Keeps start interval number free duration)
    (hnext : next.Keeps start interval (number + beat.ticks) beat.finish later) :
    beat.Precedes next := by
  unfold Beat.Precedes
  split_ifs with hover
  · rw [hnext.start_eq, hnext.tick_eq]
    exact max_eq_right (h.due hover)
  · have hone : beat.ticks = 1 := by
      cases hdropped : beat.dropped with
      | none => simp [ticks, hdropped]
      | some count => simp [hdropped] at hover
    have hfinish : beat.finish < beat.tick + interval := lt_of_not_ge (mt h.overran.2 hover)
    have htick := h.tick_add
    rw [hone, Int.cast_one, one_mul] at htick
    rw [hnext.start_eq, hnext.tick_eq, hone, ← htick]
    exact lt_max_of_lt_left hfinish

end Beat.Keeps

namespace InStep

variable {start interval free : ℚ} {number : ℤ} {spans : List (Span ℚ)} {beats : List (Beat ℚ)}

theorem le_tick (hinterval : 0 < interval) (h : InStep start interval number free spans beats) :
    ∀ beat ∈ beats, start + number * interval ≤ beat.tick := by
  induction h with
  | nil => simp
  | @cons number _ _ _ beat _ hbeat _ ih =>
    refine List.forall_mem_cons.2 ⟨hbeat.tick_eq.ge, fun later hlater => ?_⟩
    have hnumber : (number : ℚ) ≤ (number + beat.ticks : ℤ) :=
      Int.cast_le.2 (le_add_of_nonneg_right (zero_le_one.trans hbeat.one_le_ticks))
    calc start + number * interval
        ≤ start + (number + beat.ticks : ℤ) * interval := by gcongr
      _ ≤ later.tick := ih later hlater

theorem pairwise_ticks (hinterval : 0 < interval)
    (h : InStep start interval number free spans beats) :
    beats.Pairwise fun beat later =>
      beat.tick < later.tick ∧ beat.tick + beat.ticks * interval ≤ later.tick := by
  induction h with
  | nil => exact .nil
  | @cons _ _ _ _ beat _ hbeat hrest ih =>
    refine .cons (fun later hlater => ?_) ih
    have hle : beat.tick + beat.ticks * interval ≤ later.tick :=
      hbeat.tick_add.le.trans (hrest.le_tick hinterval later hlater)
    have hticks : (0 : ℚ) < beat.ticks := Int.cast_pos.2 (zero_lt_one.trans_le hbeat.one_le_ticks)
    exact ⟨(lt_add_of_pos_right _ (mul_pos hticks hinterval)).trans_le hle, hle⟩

theorem exists_accounts (hinterval : 0 < interval)
    (h : InStep start interval number free spans beats) {n : ℤ} (hle : number ≤ n)
    (hlt : n < number + (beats.map Beat.ticks).sum) :
    ∃ beat ∈ beats, beat.Accounts start interval n := by
  induction h with
  | nil => simp at hlt; omega
  | @cons number _ _ _ beat _ hbeat _ ih =>
    rw [List.map_cons, List.sum_cons, ← add_assoc] at hlt
    rcases lt_or_ge n (number + beat.ticks) with hn | hn
    · refine ⟨beat, List.mem_cons_self, ?_, ?_⟩
      · rw [hbeat.tick_eq]
        gcongr
      · rw [hbeat.tick_add]
        gcongr
    · obtain ⟨later, hlater, haccounts⟩ := ih hn hlt
      exact ⟨later, List.mem_cons_of_mem _ hlater, haccounts⟩

theorem eq_of_accounts (hinterval : 0 < interval)
    (h : InStep start interval number free spans beats) {n : ℤ} {beat beat' : Beat ℚ}
    (hbeat : beat ∈ beats) (hbeat' : beat' ∈ beats) (haccounts : beat.Accounts start interval n)
    (haccounts' : beat'.Accounts start interval n) : beat = beat' := by
  have hpairwise : beats.Pairwise fun a b =>
      a.Accounts start interval n → b.Accounts start interval n → a = b := by
    refine (h.pairwise_ticks hinterval).imp fun hticks ha hb => ?_
    exact absurd (ha.2.trans_le hticks.2) (not_lt.2 hb.1)
  exact hpairwise.forall_of_forall_of_flip (fun _ _ _ _ => rfl)
    (hpairwise.imp fun heq hb ha => (heq ha hb).symm) hbeat hbeat' haccounts haccounts'

theorem isChain_precedes (h : InStep start interval number free spans beats) :
    beats.IsChain Beat.Precedes := by
  induction h with
  | nil => exact .nil
  | cons hbeat hrest ih =>
    cases hrest with
    | nil => exact .singleton _
    | cons hnext _ => exact .cons_cons (hbeat.precedes hnext) ih

theorem length_filter_mul_le (hinterval : 0 < interval)
    (h : InStep start interval number free spans beats) (time : ℚ) :
    (beats.filter (·.start ≤ time)).length * interval
      ≤ max 0 (time - (start + (number - 1) * interval)) := by
  induction h with
  | nil => simp
  | @cons number _ _ _ beat _ hbeat _ ih =>
    have hnumber : (number : ℚ) ≤ (number + beat.ticks : ℤ) - 1 := by
      have hone := Int.cast_le (R := ℚ).2 hbeat.one_le_ticks
      push_cast at hone ⊢
      linarith
    have hgrid : start + number * interval
        ≤ start + ((number + beat.ticks : ℤ) - 1) * interval := by
      gcongr
    by_cases hstart : beat.start ≤ time
    · have htick : start + number * interval ≤ time :=
        hbeat.tick_eq.ge.trans (hbeat.start_mem.1.trans hstart)
      have hrest := ih.trans (max_le_max_left 0 (sub_le_sub_left hgrid time))
      rw [max_eq_right (sub_nonneg.2 htick)] at hrest
      simp only [List.filter_cons, hstart, decide_true, if_true, List.length_cons]
      push_cast
      refine le_max_of_le_right ?_
      linarith
    · simp only [List.filter_cons, hstart, decide_false, Bool.false_eq_true, if_false]
      refine ih.trans (max_le_max_left 0 (sub_le_sub_left ?_ time))
      linarith

end InStep

/-- Without a stop the cycles keep to the ticks: they start for the ticks from the first on, late
by less than an interval and by no more than the cycle before them asks for. No tick has two
cycles, each is used up once, and there are no more starts by a time than ticks. -/
theorem unstopped_inStep {interval : ℚ} (hinterval : 0 < interval) (start : ℚ)
    (spans : List (Span ℚ)) :
    let trace := unstopped interval start spans
    trace.ending = .unfinished ∧ InStep start interval 1 start spans trace.beats ∧
      (trace.beats.Pairwise fun beat later => beat.tick < later.tick) ∧
      (∀ n, 1 ≤ n → n ≤ (trace.beats.map Beat.ticks).sum →
        ∃! beat, beat ∈ trace.beats ∧ beat.Accounts start interval n) ∧
      (∀ time, (trace.beats.filter (·.start ≤ time)).length ≤ ⌊(time - start) / interval⌋₊) ∧
      trace.beats.IsChain Beat.Precedes := by
  intro trace
  have hrun : trace = runFrom interval .never start (start + (1 : ℤ) * interval)
      (spans.map Span.calm) := by
    rw [Int.cast_one, one_mul]
    rfl
  have hfree : start < start + (1 : ℤ) * interval + interval := by
    rw [Int.cast_one, one_mul]
    linarith
  obtain ⟨hending, hbeats⟩ := inStep_runFrom hinterval spans hfree
  rw [← hrun] at hending hbeats
  refine ⟨hending, hbeats, (hbeats.pairwise_ticks hinterval).imp And.left, ?_, ?_,
    hbeats.isChain_precedes⟩
  · intro n hone hle
    obtain ⟨beat, hbeat, haccounts⟩ :=
      hbeats.exists_accounts hinterval hone (by omega)
    refine ⟨beat, ⟨hbeat, haccounts⟩, ?_⟩
    rintro beat' ⟨hbeat', haccounts'⟩
    exact hbeats.eq_of_accounts hinterval hbeat' hbeat haccounts' haccounts
  · intro time
    have hcount := hbeats.length_filter_mul_le hinterval time
    rw [Int.cast_one, sub_self, zero_mul, add_zero] at hcount
    rcases le_total start time with htime | htime
    · rw [max_eq_right (sub_nonneg.2 htime), ← le_div_iff₀ hinterval] at hcount
      exact Nat.le_floor hcount
    · rw [max_eq_left (sub_nonpos.2 htime)] at hcount
      have hzero := nonpos_of_mul_nonpos_left hcount hinterval
      exact (Nat.cast_nonpos.1 hzero).trans_le (Nat.zero_le _)

/-- A cycle that is over in time, one that takes two intervals, and a short one. -/
def someSpans : List (Span ℚ) := [⟨[1], .none⟩, ⟨[1, 3], .none⟩, ⟨[1 / 2], .none⟩, ⟨[0], .none⟩]

theorem unstopped_inStep_someSpans :
    let trace := unstopped 2 (1 / 3) someSpans
    (0 : ℚ) < 2 ∧ trace.beats.map (·.dropped) = [none, some 1, none, none] ∧
      trace.ending = .unfinished ∧ InStep (1 / 3) 2 1 (1 / 3) someSpans trace.beats ∧
      (trace.beats.Pairwise fun beat later => beat.tick < later.tick) ∧
      (∀ n, 1 ≤ n → n ≤ (trace.beats.map Beat.ticks).sum →
        ∃! beat, beat ∈ trace.beats ∧ beat.Accounts (1 / 3) 2 n) ∧
      (∀ time, (trace.beats.filter (·.start ≤ time)).length ≤ ⌊(time - 1 / 3) / 2⌋₊) ∧
      trace.beats.IsChain Beat.Precedes :=
  ⟨two_pos, by decide +kernel, unstopped_inStep two_pos (1 / 3) someSpans⟩

end PolicyAgent.Schedule
