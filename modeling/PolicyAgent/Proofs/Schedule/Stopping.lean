import Mathlib.Algebra.Order.Archimedean.Basic
import PolicyAgent.Proofs.Schedule.Ticks

/-!
# Stopping

However a stop is asked for, it cuts the schedule between two cycles: those that have started by
then are the first ones of the schedule without a stop, the one in progress runs to its end, and
no other one starts. So the agent ends when it is asked to, or at the end of the cycle that is in
progress then.
-/
namespace PolicyAgent.Schedule

/-- A schedule that was stopped does not depend on cycles that might have followed. -/
theorem runFrom_append {T : Type} [Timeline T] {interval time tick : T} {stop : Stop T}
    {spans : List (Span T)} (h : (runFrom interval stop time tick spans).ending = .stopped)
    (more : List (Span T)) :
    runFrom interval stop time tick (spans ++ more) = runFrom interval stop time tick spans := by
  induction spans generalizing stop time tick with
  | nil =>
    unfold runFrom at h ⊢
    dsimp only at h ⊢
    split_ifs at h ⊢
    · rfl
    · split at h
      · simp_all
      · simp at h
  | cons span rest ih =>
    unfold runFrom at h ⊢
    dsimp only [List.cons_append] at h ⊢
    split_ifs at h ⊢
    · rfl
    · split at h
      · simp_all
      · split at h
        · simp at h
        · simp_all

/-- A trace has the beats of a schedule that have started by a moment, for an agent that was
free at a time. -/
structure Trace.CutAt (moment time : ℚ) (beats : List (Beat ℚ)) (trace : Trace ℚ) : Prop where
  ending : trace.ending = .stopped
  split : ∃ rest, beats = trace.beats ++ rest ∧ (∀ beat ∈ trace.beats, beat.start ≤ moment) ∧
    ∀ beat ∈ rest, moment ≤ beat.start
  inProgress : ∀ beat ∈ beats, beat.start < moment → moment < beat.finish →
    trace.beats.getLast? = some beat ∧ trace.ended = beat.finish
  ended : trace.ended = max moment (trace.beats.getLast?.elim time (·.finish))

namespace Trace.CutAt

variable {moment time ended : ℚ} {beats : List (Beat ℚ)} {beat : Beat ℚ} {trace : Trace ℚ}

theorem stopped (hlater : ∀ beat ∈ beats, moment ≤ beat.start) (hended : ended = max moment time) :
    CutAt moment time beats ⟨[], ended, .stopped⟩ where
  ending := rfl
  split := ⟨beats, rfl, by simp, hlater⟩
  inProgress beat hbeat hstart _ := absurd hstart (not_lt.2 (hlater beat hbeat))
  ended := hended

theorem cons (h : CutAt moment beat.finish beats trace) (hstart : beat.start ≤ moment)
    (hlater : ∀ later ∈ beats, beat.finish ≤ later.start) :
    CutAt moment time (beat :: beats) { trace with beats := beat :: trace.beats } where
  ending := h.ending
  split := by
    obtain ⟨rest, hbeats, hfirst, hrest⟩ := h.split
    exact ⟨rest, congrArg (beat :: ·) hbeats, List.forall_mem_cons.2 ⟨hstart, hfirst⟩, hrest⟩
  inProgress := by
    refine List.forall_mem_cons.2 ⟨fun _ hfinish => ?_, fun later hmem hbefore hafter => ?_⟩
    · obtain ⟨rest, hbeats, hfirst, -⟩ := h.split
      have hnil : trace.beats = [] := by
        refine List.eq_nil_iff_forall_not_mem.2 fun later hmem => ?_
        have hle := hlater later (hbeats ▸ List.mem_append_left rest hmem)
        exact absurd (hle.trans (hfirst later hmem)) (not_le.2 hfinish)
      have hended := h.ended
      rw [hnil] at hended ⊢
      exact ⟨rfl, hended.trans (max_eq_right hfinish.le)⟩
    · obtain ⟨hlast, hended⟩ := h.inProgress later hmem hbefore hafter
      exact ⟨by simp [List.getLast?_cons, hlast], hended⟩
  ended := by
    rw [h.ended]
    cases hlast : trace.beats.getLast? <;> simp [List.getLast?_cons, hlast]

end Trace.CutAt

/-- A stop comes at a moment to an agent that is free at a time and has cycles before it. It has
come when the agent is free, it comes from outside at its own moment, or it comes in the course
of a cycle that does not start after it. -/
inductive Coming (interval moment : ℚ) : Stop ℚ → ℚ → ℚ → List (Span ℚ) → Prop
  | now {time tick : ℚ} {spans : List (Span ℚ)} (h : moment ≤ time) :
      Coming interval moment .now time tick spans
  | nextWait {tick : ℚ} {spans : List (Span ℚ)} : Coming interval moment .nextWait moment tick spans
  | asked {time tick : ℚ} {spans : List (Span ℚ)} (h : ∀ span ∈ spans, span.request = .none) :
      Coming interval moment (.asked moment) time tick spans
  | later {time tick : ℚ} {span : Span ℚ} {spans : List (Span ℚ)}
      (hstart : max time tick ≤ moment)
      (h : ∀ next dropped,
        nextTick interval tick (max time tick + span.duration) = .ok (next, dropped) →
          Coming interval moment (Stop.never.afterCycle span.request)
            (max time tick + span.duration) next spans) :
      Coming interval moment .never time tick (span :: spans)

section

variable {interval moment time tick : ℚ} {stop : Stop ℚ} {spans : List (Span ℚ)}

theorem le_start_of_mem (hinterval : 0 < interval) (hspans : ∀ span ∈ spans, 0 ≤ span.duration) :
    ∀ beat ∈ (runFrom interval .never time tick (spans.map Span.calm)).beats,
      max time tick ≤ beat.start := by
  induction spans generalizing time tick with
  | nil => simp [runFrom, Stop.isDue, Stop.during]
  | cons span rest ih =>
    obtain ⟨hspan, hrest⟩ := List.forall_mem_cons.1 hspans
    obtain ⟨next, dropped, -, -, hrun⟩ := exists_nextBeat hinterval time tick span.duration
    rw [List.map_cons, hrun .never span.calm (rest.map Span.calm) rfl rfl rfl]
    refine List.forall_mem_cons.2 ⟨le_rfl, fun beat hbeat => ?_⟩
    calc max time tick ≤ max time tick + span.duration := le_add_of_nonneg_right hspan
      _ ≤ beat.start := (le_max_left _ _).trans (ih hrest beat hbeat)

structure Stop.Waits (stop : Stop ℚ) (time tick : ℚ) : Prop where
  isDue : stop.isDue time tick = false
  during : stop.during (max time tick) = none

theorem Stop.during_asked_eq_some {arrival found : ℚ} :
    (Stop.asked moment).during arrival = some found ↔ moment ≤ arrival ∧ moment = found := by
  simp [Stop.during, Timeline.atMost]

theorem Stop.during_asked_eq_none {arrival : ℚ} :
    (Stop.asked moment).during arrival = none ↔ arrival < moment := by
  simp [Stop.during, Timeline.atMost]

namespace Coming

variable {span : Span ℚ}

theorem le_of_isDue (h : Coming interval moment stop time tick spans)
    (hdue : stop.isDue time tick = true) : moment ≤ time := by
  cases h with
  | now h => exact h
  | nextWait => exact le_rfl
  | asked => exact of_decide_eq_true hdue
  | later => cases hdue

theorem of_during (h : Coming interval moment stop time tick spans) {found : ℚ}
    (hdue : stop.isDue time tick = false) (hduring : stop.during (max time tick) = some found) :
    found = moment ∧ time ≤ moment ∧ moment ≤ max time tick := by
  cases h with
  | now => cases hduring
  | nextWait => cases hduring
  | asked =>
    have hbefore : time < moment := not_le.1 (of_decide_eq_false hdue)
    obtain ⟨hle, rfl⟩ := Stop.during_asked_eq_some.1 hduring
    exact ⟨rfl, hbefore.le, hle⟩
  | later => cases hduring

/-- An agent that does not wait any longer stops at the moment, or at once if it has passed. -/
theorem cutAt_of_not_waits (hinterval : 0 < interval) (hspans : ∀ span ∈ spans, 0 ≤ span.duration)
    (h : Coming interval moment stop time tick spans) (hwaits : ¬ stop.Waits time tick) :
    (runFrom interval stop time tick spans).CutAt moment time
      (runFrom interval .never time tick (spans.map Span.calm)).beats := by
  have hstarts : ∀ beat ∈ (runFrom interval .never time tick (spans.map Span.calm)).beats,
      max time tick ≤ beat.start := le_start_of_mem hinterval hspans
  cases hdue : stop.isDue time tick with
  | true =>
    have hle := h.le_of_isDue hdue
    have hrun : runFrom interval stop time tick spans = ⟨[], time, .stopped⟩ := by
      unfold runFrom
      rw [if_pos hdue]
    rw [hrun]
    refine .stopped (fun beat hbeat => ?_) (max_eq_right hle).symm
    exact (hle.trans (le_max_left _ _)).trans (hstarts beat hbeat)
  | false =>
    cases hduring : stop.during (max time tick) with
    | none => exact absurd ⟨hdue, hduring⟩ hwaits
    | some found =>
      obtain ⟨rfl, htime, hle⟩ := h.of_during hdue hduring
      have hrun : runFrom interval stop time tick spans = ⟨[], found, .stopped⟩ := by
        unfold runFrom
        have harrive : stop.during (Timeline.arrive time tick) = some found := hduring
        simp only [hdue, harrive, Bool.false_eq_true, if_false]
      rw [hrun]
      exact .stopped (fun beat hbeat => hle.trans (hstarts beat hbeat)) (max_eq_left htime).symm

theorem le_of_waits (h : Coming interval moment stop time tick spans)
    (hwaits : stop.Waits time tick) : max time tick ≤ moment := by
  cases h with
  | now => cases hwaits.isDue
  | nextWait => exact not_lt.1 (of_decide_eq_false hwaits.isDue)
  | asked => exact (Stop.during_asked_eq_none.1 hwaits.during).le
  | later hstart => exact hstart

theorem after_cycle (hspan : 0 ≤ span.duration) (hwaits : stop.Waits time tick)
    (h : Coming interval moment stop time tick (span :: spans)) {next : ℚ} {dropped : Option ℤ}
    (hnext : nextTick interval tick (max time tick + span.duration) = .ok (next, dropped)) :
    Coming interval moment (stop.afterCycle span.request) (max time tick + span.duration) next
      spans := by
  cases h with
  | now => cases hwaits.isDue
  | nextWait => exact .now ((le_max_left _ _).trans (le_add_of_nonneg_right hspan))
  | asked h =>
    obtain ⟨hrequest, hrest⟩ := List.forall_mem_cons.1 h
    rw [hrequest]
    exact .asked hrest
  | later _ h => exact h next dropped hnext

/-- A stop cuts the schedule at its moment, if there are enough cycles to get there. -/
theorem cutAt (hinterval : 0 < interval) (hspans : ∀ span ∈ spans, 0 ≤ span.duration)
    (henough : moment < tick + spans.length * interval)
    (h : Coming interval moment stop time tick spans) :
    (runFrom interval stop time tick spans).CutAt moment time
      (runFrom interval .never time tick (spans.map Span.calm)).beats := by
  induction spans generalizing stop time tick with
  | nil =>
    -- The cycles do not run out before the moment, so the agent does not wait here.
    refine h.cutAt_of_not_waits hinterval hspans fun hwaits => ?_
    rw [List.length_nil, Nat.cast_zero, zero_mul, add_zero] at henough
    exact absurd ((le_max_right _ _).trans (h.le_of_waits hwaits)) (not_le.2 henough)
  | cons span rest ih =>
    by_cases hwaits : stop.Waits time tick
    · obtain ⟨hspan, hrest⟩ := List.forall_mem_cons.1 hspans
      obtain ⟨next, dropped, hnext, hadvances, hrun⟩ :=
        exists_nextBeat hinterval time tick span.duration
      rw [hrun stop span rest rfl hwaits.isDue hwaits.during, List.map_cons,
        hrun .never span.calm (rest.map Span.calm) rfl rfl rfl]
      have hmore : moment < next + rest.length * interval := by
        have hle := hadvances.add_le hinterval
        rw [List.length_cons, Nat.cast_succ] at henough
        linarith
      refine (ih hrest hmore (h.after_cycle hspan hwaits hnext)).cons (h.le_of_waits hwaits)
        fun later hlater => ?_
      exact (le_max_left _ _).trans (le_start_of_mem hinterval hrest later hlater)
    · exact h.cutAt_of_not_waits hinterval hspans hwaits

theorem of_request (hinterval : 0 < interval) {before after : List (Span ℚ)} {beat : Beat ℚ}
    (hspans : ∀ earlier ∈ before ++ [span], 0 ≤ earlier.duration)
    (hquiet : ∀ earlier ∈ before, earlier.request = .none)
    (hbeat : (runFrom interval .never time tick ((before ++ [span]).map Span.calm)).beats[
      before.length]? = some beat)
    (hstart : beat.start ≤ moment)
    (hcoming : ∀ next, Coming interval moment (Stop.never.afterCycle span.request) beat.finish
      next after) :
    Coming interval moment .never time tick (before ++ span :: after) := by
  induction before generalizing time tick with
  | nil =>
    obtain ⟨next, dropped, -, -, hrun⟩ := exists_nextBeat hinterval time tick span.duration
    rw [List.nil_append, List.map_cons, hrun .never span.calm _ rfl rfl rfl] at hbeat
    obtain rfl : _ = beat := Option.some.inj hbeat
    exact .later hstart fun next _ _ => hcoming next
  | cons earlier before ih =>
    obtain ⟨hrequest, hrest⟩ := List.forall_mem_cons.1 hquiet
    have hbefore : max time tick ≤ beat.start :=
      le_start_of_mem hinterval hspans beat (List.mem_of_getElem? hbeat)
    obtain ⟨next, dropped, hnext, -, hrun⟩ :=
      exists_nextBeat hinterval time tick earlier.duration
    rw [List.cons_append, List.map_cons, hrun .never earlier.calm _ rfl rfl rfl] at hbeat
    refine .later (hbefore.trans hstart) fun next' dropped' hnext' => ?_
    obtain ⟨rfl, -⟩ : next' = next ∧ dropped' = dropped := by simpa using hnext'.symm.trans hnext
    rw [hrequest]
    exact ih (fun span hspan => hspans span (List.mem_cons_of_mem _ hspan)) hrest hbeat

end Coming

end

/-- The first of the cycles that would follow each other without an end. -/
def firstSpans (spans : ℕ → Span ℚ) (count : ℕ) : List (Span ℚ) := (List.range count).map spans

theorem length_firstSpans (spans : ℕ → Span ℚ) (count : ℕ) :
    (firstSpans spans count).length = count := by simp [firstSpans]

theorem firstSpans_add (spans : ℕ → Span ℚ) (count more : ℕ) :
    ∃ rest, firstSpans spans (count + more) = firstSpans spans count ++ rest := by
  unfold firstSpans
  rw [List.range_add, List.map_append]
  exact ⟨_, rfl⟩

/-- The stop is asked for at a moment: before the run, at a time from outside, or in one of the
cycles. A signal in a cycle is heard when the cycle is over. -/
inductive AskedAt (interval start moment : ℚ) (spans : ℕ → Span ℚ) : Stop ℚ → Prop
  | before (h : moment ≤ start) : AskedAt interval start moment spans .now
  | outside (h : ∀ i, (spans i).request = .none) :
      AskedAt interval start moment spans (.asked moment)
  | inside {index : ℕ} {beat : Beat ℚ} (hquiet : ∀ i < index, (spans i).request = .none)
      (hrequest : (spans index).request ≠ .none)
      (hbeat : (unstopped interval start (firstSpans spans (index + 1))).beats[index]? = some beat)
      (hmoment : moment ∈ Set.Icc beat.start beat.finish)
      (hsignal : (spans index).request = .signal → moment = beat.finish) :
      AskedAt interval start moment spans .never

section

variable {interval start moment : ℚ} {spans : ℕ → Span ℚ} {stop : Stop ℚ}

theorem AskedAt.exists_coming (hinterval : 0 < interval) (hspans : ∀ i, 0 ≤ (spans i).duration)
    (h : AskedAt interval start moment spans stop) :
    ∃ count, ∀ more, Coming interval moment stop start (start + interval)
      (firstSpans spans (count + more)) := by
  -- Only a stop from inside needs the cycles up to the one that asks for it.
  cases h with
  | before h => exact ⟨0, fun _ => .now h⟩
  | outside h => exact ⟨0, fun _ => .asked (by simp [firstSpans, h])⟩
  | @inside index beat hquiet hrequest hbeat hmoment hsignal =>
    refine ⟨index + 1, fun more => ?_⟩
    have hsucc : firstSpans spans (index + 1) = firstSpans spans index ++ [spans index] := by
      simp [firstSpans, List.range_succ]
    obtain ⟨after, hafter⟩ := firstSpans_add spans (index + 1) more
    rw [hafter, hsucc, List.append_assoc]
    refine .of_request hinterval ?_ ?_ ?_ hmoment.1 fun next => ?_
    · rw [← hsucc]
      simp [firstSpans, hspans]
    · simpa [firstSpans] using hquiet
    · rw [← hsucc]
      simpa [unstopped, run, firstSpans, Timeline.plus] using hbeat
    · cases hasked : (spans index).request with
      | none => exact absurd hasked hrequest
      | direct => exact .now hmoment.2
      | signal =>
        rw [hsignal hasked]
        exact .nextWait

/-- Whenever a stop is asked for, the agent stops after some cycles of its schedule without a
stop: all that start before the moment, and none that starts after it. -/
theorem AskedAt.exists_cutAt (hinterval : 0 < interval) (hspans : ∀ i, 0 ≤ (spans i).duration)
    (h : AskedAt interval start moment spans stop) :
    ∃ count, ∀ more,
      let trace := run interval stop start (firstSpans spans (count + more))
      trace = run interval stop start (firstSpans spans count) ∧
        trace.CutAt moment start
          (unstopped interval start (firstSpans spans (count + more))).beats := by
  obtain ⟨count, hcoming⟩ := h.exists_coming hinterval hspans
  obtain ⟨enough, henough⟩ := exists_nat_gt ((moment - (start + interval)) / interval)
  rw [div_lt_iff₀ hinterval] at henough
  have hcut : ∀ more, (run interval stop start (firstSpans spans (count + enough + more))).CutAt
      moment start (unstopped interval start (firstSpans spans (count + enough + more))).beats := by
    intro more
    refine Coming.cutAt hinterval (by simp [firstSpans, hspans]) ?_ ?_
    · have hlength : enough ≤ (firstSpans spans (count + enough + more)).length := by
        rw [length_firstSpans]
        omega
      calc moment < start + interval + enough * interval := by linarith
        _ ≤ start + interval + (firstSpans spans (count + enough + more)).length * interval := by
          gcongr
    · rw [add_assoc]
      exact hcoming (enough + more)
  -- A run that has stopped is the same with more cycles behind it.
  refine ⟨count + enough, fun more => ⟨?_, hcut more⟩⟩
  obtain ⟨rest, hrest⟩ := firstSpans_add spans (count + enough) more
  rw [hrest]
  exact runFrom_append (hcut 0).ending rest

/-- A short cycle, one that takes two and a half intervals with a stop in it, and short ones. -/
def stoppedSpans (i : ℕ) : Span ℚ := if i = 1 then ⟨[3, 2], .direct⟩ else ⟨[1], .none⟩

theorem exists_cutAt_stoppedSpans :
    (0 : ℚ) < 2 ∧ (∀ i, 0 ≤ (stoppedSpans i).duration) ∧ AskedAt 2 0 7 stoppedSpans .never ∧
      (run 2 .never 0 (firstSpans stoppedSpans 3)).beats.map (·.start) = [2, 4] ∧
      ∃ count, ∀ more,
        let trace := run 2 .never 0 (firstSpans stoppedSpans (count + more))
        trace = run 2 .never 0 (firstSpans stoppedSpans count) ∧
          trace.CutAt 7 0 (unstopped 2 0 (firstSpans stoppedSpans (count + more))).beats := by
  have hspans : ∀ i, 0 ≤ (stoppedSpans i).duration := by
    intro i
    unfold stoppedSpans Span.duration
    split_ifs <;> norm_num
  have hbeat : (unstopped 2 0 (firstSpans stoppedSpans (1 + 1))).beats[1]?
      = some ⟨4, 4, 9, some 1⟩ := by decide +kernel
  have hasked : AskedAt 2 0 7 stoppedSpans .never :=
    .inside (by simp [stoppedSpans]) (by decide) hbeat (by norm_num) (by decide)
  exact ⟨two_pos, hspans, hasked, by decide +kernel, hasked.exists_cutAt two_pos hspans⟩

end

end PolicyAgent.Schedule
