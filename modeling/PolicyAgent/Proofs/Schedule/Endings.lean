import PolicyAgent.Proofs.Schedule.Stopping

/-!
# Endings

A schedule ends in one of two ways. It is stopped, and then a stop has been asked for: by the stop
that was to be heeded from the beginning, or in one of the cycles that ran. Or a cycle overran by
more ticks than can be counted. Otherwise it goes on, and no cycle but the last can have asked for
a stop by then. All this needs no law of time, so it holds with rounding as well; what rounding
brings in is that counting can fail.
-/
namespace PolicyAgent.Schedule

section

variable {T : Type} [Timeline T] {interval time tick ended : T} {stop : Stop T}
  {span : Span T} {spans : List (Span T)} {trace : Trace T}

namespace Ending

variable {ε δ : Type} {f : ε → δ} {ending : Ending ε}

@[simp] theorem mapError_eq_stopped_iff : ending.mapError f = .stopped ↔ ending = .stopped := by
  cases ending <;> simp [mapError]

@[simp] theorem mapError_eq_unfinished_iff :
    ending.mapError f = .unfinished ↔ ending = .unfinished := by
  cases ending <;> simp [mapError]

@[simp] theorem mapError_eq_failed_iff {d : δ} :
    ending.mapError f = .failed d ↔ ∃ e, ending = .failed e ∧ f e = d := by
  cases ending <;> simp [mapError]

end Ending

def Stop.HasCome (ended : T) : Stop T → Prop
  | never => False
  | now | nextWait => True
  | asked moment => Timeline.atMost moment ended = true ∨ moment = ended

/-- The beat of a cycle that an agent runs which is free from a time on. -/
def Span.beat (span : Span T) (time tick : T) (dropped : Option Int) : Beat T :=
  let start := Timeline.arrive time tick
  ⟨tick, start, span.finish start, dropped⟩

@[simp] theorem Span.tick_beat (span : Span T) (time tick : T) (dropped : Option Int) :
    (span.beat time tick dropped).tick = tick := rfl

/-- What becomes of cycles from a time on: the agent stops before the first of them, or there are
none left, or the ticks that the first one missed cannot be counted, or it goes on behind it. -/
inductive Runs (interval : T) : Stop T → T → T → List (Span T) → Trace T → Prop
  | stopped {stop : Stop T} {time tick ended : T} {spans : List (Span T)} (h : stop.HasCome ended) :
      Runs interval stop time tick spans ⟨[], ended, .stopped⟩
  | unfinished {stop : Stop T} {time tick : T} (hstop : stop.isDue time tick = false) :
      Runs interval stop time tick [] ⟨[], time, .unfinished⟩
  | failed {stop : Stop T} {time tick : T} {span : Span T} {spans : List (Span T)}
      {e : CountError} (hstop : stop.isDue time tick = false)
      (hnext : nextTick interval tick (span.beat time tick none).finish = .error e) :
      Runs interval stop time tick (span :: spans)
        ⟨[span.beat time tick none], (span.beat time tick none).finish, .failed e⟩
  | cycle {stop : Stop T} {time tick next : T} {dropped : Option Int} {span : Span T}
      {spans : List (Span T)} {trace : Trace T} (hstop : stop.isDue time tick = false)
      (hnext : nextTick interval tick (span.beat time tick dropped).finish = .ok (next, dropped))
      (hrest : Runs interval (stop.afterCycle span.request) (span.beat time tick dropped).finish
        next spans trace) :
      Runs interval stop time tick (span :: spans)
        { trace with beats := span.beat time tick dropped :: trace.beats }

theorem Stop.hasCome_of_isDue (h : stop.isDue time tick = true) : stop.HasCome time := by
  cases stop with
  | never => cases h
  | now | nextWait => trivial
  | asked moment => exact .inl h

theorem Stop.hasCome_of_during {arrival moment : T} (h : stop.during arrival = some moment) :
    stop.HasCome moment := by
  cases stop with
  | never | now | nextWait => cases h
  | asked found =>
    dsimp only [Stop.during] at h
    split_ifs at h
    exact .inr (Option.some.inj h)

theorem runs_runFrom (interval : T) (stop : Stop T) (time tick : T) (spans : List (Span T)) :
    Runs interval stop time tick spans (runFrom interval stop time tick spans) := by
  fun_induction runFrom interval stop time tick spans with
  | case1 stop time tick spans hdue => exact .stopped (Stop.hasCome_of_isDue hdue)
  | case2 stop time tick spans hdue start moment hduring =>
    exact .stopped (Stop.hasCome_of_during hduring)
  | case3 stop time tick hdue start hduring => exact .unfinished (Bool.eq_false_iff.2 hdue)
  | case4 stop time tick hdue start hduring span rest finish e hnext =>
    exact .failed (Bool.eq_false_iff.2 hdue) hnext
  | case5 stop time tick hdue start hduring span rest finish next dropped hnext trace ih =>
    exact .cycle (Bool.eq_false_iff.2 hdue) hnext ih

theorem Stop.hasCome_of_afterCycle {request : StopRequest}
    (h : (stop.afterCycle request).HasCome ended) : stop.HasCome ended ∨ request ≠ .none := by
  cases request with
  | direct | signal => exact .inr nofun
  | none => cases stop <;> exact .inl h

namespace Runs

/-- A stop was asked for before the cycles, or in one of those that ran. -/
theorem cause (h : Runs interval stop time tick spans trace) (hending : trace.ending = .stopped) :
    stop.HasCome trace.ended ∨
      ∃ span ∈ spans.take trace.beats.length, span.request ≠ .none := by
  induction h with
  | stopped h => exact .inl h
  | unfinished | failed => nomatch hending
  | cycle hstop hnext hrest ih =>
    simp only [List.length_cons, List.take_succ_cons, List.exists_mem_cons_iff]
    obtain hcome | hasked := ih hending
    · exact (Stop.hasCome_of_afterCycle hcome).imp_right .inl
    · exact .inr (.inr hasked)

theorem failed_iff (h : Runs interval stop time tick spans trace) (e : CountError) :
    trace.ending = .failed e ↔
      ∃ beat ∈ trace.beats, nextTick interval beat.tick beat.finish = .error e := by
  induction h with
  | stopped | unfinished => simp
  | failed hstop hnext => simp [hnext]
  | cycle hstop hnext hrest ih => simp [hnext, ih]

theorem length_le (h : Runs interval stop time tick spans trace) :
    trace.beats.length ≤ spans.length := by
  induction h with
  | stopped | unfinished | failed => simp
  | cycle hstop hnext hrest ih => simpa using ih

theorem ending_of_now (h : Runs interval .now time tick spans trace) :
    trace.ending = .stopped := by
  cases h with
  | stopped => rfl
  | unfinished hstop | failed hstop | cycle hstop => nomatch hstop

/-- An agent that has been asked to stop in a cycle starts at most one more. -/
theorem ending_ne_unfinished {request : StopRequest} (hrequest : request ≠ .none)
    (h : Runs interval (stop.afterCycle request) time tick (span :: spans) trace) :
    trace.ending ≠ .unfinished := by
  cases h with
  | stopped | failed => nofun
  | cycle _ _ hrest =>
    have hnow : (stop.afterCycle request).afterCycle span.request = .now := by
      cases request with
      | none => exact absurd rfl hrequest
      | direct | signal => cases stop <;> rfl
    rw [hnow] at hrest
    exact hrest.ending_of_now ▸ nofun

/-- As long as the agent goes on it runs every cycle, and none but the last asks for a stop. -/
theorem of_unfinished (h : Runs interval stop time tick spans trace)
    (hending : trace.ending = .unfinished) :
    trace.beats.length = spans.length ∧ ∀ span ∈ spans.dropLast, span.request = .none := by
  induction h with
  | stopped | failed => nomatch hending
  | unfinished => simp
  | @cycle stop _ _ _ _ span spans _ hstop hnext hrest ih =>
    obtain ⟨hlength, hquiet⟩ := ih hending
    refine ⟨congrArg Nat.succ hlength, ?_⟩
    cases spans with
    | nil => simp
    | cons second rest =>
      have hfirst : span.request = .none := by
        by_contra hrequest
        exact hrest.ending_ne_unfinished hrequest hending
      rw [List.dropLast_cons_cons]
      exact List.forall_mem_cons.2 ⟨hfirst, hquiet⟩

end Runs

/-- A cycle overran, and the ticks that it missed cannot be counted. -/
def Beat.Uncounted (interval : T) (e : CountError) (beat : Beat T) : Prop :=
  let due := Timeline.plus beat.tick interval
  Timeline.atMost due beat.finish = true ∧
    Timeline.count (Timeline.minus beat.finish due) interval = .error e

theorem nextTick_eq_error_iff {beat : Beat T} {e : CountError} :
    nextTick interval beat.tick beat.finish = .error e ↔ beat.Uncounted interval e := by
  unfold nextTick Beat.Uncounted
  dsimp only
  split
  case isTrue hover =>
    cases hcount : Timeline.count (Timeline.minus beat.finish (Timeline.plus beat.tick interval))
        interval <;> simp [hover, bind, Except.bind, pure, Except.pure]
  case isFalse hover => simp [hover]

end

end PolicyAgent.Schedule
