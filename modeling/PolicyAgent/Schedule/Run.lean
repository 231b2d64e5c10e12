import PolicyAgent.Schedule.Timeline

/-!
# The schedule of cycles

Cycles start on the ticks of a fixed interval, the first one interval after the beginning. A
cycle that is not over at the next tick lets ticks pass: the next cycle starts right away for
the last of the ticks that have come, and those before it are dropped.

The agent stops when it is asked to. A request during a wait ends the wait; one during a cycle
lets the cycle run to its end. A signal that comes during a cycle is taken notice of in the
next wait: if the cycle overran, or the next tick is too close to wait for, one more cycle runs
before the agent stops.

The schedule is given the stretches of time that each cycle takes and how a stop is asked for in
it, and tells when the cycles start and end; what they do plays no part in it. A schedule that
is not stopped goes on behind the cycles that it is given; it is unfinished then.
-/
namespace PolicyAgent.Schedule

variable {T : Type}

inductive StopRequest
  | none
  | direct
  | signal
  deriving DecidableEq, Repr

/-- The stretches of time that a cycle takes, and how a stop is asked for in it. -/
structure Span (T : Type) where
  stretches : List T
  request : StopRequest

/-- A cycle on the schedule: its tick, its start and end, and the number of ticks dropped
after it if it overran. -/
structure Beat (T : Type) where
  tick : T
  start : T
  finish : T
  dropped : Option Int
  deriving DecidableEq

/-- When the agent is to stop: not as far as is known, at once, at a time, or when it next
waits. -/
inductive Stop (T : Type)
  | never
  | now
  | asked (time : T)
  | nextWait

/-- How something that goes on until it is stopped ends. It is unfinished if nothing is known
that would end it. -/
inductive Ending (ε : Type)
  | stopped
  | unfinished
  | failed (e : ε)
  deriving DecidableEq, Repr

namespace Ending

variable {ε δ : Type}

def mapError (f : ε → δ) : Ending ε → Ending δ
  | stopped => stopped
  | unfinished => unfinished
  | failed e => failed (f e)

def error? : Ending ε → Option ε
  | failed e => some e
  | _ => none

end Ending

/-- The cycles that started, the time of the ending, and the ending. It fails if a number of
dropped ticks cannot be counted. -/
structure Trace (T : Type) where
  beats : List (Beat T)
  ended : T
  ending : Ending CountError

variable [Timeline T]

open Timeline

def Stop.isDue (stop : Stop T) (time tick : T) : Bool :=
  match stop with
  | never => false
  | now => true
  | asked moment => atMost moment time
  | nextWait => isBefore time (arrive time tick)

def Stop.during (stop : Stop T) (arrival : T) : Option T :=
  match stop with
  | asked moment => if atMost moment arrival then some moment else none
  | _ => none

/-- When the agent is to stop after a cycle. A signal from before the cycle has been taken
notice of. -/
def Stop.afterCycle (stop : Stop T) (request : StopRequest) : Stop T :=
  match stop, request with
  | now, _ | nextWait, _ | _, .direct => now
  | _, .signal => nextWait
  | _, .none => stop

def Span.finish (span : Span T) (start : T) : T := span.stretches.foldl plus start

/-- The tick after a cycle that ended at a time, and the number of ticks dropped before it. -/
def nextTick (interval tick finish : T) : Except CountError (T × Option Int) :=
  let next := plus tick interval
  if atMost next finish then do
    let dropped ← count (minus finish next) interval
    return (plus next (times dropped interval), some dropped)
  else .ok (next, none)

/-- The schedule from a time on, when the next cycle is due at a tick. -/
def runFrom (interval : T) (stop : Stop T) (time tick : T) (spans : List (Span T)) : Trace T :=
  if stop.isDue time tick then ⟨[], time, .stopped⟩
  else
    let start := arrive time tick
    match stop.during start with
    | some moment => ⟨[], moment, .stopped⟩
    | none =>
      match spans with
      | [] => ⟨[], time, .unfinished⟩
      | span :: rest =>
        let finish := span.finish start
        match nextTick interval tick finish with
        | .error e => ⟨[⟨tick, start, finish, none⟩], finish, .failed e⟩
        | .ok (next, dropped) =>
          let trace := runFrom interval (stop.afterCycle span.request) finish next rest
          { trace with beats := ⟨tick, start, finish, dropped⟩ :: trace.beats }

def run (interval : T) (stop : Stop T) (start : T) (spans : List (Span T)) : Trace T :=
  runFrom interval stop start (plus start interval) spans

end PolicyAgent.Schedule
