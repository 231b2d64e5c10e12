import PolicyAgent.Cycle
import PolicyAgent.Decimal.Shortest
import PolicyAgent.Schedule.Run

/-!
# Watching for commands

The agent runs one cycle after the other on its schedule until it is stopped. What a cycle
does depends on the cluster that the cycles before it left and on nothing that the clock says,
and the clock needs only to know how long a cycle took; so the cycles and the schedule are
computed apart, and as many cycles were run as the schedule has beats.
-/
namespace PolicyAgent

open PolicyAgent.Cluster PolicyAgent.Journal PolicyAgent.Platform PolicyAgent.Schedule

def secondsText (x : Float) : String := Decimal.Layout.plain.write x

/-- What a cycle meets: changes of the cluster, faults of its calls, the platform, the times
that listing and sending take, and how a stop is asked for. -/
structure Visit where
  changes : Changes
  faults : FaultPlan
  exchange : Exchange
  listingTime : Float
  sendingTime : Float
  request : StopRequest

namespace Visit

def cycle (visit : Visit) (state : State) : Cycle :=
  Cycle.run visit.exchange (Access.start (visit.changes.apply state) visit.faults)

/-- A cycle that sends nothing takes the time of its listing only. -/
def span (visit : Visit) (cycle : Cycle) : Span Float :=
  ⟨visit.listingTime :: if cycle.sent then [visit.sendingTime] else [], visit.request⟩

def cycles (state : State) : List Visit → List Cycle
  | [] => []
  | visit :: rest =>
    let cycle := visit.cycle state
    cycle :: cycles cycle.access.state rest

end Visit

def defaultInterval : Float := 5.0

inductive WatchError
  | interval
  | count (e : CountError)
  deriving DecidableEq, Repr

def WatchError.message : WatchError → String
  | .interval => "interval must be positive"
  | .count e => e.message

/-- What watching did: the cycles on the schedule, the time and the way it ended, the records
and the cluster. -/
structure Watch where
  beats : List (Beat Float × Cycle)
  ended : Float
  ending : Ending WatchError
  records : List Record
  state : State

namespace Watch

def starting (interval : Float) : Record :=
  Source.watcher.record .info s!"Starting command watcher (every {secondsText interval}s)"

def overran (dropped : Int) : Record :=
  Source.watcher.record .debug
    s!"Command cycle overran the polling interval, {dropped} tick(s) dropped"

def stopping : Record := Source.watcher.record .info "Stopping command watcher"

def beatRecords (beat : Beat Float × Cycle) : List Record :=
  beat.2.records ++ (beat.1.dropped.map overran).toList

def lastState (state : State) (cycles : List Cycle) : State :=
  (cycles.getLast?.map (·.access.state)).getD state

def isTooShort (interval : Float) : Bool := decide (interval ≤ 0)

def run (interval : Float) (stop : Stop Float) (start : Float) (visits : List Visit)
    (state : State) : Watch :=
  if isTooShort interval then ⟨[], start, .failed .interval, [], state⟩
  else
    let cycles := Visit.cycles state visits
    let trace := Schedule.run interval stop start (visits.zipWith Visit.span cycles)
    let beats := trace.beats.zip cycles
    { beats
      ended := trace.ended
      ending := trace.ending.mapError .count
      records := starting interval :: beats.flatMap beatRecords
        ++ if trace.ending = .stopped then [stopping] else []
      state := lastState state (beats.map (·.2)) }

end Watch

end PolicyAgent
