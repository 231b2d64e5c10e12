import PolicyAgent.Cluster.Credentials
import PolicyAgent.Journal.Setup
import PolicyAgent.Settings
import PolicyAgent.Watch

/-!
# The agent

The agent reads its settings, finds its credentials, opens the client of the platform with the
certificates to verify it by, and watches for commands until a signal stops it. Whatever goes wrong
before the watching ends the agent with a message and the exit code one; so does a clock that cannot
count its ticks. Bad settings and all other invalid values are told from failures of any other kind.
Nothing that happens in a cycle ends the agent. An agent that meets no stop signal is still running
behind the last cycle that is known, and has no exit code.

Records that are made before the log is set up go nowhere, except that the message about a bad
log level is written to the error output.
-/
namespace PolicyAgent

open PolicyAgent.Cluster PolicyAgent.Journal PolicyAgent.Platform PolicyAgent.Schedule

/-- What one cycle of the agent meets: the answers to its requests instead of a platform. -/
structure Occasion where
  changes : Changes
  faults : FaultPlan
  listing : Answer
  sending : Answer
  listingTime : Float
  signal : Bool

def Occasion.visit (o : Occasion) (client : Client) : Visit :=
  ⟨o.changes, o.faults, client.exchangeWith o.listing o.sending, o.listingTime, 0,
    if o.signal then .signal else .none⟩

/-- Everything outside of the agent. Besides the signals in cycles one may come at a time, which
is counted from the beginning of the watching. -/
structure Surroundings where
  environment : Environment
  credentialFaults : CredentialFaults
  state : State
  occasions : List Occasion
  signalTime : Option Float := none
  /-- What loading the certificates of the platform meets. -/
  certificateFault : Option Fault := none

namespace Surroundings

def stop (s : Surroundings) : Stop Float :=
  match s.signalTime with
  | some time => .asked time
  | none => .never

/-- Certificates are loaded only to verify with them. -/
def loadingFault (s : Surroundings) (verify : Verify) : Option Fault :=
  if verify.isOn then s.certificateFault else none

end Surroundings

/-- Why the agent ends although no signal stops it. -/
inductive Failure
  | settings (e : SettingsError)
  | credentials (f : Fault)
  | client (e : OpeningError)
  | certificates (f : Fault)
  | watch (e : WatchError)
  deriving DecidableEq, Repr

namespace Failure

def message : Failure → String
  | settings e => e.message
  | credentials f => f.message
  | client e => e.message
  | certificates f => f.message
  | watch e => e.message

def isInvalidValue : Failure → Bool
  | settings _ => true
  | credentials f => f.isInvalidValue
  | client (.token _) | client (.url (.unwritable _)) => true
  | client (.url _) => false
  | certificates f => f.isInvalidValue
  | watch .interval => true
  | watch (.count .nan) => true
  | watch (.count .infinite) => false

def text (f : Failure) : String :=
  if f.isInvalidValue then s!"Invalid configuration: {f.message}" else s!"Fatal error: {f.message}"

end Failure

/-- What is set up for the watching and put back after it. -/
inductive Upkeep
  | handlersInstalled
  | handlersRemoved
  | clientClosed
  deriving DecidableEq, Repr

/-- A part of the agent's work: what it sets up and puts back, in order, and how it ends. A part
that comes through ends as what was stopped. -/
structure Work where
  upkeep : List Upkeep
  ending : Ending WatchError

namespace Work

def step (u : Upkeep) : Work := ⟨[u], .stopped⟩

def ofEnding (ending : Ending WatchError) : Work := ⟨[], ending⟩

/-- The next part begins if this one comes through. -/
def andThen (work next : Work) : Work :=
  match work.ending with
  | .stopped => ⟨work.upkeep ++ next.upkeep, next.ending⟩
  | .failed _ | .unfinished => work

/-- The last part begins however this one ends. It hides a failure only by one of its own. -/
def andFinally (work last : Work) : Work :=
  match work.ending, last.ending with
  | .unfinished, _ => work
  | ending, .stopped => ⟨work.upkeep ++ last.upkeep, ending⟩
  | _, ending => ⟨work.upkeep ++ last.upkeep, ending⟩

/-- The watcher refuses its interval before anything is set up. Then the handlers of signals are
installed, and however the watching ends, they are removed and the client is closed. -/
def aroundWatch (interval : Float) (ending : Ending WatchError) : Work :=
  (ofEnding (if Watch.isTooShort interval then .failed .interval else .stopped)).andThen <|
    (step .handlersInstalled).andThen <|
      (ofEnding ending).andFinally <|
        (step .handlersRemoved).andThen (step .clientClosed)

end Work

/-- What the agent did with its log set up. -/
structure Service where
  ending : Ending Failure
  credentials : List CredentialSource
  client : Option PlatformSettings
  upkeep : List Upkeep
  beats : List (Beat Float × Cycle)
  records : List Record
  state : State

namespace Service

def refused (failure : Failure) (state : State) : Service :=
  ⟨.failed failure, [], none, [], [], [], state⟩

def withClient (platform : PlatformSettings) (interval : Float) (search : CredentialSearch)
    (s : Surroundings) : Service :=
  let records := search.records
    ++ Client.warnings (Client.trimSlashes platform.url) platform.verify
  let failed (failure : Failure) : Service :=
    ⟨.failed failure, search.tried, some platform, [], [], records, s.state⟩
  match Client.opened platform.url platform.token platform.timeout with
  | .error e => failed (.client e)
  | .ok client =>
    match s.loadingFault platform.verify with
    | some fault => failed (.certificates fault)
    | none =>
      let watch := Watch.run interval s.stop 0 (s.occasions.map (·.visit client)) s.state
      let work := Work.aroundWatch interval watch.ending
      { ending := work.ending.mapError .watch
        credentials := search.tried
        client := some platform
        upkeep := work.upkeep
        beats := watch.beats
        records := records ++ watch.records
        state := watch.state }

def run (s : Surroundings) : Service :=
  match s.environment.platform with
  | .error e => refused (.settings e) s.state
  | .ok platform =>
    match s.environment.pollInterval with
    | .error e => refused (.settings e) s.state
    | .ok interval =>
      let search := searchCredentials s.environment.credentialsPath s.credentialFaults
      match search.outcome with
      | .error f => { refused (.credentials f) s.state with
          credentials := search.tried, records := search.records }
      | .ok () => withClient platform interval search s

def lastRecords (service : Service) : List Record :=
  match service.ending with
  | .stopped => [Source.agent.record .info "Agent stopped"]
  | .unfinished => []
  | .failed failure => [Source.agent.record .error failure.text]

def exitCode? (service : Service) : Option Nat :=
  match service.ending with
  | .stopped => some 0
  | .unfinished => none
  | .failed _ => some 1

end Service

/-- What the agent leaves behind. -/
structure Outcome where
  service : Service
  /-- The records that were written. -/
  written : List Record
  errorOutput : String

def Agent.run (s : Surroundings) : Outcome :=
  match s.environment.logLevel with
  | .error e =>
    let failure := Failure.settings e
    ⟨Service.refused failure s.state, [], failure.text ++ "\n"⟩
  | .ok level =>
    let service := Service.run s
    ⟨service, Journal.written (.ofSeverity level) (service.records ++ service.lastRecords), ""⟩

namespace Outcome

def exitCode? (o : Outcome) : Option Nat := o.service.exitCode?

def starts (o : Outcome) : List Float := o.service.beats.map (·.1.start)

def requests (o : Outcome) : List Request := o.service.beats.flatMap (·.2.requests)

end Outcome

end PolicyAgent
