import PolicyAgent.Handling
import PolicyAgent.Platform.Client

/-!
# A cycle

In a cycle the agent asks for the pending commands, handles them one after the other from the
oldest to the newest, and sends all reports in one request. Commands created at the same
instant keep the order of the listing. If the listing fails or is empty the cycle ends there;
if the sending fails the reports are lost, and nothing else changes.
-/
namespace PolicyAgent

open PolicyAgent.Cluster PolicyAgent.Journal PolicyAgent.Platform

def Command.inOrder (commands : List Command) : List Command :=
  commands.mergeSort fun a b => decide (a.createdAt.instant ≤ b.createdAt.instant)

/-- The reports of some commands, the records about them, and the cluster after them. -/
structure Batch where
  reports : List Report
  records : List Record
  access : Access

def Command.routeAll (commands : List Command) (access : Access) : Batch :=
  match commands with
  | [] => ⟨[], [], access⟩
  | c :: rest =>
    let handled := c.route access
    let batch := routeAll rest handled.access
    ⟨handled.report :: batch.reports, handled.records ++ batch.records, batch.access⟩

/-- The platform as a cycle sees it. -/
structure Exchange where
  list : Reply (List Command)
  send : List Report → Reply Unit

/-- What a cycle did. `sent` is whether there was something to send. -/
structure Cycle where
  reports : List Report
  sent : Bool
  requests : List Request
  records : List Record
  access : Access

namespace Cycle

def listingFailed (e : ExchangeError) : Record :=
  Source.watcher.record .warning s!"Failed to list commands: {e.message}"

def sendingFailed (count : Nat) (e : ExchangeError) : Record :=
  Source.watcher.record .error s!"Failed to send {count} command report(s): {e.message}"

def sendingRecords (count : Nat) : Except ExchangeError Unit → List Record
  | .ok () => []
  | .error e => [sendingFailed count e]

def idle (list : Reply (List Command)) (records : List Record) (access : Access) : Cycle :=
  ⟨[], false, list.requests, list.records ++ records, access⟩

def run (exchange : Exchange) (access : Access) : Cycle :=
  match exchange.list.outcome with
  | .error e => idle exchange.list [listingFailed e] access
  | .ok [] => idle exchange.list [] access
  | .ok commands =>
    let batch := Command.routeAll (Command.inOrder commands) access
    let sending := exchange.send batch.reports
    { reports := batch.reports
      sent := true
      requests := exchange.list.requests ++ sending.requests
      records := exchange.list.records ++ batch.records ++ sending.records
        ++ sendingRecords batch.reports.length sending.outcome
      access := batch.access }

end Cycle

def Platform.Client.exchangeWith (client : Client) (listing sending : Answer) : Exchange :=
  ⟨client.list listing, fun reports => client.send reports sending⟩

end PolicyAgent
