import PolicyAgent.Journal.Record
import PolicyAgent.Json.Value

/-!
# What is written of the log

A record is written if its severity reaches the threshold of the nearest configured logger
above it. Requests to the platform have a threshold of their own, the agent has the one that
it is set up with, and everything else has the one of the root. Polls are not written: a
record of the request logger itself that mentions the listing of commands and the method it is
fetched with.
-/
namespace PolicyAgent.Journal

open PolicyAgent.Json

def occursIn (part : List Char) : List Char → Bool
  | [] => part.isEmpty
  | c :: rest => part.isPrefixOf (c :: rest) || occursIn part rest

def pollPath : String := "/commands"

def pollMethod : String := "GET"

def mentionsPoll (text : String) : Bool :=
  occursIn pollPath.toList text.toList && occursIn pollMethod.toList text.toList

def isPoll (record : Record) : Bool :=
  record.logger == requestLogger && mentionsPoll record.text

/-- The rank from which on records are written; none leaves it to the root. -/
abbrev Threshold := Option Int

namespace Threshold

def ofSeverity (severity : Severity) : Threshold := some severity.rank

def ofRank (rank : Int) : Threshold := if rank = 0 then none else some rank

/-- The names of thresholds, with two older names and one for none. -/
def ofName? (name : String) : Option Threshold :=
  if name = "NOTSET" then some none
  else if name = "WARN" then some (ofSeverity .warning)
  else if name = "FATAL" then some (ofSeverity .critical)
  else (Severity.ofName? name).map ofSeverity

def ofValue? : Value → Option Threshold
  | .string name => ofName? name
  | .integer rank => some (ofRank rank)
  | .bool b => some (ofRank (if b then 1 else 0))
  | .null => some none
  | _ => none

end Threshold

def thresholdRefused : String := s!"Unable to configure logger '{agentRoot}'"

def rootThreshold : Severity := .warning

def requestThreshold : Severity := .info

/-- The threshold that counts for a logger, when the agent has the given one. -/
def thresholdFor (agent : Threshold) (logger : String) : Int :=
  if isBelow logger requestLogger then requestThreshold.rank
  else if isBelow logger agentRoot then agent.getD rootThreshold.rank
  else rootThreshold.rank

def reachesThreshold (agent : Threshold) (logger : String) (severity : Severity) : Bool :=
  thresholdFor agent logger ≤ severity.rank

def isWritten (agent : Threshold) (record : Record) : Bool :=
  reachesThreshold agent record.logger record.severity && !isPoll record

def written (agent : Threshold) (records : List Record) : List Record :=
  records.filter (isWritten agent)

def line (time : String) (record : Record) : String :=
  s!"{time} - {record.logger} - {record.severity.name} - {record.text}\n"

def lines (time : String) (records : List Record) : String :=
  String.join (records.map (line time))

end PolicyAgent.Journal
