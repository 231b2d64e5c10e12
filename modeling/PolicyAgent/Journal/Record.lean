/-!
# Log records

A record has the name of the logger that it is written to, a severity and a text. Logger names
are dotted paths: a logger stands below every logger whose name is a leading part of its own.
-/
namespace PolicyAgent.Journal

inductive Severity
  | debug
  | info
  | warning
  | error
  | critical
  deriving DecidableEq, Repr

namespace Severity

def name : Severity → String
  | debug => "DEBUG"
  | info => "INFO"
  | warning => "WARNING"
  | error => "ERROR"
  | critical => "CRITICAL"

def rank : Severity → Nat
  | debug => 10
  | info => 20
  | warning => 30
  | error => 40
  | critical => 50

def all : List Severity := [debug, info, warning, error, critical]

def ofName? (name : String) : Option Severity := all.find? (·.name == name)

end Severity

structure Record where
  logger : String
  severity : Severity
  text : String
  deriving DecidableEq, Repr

/-- The parts of the agent that write records. -/
inductive Source
  | agent
  | annotations
  | setHandler
  | deleteHandler
  | router
  | watcher
  | stores
  | client
  deriving DecidableEq, Repr

def agentRoot : String := "hubagent"

def requestLogger : String := "httpx"

def Source.logger : Source → String
  | .agent => "hubagent.main"
  | .annotations => "hubagent.modules.commands.annotations"
  | .setHandler => "hubagent.modules.commands.set_ingress_acp"
  | .deleteHandler => "hubagent.modules.commands.delete_ingress_acp"
  | .router => "hubagent.modules.commands.router"
  | .watcher => "hubagent.modules.commands.watcher"
  | .stores => "hubagent.modules.kube.stores"
  | .client => "hubagent.modules.platform.client"

def Source.record (source : Source) (severity : Severity) (text : String) : Record :=
  ⟨source.logger, severity, text⟩

/-- A logger is another one or stands below it. -/
def isBelow (logger other : String) : Bool :=
  logger == other || (other ++ ".").toList.isPrefixOf logger.toList

def ofAgent (records : List Record) : List Record :=
  records.filter fun record => isBelow record.logger agentRoot

end PolicyAgent.Journal
