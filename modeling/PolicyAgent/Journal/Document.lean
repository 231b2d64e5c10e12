import PolicyAgent.Journal.Record
import PolicyAgent.Json.Value

/-!
# The set-up of the log as a document

The same set-up in the form in which logging is configured: two handlers that write to the
standard output in one format, one of them behind the filter that keeps polls out, and the
loggers with their levels and handlers.
-/
namespace PolicyAgent.Journal

open PolicyAgent.Json

def lineFormat : String := "%(asctime)s - %(name)s - %(levelname)s - %(message)s"

def filterName : String := "command_poll_filter"

def filterKind : String := "CommandPollFilter"

def handlerDocument (filters : Fields) : Value :=
  .object ([("class", .string "logging.StreamHandler"), ("formatter", .string "default"),
    ("stream", .string "ext://sys.stdout")] ++ filters)

def loggerDocument (handler : String) (level : Value) : Value :=
  .object [("handlers", .array [.string handler]), ("level", level), ("propagate", .bool false)]

def document (level : Value) : Value :=
  .object
    [("version", .integer 1),
     ("disable_existing_loggers", .bool false),
     ("filters", .object [(filterName, .object [("()", .string filterKind)])]),
     ("formatters", .object [("default", .object [("format", .string lineFormat)])]),
     ("handlers", .object
       [("default", handlerDocument []),
        ("http", handlerDocument [("filters", .array [.string filterName])])]),
     ("loggers", .object
       [(requestLogger, loggerDocument "http" (.string Severity.info.name)),
        (agentRoot, loggerDocument "default" level)]),
     ("root", .object
       [("level", .string Severity.warning.name), ("handlers", .array [.string "default"])])]

end PolicyAgent.Journal
