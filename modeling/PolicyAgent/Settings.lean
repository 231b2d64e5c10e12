import PolicyAgent.Decimal.Reading
import PolicyAgent.Journal.Record
import PolicyAgent.Platform.Client
import PolicyAgent.Text.Uppercase

/-!
# Settings

The agent is set up by its environment. The address and the token of the platform have to be
there; everything else has a default. An empty path counts as none. The poll interval is a
number that is not zero or less, and the log level one of five names in any letter case.
-/
namespace PolicyAgent

open PolicyAgent.Decimal PolicyAgent.Journal PolicyAgent.Platform PolicyAgent.Text

/-- The variables that are set. -/
abbrev Environment := List (String × String)

def Environment.get? (env : Environment) (name : String) : Option String :=
  (env.find? (·.1 == name)).map (·.2)

/-- A variable whose empty text counts as none. -/
def Environment.path? (env : Environment) (name : String) : Option String :=
  (Environment.get? env name).filter (· ≠ "")

inductive SettingsError
  | missing (names : List String)
  | notANumber (text : String)
  | interval
  | level (text : String)
  deriving DecidableEq, Repr

namespace SettingsError

def levelNames : String := ", ".intercalate (Severity.all.map Severity.name)

def message : SettingsError → String
  | missing names =>
    let listed := ", ".intercalate names
    s!"Missing required environment variables: {listed}. Set them from the hub-agent token secret."
  | notANumber text => s!"could not convert string to float: {quoted text}"
  | interval => "COMMANDS_POLL_INTERVAL must be a positive number of seconds"
  | level text => s!"LOG_LEVEL must be one of {levelNames}, got {quoted text}"

end SettingsError

structure PlatformSettings where
  url : String
  token : String
  timeout : Float
  verifyCertificates : Bool
  bundle : Option String

/-- A bundle takes the place of the plain choice to verify. -/
def PlatformSettings.verify (s : PlatformSettings) : Verify :=
  match s.bundle with
  | some path => .bundle path
  | none => .flag s.verifyCertificates

namespace Environment

def urlVariable : String := "HUB_PLATFORM_URL"

def tokenVariable : String := "HUB_TOKEN"

def number (env : Environment) (name default : String) : Except SettingsError Float :=
  let text := (env.get? name).getD default
  match readFloat? text with
  | some x => .ok x
  | none => .error (.notANumber text)

/-- The text is `true` in any letter case. No character outside ASCII has one of its letters as
its lower case. -/
def isTrue (text : String) : Bool := text.toList.map Char.toLower == "true".toList

/-- The required variables that are not set, or empty. -/
def missing (env : Environment) : List String :=
  [urlVariable, tokenVariable].filter fun name => (env.path? name).isNone

def platform (env : Environment) : Except SettingsError PlatformSettings := do
  if env.missing ≠ [] then throw (.missing env.missing)
  let timeout ← env.number "HUB_PLATFORM_TIMEOUT" "10"
  return {
    url := (env.get? urlVariable).getD ""
    token := (env.get? tokenVariable).getD ""
    timeout
    verifyCertificates := isTrue ((env.get? "HUB_SSL_VERIFY").getD "true")
    bundle := env.path? "HUB_CA_CERT" }

def pollInterval (env : Environment) : Except SettingsError Float := do
  let interval ← env.number "COMMANDS_POLL_INTERVAL" "5"
  if interval ≤ 0 then throw .interval
  return interval

def credentialsPath (env : Environment) : Option String := env.path? "KUBECONFIG"

def logLevel (env : Environment) : Except SettingsError Severity :=
  let text := uppercase ((env.get? "LOG_LEVEL").getD "INFO")
  match Severity.ofName? text with
  | some severity => .ok severity
  | none => .error (.level text)

end Environment

end PolicyAgent
