import PolicyAgent.Agent

/-!
# The command line

The agent is rehearsed with the settings of the environment that it is started in: every line
of the standard input is the body of the platform's answer to one listing, the last of them
comes with a stop signal, and the cluster is empty. The log goes to the standard output.
-/
namespace PolicyAgent

def knownVariables : List String :=
  [Environment.urlVariable, Environment.tokenVariable, "HUB_PLATFORM_TIMEOUT", "HUB_SSL_VERIFY",
   "HUB_CA_CERT", "COMMANDS_POLL_INTERVAL", "KUBECONFIG", "LOG_LEVEL"]

def readEnvironment : IO Environment :=
  knownVariables.filterMapM fun name => return (← IO.getEnv name).map (name, ·)

/-- A cycle whose listing is answered with a text. -/
def rehearsal (body : String) (signal : Bool) : Occasion :=
  { changes := .none
    faults := .none
    listing := .response ⟨200, [], Text.utf8Octets body⟩
    sending := .response ⟨200, [], []⟩
    listingTime := 0
    signal }

/-- One cycle for every text, or an empty one if there is none; the last one is stopped. -/
def rehearsals : List String → List Occasion
  | [] => [rehearsal "[]" true]
  | [body] => [rehearsal body true]
  | body :: rest => rehearsal body false :: rehearsals rest

end PolicyAgent

open PolicyAgent in
def main : IO UInt32 := do
  let environment ← readEnvironment
  let input ← (← IO.getStdin).lines
  let outcome := Agent.run
    { environment
      credentialFaults := ⟨none, none⟩
      state := .empty
      occasions := rehearsals input.toList }
  IO.print (Journal.lines (toString (← IO.monoMsNow)) outcome.written)
  IO.eprint outcome.errorOutput
  return UInt32.ofNat (outcome.exitCode?.getD 0)
