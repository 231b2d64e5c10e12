import PolicyAgent.Cluster.Access
import PolicyAgent.Command
import PolicyAgent.Report
import PolicyAgent.Token

/-!
# Handling a command

Setting and deleting a policy follow one procedure: find out which ingress is meant, read it,
refuse a stale command, make sure that a policy to be set exists, and patch the ingress. The
first step that fails ends the procedure with a report of its failure, and so does the last
one with a report of success. Each way through leaves one log record, besides the warning
about a token that cannot be read.

A command is handled by its type. Bad data of a known type and all other types are reported
without a call to the cluster.
-/
namespace PolicyAgent

open PolicyAgent.Cluster PolicyAgent.Journal PolicyAgent.Time PolicyAgent.Text

/-- What a command does to the policy of an ingress. -/
inductive Change
  | set (policy : String)
  | delete
  deriving DecidableEq, Repr

/-- The report of a command, the log records of its handling, and the cluster after it. -/
structure Handled where
  report : Report
  records : List Record
  access : Access

def alreadyExecuted : String := "operation already executed"

namespace Change

def source : Change → Source
  | set _ => .setHandler
  | delete => .deleteHandler

def tag : Change → String
  | set _ => "[set_ingress_acp]"
  | delete => "[delete_ingress_acp]"

def note (change : Change) (severity : Severity) (text : String) : Record :=
  change.source.record severity s!"{change.tag} {text}"

def policy? : Change → Option String
  | set policy => some policy
  | delete => none

def patch (change : Change) (requestedAt : Timestamp) : AnnotationPatch :=
  tokenPatch requestedAt change.policy?

def patchFailed (change : Change) (key : IngressKey) (fault : Fault) : Record :=
  change.note .error <| match change with
    | set policy => s!"Unable to set ACP {quoted policy} on Ingress {key.target}: {fault.message}"
    | delete => s!"Unable to delete ACP of Ingress {key.target}: {fault.message}"

def applied (change : Change) (key : IngressKey) : Record :=
  change.source.record .info <| match change with
    | set policy => s!"ACP {quoted policy} set on Ingress {key.target}"
    | delete => s!"ACP removed from Ingress {key.target}"

def carryOut (change : Change) (commandId : String) (requestedAt : Timestamp)
    (key : IngressKey) (access : Access) : Handled :=
  match access.patchIngress key (change.patch requestedAt) with
  | (.error fault, access) =>
    ⟨.internalFailure commandId fault.message, [change.patchFailed key fault], access⟩
  | (.ok (), access) => ⟨.success commandId, [change.applied key], access⟩

/-- The steps for a command that is not stale. A policy to be set has to exist. -/
def checkAndCarryOut (change : Change) (commandId : String) (requestedAt : Timestamp)
    (key : IngressKey) (access : Access) : Handled :=
  match change with
  | delete => change.carryOut commandId requestedAt key access
  | set policy =>
    match access.policyExists policy with
    | (.error fault, access) =>
      ⟨.internalFailure commandId fault.message,
        [change.note .error s!"Unable to find ACP {quoted policy}: {fault.message}"], access⟩
    | (.ok false, access) =>
      ⟨.failure commandId .policyNotFound,
        [change.note .error s!"ACP {quoted policy} not found"], access⟩
    | (.ok true, access) => change.carryOut commandId requestedAt key access

def handleIngress (change : Change) (commandId : String) (requestedAt : Timestamp)
    (key : IngressKey) (annotations : Annotations) (access : Access) : Handled :=
  let token := Token.ofAnnotations annotations
  if token.covers requestedAt then
    ⟨.internalFailure commandId alreadyExecuted, token.warnings ++
      [change.note .debug s!"Command {commandId} already applied on {key.target}. Ignoring"],
      access⟩
  else
    let rest := change.checkAndCarryOut commandId requestedAt key access
    { rest with records := token.warnings ++ rest.records }

def handle (change : Change) (commandId : String) (requestedAt : Timestamp)
    (ingressId : String) (access : Access) : Handled :=
  match IngressKey.ofId? ingressId with
  | none =>
    ⟨.failure commandId .invalidIngressId,
      [change.note .error
        s!"Unable to extract name and namespace from ingress ID {quoted ingressId}"], access⟩
  | some key =>
    match access.readIngress key with
    | (.error fault, access) =>
      if fault.isNotFound then
        ⟨.failure commandId .ingressNotFound,
          [change.note .error s!"Ingress {key.target} not found: {fault.message}"], access⟩
      else
        ⟨.internalFailure commandId fault.message,
          [change.note .error s!"Unable to find Ingress {key.target}: {fault.message}"], access⟩
    | (.ok ingress, access) =>
      change.handleIngress commandId requestedAt key ingress.labels access

end Change

def shownType (type : Option String) : String := type.getD "None"

def Command.route (c : Command) (access : Access) : Handled :=
  match c.payload with
  | .error e =>
    ⟨.internalFailure c.id e.text,
      [Source.router.record .error
        s!"Unable to decode payload of command {c.id} ({shownType c.type}): {e.text}"], access⟩
  | .ok (.setPolicy ingressId policy) =>
    (Change.set policy).handle c.id c.createdAt ingressId access
  | .ok (.deletePolicy ingressId) => Change.delete.handle c.id c.createdAt ingressId access
  | .ok (.unsupported type) =>
    ⟨.failure c.id .unsupportedCommand,
      [Source.router.record .error
        s!"Command {c.id} of type {quotedOption type} unsupported on this agent version"], access⟩

end PolicyAgent
