import PolicyAgent.Cluster.Annotations
import PolicyAgent.Journal.Record
import PolicyAgent.Time.Rfc3339

/-!
# The token of the last command

Two annotations of an ingress belong to the agent: the name of its policy, and the creation
date of the last command that was applied to it, the token. A command is stale if the token is
not earlier than its creation date; a token that cannot be read stops no command. Applying a
command sets the token, and sets or removes the policy, in one patch.
-/
namespace PolicyAgent

open PolicyAgent.Cluster PolicyAgent.Time PolicyAgent.Journal

def tokenKey : String := "hub.traefik.io/last-patch-requested-at"

def policyKey : String := "hub.traefik.io/access-control-policy"

/-- What the annotations say about the last command. -/
inductive Token
  | absent
  | unreadable (e : ReadError)
  | readable (t : Timestamp)
  deriving DecidableEq

namespace Token

def ofAnnotations (annotations : Annotations) : Token :=
  match annotations.get? tokenKey with
  | none => absent
  | some text =>
    match Timestamp.readRfc3339 text with
    | .error e => unreadable e
    | .ok t => readable t

def timestamp? : Token → Option Timestamp
  | readable t => some t
  | _ => none

def warnings : Token → List Record
  | unreadable e =>
    [Source.annotations.record .warning
      (s!"Unexpected '{tokenKey}' annotation format, "
        ++ s!"expected RFC-3339 format. Ignoring annotation: {e.message}")]
  | _ => []

/-- A command created at a time was already applied, or a later one was. -/
def covers (token : Token) (requestedAt : Timestamp) : Bool :=
  match token with
  | readable t => requestedAt.withOffset.instant ≤ t.instant
  | _ => false

end Token

def tokenPatch (requestedAt : Timestamp) (policy : Option String) : AnnotationPatch :=
  [(tokenKey, some requestedAt.rfc3339), (policyKey, policy)]

end PolicyAgent
