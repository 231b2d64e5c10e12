import PolicyAgent.Cluster.State
import PolicyAgent.Fault
import PolicyAgent.Json.Value

/-!
# Access to a cluster

The agent makes three kinds of call: it reads an ingress, patches the annotations of one, and
looks up a policy. Every call is recorded. A plan says which calls fail, by their kind and
their number among the calls of that kind; a call that fails has no effect. A cluster refuses
calls about things it does not have.

The stores above the calls give these refusals their meaning: an ingress that cannot be read
because it does not exist is reported as such, and a policy that does not exist is an answer
and not a fault. Every other fault passes unchanged.
-/
namespace PolicyAgent.Cluster

open PolicyAgent.Json

inductive CallKind
  | read
  | patch
  | policy
  deriving DecidableEq, Repr

inductive Call
  | read (key : IngressKey)
  | patch (key : IngressKey) (patch : AnnotationPatch)
  | policy (name : String)
  deriving DecidableEq, Repr

def Call.kind : Call → CallKind
  | read _ => .read
  | patch _ _ => .patch
  | policy _ => .policy

/-- The fault of the call of a kind with a number, counted from one. -/
abbrev FaultPlan := CallKind → Nat → Option Fault

def FaultPlan.none : FaultPlan := fun _ _ => .none

/-- A fault of all calls of a kind, or of the one with a number. -/
structure FaultRule where
  kind : CallKind
  number : Option Nat
  fault : Fault

/-- The first rule that matches a call decides. -/
def FaultPlan.ofRules (rules : List FaultRule) : FaultPlan := fun kind n =>
  (rules.find? fun rule => rule.kind == kind && rule.number.all (· == n)).map (·.fault)

/-- A cluster, the faults to come, and the calls made so far in one step of the agent. -/
structure Access where
  state : State
  faults : FaultPlan
  calls : List Call

namespace Access

def start (state : State) (faults : FaultPlan) : Access := ⟨state, faults, []⟩

def count (access : Access) (kind : CallKind) : Nat := access.calls.countP (·.kind == kind)

def fault? (access : Access) (call : Call) : Option Fault :=
  access.faults call.kind (access.count call.kind + 1)

def record (access : Access) (call : Call) : Access :=
  { access with calls := access.calls ++ [call] }

/-- A call answered with what a cluster without faults would answer. -/
def perform (access : Access) (call : Call) (answer : State → Except Fault (α × State)) :
    Except Fault α × Access :=
  let recorded := access.record call
  match access.fault? call with
  | some fault => (.error fault, recorded)
  | none =>
    match answer access.state with
    | .error fault => (.error fault, recorded)
    | .ok (a, state) => (.ok a, { recorded with state })

def callRead (access : Access) (key : IngressKey) : Except Fault Ingress × Access :=
  access.perform (.read key) fun state =>
    match state.ingress? key with
    | some ingress => .ok (ingress, state)
    | none => .error .unknownObject

def callPatch (access : Access) (key : IngressKey) (patch : AnnotationPatch) :
    Except Fault Unit × Access :=
  access.perform (.patch key patch) fun state =>
    match state.ingress? key with
    | some _ => .ok ((), state.merge key patch)
    | none => .error .unknownObject

def callPolicy (access : Access) (name : String) : Except Fault Unit × Access :=
  access.perform (.policy name) fun state =>
    if state.hasPolicy name then .ok ((), state) else .error .unknownObject

def ingressNotFound (key : IngressKey) : Fault :=
  .failure .notFound s!"ingress {key.target} not found"

/-- A refusal for want of the ingress gets the words of the store. -/
def nameMissing (key : IngressKey) (fault : Fault) : Fault :=
  if fault.hasNotFoundStatus then ingressNotFound key else fault

def readIngress (access : Access) (key : IngressKey) : Except Fault Ingress × Access :=
  let (answer, access) := access.callRead key
  (answer.mapError (nameMissing key), access)

def patchIngress (access : Access) (key : IngressKey) (patch : AnnotationPatch) :
    Except Fault Unit × Access :=
  access.callPatch key patch

def policyExists (access : Access) (name : String) : Except Fault Bool × Access :=
  match access.callPolicy name with
  | (.ok (), access) => (.ok true, access)
  | (.error fault, access) =>
    (if fault.hasNotFoundStatus then .ok false else .error fault, access)

end Access

def patchBody (patch : AnnotationPatch) : Value :=
  .object [("metadata", .object [("annotations",
    .object (patch.map fun entry => (entry.1, Value.ofText? entry.2)))])]

def patchContentType : String := "application/merge-patch+json"

/-- The place of the policies among the custom objects of a cluster. -/
def policyGroup : String := "hub.traefik.io"

def policyVersion : String := "v1alpha1"

def policyPlural : String := "accesscontrolpolicies"

end PolicyAgent.Cluster
