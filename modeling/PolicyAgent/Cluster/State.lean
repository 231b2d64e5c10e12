import PolicyAgent.Cluster.Annotations
import PolicyAgent.IngressKey

/-!
# The state of a cluster

A cluster has ingresses with annotations, which may never have been set, and access control
policies, of which only the names matter. Replacing an ingress keeps its place.
-/
namespace PolicyAgent.Cluster

structure Ingress where
  key : IngressKey
  annotations : Option Annotations
  deriving DecidableEq, Repr

def Ingress.labels (ingress : Ingress) : Annotations := ingress.annotations.getD []

def Ingress.merge (ingress : Ingress) (patch : AnnotationPatch) : Ingress :=
  { ingress with annotations := some (ingress.labels.merge patch) }

@[simp] theorem Ingress.key_merge (ingress : Ingress) (patch : AnnotationPatch) :
    (ingress.merge patch).key = ingress.key := rfl

@[simp] theorem Ingress.labels_merge (ingress : Ingress) (patch : AnnotationPatch) :
    (ingress.merge patch).labels = ingress.labels.merge patch := rfl

structure State where
  ingresses : List Ingress
  policies : List String
  deriving DecidableEq, Repr

namespace State

def empty : State := ⟨[], []⟩

def ingress? (s : State) (key : IngressKey) : Option Ingress :=
  s.ingresses.find? (·.key == key)

def hasPolicy (s : State) (name : String) : Bool := s.policies.contains name

/-- The list with an ingress in place of the one with its key, or at the end. -/
def putIngress (ingress : Ingress) : List Ingress → List Ingress
  | [] => [ingress]
  | other :: rest =>
    if other.key = ingress.key then ingress :: rest else other :: putIngress ingress rest

def put (s : State) (ingress : Ingress) : State :=
  { s with ingresses := putIngress ingress s.ingresses }

def drop (s : State) (key : IngressKey) : State :=
  { s with ingresses := s.ingresses.filter (·.key != key) }

def putPolicy (s : State) (name : String) : State :=
  { s with policies := if s.policies.contains name then s.policies else s.policies ++ [name] }

def dropPolicy (s : State) (name : String) : State :=
  { s with policies := s.policies.filter (· != name) }

/-- The annotations of an ingress patched; a cluster does not create ingresses this way. -/
def merge (s : State) (key : IngressKey) (patch : AnnotationPatch) : State :=
  match s.ingress? key with
  | some ingress => s.put (ingress.merge patch)
  | none => s

@[simp] theorem policies_merge (s : State) (key : IngressKey) (patch : AnnotationPatch) :
    (s.merge key patch).policies = s.policies := by
  unfold merge
  split <;> rfl

theorem key_of_ingress? {s : State} {key : IngressKey} {ingress : Ingress}
    (h : s.ingress? key = some ingress) : ingress.key = key := by
  simpa using List.find?_some h

theorem find?_putIngress (ingress : Ingress) (list : List Ingress) (key : IngressKey) :
    (putIngress ingress list).find? (·.key == key)
      = if ingress.key = key then some ingress else list.find? (·.key == key) := by
  induction list with
  | nil => simp only [putIngress, List.find?_cons]; split <;> simp_all
  | cons other rest ih =>
    simp only [putIngress]
    split
    · rename_i h
      simp only [List.find?_cons, h]
      split <;> simp_all
    · simp only [List.find?_cons, ih]
      grind

theorem ingress?_put (s : State) (ingress : Ingress) (key : IngressKey) :
    (s.put ingress).ingress? key
      = if ingress.key = key then some ingress else s.ingress? key :=
  find?_putIngress ingress s.ingresses key

theorem ingress?_merge (s : State) (key other : IngressKey) (patch : AnnotationPatch) :
    (s.merge key patch).ingress? other
      = if key = other then (s.ingress? key).map (·.merge patch) else s.ingress? other := by
  unfold merge
  cases h : s.ingress? key with
  | none => by_cases hk : key = other <;> simp_all
  | some ingress =>
    simp only [ingress?_put, Ingress.key_merge, key_of_ingress? h, Option.map_some]

end State

/-- What happens to a cluster from outside between two steps of the agent. -/
structure Changes where
  putIngresses : List Ingress
  dropIngresses : List IngressKey
  putPolicies : List String
  dropPolicies : List String

def Changes.none : Changes := ⟨[], [], [], []⟩

def Changes.apply (changes : Changes) (s : State) : State :=
  let s := changes.putIngresses.foldl State.put s
  let s := changes.dropIngresses.foldl State.drop s
  let s := changes.putPolicies.foldl State.putPolicy s
  changes.dropPolicies.foldl State.dropPolicy s

@[simp] theorem Changes.apply_none (s : State) : Changes.none.apply s = s := rfl

/-- A cluster with the given ingresses and policies; of several ingresses with one key the
last counts. -/
def State.ofLists (ingresses : List Ingress) (policies : List String) : State :=
  Changes.apply ⟨ingresses, [], policies, []⟩ .empty

end PolicyAgent.Cluster
