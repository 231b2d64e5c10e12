import PolicyAgent.Fault
import PolicyAgent.Journal.Record

/-!
# Credentials of a cluster

A path that is given decides where credentials are read from. Without one the agent first
tries those of the cluster that it runs in and, if there are none, those kept in the default
place. Any fault but the absence of credentials ends the search.
-/
namespace PolicyAgent.Cluster

open PolicyAgent.Journal

inductive CredentialSource
  | inCluster
  | file (path : Option String)
  deriving DecidableEq, Repr

/-- The faults of the two kinds of place. -/
structure CredentialFaults where
  inCluster : Option Fault
  file : Option Fault

/-- The outcome of the search, the places tried and the records about it. -/
structure CredentialSearch where
  outcome : Except Fault Unit
  tried : List CredentialSource
  records : List Record

def loaded (origin : String) : Record :=
  Source.stores.record .info s!"Loaded {origin}"

def tryPlace (fault : Option Fault) (source : CredentialSource) (record : Record) :
    CredentialSearch :=
  match fault with
  | none => ⟨.ok (), [source], [record]⟩
  | some fault => ⟨.error fault, [source], []⟩

def searchCredentials (path : Option String) (faults : CredentialFaults) : CredentialSearch :=
  match path.filter (· ≠ "") with
  | some path =>
    tryPlace faults.file (.file (some path)) (loaded s!"Kubernetes config from {path}")
  | none =>
    let first := tryPlace faults.inCluster .inCluster (loaded "in-cluster Kubernetes config")
    match first.outcome with
    | .ok () => first
    | .error fault =>
      if fault.isMissingCredentials then
        let second := tryPlace faults.file (.file none) (loaded "local Kubernetes config")
        { second with tried := first.tried ++ second.tried }
      else first

end PolicyAgent.Cluster
