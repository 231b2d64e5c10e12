/-!
# Faults of outside services

A call to a cluster or to the platform may fail in two ways: the service answers with a status
that refuses it, or the call breaks off with a failure of some kind and a message. The agent
tells only three kinds apart: something does not exist, credentials are not there, and a value
was not valid.
-/
namespace PolicyAgent

inductive FailureKind
  | general
  | connection
  | timeout
  | invalidValue
  | notFound
  | connect
  | readTimeout
  | credentials
  deriving DecidableEq, Repr

inductive Fault
  | refused (status : Int) (reason body : Option String)
  | failure (kind : FailureKind) (message : String)
  deriving DecidableEq, Repr

namespace Fault

def message : Fault → String
  | refused status reason body =>
    let shownReason := reason.getD "None"
    let shownBody := match body with
      | none | some "" => ""
      | some body => s!"HTTP response body: {body}\n"
    s!"({status})\nReason: {shownReason}\n" ++ shownBody
  | failure _ message => message

def isNotFound : Fault → Bool
  | failure .notFound _ => true
  | _ => false

def isMissingCredentials : Fault → Bool
  | failure .credentials _ => true
  | _ => false

def isInvalidValue : Fault → Bool
  | failure .invalidValue _ => true
  | _ => false

/-- The status by which a cluster says that something does not exist. -/
def notFoundStatus : Int := 404

def hasNotFoundStatus : Fault → Bool
  | refused status _ _ => status == notFoundStatus
  | _ => false

/-- What a cluster answers about something that it does not have. -/
def unknownObject : Fault := refused notFoundStatus (some "Not Found") none

end Fault

end PolicyAgent
