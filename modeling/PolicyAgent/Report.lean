import PolicyAgent.Text.Repertoire
import PolicyAgent.Validation

/-!
# Reports

Every command is answered by one report: its identifier, whether it succeeded, and the error
if there is one. An error has a type, which the platform knows, and perhaps data. On the wire
an error that is missing and data that are missing leave no field; nulls inside data stay.
Numbers that are not finite are written as nulls, and data are not written at all if they nest too
deep or name a field in a way that UTF-8 cannot write. Other texts in data are not looked into.
-/
namespace PolicyAgent

open PolicyAgent.Json PolicyAgent.Text

inductive Status
  | success
  | failure
  deriving DecidableEq, Repr

def Status.code : Status → String
  | .success => "success"
  | .failure => "failure"

/-- The types of error that this agent reports. -/
inductive ErrorType
  | internalError
  | unsupportedCommand
  | invalidIngressId
  | ingressNotFound
  | policyNotFound
  deriving DecidableEq, Repr

namespace ErrorType

def code : ErrorType → String
  | internalError => "internal-error"
  | unsupportedCommand => "unsupported-command"
  | invalidIngressId => "invalid-ingress-id"
  | ingressNotFound => "ingress-not-found"
  | policyNotFound => "acp-not-found"

def all : List ErrorType :=
  [internalError, unsupportedCommand, invalidIngressId, ingressNotFound, policyNotFound]

def ofCode? (code : String) : Option ErrorType := all.find? (·.code == code)

end ErrorType

/-- An error in a report. Null data are missing data. -/
structure ReportError where
  type : String
  data : Value

structure Report where
  commandId : String
  status : Status
  error : Option ReportError

namespace Report

def success (commandId : String) : Report := ⟨commandId, .success, none⟩

def failure (commandId : String) (type : ErrorType) : Report :=
  ⟨commandId, .failure, some ⟨type.code, .null⟩⟩

/-- A failure that the platform has no type for, with the text of its cause. -/
def internalFailure (commandId cause : String) : Report :=
  ⟨commandId, .failure, some ⟨ErrorType.internalError.code, .string cause⟩⟩

end Report

def ReportError.encode (e : ReportError) : Value :=
  .object (("type", .string e.type) ::
    if e.data.isNull then [] else [("data", e.data.withoutNonFinite)])

def Report.encode (r : Report) : Value :=
  .object (("commandId", .string r.commandId) :: ("status", .string r.status.code) ::
    match r.error with
    | none => []
    | some e => [("error", e.encode)])

def greatestDepth : Nat := 255

/-- Why data are not written: they nest too deep, or a name in them cannot be written. -/
inductive WireError
  | tooDeep
  | unwritable (e : RepertoireError)
  deriving DecidableEq, Repr

def WireError.message : WireError → String
  | .tooDeep => "Maximum serialization depth exceeded"
  | .unwritable e => e.message

namespace Json

mutual

/-- Data are written from the outside to the inside, with room for so many values in one another,
and the name of a field is written before its value. -/
def Value.check : (room : Nat) → Value → Except WireError Unit
  | 0, _ => .error .tooDeep
  | room + 1, .array items => checkItems room items
  | room + 1, .object fields => checkFields room fields
  | _ + 1, _ => .ok ()

def checkItems (room : Nat) : List Value → Except WireError Unit
  | [] => .ok ()
  | item :: items =>
    match item.check room with
    | .error e => .error e
    | .ok () => checkItems room items

def checkFields (room : Nat) : List (String × Value) → Except WireError Unit
  | [] => .ok ()
  | (name, value) :: fields =>
    match Repertoire.utf8.check name.toList with
    | .error e => .error (.unwritable e)
    | .ok () =>
      match value.check room with
      | .error e => .error e
      | .ok () => checkFields room fields

end

end Json

def Report.wire? (r : Report) : Except WireError Value :=
  match r.error with
  | none => .ok r.encode
  | some e => (e.data.check greatestDepth).map fun _ => r.encode

def checkStatus : Value → Except IssueKind Status
  | .string s =>
    if s = Status.success.code then .ok .success
    else if s = Status.failure.code then .ok .failure
    else .error (if Text.isWellFormed s then .notAStatus else .illFormedText)
  | _ => .error .notAStatus

def ReportError.ofFields (fields : Fields) : Checked ReportError :=
  (requiredField fields "type" "type" checkText).map fun type =>
    ⟨type, Value.ofOption (Fields.get? fields "data")⟩

/-- The error of a report, whose issues stand under the name of its field. -/
def Report.errorField (fields : Fields) : Checked (Option ReportError) :=
  match Fields.get? fields "error" with
  | none | some .null => .ok none
  | some value =>
    ((checkObject .reportError ReportError.ofFields value).map some).mapError
      (·.map fun issue => { issue with path := "error" :: issue.path })

def Report.ofFields (fields : Fields) : Checked Report :=
  match requiredField fields "commandId" "command_id" checkText,
      requiredField fields "status" "status" checkStatus, errorField fields with
  | .ok commandId, .ok status, .ok error => .ok ⟨commandId, status, error⟩
  | commandId, status, error => .error (issuesOf commandId ++ issuesOf status ++ issuesOf error)

def Report.decode (v : Value) : Except Invalid Report :=
  decodeObject .report Report.ofFields v

end PolicyAgent
