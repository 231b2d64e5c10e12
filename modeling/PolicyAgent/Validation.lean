import PolicyAgent.Json.Value
import PolicyAgent.Time.CreationDate

/-!
# Validation of received objects

An object is checked field by field, and every field that fails leaves an issue, in the order
of the fields. A field may have two names, the one of the wire and a plain one: the first
counts if it is there, whatever its value. Unknown fields are passed over.
-/
namespace PolicyAgent

open PolicyAgent.Json PolicyAgent.Time

inductive Model
  | command
  | setPolicy
  | deletePolicy
  | report
  | reportError
  deriving DecidableEq, Repr

def Model.name : Model → String
  | .command => "Command"
  | .setPolicy => "SetIngressACP"
  | .deletePolicy => "DeleteIngressACP"
  | .report => "CommandReport"
  | .reportError => "CommandReportError"

inductive IssueKind
  | missing
  | notAText
  | illFormedText
  | notAnObject (model : Model)
  | notAStatus
  | date (e : DateError)
  deriving DecidableEq, Repr

def IssueKind.code : IssueKind → String
  | .missing => "missing"
  | .notAText => "string_type"
  | .illFormedText | .date .notAText => "string_unicode"
  | .notAnObject _ => "model_type"
  | .notAStatus => "enum"
  | .date .notADate => "datetime_type"
  | .date (.moment _) => "datetime_parsing"
  | .date (.text _) => "datetime_from_date_parsing"

def IssueKind.message : IssueKind → String
  | .missing => "Field required"
  | .notAText => "Input should be a valid string"
  | .illFormedText | .date .notAText =>
    "Input should be a valid string, unable to parse raw data as a unicode string"
  | .notAnObject model => s!"Input should be a valid dictionary or instance of {model.name}"
  | .notAStatus => "Input should be 'success' or 'failure'"
  | .date .notADate => "Input should be a valid datetime"
  | .date (.moment reason) => s!"Input should be a valid datetime, {reason.text}"
  | .date (.text reason) => s!"Input should be a valid datetime or date, {reason.text}"

/-- What is wrong with the value at a path of field names. For a missing field the value is
the object that should have it. -/
structure Issue where
  kind : IssueKind
  path : List String
  typeName : String
  deriving DecidableEq, Repr

structure Invalid where
  model : Model
  issues : List Issue
  deriving DecidableEq, Repr

def Issue.text (issue : Issue) : String :=
  let place := if issue.path.isEmpty then "" else "\n" ++ ".".intercalate issue.path
  s!"{place}\n  {issue.kind.message} [type={issue.kind.code}, input_type={issue.typeName}]"

/-- The text that a refused object is reported with. The validating library adds to each issue the
value that it is about and the address of a page about issues of its kind; both are left out. -/
def Invalid.text (e : Invalid) : String :=
  let n := e.issues.length
  let noun := if n = 1 then "error" else "errors"
  s!"{n} validation {noun} for {e.model.name}" ++ String.join (e.issues.map Issue.text)

/-- The outcome of a check: a value, or issues. -/
abbrev Checked (α : Type) := Except (List Issue) α

def issuesOf : Checked α → List Issue
  | .ok _ => []
  | .error issues => issues

/-- The check of an object by its fields; no other value is an object. -/
def checkObject (model : Model) (ofFields : Fields → Checked α) : Value → Checked α
  | .object fields => ofFields fields
  | v => .error [⟨.notAnObject model, [], v.typeName⟩]

def decodeObject (model : Model) (ofFields : Fields → Checked α) (v : Value) : Except Invalid α :=
  (checkObject model ofFields v).mapError fun issues => ⟨model, issues⟩

/-- A field under the first of two names that is there; its name is the first one otherwise. -/
def lookUp (fields : Fields) (wireName plainName : String) : String × Option Value :=
  match Fields.get? fields wireName with
  | some value => (wireName, some value)
  | none =>
    match Fields.get? fields plainName with
    | some value => (plainName, some value)
    | none => (wireName, none)

def requiredField (fields : Fields) (wireName plainName : String)
    (check : Value → Except IssueKind α) : Checked α :=
  match lookUp fields wireName plainName with
  | (name, none) => .error [⟨.missing, [name], "dict"⟩]
  | (name, some value) =>
    (check value).mapError fun kind => [⟨kind, [name], value.typeName⟩]

def optionalField (fields : Fields) (name : String)
    (check : Value → Except IssueKind α) : Checked (Option α) :=
  match Fields.get? fields name with
  | none | some .null => .ok none
  | some value =>
    ((check value).map some).mapError fun kind => [⟨kind, [name], value.typeName⟩]

def checkText : Value → Except IssueKind String
  | .string s => .ok s
  | _ => .error .notAText

def checkDate (v : Value) : Except IssueKind Timestamp :=
  (readCreationDate v).mapError .date

end PolicyAgent
