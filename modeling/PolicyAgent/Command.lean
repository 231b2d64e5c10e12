import PolicyAgent.Validation

/-!
# Commands

A pending command has an identifier, a creation date, perhaps a type, and data that mean
something only together with the type. The data are decoded when the command is handled, so
that a command with bad data does not spoil the listing that it came in. Types that this
agent does not know are no error of decoding either.
-/
namespace PolicyAgent

open PolicyAgent.Json PolicyAgent.Time

structure Command where
  id : String
  createdAt : Timestamp
  type : Option String
  data : Value

/-- What a command asks for. -/
inductive Payload
  | setPolicy (ingressId policy : String)
  | deletePolicy (ingressId : String)
  | unsupported (type : Option String)
  deriving DecidableEq, Repr

def setPolicyType : String := "set-ingress-acp"

def deletePolicyType : String := "delete-ingress-acp"

namespace Command

def ofFields (fields : Fields) : Checked Command :=
  match requiredField fields "id" "id" checkText,
      requiredField fields "createdAt" "created_at" checkDate,
      optionalField fields "type" checkText with
  | .ok id, .ok createdAt, .ok type =>
    .ok { id, createdAt := createdAt.withOffset, type,
          data := Value.ofOption (Fields.get? fields "data") }
  | id, createdAt, type => .error (issuesOf id ++ issuesOf createdAt ++ issuesOf type)

def decode (v : Value) : Except Invalid Command :=
  decodeObject .command ofFields v

end Command

namespace Payload

def setOfFields (fields : Fields) : Checked Payload :=
  match requiredField fields "ingressId" "ingress_id" checkText,
      requiredField fields "acpName" "acp_name" checkText with
  | .ok ingressId, .ok policy => .ok (.setPolicy ingressId policy)
  | ingressId, policy => .error (issuesOf ingressId ++ issuesOf policy)

def deleteOfFields (fields : Fields) : Checked Payload :=
  (requiredField fields "ingressId" "ingress_id" checkText).map .deletePolicy

end Payload

/-- Missing data count as an object without fields. -/
def Command.dataObject (c : Command) : Value :=
  if c.data.isNull then .object [] else c.data

def Command.payload (c : Command) : Except Invalid Payload :=
  if c.type = some setPolicyType then
    decodeObject .setPolicy Payload.setOfFields c.dataObject
  else if c.type = some deletePolicyType then
    decodeObject .deletePolicy Payload.deleteOfFields c.dataObject
  else .ok (.unsupported c.type)

end PolicyAgent
