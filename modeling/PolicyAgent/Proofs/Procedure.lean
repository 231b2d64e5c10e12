import Mathlib.Data.List.Basic
import PolicyAgent.Proofs.Orders

/-!
# The procedure

What becomes of a command is laid down in one place, as a procedure over the answers of a
cluster: which call comes next, and which report a refusal leads to. A refusal means different
things at different calls. When an ingress is read, the status 404 and the failure of a look-up
both say that there is no such ingress; when a policy is looked up, only the status says that
there is no such policy; and a patch that is refused is an internal error whatever the reason.
The router, the two handlers and the stores below them follow this procedure on every cluster.
-/
namespace PolicyAgent

open PolicyAgent.Cluster PolicyAgent.Json PolicyAgent.Time

/-- What a cluster would answer to the next call of each kind. -/
@[ext]
structure Cluster.Answers where
  read : IngressKey → Except Fault Ingress
  policy : String → Except Fault Unit
  patch : IngressKey → AnnotationPatch → Except Fault Unit

def Cluster.Access.answers (access : Access) : Answers where
  read key := (access.callRead key).1
  policy name := (access.callPolicy name).1
  patch key patch := (access.callPatch key patch).1

/-- The end that a command comes to. -/
inductive Verdict
  | done
  | unsupported
  | invalidId
  | unknownIngress
  | unknownPolicy
  | internal (cause : String)
  deriving DecidableEq, Repr

namespace Verdict

def refusal (id type : String) : Report := ⟨id, .failure, some ⟨type, .null⟩⟩

def report (id : String) : Verdict → Report
  | done => ⟨id, .success, none⟩
  | unsupported => refusal id "unsupported-command"
  | invalidId => refusal id "invalid-ingress-id"
  | unknownIngress => refusal id "ingress-not-found"
  | unknownPolicy => refusal id "acp-not-found"
  | internal cause => ⟨id, .failure, some ⟨"internal-error", .string cause⟩⟩

@[simp] theorem commandId_report (id : String) (verdict : Verdict) :
    (verdict.report id).commandId = id := by
  cases verdict <;> rfl

theorem data_report {id : String} {verdict : Verdict} {e : ReportError}
    (h : (verdict.report id).error = some e) :
    e.data.isNull = false ↔ e.type = "internal-error" := by
  cases verdict <;> simp only [report, refusal, Option.some.injEq, reduceCtorEq] at h <;>
    subst h <;> simp [Value.isNull]

end Verdict

def Report.IsVerdict (r : Report) : Prop := ∃ verdict : Verdict, r = verdict.report r.commandId

theorem Verdict.isVerdict_report (id : String) (verdict : Verdict) :
    (verdict.report id).IsVerdict :=
  ⟨verdict, by rw [commandId_report]⟩

/-- The calls that are made for a command, and the end that it comes to. -/
structure Conduct where
  calls : List Call
  verdict : Verdict

namespace Conduct

def stop (verdict : Verdict) : Conduct := ⟨[], verdict⟩

def call (call : Call) (rest : Conduct) : Conduct := ⟨call :: rest.calls, rest.verdict⟩

end Conduct

namespace Procedure

variable (answers : Answers) (requestedAt : Timestamp)

/-- The last step merges the date of the command and its policy into the annotations. -/
def patchIngress (policy : Option String) (key : IngressKey) : Conduct :=
  let patch : AnnotationPatch :=
    [("hub.traefik.io/last-patch-requested-at", some requestedAt.rfc3339),
      ("hub.traefik.io/access-control-policy", policy)]
  .call (.patch key patch) <| match answers.patch key patch with
    | .ok () => .stop .done
    | .error fault => .stop (.internal fault.message)

/-- A policy that is to be set has to exist. -/
def findPolicy (policy : Option String) (key : IngressKey) : Conduct :=
  match policy with
  | none => patchIngress answers requestedAt none key
  | some name =>
    .call (.policy name) <| match answers.policy name with
      | .ok () => patchIngress answers requestedAt (some name) key
      | .error fault =>
        .stop (if fault.hasNotFoundStatus then .unknownPolicy else .internal fault.message)

/-- The date of the last command that was applied, if the annotations tell one. -/
def lastDate? (labels : Annotations) : Option Timestamp :=
  (labels.get? "hub.traefik.io/last-patch-requested-at").bind fun text =>
    (Timestamp.readRfc3339 text).toOption

def checkDate (policy : Option String) (key : IngressKey) (labels : Annotations) : Conduct :=
  if (lastDate? labels).any fun last => requestedAt.instant ≤ last.instant then
    .stop (.internal "operation already executed")
  else findPolicy answers requestedAt policy key

def readIngress (policy : Option String) (key : IngressKey) : Conduct :=
  .call (.read key) <| match answers.read key with
    | .ok ingress => checkDate answers requestedAt policy key ingress.labels
    | .error fault =>
      .stop (if fault.hasNotFoundStatus || fault.isNotFound then .unknownIngress
        else .internal fault.message)

def findIngress (policy : Option String) (ingressId : String) : Conduct :=
  match IngressKey.ofId? ingressId with
  | none => .stop .invalidId
  | some key => readIngress answers requestedAt policy key

/-- A text under its wire name, or under its plain name if there is nothing under the other. -/
def textField (fields : Fields) (wireName plainName : String) : Checked String :=
  match Fields.get? fields wireName, Fields.get? fields plainName with
  | some (.string s), _ => .ok s
  | some v, _ => .error [⟨.notAText, [wireName], v.typeName⟩]
  | none, some (.string s) => .ok s
  | none, some v => .error [⟨.notAText, [plainName], v.typeName⟩]
  | none, none => .error [⟨.missing, [wireName], "dict"⟩]

def malformed (model : Model) (issues : List Issue) : Conduct :=
  .stop (.internal (Invalid.text ⟨model, issues⟩))

/-- Data are an object, and no data are an object without fields. -/
def withFields (model : Model) (data : Value) (next : Fields → Conduct) : Conduct :=
  match data with
  | .null => next []
  | .object fields => next fields
  | v => malformed model [⟨.notAnObject model, [], v.typeName⟩]

def run (c : Command) : Conduct :=
  if c.type = some "set-ingress-acp" then
    withFields .setPolicy c.data fun fields =>
      match textField fields "ingressId" "ingress_id", textField fields "acpName" "acp_name" with
      | .ok ingressId, .ok policy => findIngress answers c.createdAt (some policy) ingressId
      | ingressId, policy => malformed .setPolicy (issuesOf ingressId ++ issuesOf policy)
  else if c.type = some "delete-ingress-acp" then
    withFields .deletePolicy c.data fun fields =>
      match textField fields "ingressId" "ingress_id" with
      | .ok ingressId => findIngress answers c.createdAt none ingressId
      | .error issues => malformed .deletePolicy issues
  else .stop .unsupported

section

variable {answers} {other : Answers} {requestedAt} {policy : Option String} {key : IngressKey}

theorem patchIngress_congr (h : answers.patch key = other.patch key) :
    patchIngress answers requestedAt policy key = patchIngress other requestedAt policy key := by
  simp only [patchIngress, h]

theorem findPolicy_congr (hpolicy : answers.policy = other.policy)
    (hpatch : answers.patch key = other.patch key) :
    findPolicy answers requestedAt policy key = findPolicy other requestedAt policy key := by
  simp only [findPolicy, patchIngress_congr hpatch, hpolicy]

theorem checkDate_congr (hpolicy : answers.policy = other.policy)
    (hpatch : answers.patch key = other.patch key) (labels : Annotations) :
    checkDate answers requestedAt policy key labels
      = checkDate other requestedAt policy key labels := by
  simp only [checkDate, findPolicy_congr hpolicy hpatch]

end

theorem requiredField_checkText (fields : Fields) (wireName plainName : String) :
    requiredField fields wireName plainName checkText = textField fields wireName plainName := by
  unfold requiredField lookUp textField
  cases Fields.get? fields wireName with
  | some v => cases v <;> rfl
  | none =>
    cases Fields.get? fields plainName with
    | some v => cases v <;> rfl
    | none => rfl

def afterPayload (c : Command) : Except Invalid Payload → Conduct
  | .ok (.setPolicy ingressId policy) => findIngress answers c.createdAt (some policy) ingressId
  | .ok (.deletePolicy ingressId) => findIngress answers c.createdAt none ingressId
  | .ok (.unsupported _) => .stop .unsupported
  | .error e => .stop (.internal e.text)

theorem withFields_eq {c : Command} {model : Model} {ofFields : Fields → Checked Payload}
    {next : Fields → Conduct}
    (h : ∀ fields, next fields
      = afterPayload answers c ((ofFields fields).mapError fun issues => ⟨model, issues⟩)) :
    withFields model c.data next
      = afterPayload answers c (decodeObject model ofFields c.dataObject) := by
  unfold Command.dataObject
  cases c.data with
  | null => exact h []
  | object fields => exact h fields
  | _ => rfl

/-- The procedure reads the data of a command as the router does. -/
theorem run_eq (c : Command) : run answers c = afterPayload answers c c.payload := by
  by_cases hset : c.type = some "set-ingress-acp"
  · have hpayload : c.payload = decodeObject .setPolicy Payload.setOfFields c.dataObject :=
      if_pos hset
    rw [hpayload, run, if_pos hset]
    apply withFields_eq
    intro fields
    simp only [Payload.setOfFields, requiredField_checkText]
    cases textField fields "ingressId" "ingress_id" <;>
      cases textField fields "acpName" "acp_name" <;> rfl
  · by_cases hdelete : c.type = some "delete-ingress-acp"
    · have hpayload : c.payload = decodeObject .deletePolicy Payload.deleteOfFields c.dataObject :=
        (if_neg hset).trans (if_pos hdelete)
      rw [hpayload, run, if_neg hset, if_pos hdelete]
      apply withFields_eq
      intro fields
      simp only [Payload.deleteOfFields, requiredField_checkText]
      cases textField fields "ingressId" "ingress_id" <;> rfl
    · have hpayload : c.payload = .ok (.unsupported c.type) :=
        (if_neg hset).trans (if_neg hdelete)
      rw [hpayload, run, if_neg hset, if_neg hdelete]
      rfl

end Procedure

namespace Cluster.Access

variable {access : Access}

theorem perform_fst (access : Access) (call : Call) (answer : State → Except Fault (α × State)) :
    (access.perform call answer).1 = match access.fault? call with
      | some fault => .error fault
      | none => (answer access.state).map (·.1) := by
  unfold perform
  cases access.fault? call with
  | some fault => rfl
  | none => cases answer access.state <;> rfl

/-- A call does not count among the calls of other kinds. -/
theorem fault?_record {call : Call} (next : Call) (h : call.kind ≠ next.kind) :
    (access.record call).fault? next = access.fault? next := by
  simp [fault?, count, record, h]

theorem policy_answers_record (access : Access) {call : Call} (h : call.kind ≠ .policy) :
    (access.record call).answers.policy = access.answers.policy := by
  funext name
  have hfault : (access.record call).fault? (.policy name) = access.fault? (.policy name) :=
    fault?_record _ h
  simp only [answers, callPolicy, perform_fst, hfault]
  rfl

theorem patch_answers_record (access : Access) {call : Call} (h : call.kind ≠ .patch) :
    (access.record call).answers.patch = access.answers.patch := by
  funext key patch
  have hfault : (access.record call).fault? (.patch key patch) = access.fault? (.patch key patch) :=
    fault?_record _ h
  simp only [answers, callPatch, perform_fst, hfault]
  rfl

theorem readIngress_eq (access : Access) (key : IngressKey) :
    access.readIngress key
      = ((access.answers.read key).mapError (nameMissing key), access.record (.read key)) :=
  Prod.ext rfl (access.readIngress_snd key)

def existence : Except Fault Unit → Except Fault Bool
  | .ok () => .ok true
  | .error fault => if fault.hasNotFoundStatus then .ok false else .error fault

theorem policyExists_eq (access : Access) (name : String) :
    access.policyExists name
      = (existence (access.answers.policy name), access.record (.policy name)) := by
  refine Prod.ext ?_ (access.policyExists_snd name)
  change (access.policyExists name).1 = existence (access.callPolicy name).1
  unfold policyExists
  rcases access.callPolicy name with ⟨_ | _, _⟩ <;> rfl

theorem calls_patchIngress (access : Access) (key : IngressKey) (patch : AnnotationPatch) :
    (access.patchIngress key patch).2.calls = access.calls ++ [.patch key patch] := by
  unfold patchIngress callPatch perform
  cases access.fault? (.patch key patch) with
  | some fault => rfl
  | none => cases h : access.state.ingress? key <;> simp [h]

/-- The store puts a refusal for want of the ingress in its own words, and no other fault. -/
theorem isNotFound_nameMissing (key : IngressKey) (fault : Fault) :
    (nameMissing key fault).isNotFound = (fault.hasNotFoundStatus || fault.isNotFound) := by
  unfold nameMissing
  by_cases h : fault.hasNotFoundStatus = true <;> simp [h, ingressNotFound, Fault.isNotFound]

theorem nameMissing_eq_self {key : IngressKey} {fault : Fault}
    (h : (nameMissing key fault).isNotFound = false) : nameMissing key fault = fault := by
  rw [isNotFound_nameMissing, Bool.or_eq_false_iff] at h
  simp [nameMissing, h.1]

end Cluster.Access

theorem Token.covers_eq (labels : Annotations) (requestedAt : Timestamp) :
    (Token.ofAnnotations labels).covers requestedAt
      = (Procedure.lastDate? labels).any fun last => requestedAt.instant ≤ last.instant := by
  unfold ofAnnotations Procedure.lastDate? tokenKey
  cases labels.get? "hub.traefik.io/last-patch-requested-at" with
  | none => rfl
  | some text =>
    dsimp only [Option.bind_some]
    cases Timestamp.readRfc3339 text with
    | error e => rfl
    | ok t => simp [covers, Except.toOption]

/-- What was done for a command is what is laid down for it. -/
def Handled.Follows (handled : Handled) (conduct : Conduct) (id : String) (access : Access) :
    Prop :=
  handled.report = conduct.verdict.report id ∧ handled.access.calls = access.calls ++ conduct.calls

/-- What follows after a call is laid down as if the call was made before. -/
theorem Handled.Follows.call {handled : Handled} {conduct : Conduct} {id : String}
    {access : Access} {call : Call} (h : handled.Follows conduct id (access.record call)) :
    handled.Follows (.call call conduct) id access := by
  refine ⟨h.1, ?_⟩
  rw [h.2, Access.calls_record, List.append_assoc]
  rfl

theorem Handled.follows_stop (verdict : Verdict) {id : String} (records : List Journal.Record)
    (access : Access) :
    Handled.Follows ⟨verdict.report id, records, access⟩ (.stop verdict) id access :=
  ⟨rfl, (List.append_nil _).symm⟩

namespace Change

variable (change : Change) (id : String) (requestedAt : Timestamp) (key : IngressKey)
  (access : Access)

theorem carryOut_follows :
    (change.carryOut id requestedAt key access).Follows
      (Procedure.patchIngress access.answers requestedAt change.policy? key) id access := by
  have hcalls := access.calls_patchIngress key (change.patch requestedAt)
  have hanswer : access.answers.patch key (change.patch requestedAt)
      = (access.patchIngress key (change.patch requestedAt)).1 := rfl
  unfold carryOut
  unfold patch tokenPatch tokenKey policyKey at hcalls hanswer ⊢
  split
  · rename_i fault after hpatch
    rw [hpatch] at hcalls hanswer
    simp only [Procedure.patchIngress, hanswer]
    exact ⟨rfl, hcalls⟩
  · rename_i after hpatch
    rw [hpatch] at hcalls hanswer
    simp only [Procedure.patchIngress, hanswer]
    exact ⟨rfl, hcalls⟩

theorem checkAndCarryOut_follows :
    (change.checkAndCarryOut id requestedAt key access).Follows
      (Procedure.findPolicy access.answers requestedAt change.policy? key) id access := by
  cases change with
  | delete => exact carryOut_follows .delete id requestedAt key access
  | set policy =>
    simp only [checkAndCarryOut, policy?, Procedure.findPolicy, Access.policyExists_eq]
    apply Handled.Follows.call
    have hpatch : (access.record (.policy policy)).answers.patch key = access.answers.patch key :=
      congrFun (access.patch_answers_record (by simp [Call.kind])) key
    cases access.answers.policy policy with
    | ok found =>
      have hfollows := carryOut_follows (.set policy) id requestedAt key
        (access.record (.policy policy))
      rw [Procedure.patchIngress_congr hpatch] at hfollows
      exact hfollows
    | error fault =>
      by_cases hstatus : fault.hasNotFoundStatus = true
      · simp only [Access.existence, if_pos hstatus]
        exact Handled.follows_stop .unknownPolicy _ _
      · simp only [Access.existence, if_neg hstatus]
        exact Handled.follows_stop (.internal fault.message) _ _

theorem handleIngress_follows (labels : Annotations) :
    (change.handleIngress id requestedAt key labels access).Follows
      (Procedure.checkDate access.answers requestedAt change.policy? key labels) id access := by
  unfold handleIngress Procedure.checkDate
  dsimp only
  rw [Token.covers_eq]
  split
  · exact Handled.follows_stop (.internal alreadyExecuted) _ _
  · exact checkAndCarryOut_follows change id requestedAt key access

theorem handle_follows (ingressId : String) :
    (change.handle id requestedAt ingressId access).Follows
      (Procedure.findIngress access.answers requestedAt change.policy? ingressId) id access := by
  unfold handle Procedure.findIngress
  cases IngressKey.ofId? ingressId with
  | none => exact Handled.follows_stop .invalidId _ _
  | some key =>
    simp only [Procedure.readIngress, Access.readIngress_eq]
    apply Handled.Follows.call
    cases access.answers.read key with
    | ok ingress =>
      have hfollows := handleIngress_follows change id requestedAt key
        (access.record (.read key)) ingress.labels
      rw [Procedure.checkDate_congr
        (access.policy_answers_record (by simp [Call.kind]))
        (congrFun (access.patch_answers_record (by simp [Call.kind])) key)] at hfollows
      exact hfollows
    | error fault =>
      simp only [Except.mapError, ← Access.isNotFound_nameMissing key fault]
      by_cases hmissing : (Access.nameMissing key fault).isNotFound = true
      · simp only [if_pos hmissing]
        exact Handled.follows_stop .unknownIngress _ _
      · simp only [if_neg hmissing]
        rw [Access.nameMissing_eq_self (Bool.eq_false_iff.2 hmissing)]
        exact Handled.follows_stop (.internal fault.message) _ _

end Change

theorem Command.route_follows (c : Command) (access : Access) :
    (c.route access).Follows (Procedure.run access.answers c) c.id access := by
  rw [Procedure.run_eq]
  unfold route
  cases c.payload with
  | error e => exact Handled.follows_stop (.internal e.text) _ _
  | ok payload =>
    cases payload with
    | setPolicy ingressId policy =>
      exact (Change.set policy).handle_follows c.id c.createdAt access ingressId
    | deletePolicy ingressId =>
      exact Change.delete.handle_follows c.id c.createdAt access ingressId
    | unsupported type => exact Handled.follows_stop .unsupported _ _

/-- A command of any type is answered by one report with its identifier. Report and calls are
those of the procedure, whatever the cluster is and whichever of its calls fail, and data come
with internal errors and with no others. -/
theorem Command.route_refines_procedure (c : Command) (access : Access) :
    let conduct := Procedure.run access.answers c
    (c.route access).report = conduct.verdict.report c.id ∧
      (c.route access).access.calls = access.calls ++ conduct.calls ∧
      (c.route access).report.commandId = c.id ∧
      ∀ e, (c.route access).report.error = some e →
        (e.data.isNull = false ↔ e.type = "internal-error") := by
  obtain ⟨hreport, hcalls⟩ := c.route_follows access
  refine ⟨hreport, hcalls, ?_, ?_⟩
  · rw [hreport, Verdict.commandId_report]
  · intro e he
    rw [hreport] at he
    exact Verdict.data_report he

end PolicyAgent
