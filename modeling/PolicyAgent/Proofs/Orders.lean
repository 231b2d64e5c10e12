import PolicyAgent.Handling
import PolicyAgent.Proofs.Calls

/-!
# Orders and their outcomes

A task of the agent is a command to be routed or a change that is handed to its handler. If it
is well formed it comes down to an order: a change to the policy of one ingress, requested at a
date. An order goes one of seven ways through its handling, each with its report and its calls;
every other task fails without a call. All that later modules know about the handling is in
these two facts.
-/
namespace PolicyAgent

open PolicyAgent.Cluster PolicyAgent.Journal PolicyAgent.Time

namespace Report

@[simp] theorem status_success (id : String) : (success id).status = .success := rfl

@[simp] theorem status_failure (id : String) (type : ErrorType) :
    (failure id type).status = .failure := rfl

@[simp] theorem status_internalFailure (id cause : String) :
    (internalFailure id cause).status = .failure := rfl

theorem internalFailure_inj {id cause cause' : String} :
    internalFailure id cause = internalFailure id cause' ↔ cause = cause' := by
  simp [internalFailure]

theorem failure_ne_internalFailure (id cause : String) (type : ErrorType) :
    failure id type ≠ internalFailure id cause := by
  simp [failure, internalFailure]

theorem success_ne_internalFailure (id cause : String) :
    success id ≠ internalFailure id cause := by
  simp [success, internalFailure]

end Report

/-- A change to the policy of an ingress, and the date of its request. -/
structure Order where
  change : Change
  requestedAt : Timestamp
  key : IngressKey
  deriving DecidableEq

namespace Order

def ofIngressId? (change : Change) (requestedAt : Timestamp) (ingressId : String) : Option Order :=
  (IngressKey.ofId? ingressId).map fun key => ⟨change, requestedAt, key⟩

def patch (order : Order) : AnnotationPatch := order.change.patch order.requestedAt

def IsPossible (order : Order) (s : State) : Prop :=
  ∀ policy, order.change = .set policy → s.hasPolicy policy = true

theorem IsPossible.of_policies {order : Order} {s s' : State} (h : order.IsPossible s)
    (heq : s'.policies = s.policies) : order.IsPossible s' := by
  intro policy hchange
  rw [State.hasPolicy, heq]
  exact h policy hchange

/-- The access with which the patch is made: a policy to be set was looked up and found. -/
inductive Checked (order : Order) (access : Access) : Access → Prop
  | delete (hchange : order.change = .delete) : Checked order access access
  | set {policy : String} (hchange : order.change = .set policy)
      (hexists : (access.policyExists policy).1 = .ok true) :
      Checked order access (access.record (.policy policy))

theorem Checked.state_eq {order : Order} {access checked : Access}
    (h : order.Checked access checked) : checked.state = access.state := by
  cases h <;> rfl

theorem Checked.faults_eq {order : Order} {access checked : Access}
    (h : order.Checked access checked) : checked.faults = access.faults := by
  cases h <;> rfl

theorem Checked.prefix_calls {order : Order} {access checked : Access}
    (h : order.Checked access checked) : access.calls <+: checked.calls := by
  cases h with
  | delete => exact List.prefix_rfl
  | set => exact List.prefix_append _ _

theorem Checked.calls_ne {order : Order} {access checked : Access}
    (h : order.Checked access checked) (call : Call) :
    (checked.record call).calls ≠ access.calls := by
  cases h <;> simp

/-- The ways through the handling of an order. -/
inductive Outcome (order : Order) (id : String) (access : Access) : Handled → Prop
  | notFound {fault : Fault} {records : List Record}
      (hread : (access.readIngress order.key).1 = .error fault)
      (hmissing : fault.isNotFound = true) :
      Outcome order id access
        ⟨.failure id .ingressNotFound, records, access.record (.read order.key)⟩
  | unread {fault : Fault} {records : List Record}
      (hread : (access.readIngress order.key).1 = .error fault)
      (hother : fault.isNotFound = false) :
      Outcome order id access
        ⟨.internalFailure id fault.message, records, access.record (.read order.key)⟩
  | stale {ingress : Ingress} {records : List Record}
      (hread : (access.readIngress order.key).1 = .ok ingress)
      (hstale : (Token.ofAnnotations ingress.labels).covers order.requestedAt = true) :
      Outcome order id access
        ⟨.internalFailure id alreadyExecuted, records, access.record (.read order.key)⟩
  | unchecked {ingress : Ingress} {records : List Record} {policy : String} {fault : Fault}
      (hread : (access.readIngress order.key).1 = .ok ingress)
      (hfresh : (Token.ofAnnotations ingress.labels).covers order.requestedAt = false)
      (hchange : order.change = .set policy)
      (hcheck : ((access.record (.read order.key)).policyExists policy).1 = .error fault) :
      Outcome order id access ⟨.internalFailure id fault.message, records,
        (access.record (.read order.key)).record (.policy policy)⟩
  | missing {ingress : Ingress} {records : List Record} {policy : String}
      (hread : (access.readIngress order.key).1 = .ok ingress)
      (hfresh : (Token.ofAnnotations ingress.labels).covers order.requestedAt = false)
      (hchange : order.change = .set policy)
      (hcheck : ((access.record (.read order.key)).policyExists policy).1 = .ok false) :
      Outcome order id access ⟨.failure id .policyNotFound, records,
        (access.record (.read order.key)).record (.policy policy)⟩
  | refused {ingress : Ingress} {records : List Record} {checked : Access} {fault : Fault}
      (hread : (access.readIngress order.key).1 = .ok ingress)
      (hfresh : (Token.ofAnnotations ingress.labels).covers order.requestedAt = false)
      (hchecked : order.Checked (access.record (.read order.key)) checked)
      (hpatch : (checked.patchIngress order.key order.patch).1 = .error fault) :
      Outcome order id access ⟨.internalFailure id fault.message, records,
        checked.record (.patch order.key order.patch)⟩
  | applied {ingress : Ingress} {records : List Record} {checked after : Access}
      (hread : (access.readIngress order.key).1 = .ok ingress)
      (hfresh : (Token.ofAnnotations ingress.labels).covers order.requestedAt = false)
      (hchecked : order.Checked (access.record (.read order.key)) checked)
      (hpatch : checked.patchIngress order.key order.patch = (.ok (), after)) :
      Outcome order id access ⟨.success id, records, after⟩

namespace Outcome

variable {order : Order} {id : String} {access : Access} {handled : Handled}

theorem state_of_failure (h : order.Outcome id access handled)
    (hfailure : handled.report.status = .failure) : handled.access.state = access.state := by
  cases h with
  | notFound => rfl
  | unread => rfl
  | stale => rfl
  | unchecked => rfl
  | missing => rfl
  | refused _ _ hchecked => exact hchecked.state_eq
  | applied => simp at hfailure

/-- A success patches an ingress that was read and found not to have a later token. -/
theorem state_of_success (h : order.Outcome id access handled)
    (hsuccess : handled.report.status = .success) :
    ∃ ingress, access.state.ingress? order.key = some ingress ∧
      (Token.ofAnnotations ingress.labels).covers order.requestedAt = false ∧
      order.IsPossible access.state ∧
      handled.access.state = access.state.merge order.key order.patch := by
  cases h with
  | notFound => simp at hsuccess
  | unread => simp at hsuccess
  | stale => simp at hsuccess
  | unchecked => simp at hsuccess
  | missing => simp at hsuccess
  | refused => simp at hsuccess
  | @applied ingress records checked after hread hfresh hchecked hpatch =>
    refine ⟨ingress, Access.ingress?_of_readIngress hread, hfresh, ?_, ?_⟩
    · intro policy hpolicy
      cases hchecked with
      | delete hchange => simp [hchange] at hpolicy
      | set hchange hexists =>
        obtain rfl : _ = policy := Change.set.inj (hchange.symm.trans hpolicy)
        simpa using Access.hasPolicy_of_policyExists hexists
    · obtain ⟨-, -, rfl⟩ := Access.patchIngress_eq_ok_iff.1 hpatch
      exact congrArg (fun s : State => s.merge order.key order.patch) hchecked.state_eq

theorem prefix_calls (h : order.Outcome id access handled) :
    access.calls <+: handled.access.calls := by
  have hread := List.prefix_append access.calls [.read order.key]
  cases h with
  | notFound => exact hread
  | unread => exact hread
  | stale => exact hread
  | unchecked => exact hread.trans (List.prefix_append _ _)
  | missing => exact hread.trans (List.prefix_append _ _)
  | refused _ _ hchecked =>
    exact (hread.trans hchecked.prefix_calls).trans (List.prefix_append _ _)
  | applied _ _ hchecked hpatch =>
    obtain ⟨-, -, rfl⟩ := Access.patchIngress_eq_ok_iff.1 hpatch
    exact (hread.trans hchecked.prefix_calls).trans (List.prefix_append _ _)

theorem of_unread (h : order.Outcome id access handled) {fault : Fault}
    (hread : (access.readIngress order.key).1 = .error fault) :
    handled.report.status = .failure ∧ handled.access = access.record (.read order.key) := by
  cases h with
  | notFound => exact ⟨rfl, rfl⟩
  | unread => exact ⟨rfl, rfl⟩
  | stale hread' => simp [hread] at hread'
  | unchecked hread' => simp [hread] at hread'
  | missing hread' => simp [hread] at hread'
  | refused hread' => simp [hread] at hread'
  | applied hread' => simp [hread] at hread'

/-- An order that the token covers is turned away as soon as the ingress was read. -/
theorem of_covers (h : order.Outcome id access handled) {ingress : Ingress}
    (hread : (access.readIngress order.key).1 = .ok ingress)
    (hcovers : (Token.ofAnnotations ingress.labels).covers order.requestedAt = true) :
    handled.report = .internalFailure id alreadyExecuted ∧
      handled.access = access.record (.read order.key) := by
  have hcovered {read : Ingress} (hread' : (access.readIngress order.key).1 = .ok read)
      (hfresh : (Token.ofAnnotations read.labels).covers order.requestedAt = false) : False := by
    obtain rfl := Except.ok.inj (hread.symm.trans hread')
    simp [hcovers] at hfresh
  cases h with
  | notFound hread' => simp [hread] at hread'
  | unread hread' => simp [hread] at hread'
  | stale => exact ⟨rfl, rfl⟩
  | unchecked hread' hfresh => exact (hcovered hread' hfresh).elim
  | missing hread' hfresh => exact (hcovered hread' hfresh).elim
  | refused hread' hfresh => exact (hcovered hread' hfresh).elim
  | applied hread' hfresh => exact (hcovered hread' hfresh).elim

/-- Another order is reported like that only if a later call fails with the same words. -/
theorem of_fresh (h : order.Outcome id access handled) {ingress : Ingress}
    (hread : (access.readIngress order.key).1 = .ok ingress)
    (hfresh : (Token.ofAnnotations ingress.labels).covers order.requestedAt = false)
    (hreport : handled.report = .internalFailure id alreadyExecuted) :
    handled.access.calls ≠ access.calls ++ [.read order.key] ∧
      ∃ kind n fault, access.faults kind n = some fault ∧ fault.message = alreadyExecuted := by
  cases h with
  | notFound hread' => simp [hread] at hread'
  | unread hread' => simp [hread] at hread'
  | stale hread' hstale =>
    obtain rfl := Except.ok.inj (hread.symm.trans hread')
    simp [hstale] at hfresh
  | unchecked _ _ _ hcheck =>
    have hfault := Access.fault?_of_policyExists_error hcheck
    rw [Access.fault?] at hfault
    exact ⟨by simp, _, _, _, hfault, Report.internalFailure_inj.1 hreport⟩
  | missing => exact absurd hreport (Report.failure_ne_internalFailure _ _ _)
  | @refused _ _ checked fault _ _ hchecked hpatch =>
    have hingress := Access.ingress?_of_readIngress hread
    rw [← Access.state_record, ← hchecked.state_eq] at hingress
    have hfault := Access.fault?_of_patchIngress_error hingress hpatch
    rw [Access.fault?, hchecked.faults_eq] at hfault
    exact ⟨hchecked.calls_ne _, _, _, _, hfault, Report.internalFailure_inj.1 hreport⟩
  | applied => exact absurd hreport (Report.success_ne_internalFailure _ _)

/-- Without faults nothing stops an order but the token and the want of a policy. -/
theorem success_of_fresh (h : order.Outcome id access handled)
    (hfaults : access.faults = FaultPlan.none) {ingress : Ingress}
    (hingress : access.state.ingress? order.key = some ingress)
    (hfresh : (Token.ofAnnotations ingress.labels).covers order.requestedAt = false)
    (hpossible : order.IsPossible access.state) : handled.report.status = .success := by
  have hread := Access.readIngress_of_ingress? hfaults hingress
  have hrecorded : (access.record (.read order.key)).faults = FaultPlan.none := hfaults
  cases h with
  | notFound hread' => simp [hread] at hread'
  | unread hread' => simp [hread] at hread'
  | stale hread' hstale =>
    obtain rfl := Except.ok.inj (hread.symm.trans hread')
    simp [hfresh] at hstale
  | unchecked _ _ _ hcheck => simp [Access.policyExists_fst hrecorded] at hcheck
  | missing _ _ hchange hcheck =>
    simp [Access.policyExists_fst hrecorded, hpossible _ hchange] at hcheck
  | refused _ _ hchecked hpatch =>
    rw [← Access.state_record, ← hchecked.state_eq] at hingress
    have hfault := Access.fault?_of_patchIngress_error hingress hpatch
    rw [Access.fault?_eq_none (hchecked.faults_eq.trans hrecorded)] at hfault
    simp at hfault
  | applied => rfl

theorem faults_eq (h : order.Outcome id access handled) :
    handled.access.faults = access.faults := by
  cases h with
  | notFound => rfl
  | unread => rfl
  | stale => rfl
  | unchecked => rfl
  | missing => rfl
  | refused _ _ hchecked => exact hchecked.faults_eq
  | applied _ _ hchecked hpatch =>
    obtain ⟨-, -, rfl⟩ := Access.patchIngress_eq_ok_iff.1 hpatch
    exact hchecked.faults_eq

theorem success_of_patchIngress (h : order.Outcome id access handled) {last : Access}
    {key : IngressKey} {patch : AnnotationPatch} (hstate : last.state = access.state)
    (hpatch : last.patchIngress key patch = (.ok (), handled.access)) :
    handled.report.status = .success ∧ order.key = key := by
  obtain ⟨-, -, hafter⟩ := Access.patchIngress_eq_ok_iff.1 hpatch
  have hcalls : handled.access.calls = last.calls ++ [.patch key patch] := by rw [hafter]; rfl
  have hfaults : handled.access.faults = last.faults := by rw [hafter]; rfl
  cases h with
  | notFound => simpa using (List.append_inj' hcalls rfl).2
  | unread => simpa using (List.append_inj' hcalls rfl).2
  | stale => simpa using (List.append_inj' hcalls rfl).2
  | unchecked => simpa using (List.append_inj' hcalls rfl).2
  | missing => simpa using (List.append_inj' hcalls rfl).2
  | @refused _ _ checked _ _ _ hchecked herror =>
    obtain ⟨hbefore, hlast⟩ := List.append_inj' hcalls rfl
    obtain ⟨rfl, rfl⟩ : order.key = key ∧ order.patch = patch := by simpa using hlast
    -- The failed call and the accepted one would be the same call.
    have hstates : last.state = checked.state := hstate.trans hchecked.state_eq.symm
    obtain rfl : last = checked := by
      obtain ⟨state, faults, calls⟩ := last
      obtain ⟨state', faults', calls'⟩ := checked
      exact Access.mk.injEq .. ▸ ⟨hstates, hfaults.symm, hbefore.symm⟩
    rw [hpatch] at herror
    simp at herror
  | applied _ _ _ happlied =>
    obtain ⟨-, -, rfl⟩ := Access.patchIngress_eq_ok_iff.1 happlied
    obtain ⟨-, hlast⟩ := List.append_inj' hcalls rfl
    exact ⟨rfl, by simpa using And.left (by simpa using hlast)⟩

end Outcome

end Order

namespace Change

variable (change : Change) (id : String) (requestedAt : Timestamp) (key : IngressKey)

theorem carryOut_outcome {access checked : Access} {ingress : Ingress} (records : List Record)
    (hread : (access.readIngress key).1 = .ok ingress)
    (hfresh : (Token.ofAnnotations ingress.labels).covers requestedAt = false)
    (hchecked : (⟨change, requestedAt, key⟩ : Order).Checked (access.record (.read key)) checked) :
    (⟨change, requestedAt, key⟩ : Order).Outcome id access
      { change.carryOut id requestedAt key checked with
        records := records ++ (change.carryOut id requestedAt key checked).records } := by
  unfold carryOut
  split
  · rename_i fault after hpatch
    rw [Access.eq_record_of_patchIngress_error hpatch]
    exact .refused hread hfresh hchecked (congrArg Prod.fst hpatch)
  · rename_i after hpatch
    exact .applied hread hfresh hchecked hpatch

theorem checkAndCarryOut_outcome {access : Access} {ingress : Ingress} (records : List Record)
    (hread : (access.readIngress key).1 = .ok ingress)
    (hfresh : (Token.ofAnnotations ingress.labels).covers requestedAt = false) :
    let rest := change.checkAndCarryOut id requestedAt key (access.record (.read key))
    (⟨change, requestedAt, key⟩ : Order).Outcome id access
      { rest with records := records ++ rest.records } := by
  cases change with
  | delete => exact carryOut_outcome _ _ _ _ records hread hfresh (.delete rfl)
  | set policy =>
    have hafter := Access.policyExists_snd (access.record (.read key)) policy
    simp only [checkAndCarryOut]
    split
    · rename_i fault after hcheck
      rw [hcheck] at hafter
      subst hafter
      exact .unchecked hread hfresh rfl (congrArg Prod.fst hcheck)
    · rename_i after hcheck
      rw [hcheck] at hafter
      subst hafter
      exact .missing hread hfresh rfl (congrArg Prod.fst hcheck)
    · rename_i after hcheck
      rw [hcheck] at hafter
      subst hafter
      exact carryOut_outcome _ _ _ _ records hread hfresh (.set rfl (congrArg Prod.fst hcheck))

theorem handle_outcome {ingressId : String} (access : Access)
    (hid : IngressKey.ofId? ingressId = some key) :
    (⟨change, requestedAt, key⟩ : Order).Outcome id access
      (change.handle id requestedAt ingressId access) := by
  have hafter := access.readIngress_snd key
  simp only [handle, hid]
  split
  · rename_i fault after hread
    rw [hread] at hafter
    subst hafter
    by_cases hmissing : fault.isNotFound = true
    · rw [if_pos hmissing]
      exact .notFound (congrArg Prod.fst hread) hmissing
    · rw [if_neg hmissing]
      exact .unread (congrArg Prod.fst hread) (Bool.eq_false_iff.2 hmissing)
  · rename_i ingress after hread
    rw [hread] at hafter
    subst hafter
    have hread' := congrArg Prod.fst hread
    unfold handleIngress
    dsimp only
    by_cases hstale : (Token.ofAnnotations ingress.labels).covers requestedAt = true
    · rw [if_pos hstale]
      exact .stale hread' hstale
    · rw [if_neg hstale]
      exact checkAndCarryOut_outcome _ _ _ _ _ hread' (Bool.eq_false_iff.2 hstale)

end Change

def Command.order? (c : Command) : Option Order :=
  match c.payload with
  | .ok (.setPolicy ingressId policy) => Order.ofIngressId? (.set policy) c.createdAt ingressId
  | .ok (.deletePolicy ingressId) => Order.ofIngressId? .delete c.createdAt ingressId
  | _ => none

/-- An order is dated like its command, and its ingress has an identifier. -/
theorem Command.of_order? {c : Command} {order : Order} (h : c.order? = some order) :
    order.requestedAt = c.createdAt ∧
      ∃ ingressId, IngressKey.ofId? ingressId = some order.key := by
  unfold order? at h
  split at h
  · rename_i ingressId policy _
    obtain ⟨key, hkey, rfl⟩ := Option.map_eq_some_iff.1 h
    exact ⟨rfl, ingressId, hkey⟩
  · rename_i ingressId _
    obtain ⟨key, hkey, rfl⟩ := Option.map_eq_some_iff.1 h
    exact ⟨rfl, ingressId, hkey⟩
  · simp at h

def Command.ofChange (change : Change) (id : String) (createdAt : Timestamp)
    (ingressId : String) : Command :=
  match change with
  | .set policy => ⟨id, createdAt, some setPolicyType,
      .object [("ingressId", .string ingressId), ("acpName", .string policy)]⟩
  | .delete => ⟨id, createdAt, some deletePolicyType, .object [("ingressId", .string ingressId)]⟩

@[simp] theorem Command.order?_ofChange (change : Change) (id : String) (createdAt : Timestamp)
    (ingressId : String) :
    (ofChange change id createdAt ingressId).order?
      = Order.ofIngressId? change createdAt ingressId := by
  cases change <;> rfl

/-- A command to be routed, or a change that is given to its handler. -/
inductive Task
  | route (c : Command)
  | handle (change : Change) (commandId : String) (requestedAt : Timestamp) (ingressId : String)

namespace Task

def commandId : Task → String
  | route c => c.id
  | handle _ id _ _ => id

def order? : Task → Option Order
  | route c => c.order?
  | handle change _ requestedAt ingressId => Order.ofIngressId? change requestedAt ingressId

def run : Task → Access → Handled
  | route c, access => c.route access
  | handle change id requestedAt ingressId, access => change.handle id requestedAt ingressId access

theorem run_outcome {task : Task} {order : Order} (h : task.order? = some order)
    (access : Access) : order.Outcome task.commandId access (task.run access) := by
  cases task with
  | handle change id requestedAt ingressId =>
    obtain ⟨key, hkey, rfl⟩ := Option.map_eq_some_iff.1 h
    exact change.handle_outcome id requestedAt key access hkey
  | route c =>
    simp only [order?, Command.order?] at h
    simp only [run, commandId, Command.route]
    split at h
    · rename_i ingressId policy hpayload
      obtain ⟨key, hkey, rfl⟩ := Option.map_eq_some_iff.1 h
      simp only [hpayload]
      exact (Change.set policy).handle_outcome c.id c.createdAt key access hkey
    · rename_i ingressId hpayload
      obtain ⟨key, hkey, rfl⟩ := Option.map_eq_some_iff.1 h
      simp only [hpayload]
      exact Change.delete.handle_outcome c.id c.createdAt key access hkey
    · simp at h

theorem run_of_order?_eq_none {task : Task} (h : task.order? = none) (access : Access) :
    (task.run access).report.status = .failure ∧ (task.run access).access = access := by
  have hhandle {change : Change} {id : String} {requestedAt : Timestamp} {ingressId : String}
      (h : Order.ofIngressId? change requestedAt ingressId = none) :
      (change.handle id requestedAt ingressId access).report.status = .failure ∧
        (change.handle id requestedAt ingressId access).access = access := by
    have hid : IngressKey.ofId? ingressId = none := by simpa [Order.ofIngressId?] using h
    simp [Change.handle, hid]
  cases task with
  | handle change id requestedAt ingressId => exact hhandle h
  | route c =>
    simp only [order?, Command.order?] at h
    simp only [run, Command.route]
    split at h
    · rename_i hpayload
      simpa only [hpayload] using hhandle h
    · rename_i hpayload
      simpa only [hpayload] using hhandle h
    · split
      · exact ⟨rfl, rfl⟩
      · simp_all
      · simp_all
      · exact ⟨rfl, rfl⟩

end Task

end PolicyAgent
