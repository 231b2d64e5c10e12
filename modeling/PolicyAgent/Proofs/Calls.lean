import PolicyAgent.Cluster.Access

/-!
# The effect of calls

A call is recorded whatever comes of it. Reading an ingress and looking up a policy leave the
cluster as it is, and so does a patch that fails. An accepted patch merges the annotations of an
ingress that exists and does nothing else.
-/
namespace PolicyAgent.Cluster.Access

variable {access after : Access} {key : IngressKey} {patch : AnnotationPatch} {name : String}

@[simp] theorem state_record (access : Access) (call : Call) :
    (access.record call).state = access.state := rfl

@[simp] theorem calls_record (access : Access) (call : Call) :
    (access.record call).calls = access.calls ++ [call] := rfl

theorem readIngress_snd (access : Access) (key : IngressKey) :
    (access.readIngress key).2 = access.record (.read key) := by
  unfold readIngress callRead perform
  cases access.fault? (.read key) with
  | some fault => rfl
  | none => cases h : access.state.ingress? key <;> simp [h, record]

theorem policyExists_snd (access : Access) (name : String) :
    (access.policyExists name).2 = access.record (.policy name) := by
  unfold policyExists callPolicy perform
  cases access.fault? (.policy name) with
  | some fault => rfl
  | none => cases h : access.state.hasPolicy name <;> simp [h, record]

theorem ingress?_of_callRead {ingress : Ingress} (h : (access.callRead key).1 = .ok ingress) :
    access.state.ingress? key = some ingress := by
  unfold callRead perform at h
  cases hf : access.fault? (.read key) with
  | some fault => simp [hf] at h
  | none => cases hs : access.state.ingress? key <;> simp_all

theorem ingress?_of_readIngress {ingress : Ingress}
    (h : (access.readIngress key).1 = .ok ingress) : access.state.ingress? key = some ingress := by
  have hrenamed : (access.callRead key).1.mapError (nameMissing key) = .ok ingress := h
  cases hcall : (access.callRead key).1 with
  | error fault =>
    rw [hcall] at hrenamed
    nomatch hrenamed
  | ok read =>
    rw [hcall] at hrenamed
    obtain rfl := Except.ok.inj hrenamed
    exact ingress?_of_callRead hcall

theorem hasPolicy_of_policyExists (h : (access.policyExists name).1 = .ok true) :
    access.state.hasPolicy name = true := by
  unfold policyExists callPolicy perform at h
  cases hf : access.fault? (.policy name) with
  | some fault => cases hn : fault.hasNotFoundStatus <;> simp [hf, hn] at h
  | none =>
    cases hs : access.state.hasPolicy name with
    | true => rfl
    | false => simp [hf, hs, Fault.unknownObject, Fault.hasNotFoundStatus] at h

theorem patchIngress_eq_ok_iff :
    access.patchIngress key patch = (.ok (), after) ↔
      access.fault? (.patch key patch) = none ∧ (access.state.ingress? key).isSome ∧
        after =
          { access.record (.patch key patch) with state := access.state.merge key patch } := by
  unfold patchIngress callPatch perform
  cases access.fault? (.patch key patch) with
  | some fault => simp
  | none => cases h : access.state.ingress? key <;> simp [h, eq_comm]

theorem eq_record_of_patchIngress_error {fault : Fault}
    (h : access.patchIngress key patch = (.error fault, after)) :
    after = access.record (.patch key patch) := by
  unfold patchIngress callPatch perform at h
  cases hf : access.fault? (.patch key patch) with
  | some fault => simp_all
  | none => cases hs : access.state.ingress? key <;> simp_all

theorem fault?_of_policyExists_error {fault : Fault}
    (h : (access.policyExists name).1 = .error fault) :
    access.fault? (.policy name) = some fault := by
  unfold policyExists callPolicy perform at h
  cases hf : access.fault? (.policy name) with
  | some planned => cases hn : planned.hasNotFoundStatus <;> simp_all
  | none =>
    cases hs : access.state.hasPolicy name <;>
      simp [hf, hs, Fault.unknownObject, Fault.hasNotFoundStatus] at h

/-- A patch of an ingress that exists fails only by a fault. -/
theorem fault?_of_patchIngress_error {fault : Fault} {ingress : Ingress}
    (hingress : access.state.ingress? key = some ingress)
    (h : (access.patchIngress key patch).1 = .error fault) :
    access.fault? (.patch key patch) = some fault := by
  unfold patchIngress callPatch perform at h
  cases hf : access.fault? (.patch key patch) <;> simp_all

section
variable (hfaults : access.faults = FaultPlan.none)

include hfaults

theorem fault?_eq_none (call : Call) : access.fault? call = none := by
  rw [fault?, hfaults]
  rfl

theorem readIngress_of_ingress? {ingress : Ingress} (h : access.state.ingress? key = some ingress) :
    (access.readIngress key).1 = .ok ingress := by
  have hcall : (access.callRead key).1 = .ok ingress := by
    simp [callRead, perform, fault?_eq_none hfaults, h]
  exact congrArg (Except.mapError (nameMissing key)) hcall

theorem policyExists_fst (name : String) :
    (access.policyExists name).1 = .ok (access.state.hasPolicy name) := by
  cases h : access.state.hasPolicy name <;>
    simp [policyExists, callPolicy, perform, fault?_eq_none hfaults, h, Fault.unknownObject,
      Fault.hasNotFoundStatus]

end

end PolicyAgent.Cluster.Access
