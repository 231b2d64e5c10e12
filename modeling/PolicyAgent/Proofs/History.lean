import Mathlib.Data.List.Basic
import PolicyAgent.Proofs.Steps

/-!
# Histories

What a single step does to the cluster depends on its order and its report alone. A history
puts such steps in a row, and what one step preserves is carried through a run by induction on
its history.
-/
namespace PolicyAgent

open PolicyAgent.Cluster PolicyAgent.Time

namespace Step

variable {step : Step} {key : IngressKey} {order : Order}

theorem success?_eq_some_iff :
    step.success? key = some order ↔
      step.handled.report.status = .success ∧ step.task.order? = some order ∧ order.key = key := by
  unfold success?
  split_ifs with h
  · simp [h, Option.filter_eq_some_iff]
  · simp [h]

theorem outcome (h : step.task.order? = some order) :
    order.Outcome step.task.commandId step.before step.handled :=
  Task.run_outcome h step.before

theorem calls_of_append {calls : List Call}
    (h : step.handled.access.calls = step.before.calls ++ calls) : step.calls = calls := by
  rw [Step.calls, h, List.drop_left]

theorem append_calls (step : Step) :
    step.before.calls ++ step.calls = step.handled.access.calls := by
  have hprefix : step.before.calls <+: step.handled.access.calls := by
    cases horder : step.task.order? with
    | none =>
      have haccess : step.handled.access = step.before :=
        (Task.run_of_order?_eq_none horder step.before).2
      exact haccess ▸ List.prefix_rfl
    | some order => exact (outcome horder).prefix_calls
  exact List.prefix_iff_eq_append.1 hprefix

/-- A step that is not reported as a success leaves the cluster as it is. -/
theorem after_of_ne_success (h : step.handled.report.status ≠ .success) :
    step.after = step.before.state := by
  cases horder : step.task.order? with
  | none => exact congrArg Access.state (Task.run_of_order?_eq_none horder step.before).2
  | some order =>
    apply (outcome horder).state_of_failure
    cases hstatus : step.handled.report.status with
    | success => exact absurd hstatus h
    | failure => rfl

theorem order?_of_success (h : step.handled.report.status = .success) :
    ∃ order, step.task.order? = some order := by
  cases horder : step.task.order? with
  | none => simp [handled, (Task.run_of_order?_eq_none horder step.before).1] at h
  | some order => exact ⟨order, rfl⟩

theorem success?_of_fresh (horder : step.task.order? = some order)
    (hfaults : step.before.faults = FaultPlan.none) {ingress : Ingress}
    (hingress : step.before.state.ingress? order.key = some ingress)
    (hfresh : (Token.ofAnnotations ingress.labels).covers order.requestedAt = false)
    (hpossible : order.IsPossible step.before.state) : step.success? order.key = some order :=
  success?_eq_some_iff.2
    ⟨(outcome horder).success_of_fresh hfaults hingress hfresh hpossible, horder, rfl⟩

theorem faults_after (step : Step) : step.handled.access.faults = step.before.faults := by
  cases horder : step.task.order? with
  | none => rw [handled, (Task.run_of_order?_eq_none horder step.before).2]
  | some order => exact (outcome horder).faults_eq

/-- A success for an ingress merges the patch of the order into it. -/
theorem of_success? (h : step.success? key = some order) :
    ∃ ingress, step.before.state.ingress? key = some ingress ∧
      (Token.ofAnnotations ingress.labels).covers order.requestedAt = false ∧
      order.IsPossible step.before.state ∧
      step.after.ingress? key = some (ingress.merge order.patch) := by
  obtain ⟨hstatus, horder, rfl⟩ := success?_eq_some_iff.1 h
  obtain ⟨ingress, hingress, hfresh, hpossible, hafter⟩ := (outcome horder).state_of_success hstatus
  refine ⟨ingress, hingress, hfresh, hpossible, ?_⟩
  rw [after, hafter, State.ingress?_merge, if_pos rfl, hingress]
  rfl

theorem ingress?_after_of_success?_eq_none (h : step.success? key = none) :
    step.after.ingress? key = step.before.state.ingress? key := by
  by_cases hstatus : step.handled.report.status = .success
  · obtain ⟨order, horder⟩ := order?_of_success hstatus
    have hkey : order.key ≠ key := by
      intro hkey
      rw [success?_eq_some_iff.2 ⟨hstatus, horder, hkey⟩] at h
      simp at h
    obtain ⟨_, -, -, -, hafter⟩ := (outcome horder).state_of_success hstatus
    rw [after, hafter, State.ingress?_merge, if_neg hkey]
  · rw [after_of_ne_success hstatus]

/-- The steps that apply a patch to an ingress are those that report a success for it. -/
theorem applies_iff : step.Applies key ↔ ∃ order, step.success? key = some order := by
  constructor
  · rintro ⟨access, patch, hstate, hcalls, hpatch⟩
    cases horder : step.task.order? with
    | none =>
      have hafter : step.handled.access = step.before :=
        (Task.run_of_order?_eq_none horder step.before).2
      obtain ⟨-, -, hrecord⟩ := Access.patchIngress_eq_ok_iff.1 hpatch
      have hlength := hcalls.length_le
      rw [← hafter, hrecord] at hlength
      simp only [Access.calls_record, List.length_append, List.length_singleton] at hlength
      omega
    | some order =>
      obtain ⟨hstatus, hkey⟩ := (outcome horder).success_of_patchIngress hstate hpatch
      exact ⟨order, success?_eq_some_iff.2 ⟨hstatus, horder, hkey⟩⟩
  · rintro ⟨order, h⟩
    obtain ⟨hstatus, horder, rfl⟩ := success?_eq_some_iff.1 h
    have houtcome := outcome horder
    generalize hhandled : step.handled = handled at hstatus houtcome
    cases houtcome with
    | notFound => simp at hstatus
    | unread => simp at hstatus
    | stale => simp at hstatus
    | unchecked => simp at hstatus
    | missing => simp at hstatus
    | refused => simp at hstatus
    | @applied _ _ checked _ _ _ hchecked hpatch =>
      exact ⟨checked, order.patch, hchecked.state_eq,
        (List.prefix_append _ _).trans hchecked.prefix_calls, by rw [hhandled]; exact hpatch⟩

end Step

def Cluster.Changes.KeepIngresses (changes : Changes) : Prop :=
  changes.putIngresses = [] ∧ changes.dropIngresses = []

theorem Cluster.Changes.ingresses_apply {changes : Changes} (h : changes.KeepIngresses)
    (s : State) : (changes.apply s).ingresses = s.ingresses := by
  have hput (names : List String) (s : State) :
      (names.foldl State.putPolicy s).ingresses = s.ingresses := by
    induction names generalizing s with
    | nil => rfl
    | cons name rest ih => exact ih _
  have hdrop (names : List String) (s : State) :
      (names.foldl State.dropPolicy s).ingresses = s.ingresses := by
    induction names generalizing s with
    | nil => rfl
    | cons name rest ih => exact ih _
  simp [apply, h.1, h.2, hput, hdrop]

theorem Cluster.State.ingress?_congr {s s' : State} (h : s'.ingresses = s.ingresses)
    (key : IngressKey) : s'.ingress? key = s.ingress? key := by
  rw [State.ingress?, State.ingress?, h]

/-- Steps lead from one cluster to another, and between them nothing changes the ingresses. -/
inductive History (s : State) : List Step → State → Prop
  | start {s' : State} (h : s'.ingresses = s.ingresses) : History s [] s'
  | step {past : List Step} {step : Step} {s' : State} (hpast : History s past step.before.state)
      (h : s'.ingresses = step.after.ingresses) : History s (past ++ [step]) s'

namespace History

variable {s s₁ s₂ : State} {past steps rest : List Step} {step : Step}

theorem congr (h : History s steps s₁) (heq : s₂.ingresses = s₁.ingresses) :
    History s steps s₂ := by
  cases h with
  | start h => exact .start (heq.trans h)
  | step hpast h => exact .step hpast (heq.trans h)

theorem append (h₁ : History s past s₁) (h₂ : History s₁ steps s₂) :
    History s (past ++ steps) s₂ := by
  induction h₂ with
  | start h => simpa using h₁.congr h
  | step _ h ih => simpa only [List.append_assoc] using History.step ih h

theorem before (h : History s (past ++ step :: rest) s₁) : History s past step.before.state := by
  generalize hsteps : past ++ step :: rest = steps at h
  induction h generalizing rest with
  | start => simp at hsteps
  | @step past' step' s' hpast _ ih =>
    rcases List.eq_nil_or_concat rest with rfl | ⟨rest', last, rfl⟩
    · obtain ⟨rfl, hlast⟩ := List.append_inj' hsteps rfl
      obtain rfl : step = step' := by simpa using hlast
      exact hpast
    · rw [List.concat_eq_append, ← List.cons_append, ← List.append_assoc] at hsteps
      exact ih (List.append_inj' hsteps rfl).1

end History

theorem Task.history (tasks : List Task) (access : Access) :
    History access.state (Task.steps tasks access) (Task.runAll tasks access).state := by
  induction tasks generalizing access with
  | nil => exact .start rfl
  | cons task rest ih =>
    have hfirst : History access.state ([] ++ [⟨task, access⟩]) (task.run access).access.state :=
      @History.step _ [] ⟨task, access⟩ _ (.start rfl) rfl
    exact hfirst.append (ih (task.run access).access)

theorem Round.history {rounds : List Round} (h : ∀ round ∈ rounds, round.changes.KeepIngresses)
    (s : State) : History s (Round.steps s rounds) (Round.final s rounds) := by
  induction rounds generalizing s with
  | nil => exact .start rfl
  | cons round rest ih =>
    have hstart : History s [] (round.start s).state :=
      .start (Changes.ingresses_apply (h round List.mem_cons_self) s)
    have hround := hstart.append (Task.history round.tasks (round.start s))
    exact hround.append (ih (fun r hr => h r (List.mem_cons_of_mem _ hr)) _)

theorem Visit.history {visits : List Visit} (h : ∀ visit ∈ visits, visit.changes.KeepIngresses)
    (s : State) :
    History s (Visit.steps s visits) (Watch.lastState s (Visit.cycles s visits)) := by
  rw [Visit.lastState_cycles]
  apply Round.history
  intro round hround
  obtain ⟨visit, hvisit, rfl⟩ := List.mem_map.1 hround
  exact h visit hvisit

end PolicyAgent
