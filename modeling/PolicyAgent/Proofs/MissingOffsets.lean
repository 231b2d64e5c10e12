import Mathlib.Data.List.Forall2
import PolicyAgent.Proofs.Overlay

/-!
# Dates without an offset

A handler may be called with a date that has no offset, and takes it for a date in UTC. It does
so twice, when it holds the date against the token and when it writes the date into the patch,
and both times in the same way. So the same local fields in UTC get the same report, the same
calls and the same records and leave the same cluster. As later calls read nothing but the
cluster, the two spellings may be mixed in a run.
-/
namespace PolicyAgent

open PolicyAgent.Cluster PolicyAgent.Time

@[simp] theorem Time.Timestamp.rfc3339_withOffset (t : Timestamp) :
    t.withOffset.rfc3339 = t.rfc3339 := rfl

@[simp] theorem Token.covers_withOffset (token : Token) (requestedAt : Timestamp) :
    token.covers requestedAt.withOffset = token.covers requestedAt := by
  cases token <;> simp only [covers, Timestamp.withOffset_withOffset]

namespace Change

variable (change : Change) (id : String) (requestedAt : Timestamp) (key : IngressKey)
  (access : Access)

@[simp] theorem patch_withOffset :
    change.patch requestedAt.withOffset = change.patch requestedAt := by
  simp only [patch, tokenPatch, Timestamp.rfc3339_withOffset]

theorem carryOut_withOffset :
    change.carryOut id requestedAt.withOffset key access
      = change.carryOut id requestedAt key access := by
  simp only [carryOut, patch_withOffset]

theorem checkAndCarryOut_withOffset :
    change.checkAndCarryOut id requestedAt.withOffset key access
      = change.checkAndCarryOut id requestedAt key access := by
  cases change with
  | delete => exact carryOut_withOffset _ id requestedAt key access
  | set policy => simp only [checkAndCarryOut, carryOut_withOffset]

theorem handleIngress_withOffset (annotations : Annotations) :
    change.handleIngress id requestedAt.withOffset key annotations access
      = change.handleIngress id requestedAt key annotations access := by
  simp only [handleIngress, Token.covers_withOffset, checkAndCarryOut_withOffset]

theorem handle_withOffset (ingressId : String) :
    change.handle id requestedAt.withOffset ingressId access
      = change.handle id requestedAt ingressId access := by
  simp only [handle, handleIngress_withOffset]

end Change

/-- The same task, but for an offset of UTC that one of the two dates leaves out. -/
inductive Task.Respells : Task → Task → Prop
  | same (task : Task) : Respells task task
  | adds (change : Change) (id : String) (day : Day) (time : TimeOfDay) (ingressId : String) :
    Respells (.handle change id ⟨day, time, none⟩ ingressId)
      (.handle change id ⟨day, time, some .utc⟩ ingressId)
  | omits (change : Change) (id : String) (day : Day) (time : TimeOfDay) (ingressId : String) :
    Respells (.handle change id ⟨day, time, some .utc⟩ ingressId)
      (.handle change id ⟨day, time, none⟩ ingressId)

theorem Task.Respells.run_eq {task task' : Task} (h : Respells task task') (access : Access) :
    task.run access = task'.run access := by
  cases h with
  | same => rfl
  | adds change id day time ingressId =>
    exact (change.handle_withOffset id ⟨day, time, none⟩ access ingressId).symm
  | omits change id day time ingressId =>
    exact change.handle_withOffset id ⟨day, time, none⟩ access ingressId

theorem Task.handled_steps_congr {tasks tasks' : List Task} (h : List.Forall₂ Respells tasks tasks')
    (access : Access) :
    (steps tasks access).map (·.handled) = (steps tasks' access).map (·.handled) ∧
      runAll tasks access = runAll tasks' access := by
  induction h generalizing access with
  | nil => exact ⟨rfl, rfl⟩
  | @cons task task' rest rest' htask _ ih =>
    have hrun := htask.run_eq access
    obtain ⟨hsteps, hlast⟩ := ih (task.run access).access
    rw [steps, steps, runAll, runAll, ← hrun]
    exact ⟨congrArg₂ List.cons hrun hsteps, hlast⟩

/-- The same faults and changes from outside, and tasks that are spelled otherwise. -/
structure Round.Respells (round round' : Round) : Prop where
  changes : round.changes = round'.changes
  faults : round.faults = round'.faults
  tasks : List.Forall₂ Task.Respells round.tasks round'.tasks

theorem Round.handled_steps_congr {rounds rounds' : List Round}
    (h : List.Forall₂ Respells rounds rounds') (s : State) :
    (steps s rounds).map (·.handled) = (steps s rounds').map (·.handled) ∧
      final s rounds = final s rounds' := by
  induction h generalizing s with
  | nil => exact ⟨rfl, rfl⟩
  | @cons round round' rest rest' hround _ ih =>
    have hstart : round.start s = round'.start s := by
      rw [start, start, hround.changes, hround.faults]
    obtain ⟨hsteps, hlast⟩ := Task.handled_steps_congr hround.tasks (round.start s)
    obtain ⟨hrest, hfinal⟩ := ih (Task.runAll round.tasks (round.start s)).state
    rw [steps, steps, final, final, List.map_append, List.map_append, ← hstart, ← hlast, hsteps,
      hrest]
    exact ⟨rfl, hfinal⟩

/-- A date without an offset is one in UTC: to a handler that is called with it, whatever the
cluster is and whichever calls fail, and throughout a run, whichever dates of it are spelled in
the one way and whichever in the other. -/
theorem missingOffset_eq_utc :
    (∀ (change : Change) (id : String) (day : Day) (time : TimeOfDay) (ingressId : String)
      (access : Access),
        change.handle id ⟨day, time, none⟩ ingressId access
          = change.handle id ⟨day, time, some .utc⟩ ingressId access) ∧
      ∀ (s : State) (rounds rounds' : List Round), List.Forall₂ Round.Respells rounds rounds' →
        (Round.steps s rounds).map (·.handled) = (Round.steps s rounds').map (·.handled) ∧
          Round.final s rounds = Round.final s rounds' :=
  ⟨fun change id day time ingressId access =>
      (change.handle_withOffset id ⟨day, time, none⟩ access ingressId).symm,
    fun s _ _ h => Round.handled_steps_congr h s⟩

namespace Shop

/-- A set, and then a deletion that is older and comes too late. -/
def undated (first second : Option Offset) : List Round :=
  [⟨.none, .none, [.handle (.set "basic") "1" { moment 1 0 with offset := first } ingressId]⟩,
    ⟨.none, .none, [.handle .delete "2" { moment 0 0 with offset := second } ingressId]⟩]

theorem respells_undated :
    List.Forall₂ Round.Respells (undated none (some .utc)) (undated (some .utc) none) :=
  .cons ⟨rfl, rfl, .cons (.adds ..) .nil⟩ (.cons ⟨rfl, rfl, .cons (.omits ..) .nil⟩ .nil)

/-- The token that one spelling leaves turns the other spelling away. -/
theorem missingOffset_eq_utc_undated :
    List.Forall₂ Round.Respells (undated none (some .utc)) (undated (some .utc) none) ∧
      (Round.steps cluster (undated none (some .utc))).map (·.handled)
        = (Round.steps cluster (undated (some .utc) none)).map (·.handled) ∧
      Round.final cluster (undated none (some .utc))
        = Round.final cluster (undated (some .utc) none) ∧
      (Round.steps cluster (undated none (some .utc))).map (·.handled.report.status)
        = [.success, .failure] :=
  have h := missingOffset_eq_utc.2 cluster _ _ respells_undated
  ⟨respells_undated, h.1, h.2, by decide +kernel⟩

end Shop

end PolicyAgent
