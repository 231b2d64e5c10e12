import Mathlib.Data.List.Basic
import PolicyAgent.Proofs.Orders
import PolicyAgent.Watch

/-!
# Runs and their steps

A run carries out rounds of tasks: before a round the cluster may be changed from outside, and
the calls of a round meet the faults of a plan. The cycles of the agent are rounds whose tasks
are the listed commands from the oldest to the newest. A run is taken apart into its steps, each
a task with the access that it is given.
-/
namespace PolicyAgent

open PolicyAgent.Cluster PolicyAgent.Time

structure Step where
  task : Task
  before : Access

namespace Step

def handled (step : Step) : Handled := step.task.run step.before

def after (step : Step) : State := step.handled.access.state

def calls (step : Step) : List Call := step.handled.access.calls.drop step.before.calls.length

/-- The last thing that the step does is a patch of an ingress, and the cluster accepts it. -/
def Applies (step : Step) (key : IngressKey) : Prop :=
  ∃ (access : Access) (patch : AnnotationPatch), access.state = step.before.state ∧
    step.before.calls <+: access.calls ∧
    access.patchIngress key patch = (.ok (), step.handled.access)

/-- The order of the step, if it is for an ingress and was reported as a success. -/
def success? (step : Step) (key : IngressKey) : Option Order :=
  if step.handled.report.status = .success then step.task.order?.filter (·.key = key) else none

end Step

namespace Task

def steps : List Task → Access → List Step
  | [], _ => []
  | task :: rest, access => ⟨task, access⟩ :: steps rest (task.run access).access

def runAll : List Task → Access → Access
  | [], access => access
  | task :: rest, access => runAll rest (task.run access).access

end Task

/-- Tasks in a row, the faults that their calls meet, and the changes from outside before. -/
structure Round where
  changes : Changes
  faults : FaultPlan
  tasks : List Task

namespace Round

def start (round : Round) (s : State) : Access := Access.start (round.changes.apply s) round.faults

def steps (s : State) : List Round → List Step
  | [] => []
  | round :: rest =>
    Task.steps round.tasks (round.start s)
      ++ steps (Task.runAll round.tasks (round.start s)).state rest

def final (s : State) : List Round → State
  | [] => s
  | round :: rest => final (Task.runAll round.tasks (round.start s)).state rest

end Round

theorem Task.invariant {P : Access → Prop}
    (hstep : ∀ step : Step, P step.before → P step.handled.access) (tasks : List Task)
    {access : Access} (h : P access) :
    (∀ step ∈ steps tasks access, P step.before) ∧ P (runAll tasks access) := by
  induction tasks generalizing access with
  | nil => exact ⟨by simp [steps], h⟩
  | cons task rest ih =>
    obtain ⟨hsteps, hlast⟩ := ih (hstep ⟨task, access⟩ h)
    exact ⟨List.forall_mem_cons.2 ⟨h, hsteps⟩, hlast⟩

/-- What holds between the rounds and gives rise to what each step of a round keeps holds at the
end, and every step starts from what the steps keep. -/
theorem Round.invariant {I : State → Prop} {P : Access → Prop} {rounds : List Round}
    (hstart : ∀ round ∈ rounds, ∀ s, I s → P (round.start s))
    (hstep : ∀ step : Step, P step.before → P step.handled.access)
    (hend : ∀ access, P access → I access.state) {s : State} (h : I s) :
    (∀ step ∈ steps s rounds, P step.before) ∧ I (final s rounds) := by
  induction rounds generalizing s with
  | nil => exact ⟨by simp [steps], h⟩
  | cons round rest ih =>
    obtain ⟨hfirst, hlast⟩ :=
      Task.invariant hstep round.tasks (hstart round List.mem_cons_self s h)
    obtain ⟨hrest, hfinal⟩ :=
      ih (fun r hr => hstart r (List.mem_cons_of_mem round hr)) (hend _ hlast)
    exact ⟨List.forall_mem_append.2 ⟨hfirst, hrest⟩, hfinal⟩

theorem Task.map_task_steps (tasks : List Task) (access : Access) :
    (steps tasks access).map (·.task) = tasks := by
  induction tasks generalizing access with
  | nil => rfl
  | cons task rest ih => exact congrArg (task :: ·) (ih _)

theorem Round.map_task_steps (s : State) (rounds : List Round) :
    (steps s rounds).map (·.task) = rounds.flatMap (·.tasks) := by
  induction rounds generalizing s with
  | nil => rfl
  | cons round rest ih =>
    rw [steps, List.map_append, Task.map_task_steps, ih, List.flatMap_cons]

def Round.AllOrders (P : Order → Prop) (rounds : List Round) : Prop :=
  ∀ round ∈ rounds, ∀ task ∈ round.tasks, ∀ order, task.order? = some order → P order

theorem Round.AllOrders.of_mem_steps {P : Order → Prop} {rounds : List Round}
    (h : AllOrders P rounds) {s : State} {step : Step} (hmem : step ∈ steps s rounds)
    {order : Order} (horder : step.task.order? = some order) : P order := by
  have htask : step.task ∈ (steps s rounds).map (·.task) := List.mem_map_of_mem hmem
  rw [map_task_steps] at htask
  obtain ⟨round, hround, htask⟩ := List.mem_flatMap.1 htask
  exact h round hround step.task htask order horder

/-- The commands that are listed; none if the listing fails. -/
def Exchange.listed (exchange : Exchange) : List Command :=
  match exchange.list.outcome with
  | .ok commands => commands
  | .error _ => []

namespace Visit

def listed (visit : Visit) : List Command := visit.exchange.listed

def round (visit : Visit) : Round :=
  ⟨visit.changes, visit.faults, (Command.inOrder visit.listed).map .route⟩

def steps (s : State) (visits : List Visit) : List Step := Round.steps s (visits.map round)

theorem mem_map_task_steps {s : State} {visits : List Visit} {task : Task} :
    task ∈ (steps s visits).map (·.task)
      ↔ ∃ visit ∈ visits, ∃ c ∈ visit.listed, .route c = task := by
  rw [steps, Round.map_task_steps, List.mem_flatMap]
  simp [round, Command.inOrder]

theorem exists_listed_of_mem_steps {s : State} {visits : List Visit} {step : Step}
    (h : step ∈ steps s visits) : ∃ visit ∈ visits, ∃ c ∈ visit.listed, step.task = .route c := by
  obtain ⟨visit, hvisit, c, hc, htask⟩ := mem_map_task_steps.1 (List.mem_map_of_mem h)
  exact ⟨visit, hvisit, c, hc, htask.symm⟩

theorem exists_step_of_mem_listed {visits : List Visit} {visit : Visit} {c : Command}
    (hvisit : visit ∈ visits) (hc : c ∈ visit.listed) (s : State) :
    ∃ step ∈ steps s visits, step.task = .route c :=
  List.mem_map.1 (mem_map_task_steps.2 ⟨visit, hvisit, c, hc, rfl⟩)

def delivering (commands : List Command) : Visit :=
  ⟨.none, .none, ⟨.ofOutcome (.ok commands), fun _ => .ofOutcome (.ok ())⟩, 0, 0, .none⟩

@[simp] theorem listed_delivering (commands : List Command) :
    (delivering commands).listed = commands := rfl

@[simp] theorem changes_delivering (commands : List Command) :
    (delivering commands).changes = Changes.none := rfl

@[simp] theorem faults_delivering (commands : List Command) :
    (delivering commands).faults = FaultPlan.none := rfl

end Visit

/-- The step of a command that comes alone and meets no fault. -/
def Command.delivery (c : Command) (s : State) : Step := ⟨.route c, .start s .none⟩

theorem Visit.steps_nil (s : State) : steps s [] = [] := rfl

theorem Visit.steps_delivering_cons (s : State) (c : Command) (visits : List Visit) :
    steps s (delivering [c] :: visits) = c.delivery s :: steps (c.delivery s).after visits := by
  simp [steps, Round.steps, round, listed, Exchange.listed, delivering, Command.inOrder,
    Task.steps, Task.runAll, Round.start, Platform.Reply.ofOutcome, Step.after, Step.handled,
    Command.delivery]

theorem Command.routeAll_eq (commands : List Command) (access : Access) :
    (Command.routeAll commands access).reports
        = (Task.steps (commands.map .route) access).map (·.handled.report) ∧
      (Command.routeAll commands access).access = Task.runAll (commands.map .route) access := by
  induction commands generalizing access with
  | nil => exact ⟨rfl, rfl⟩
  | cons c rest ih =>
    obtain ⟨hreports, haccess⟩ := ih (c.route access).access
    exact ⟨congrArg _ hreports, haccess⟩

/-- A cycle without commands routes none, so idle cycles need no case of their own. -/
theorem Cycle.run_eq (exchange : Exchange) (access : Access) :
    (Cycle.run exchange access).reports
        = (Command.routeAll (Command.inOrder exchange.listed) access).reports ∧
      (Cycle.run exchange access).access
        = (Command.routeAll (Command.inOrder exchange.listed) access).access := by
  unfold Cycle.run Exchange.listed
  cases exchange.list.outcome with
  | error e => simp [Command.inOrder, Command.routeAll, Cycle.idle]
  | ok commands =>
    cases commands with
    | nil => simp [Command.inOrder, Command.routeAll, Cycle.idle]
    | cons c rest => exact ⟨rfl, rfl⟩

theorem Visit.cycle_eq (visit : Visit) (s : State) :
    (visit.cycle s).reports
        = (Task.steps visit.round.tasks (visit.round.start s)).map (·.handled.report) ∧
      (visit.cycle s).access = Task.runAll visit.round.tasks (visit.round.start s) := by
  obtain ⟨hreports, haccess⟩ := Cycle.run_eq visit.exchange (visit.round.start s)
  obtain ⟨hreports', haccess'⟩ :=
    Command.routeAll_eq (Command.inOrder visit.listed) (visit.round.start s)
  exact ⟨hreports.trans hreports', haccess.trans haccess'⟩

theorem Visit.lastState_cycles (s : State) (visits : List Visit) :
    Watch.lastState s (Visit.cycles s visits) = Round.final s (visits.map round) := by
  induction visits generalizing s with
  | nil => rfl
  | cons visit rest ih =>
    obtain ⟨-, haccess⟩ := visit.cycle_eq s
    have hrest := ih (visit.cycle s).access.state
    simp only [Round.final, List.map_cons, cycles, ← haccess, ← hrest]
    cases h : cycles (visit.cycle s).access.state rest <;>
      simp [Watch.lastState, List.getLast?_cons]

end PolicyAgent
