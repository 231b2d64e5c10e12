import PolicyAgent.Proofs.Independence

/-!
# Leaving out commands that fail

A command that fails changes nothing, so the commands after it meet the cluster that they would
have met without it. Whichever commands of a batch that fail are left out, the others are handled
in the same order and have the same reports, and the cluster ends the same. A batch may hold one
command several times, as a success and as a failure; so what is left out is told by its place in
the listing.
-/
namespace PolicyAgent

open PolicyAgent.Cluster PolicyAgent.Time

/-- Without faults a command depends on the cluster alone, and not on the calls before it. -/
theorem Command.route_congr {access access' : Access} (h : access.faults = FaultPlan.none)
    (h' : access'.faults = FaultPlan.none) (hstate : access.state = access'.state) (c : Command) :
    (c.route access).report = (c.route access').report ∧
      (c.route access).access.state = (c.route access').access.state := by
  have hanswers : access.answers = access'.answers := by
    rw [Access.answers_eq h, Access.answers_eq h', hstate]
  have hreport : (c.route access).report = (c.route access').report := by
    rw [(c.route_follows access).1, (c.route_follows access').1, hanswers]
  refine ⟨hreport, ?_⟩
  by_cases hstatus : (c.step access).handled.report.status = .success
  · have hstatus' : (c.step access').handled.report.status = .success :=
      (congrArg Report.status hreport).symm.trans hstatus
    obtain ⟨order, horder⟩ := Step.order?_of_success hstatus
    obtain ⟨-, -, -, -, hafter⟩ := (Task.run_outcome horder access).state_of_success hstatus
    obtain ⟨-, -, -, -, hafter'⟩ := (Task.run_outcome horder access').state_of_success hstatus'
    exact hafter.trans ((congrArg (·.merge order.key order.patch) hstate).trans hafter'.symm)
  · have hstatus' : (c.step access').handled.report.status ≠ .success := fun hsuccess =>
      hstatus ((congrArg Report.status hreport).trans hsuccess)
    have hafter := Step.after_of_ne_success hstatus
    exact hafter.trans (hstate.trans (Step.after_of_ne_success hstatus').symm)

/-- The commands of a batch, each with a mark that tells whether it stays. -/
abbrev Selection := List (Command × Bool)

namespace Selection

def commands (selection : Selection) : List Command := selection.map (·.1)

def kept (selection : Selection) : List Command := (selection.filter (·.2)).map (·.1)

def inOrder (selection : Selection) : Selection :=
  selection.mergeSort (isAtMost fun entry => entry.1.createdAt.instant)

theorem commands_inOrder (selection : Selection) :
    selection.inOrder.commands = Command.inOrder selection.commands :=
  List.map_mergeSort fun _ _ _ _ => rfl

theorem kept_inOrder (selection : Selection) :
    selection.inOrder.kept = Command.inOrder selection.kept := by
  rw [kept, inOrder, Rearranges.filter_mergeSort]
  exact List.map_mergeSort fun _ _ _ _ => rfl

/-- The entries with the reports that their commands have if all are handled as they stand. -/
def reported (selection : Selection) (access : Access) : List ((Command × Bool) × Report) :=
  selection.zip (Command.routeAll selection.commands access).reports

def keptReports (entries : List ((Command × Bool) × Report)) : List (Command × Report) :=
  (entries.filter (·.1.2)).map fun entry => (entry.1.1, entry.2)

/-- What does not stay is reported as a failure. -/
def OmitsFailures (entries : List ((Command × Bool) × Report)) : Prop :=
  ∀ entry ∈ entries, entry.1.2 = false → entry.2.status = .failure

theorem reported_kept {selection : Selection} {access access' : Access}
    (h : access.faults = FaultPlan.none) (h' : access'.faults = FaultPlan.none)
    (hstate : access.state = access'.state) (hfail : OmitsFailures (selection.reported access)) :
    Command.reported selection.kept access' = keptReports (selection.reported access) ∧
      (Command.routeAll selection.kept access').access.state
        = (Command.routeAll selection.commands access).access.state := by
  induction selection generalizing access access' with
  | nil => exact ⟨rfl, hstate.symm⟩
  | cons entry rest ih =>
    obtain ⟨c, stays⟩ := entry
    have hnext : (c.route access).access.faults = FaultPlan.none :=
      (c.step access).faults_after.trans h
    obtain ⟨hfirst, hrest⟩ := List.forall_mem_cons.1 hfail
    cases stays with
    | true =>
      have hnext' : (c.route access').access.faults = FaultPlan.none :=
        (c.step access').faults_after.trans h'
      obtain ⟨hreport, hafter⟩ := Command.route_congr h h' hstate c
      obtain ⟨hreported, hfinal⟩ := ih hnext hnext' hafter hrest
      refine ⟨?_, hfinal⟩
      exact congrArg₂ (fun r entries => (c, r) :: entries) hreport.symm hreported
    | false =>
      have hfailure : (c.step access).handled.report.status ≠ .success := by
        have hstatus : (c.step access).handled.report.status = .failure := hfirst rfl
        simp [hstatus]
      have hafter : (c.route access).access.state = access'.state :=
        (Step.after_of_ne_success hfailure).trans hstate
      exact ih hnext h' hafter hrest

end Selection

/-- Commands that fail can be left out of a listing: the others are handled in the order in which
they were, each has the report that it had, and the cluster ends the same. -/
theorem Cycle.run_of_omitsFailures {selection : Selection} {exchange exchange' : Exchange}
    {s : State} (hlisted : exchange.listed = selection.commands)
    (hlisted' : exchange'.listed = selection.kept)
    (hfail : Selection.OmitsFailures
      (selection.inOrder.zip (run exchange (.start s .none)).reports)) :
    let cycle := run exchange (.start s .none)
    let cycle' := run exchange' (.start s .none)
    cycle.reports.length = exchange.listed.length ∧
      cycle'.reports.length = exchange'.listed.length ∧
      selection.inOrder.commands = Command.inOrder exchange.listed ∧
      (Command.inOrder exchange'.listed).zip cycle'.reports
        = Selection.keptReports (selection.inOrder.zip cycle.reports) ∧
      cycle'.access.state = cycle.access.state := by
  intro cycle cycle'
  have hcycle :
      cycle.reports = (Command.routeAll selection.inOrder.commands (.start s .none)).reports ∧
        cycle.access = (Command.routeAll selection.inOrder.commands (.start s .none)).access := by
    rw [selection.commands_inOrder, ← hlisted]
    exact run_eq exchange (.start s .none)
  have hcycle' :
      cycle'.reports = (Command.routeAll selection.inOrder.kept (.start s .none)).reports ∧
        cycle'.access = (Command.routeAll selection.inOrder.kept (.start s .none)).access := by
    rw [selection.kept_inOrder, ← hlisted']
    exact run_eq exchange' (.start s .none)
  have hlength (listed : List Command) : (Command.inOrder listed).length = listed.length :=
    List.length_mergeSort _
  have hentries : selection.inOrder.zip cycle.reports
      = selection.inOrder.reported (.start s .none) := congrArg selection.inOrder.zip hcycle.1
  have hnone : (Access.start s .none).faults = FaultPlan.none := rfl
  obtain ⟨hreported, hstate⟩ := Selection.reported_kept hnone hnone rfl (hentries ▸ hfail)
  refine ⟨?_, ?_, ?_, ?_, ?_⟩
  · rw [hcycle.1, Command.length_reports_routeAll, selection.commands_inOrder, hlength, hlisted]
  · rw [hcycle'.1, Command.length_reports_routeAll, selection.kept_inOrder, hlength, hlisted']
  · rw [selection.commands_inOrder, hlisted]
  · rw [hentries, hcycle'.1, hlisted', ← selection.kept_inOrder]
    exact hreported
  · rw [hcycle.2, hcycle'.2]
    exact hstate

namespace Shop

def badData : Command := ⟨"5", moment 0 0, some "set-ingress-acp", .string "basic"⟩

/-- Two commands that succeed, one of them listed twice, among failures. -/
def newer : Selection :=
  [(.ofChange .delete "7" (moment 1 0) "web@market.ingress.networking", false),
    (setting (moment 2 0), true),
    (setting (moment 2 0), false),
    (.ofChange (.set "strict") "8" (moment 3 0) ingressId, false),
    (.ofChange .delete "6" (moment 3 0) "web", false),
    (deletion (moment 4 0), true)]

/-- Older commands before these, a success ahead of an older failure. -/
def selection : Selection :=
  (unknown, false) :: (apiSetting, true) :: (badData, false) :: newer

def ordered : Selection :=
  (unknown, false) :: (badData, false) :: (apiSetting, true) :: newer

theorem inOrder_selection : selection.inOrder = ordered := by
  have hsorted : ordered.Pairwise fun entry entry' =>
      entry.1.createdAt.instant ≤ entry'.1.createdAt.instant := by decide
  have hswap : Rearranges (fun entry => some entry.1.createdAt.instant) selection ordered :=
    .cons _ (.swap (by decide) _)
  exact ((Rearranges.mergeSort _ _).symm.trans hswap).eq_of_sorted
    (pairwise_mergeSort _ _) hsorted

def full : Exchange := listing selection.commands

def reduced : Exchange := listing selection.kept

theorem omitsFailures_selection : Selection.OmitsFailures
    (selection.inOrder.zip (Cycle.run full (.start doubled .none)).reports) := by
  have hlisted : full.listed = selection.commands := rfl
  rw [(Cycle.run_eq _ _).1, hlisted, ← Selection.commands_inOrder, inOrder_selection]
  unfold Selection.OmitsFailures
  decide

/-- An unknown policy, bad data, a repetition, an unknown type, a bad identifier and an unknown
ingress are left out, and what is reported about the other commands stays. -/
theorem run_of_omitsFailures_selection :
    full.listed = selection.commands ∧ reduced.listed = selection.kept ∧
      Selection.OmitsFailures
        (selection.inOrder.zip (Cycle.run full (.start doubled .none)).reports) ∧
      let cycle := Cycle.run full (.start doubled .none)
      let cycle' := Cycle.run reduced (.start doubled .none)
      cycle.reports.length = full.listed.length ∧
        cycle'.reports.length = reduced.listed.length ∧
        selection.inOrder.commands = Command.inOrder full.listed ∧
        (Command.inOrder reduced.listed).zip cycle'.reports
          = Selection.keptReports (selection.inOrder.zip cycle.reports) ∧
        cycle'.access.state = cycle.access.state :=
  ⟨rfl, rfl, omitsFailures_selection,
    Cycle.run_of_omitsFailures rfl rfl omitsFailures_selection⟩

end Shop

end PolicyAgent
