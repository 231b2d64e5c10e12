import Mathlib.Data.Int.Order.Basic
import PolicyAgent.Proofs.Overlay
import PolicyAgent.Proofs.Procedure
import PolicyAgent.Proofs.Rearrangement

/-!
# The order of a batch

A cycle handles what is listed from the oldest command to the newest, and commands of one
instant in the order of their listing. Instants are whole numbers, so this order is determined:
listings that differ only in how commands of different instants are mixed lead to the same batch,
and from there on to the same calls, reports and requests.
-/
namespace PolicyAgent

open PolicyAgent.Cluster PolicyAgent.Platform PolicyAgent.Time

namespace Command

/-- The same commands, and those of one instant in the same order. -/
abbrev SameUpToDates (listed listed' : List Command) : Prop :=
  Rearranges (fun c : Command => some c.createdAt.instant) listed listed'

/-- The listed commands from the oldest to the newest, in the order of the listing where they
are of one instant. -/
structure OldestFirst (listed ordered : List Command) : Prop where
  same : SameUpToDates listed ordered
  sorted : ordered.Pairwise fun a b => a.createdAt.instant ≤ b.createdAt.instant

theorem pairwise_inOrder (commands : List Command) :
    (inOrder commands).Pairwise fun a b => a.createdAt.instant ≤ b.createdAt.instant :=
  pairwise_mergeSort (fun c : Command => c.createdAt.instant) commands

theorem oldestFirst_inOrder (commands : List Command) :
    OldestFirst commands (inOrder commands) :=
  ⟨Rearranges.mergeSort (fun c : Command => c.createdAt.instant) commands,
    pairwise_inOrder commands⟩

theorem inOrder_congr {listed listed' : List Command} (h : SameUpToDates listed listed') :
    inOrder listed = inOrder listed' :=
  Rearranges.eq_of_sorted
    (((oldestFirst_inOrder listed).same.symm.trans h).trans (oldestFirst_inOrder listed').same)
    (pairwise_inOrder listed) (pairwise_inOrder listed')

theorem commandId_routeAll (commands : List Command) (access : Access) :
    (routeAll commands access).reports.map (·.commandId) = commands.map (·.id) := by
  induction commands generalizing access with
  | nil => rfl
  | cons c rest ih =>
    have hfirst : (c.route access).report.commandId = c.id := by
      rw [(c.route_follows access).1, Verdict.commandId_report]
    simp only [routeAll, List.map_cons, hfirst, ih]

theorem isVerdict_of_mem_routeAll {commands : List Command} {access : Access} {r : Report}
    (h : r ∈ (routeAll commands access).reports) : r.IsVerdict := by
  induction commands generalizing access with
  | nil => simp [routeAll] at h
  | cons c rest ih =>
    rcases List.mem_cons.1 h with rfl | hrest
    · rw [(c.route_follows access).1]
      exact Verdict.isVerdict_report _ _
    · exact ih hrest

end Command

/-- The requests that follow the listing, with the reports about what was listed. -/
def Exchange.posts (exchange : Exchange) (reports : List Report) : List Request :=
  if exchange.listed.isEmpty then [] else (exchange.send reports).requests

theorem Cycle.requests_run (exchange : Exchange) (access : Access) :
    (run exchange access).requests
      = exchange.list.requests ++ exchange.posts (run exchange access).reports := by
  unfold run Exchange.posts Exchange.listed
  cases exchange.list.outcome with
  | error e => simp [idle]
  | ok commands =>
    cases commands with
    | nil => simp [idle]
    | cons c rest => rfl

/-- The order of a listing does not matter, except among commands of one instant. -/
theorem Cycle.run_of_sameUpToDates {exchange exchange' : Exchange}
    (hlisted : Command.SameUpToDates exchange.listed exchange'.listed)
    (hsend : exchange'.send = exchange.send) (access : Access) :
    (run exchange' access).reports = (run exchange access).reports ∧
      (run exchange' access).access = (run exchange access).access ∧
      ∃ posts, (run exchange access).requests = exchange.list.requests ++ posts ∧
        (run exchange' access).requests = exchange'.list.requests ++ posts := by
  have horder := Command.inOrder_congr hlisted
  obtain ⟨hreports, haccess⟩ := run_eq exchange access
  obtain ⟨hreports', haccess'⟩ := run_eq exchange' access
  rw [← horder, ← hreports] at hreports'
  rw [← horder, ← haccess] at haccess'
  have hposts : exchange'.posts (run exchange' access).reports
      = exchange.posts (run exchange access).reports := by
    have hempty := congrArg (· = 0) hlisted.perm.length_eq
    simp only [List.length_eq_zero_iff] at hempty
    simp only [Exchange.posts, List.isEmpty_iff, hempty, hreports', hsend]
  refine ⟨hreports', haccess', _, requests_run exchange access, ?_⟩
  rw [requests_run, hposts]

namespace Shop

def momentAhead (second : Nat) : Timestamp :=
  { moment (3600 + second) 0 with offset := some ⟨3600, by decide, by decide⟩ }

def client : Client :=
  ⟨"https://platform.example.com/agent",
    ⟨"https".toList, [], "platform.example.com".toList, none, "/agent/".toList, none, none⟩,
    "token", 10, false⟩

-- The client that the address opens.
example : ((Client.opened "https://platform.example.com/agent" "token" 10).toOption.map (·.base))
    = some client.base := by
  decide +kernel

/-- A platform that lists some commands and refuses all reports. -/
def listing (commands : List Command) : Exchange :=
  ⟨.ofOutcome (.ok commands), fun reports => client.send reports (.response ⟨500, [], []⟩)⟩

/-- Two commands of one instant, and an older one in front of them. -/
def mixed : List Command :=
  [setting (moment 1 0), deletion (moment 2 0), setting (momentAhead 2)]

def mixed' : List Command :=
  [deletion (moment 2 0), setting (moment 1 0), setting (momentAhead 2)]

theorem sameUpToDates_mixed :
    Command.SameUpToDates (listing mixed).listed (listing mixed').listed :=
  .swap (by decide) _

def faults : FaultPlan := fun kind n =>
  if kind = .read ∧ n = 2 then some (.refused 500 none none) else none

/-- The two commands of one instant are handled in the order in which they are listed. -/
theorem run_of_sameUpToDates_mixed :
    Command.SameUpToDates (listing mixed).listed (listing mixed').listed ∧
      (listing mixed').send = (listing mixed).send ∧
      (Cycle.run (listing mixed') (.start cluster faults)).reports
        = (Cycle.run (listing mixed) (.start cluster faults)).reports ∧
      (Cycle.run (listing mixed') (.start cluster faults)).access
        = (Cycle.run (listing mixed) (.start cluster faults)).access ∧
      ∃ posts,
        (Cycle.run (listing mixed) (.start cluster faults)).requests
          = (listing mixed).list.requests ++ posts ∧
        (Cycle.run (listing mixed') (.start cluster faults)).requests
          = (listing mixed').list.requests ++ posts :=
  ⟨sameUpToDates_mixed, rfl,
    Cycle.run_of_sameUpToDates sameUpToDates_mixed rfl (.start cluster faults)⟩

end Shop

end PolicyAgent
