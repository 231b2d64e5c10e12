import PolicyAgent.Proofs.Batches
import PolicyAgent.Proofs.Procedure

/-!
# Independence of ingresses

A command reads and writes one ingress at most, and it asks for policies, which no command makes
or removes. So the commands for an ingress do not notice what is done for others in between:
without faults their reports, and what becomes of the ingress, are those of a run of these
commands alone. Commands for no ingress are answered out of themselves.
-/
namespace PolicyAgent

open PolicyAgent.Cluster PolicyAgent.Time

def Command.key? (c : Command) : Option IngressKey := c.order?.map (·.key)

namespace Procedure

variable {answers other : Answers} {c : Command}

theorem readIngress_congr {requestedAt : Timestamp} {policy : Option String} {key : IngressKey}
    (hread : answers.read key = other.read key) (hpolicy : answers.policy = other.policy)
    (hpatch : answers.patch key = other.patch key) :
    readIngress answers requestedAt policy key = readIngress other requestedAt policy key := by
  simp only [readIngress, checkDate_congr hpolicy hpatch, hread]

theorem run_of_order? {order : Order} (h : c.order? = some order) :
    run answers c = readIngress answers order.requestedAt order.change.policy? order.key := by
  rw [run_eq]
  unfold Command.order? at h
  split at h
  · rename_i ingressId policy hpayload
    obtain ⟨key, hkey, rfl⟩ := Option.map_eq_some_iff.1 h
    simp only [hpayload, afterPayload, findIngress, hkey, Change.policy?]
  · rename_i ingressId hpayload
    obtain ⟨key, hkey, rfl⟩ := Option.map_eq_some_iff.1 h
    simp only [hpayload, afterPayload, findIngress, hkey, Change.policy?]
  · simp at h

theorem run_of_order?_eq_none (h : c.order? = none) : run answers c = run other c := by
  rw [run_eq, run_eq]
  unfold Command.order? at h
  split at h
  · rename_i ingressId policy hpayload
    have hid : IngressKey.ofId? ingressId = none := by simpa [Order.ofIngressId?] using h
    simp only [hpayload, afterPayload, findIngress, hid]
  · rename_i ingressId hpayload
    have hid : IngressKey.ofId? ingressId = none := by simpa [Order.ofIngressId?] using h
    simp only [hpayload, afterPayload, findIngress, hid]
  · cases hpayload : c.payload with
    | error e => rfl
    | ok payload => cases payload <;> simp_all [afterPayload]

end Procedure

/-- What a cluster answers if nothing goes wrong. -/
def Cluster.State.answers (s : State) : Answers where
  read key := (s.ingress? key).elim (.error .unknownObject) .ok
  policy name := if s.hasPolicy name then .ok () else .error .unknownObject
  patch key _ := if (s.ingress? key).isSome then .ok () else .error .unknownObject

theorem Cluster.Access.answers_eq {access : Access} (h : access.faults = FaultPlan.none) :
    access.answers = access.state.answers := by
  have hread (key : IngressKey) : access.answers.read key = access.state.answers.read key := by
    simp only [answers, State.answers, callRead, perform_fst, fault?_eq_none h]
    cases access.state.ingress? key <;> rfl
  have hpolicy (name : String) :
      access.answers.policy name = access.state.answers.policy name := by
    simp only [answers, State.answers, callPolicy, perform_fst, fault?_eq_none h]
    cases access.state.hasPolicy name <;> rfl
  have hpatch (key : IngressKey) (patch : AnnotationPatch) :
      access.answers.patch key patch = access.state.answers.patch key patch := by
    simp only [answers, State.answers, callPatch, perform_fst, fault?_eq_none h]
    cases access.state.ingress? key <;> rfl
  exact Answers.ext (funext hread) (funext hpolicy) (funext fun key => funext (hpatch key))

/-- Two clusters that meet no faults and have the same policies and the same ingress. -/
structure Cluster.Access.SameAt (key : IngressKey) (access access' : Access) : Prop where
  faults : access.faults = FaultPlan.none
  faults' : access'.faults = FaultPlan.none
  ingress : access.state.ingress? key = access'.state.ingress? key
  policies : access.state.policies = access'.state.policies

namespace Cluster.Access.SameAt

variable {key : IngressKey} {access access' : Access}

theorem refl (h : access.faults = FaultPlan.none) : access.SameAt key access := ⟨h, h, rfl, rfl⟩

/-- Whoever asks about the ingress alone is told the same. -/
theorem answers_eq (h : access.SameAt key access') :
    access.answers.read key = access'.answers.read key ∧
      access.answers.policy = access'.answers.policy ∧
      access.answers.patch key = access'.answers.patch key := by
  have hhas (name : String) : access.state.hasPolicy name = access'.state.hasPolicy name :=
    congrArg (·.contains name) h.policies
  simp only [Access.answers_eq h.faults, Access.answers_eq h.faults', State.answers, h.ingress,
    hhas, and_self]

end Cluster.Access.SameAt

theorem Step.ingress?_after (step : Step) (key : IngressKey) :
    step.after.ingress? key = match step.success? key with
      | none => step.before.state.ingress? key
      | some order => (step.before.state.ingress? key).map (·.merge order.patch) := by
  cases h : step.success? key with
  | none => exact ingress?_after_of_success?_eq_none h
  | some order =>
    obtain ⟨ingress, hbefore, -, -, hafter⟩ := of_success? h
    rw [hafter, hbefore]
    rfl

namespace Command

variable {c : Command} {key : IngressKey} {access access' : Access}

def step (c : Command) (access : Access) : Step := ⟨.route c, access⟩

theorem key?_of_success? {order : Order} (h : (c.step access).success? key = some order) :
    c.key? = some key := by
  obtain ⟨-, horder, rfl⟩ := Step.success?_eq_some_iff.1 h
  exact congrArg (Option.map (·.key)) horder

theorem report_route_congr (hkey : c.key? = some key) (h : access.SameAt key access') :
    (c.route access).report = (c.route access').report := by
  obtain ⟨order, horder, rfl⟩ := Option.map_eq_some_iff.1 hkey
  obtain ⟨hread, hpolicy, hpatch⟩ := h.answers_eq
  rw [(c.route_follows access).1, (c.route_follows access').1, Procedure.run_of_order? horder,
    Procedure.run_of_order? horder, Procedure.readIngress_congr hread hpolicy hpatch]

theorem report_route_of_key?_eq_none (hkey : c.key? = none) (access access' : Access) :
    (c.route access).report = (c.route access').report := by
  rw [(c.route_follows access).1, (c.route_follows access').1,
    Procedure.run_of_order?_eq_none (Option.map_eq_none_iff.1 hkey)]

/-- Commands for other ingresses leave no trace. -/
theorem sameAt_route_left (hkey : c.key? ≠ some key) (h : access.SameAt key access') :
    (c.route access).access.SameAt key access' where
  faults := (c.step access).faults_after.trans h.faults
  faults' := h.faults'
  ingress := by
    have hsuccess : (c.step access).success? key = none := by
      rw [Option.eq_none_iff_forall_ne_some]
      exact fun order horder => hkey (key?_of_success? horder)
    exact (Step.ingress?_after_of_success?_eq_none hsuccess).trans h.ingress
  policies := (c.step access).sameObjects_after.2.trans h.policies

theorem sameAt_route (hkey : c.key? = some key) (h : access.SameAt key access') :
    (c.route access).access.SameAt key (c.route access').access where
  faults := (c.step access).faults_after.trans h.faults
  faults' := (c.step access').faults_after.trans h.faults'
  ingress := by
    have hsuccess : (c.step access).success? key = (c.step access').success? key := by
      have hreport : (c.step access).handled.report = (c.step access').handled.report :=
        report_route_congr hkey h
      rw [Step.success?, Step.success?, hreport]
      rfl
    have hafter := (c.step access).ingress?_after key
    have hafter' := (c.step access').ingress?_after key
    have hingress : (c.step access).before.state.ingress? key
        = (c.step access').before.state.ingress? key := h.ingress
    rw [hsuccess, hingress, ← hafter'] at hafter
    exact hafter
  policies := by
    have hpolicies := (c.step access).sameObjects_after.2.trans h.policies
    exact hpolicies.trans (c.step access').sameObjects_after.2.symm

def reported (commands : List Command) (access : Access) : List (Command × Report) :=
  commands.zip (routeAll commands access).reports

theorem reported_cons (c : Command) (rest : List Command) (access : Access) :
    reported (c :: rest) access
      = (c, (c.route access).report) :: reported rest (c.route access).access := rfl

/-- The commands for an ingress fare as in a run of their own. -/
theorem filter_reported (commands : List Command) (h : access.SameAt key access') :
    (reported commands access).filter (·.1.key? = some key)
        = reported (commands.filter (·.key? = some key)) access' ∧
      (routeAll commands access).access.SameAt key
        (routeAll (commands.filter (·.key? = some key)) access').access := by
  induction commands generalizing access access' with
  | nil => exact ⟨rfl, h⟩
  | cons c rest ih =>
    by_cases hkey : c.key? = some key
    · obtain ⟨hreported, hsame⟩ := ih (sameAt_route hkey h)
      have hreport := report_route_congr hkey h
      simp only [List.filter_cons, reported_cons, hkey, decide_true, if_true, hreported, hreport]
      exact ⟨trivial, hsame⟩
    · obtain ⟨hreported, hsame⟩ := ih (sameAt_route_left hkey h)
      simp only [List.filter_cons, reported_cons, hkey, decide_false, Bool.false_eq_true, if_false]
      exact ⟨hreported, hsame⟩

theorem filter_reported_none (commands : List Command) (access access' : Access) :
    (reported commands access).filter (·.1.key? = none)
      = (commands.filter (·.key? = none)).map fun c => (c, (c.route access').report) := by
  induction commands generalizing access with
  | nil => rfl
  | cons c rest ih =>
    by_cases hkey : c.key? = none
    · simp [reported_cons, hkey, ih, report_route_of_key?_eq_none hkey access access']
    · simp [reported_cons, hkey, ih]

theorem length_reports_routeAll (commands : List Command) (access : Access) :
    (routeAll commands access).reports.length = commands.length := by
  simpa using congrArg List.length (commandId_routeAll commands access)

/-- Without faults only the order among the commands for one ingress matters: if it is kept,
every command has the same report, and every ingress ends with the same annotations. -/
theorem routeAll_of_rearranges {commands commands' : List Command}
    (h : Rearranges key? commands commands') (s : State) :
    let batch := routeAll commands (.start s .none)
    let batch' := routeAll commands' (.start s .none)
    batch.reports.length = commands.length ∧ batch'.reports.length = commands'.length ∧
      Rearranges (fun entry : Command × Report => entry.1.key?)
        (commands.zip batch.reports) (commands'.zip batch'.reports) ∧
      ∀ key, batch.access.state.ingress? key = batch'.access.state.ingress? key := by
  have hsame (key : IngressKey) : (Access.start s .none).SameAt key (.start s .none) := .refl rfl
  have hfilter (key : IngressKey) :
      (reported commands (.start s .none)).filter (·.1.key? = some key)
        = (reported commands' (.start s .none)).filter (·.1.key? = some key) := by
    rw [(filter_reported commands (hsame key)).1, (filter_reported commands' (hsame key)).1,
      h.filter_eq key]
  have hperm : (reported commands (.start s .none)).Perm (reported commands' (.start s .none)) := by
    apply perm_of_filter_perm fun entry : Command × Report => entry.1.key?
    intro key?
    cases key? with
    | some key => rw [hfilter key]
    | none =>
      rw [filter_reported_none commands _ (.start s .none),
        filter_reported_none commands' _ (.start s .none)]
      exact (h.perm.filter _).map _
  refine ⟨length_reports_routeAll _ _, length_reports_routeAll _ _, ⟨hperm, hfilter⟩, ?_⟩
  intro key
  have hleft := (filter_reported commands (hsame key)).2.ingress
  have hright := (filter_reported commands' (hsame key)).2.ingress
  rw [hleft, hright, h.filter_eq key]

end Command

namespace Shop

def doubled : State := ⟨[⟨key, none⟩, ⟨⟨"api", "shop"⟩, none⟩], ["basic"]⟩

def apiSetting : Command :=
  .ofChange (.set "basic") "3" (moment 1 0) "api@shop.ingress.networking"

def unknown : Command := ⟨"4", moment 0 0, some "restart", .null⟩

/-- A set and a deletion for one ingress, between a set for the other and a command for none. -/
def interleaved : List Command :=
  [setting (moment 1 0), apiSetting, unknown, deletion (moment 2 0)]

def interleaved' : List Command :=
  [apiSetting, setting (moment 1 0), deletion (moment 2 0), unknown]

theorem rearranges_interleaved : Rearranges Command.key? interleaved interleaved' :=
  (Rearranges.swap (by decide) _).trans (.cons _ (.cons _ (.swap (by decide) _)))

/-- The reports are those of the same commands, in another order. -/
theorem routeAll_of_rearranges_interleaved :
    Rearranges Command.key? interleaved interleaved' ∧
      let batch := Command.routeAll interleaved (.start doubled .none)
      let batch' := Command.routeAll interleaved' (.start doubled .none)
      batch.reports.length = interleaved.length ∧ batch'.reports.length = interleaved'.length ∧
        Rearranges (fun entry : Command × Report => entry.1.key?)
          (interleaved.zip batch.reports) (interleaved'.zip batch'.reports) ∧
        ∀ key, batch.access.state.ingress? key = batch'.access.state.ingress? key :=
  ⟨rearranges_interleaved, Command.routeAll_of_rearranges rearranges_interleaved doubled⟩

end Shop

end PolicyAgent
