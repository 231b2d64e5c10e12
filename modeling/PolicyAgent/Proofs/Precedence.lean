import PolicyAgent.Proofs.Staleness
import PolicyAgent.Proofs.Time.WholeMinutes

/-!
# Which commands are precluded

A command that was applied to an ingress should stop itself and all older commands for the
ingress from being applied later. The token keeps whole seconds only, and before the year 1000
it cannot be read back. So a command precludes another one exactly if its date is not before the
year 1000 and the other's is not after the second in which its date lies: a command with a
fraction of a second in its date does not even preclude itself.
-/
namespace PolicyAgent

open PolicyAgent.Cluster PolicyAgent.Time

/-- Whatever the cluster is, and whatever the agent meets as long as nothing else changes the
ingresses: once the one command was applied to an ingress, each attempt to apply the other one
fails, and it patches nothing and changes nothing. -/
def Command.Precludes (c d : Command) : Prop :=
  ∀ (s : State) (visits : List Visit), (∀ visit ∈ visits, visit.changes.KeepIngresses) →
    (∀ visit ∈ visits, ∀ listed ∈ visit.listed, listed.IsDecoded) →
    ∀ past step rest, Visit.steps s visits = past ++ step :: rest → step.task = .route d →
      ∀ earlier ∈ past, earlier.task = .route c → ∀ key, earlier.Applies key →
        step.handled.report.status = .failure ∧ (∀ call ∈ step.calls, call.kind ≠ .patch) ∧
          step.after = step.before.state

theorem Step.of_guards {step : Step} {order : Order} {t : Timestamp}
    (horder : step.task.order? = some order) (hguards : step.before.state.Guards order.key t)
    (hle : order.requestedAt.instant ≤ t.truncate.instant) :
    step.handled.report.status = .failure ∧ step.calls = [.read order.key] := by
  have houtcome := outcome horder
  have hstopped : step.handled.report.status = .failure ∧
      step.handled.access = step.before.record (.read order.key) := by
    cases hread : (step.before.readIngress order.key).1 with
    | error fault => exact houtcome.of_unread hread
    | ok ingress =>
      have hcovers := hguards.covers (Access.ingress?_of_readIngress hread) hle
      obtain ⟨hreport, haccess⟩ := houtcome.of_covers hread hcovers
      exact ⟨by rw [hreport, Report.status_internalFailure], haccess⟩
  exact ⟨hstopped.1, calls_of_append (by rw [hstopped.2]; rfl)⟩

section

variable {s : State} {visits : List Visit} {step : Step} {order : Order}

theorem Visit.isReadable_of_le (hdecoded : ∀ visit ∈ visits, ∀ c ∈ visit.listed, c.IsDecoded)
    (hmem : step ∈ Visit.steps s visits) (horder : step.task.order? = some order)
    (h : fourDigitYears ≤ order.requestedAt.instant) : order.requestedAt.IsReadable := by
  obtain ⟨visit, hvisit, c, hc, htask⟩ := Visit.exists_listed_of_mem_steps hmem
  rw [htask] at horder
  obtain ⟨hdate, -⟩ := Command.of_order? horder
  rw [hdate] at h ⊢
  exact Timestamp.isReadable_of_le (hdecoded visit hvisit c hc).dvd_offsetSeconds h

/-- A success not dated before the year 1000 leaves a guard to all later steps. -/
theorem Visit.guards (hkeep : ∀ visit ∈ visits, visit.changes.KeepIngresses)
    (hdecoded : ∀ visit ∈ visits, ∀ c ∈ visit.listed, c.IsDecoded) {past rest : List Step}
    (hsteps : Visit.steps s visits = past ++ step :: rest) {earlier : Step} (hmem : earlier ∈ past)
    {key : IngressKey} (hsuccess : earlier.success? key = some order)
    (hyear : fourDigitYears ≤ order.requestedAt.instant) :
    step.before.state.Guards key order.requestedAt := by
  have hhistory := Visit.history hkeep s
  rw [hsteps] at hhistory
  have hreadable : ∀ between ∈ past, ∀ applied, between.success? key = some applied →
      fourDigitYears ≤ applied.requestedAt.instant → applied.requestedAt.IsReadable := by
    intro between hbetween applied happlied
    obtain ⟨-, horder, -⟩ := Step.success?_eq_some_iff.1 happlied
    have hmem' : between ∈ Visit.steps s visits := by
      rw [hsteps]
      exact List.mem_append_left _ hbetween
    exact Visit.isReadable_of_le hdecoded hmem' horder
  refine hhistory.before.guards hmem hsuccess (hreadable earlier hmem order hsuccess hyear) ?_
  intro between hbetween later hlater hlt
  exact hreadable between hbetween later hlater ((fourDigitYears_le_truncate hyear).trans hlt.le)

end

theorem Command.precludes_of_le {c d : Command} {first second : Order}
    (hfirst : c.order? = some first) (hsecond : d.order? = some second)
    (hkey : second.key = first.key) (hyear : fourDigitYears ≤ c.createdAt.instant)
    (hle : d.createdAt.instant ≤ c.createdAt.truncate.instant) : c.Precludes d := by
  intro s visits hkeep hdecoded past step rest hsteps htask earlier hmem hearlier key happlies
  obtain ⟨order, hsuccess⟩ := Step.applies_iff.1 happlies
  obtain ⟨-, horder, rfl⟩ := Step.success?_eq_some_iff.1 hsuccess
  rw [hearlier] at horder
  obtain rfl := Option.some.inj (hfirst.symm.trans horder)
  obtain ⟨hdate, -⟩ := Command.of_order? hfirst
  obtain ⟨hdate', -⟩ := Command.of_order? hsecond
  rw [← hdate] at hyear hle
  rw [← hdate'] at hle
  have hguards := Visit.guards hkeep hdecoded hsteps hmem hsuccess hyear
  rw [← hkey] at hguards
  obtain ⟨hfailure, hcalls⟩ := Step.of_guards (by rw [htask]; exact hsecond) hguards hle
  refine ⟨hfailure, ?_, Step.after_of_ne_success (by simp [hfailure])⟩
  rw [hcalls]
  simp [Call.kind]

/-- A cluster in which one order and then another can be carried out. -/
def Order.cluster (first second : Order) : State :=
  ⟨[⟨first.key, none⟩], first.change.policy?.toList ++ second.change.policy?.toList⟩

namespace Command

variable {c d : Command} {first second : Order}

theorem success?_delivery {s : State} {ingress : Ingress} (horder : c.order? = some first)
    (hingress : s.ingress? first.key = some ingress)
    (hfresh : (Token.ofAnnotations ingress.labels).covers first.requestedAt = false)
    (hpossible : first.IsPossible s) : (c.delivery s).success? first.key = some first :=
  Step.success?_of_fresh horder rfl hingress hfresh hpossible

theorem isPossible_after_delivery {s : State} (h : second.IsPossible s) :
    second.IsPossible (c.delivery s).after :=
  h.of_policies (c.delivery s).sameObjects_after.2

theorem success?_delivery_cluster (second : Order) (hfirst : c.order? = some first) :
    (c.delivery (first.cluster second)).success? first.key = some first := by
  have hingress : (first.cluster second).ingress? first.key = some ⟨first.key, none⟩ := by
    simp [Order.cluster, State.ingress?]
  refine success?_delivery hfirst hingress (Token.covers_of_absent rfl _) ?_
  intro policy hchange
  simp [Order.cluster, State.hasPolicy, hchange, Change.policy?]

theorem isPossible_cluster : second.IsPossible (first.cluster second) := by
  intro policy hchange
  simp [Order.cluster, State.hasPolicy, hchange, Change.policy?]

/-- A run in which each command comes alone, and the last one succeeds after the first did. -/
theorem not_precludes_of_success {s s' : State} (between : List Command) (past : List Step)
    (hdecoded : ∀ listed ∈ c :: (between ++ [d]), listed.IsDecoded)
    (hsteps : Visit.steps s ((c :: (between ++ [d])).map fun listed => Visit.delivering [listed])
      = c.delivery s :: past ++ d.delivery s' :: [])
    (hfirst : (c.delivery s).success? first.key = some first)
    (hsecond : (d.delivery s').success? second.key = some second) : ¬ c.Precludes d := by
  have hlisted : ∀ visit ∈ (c :: (between ++ [d])).map fun listed => Visit.delivering [listed],
      visit.changes.KeepIngresses ∧ ∀ listed ∈ visit.listed, listed.IsDecoded := by
    intro visit hvisit
    obtain ⟨e, he, rfl⟩ := List.mem_map.1 hvisit
    refine ⟨⟨rfl, rfl⟩, ?_⟩
    intro listed hlisted
    obtain rfl : listed = e := List.mem_singleton.1 hlisted
    exact hdecoded listed he
  intro hprecludes
  obtain ⟨hfailure, -⟩ := hprecludes s _ (fun visit hvisit => (hlisted visit hvisit).1)
    (fun visit hvisit => (hlisted visit hvisit).2) _ _ _ hsteps rfl (c.delivery s)
    List.mem_cons_self rfl first.key (Step.applies_iff.2 ⟨first, hfirst⟩)
  simp [(Step.success?_eq_some_iff.1 hsecond).1] at hfailure

/-- Past the second of the first command the second one is fresh. -/
theorem not_precludes_of_lt (hc : c.IsDecoded) (hd : d.IsDecoded) (hfirst : c.order? = some first)
    (hsecond : d.order? = some second) (hkey : second.key = first.key)
    (hlt : c.createdAt.truncate.instant < d.createdAt.instant) : ¬ c.Precludes d := by
  obtain ⟨hdate, -⟩ := of_order? hfirst
  obtain ⟨hdate', -⟩ := of_order? hsecond
  have hsuccess := success?_delivery_cluster second hfirst
  obtain ⟨ingress, hingress, htoken⟩ := Step.token_of_success? hsuccess
  rw [hdate] at htoken
  have hfresh := Token.covers_of_lt htoken hc.dvd_offsetSeconds (hdate' ▸ hlt)
  have hsuccess' := success?_delivery hsecond (hkey ▸ hingress) hfresh
    (isPossible_after_delivery isPossible_cluster)
  refine not_precludes_of_success [] [] ?_ ?_ hsuccess hsuccess'
  · simp [hc, hd]
  · simp [Visit.steps_delivering_cons, Visit.steps_nil]

end Command

def Time.Timestamp.lastEarly : Timestamp :=
  ⟨⟨999, 12, 31, by decide, by decide, by decide, by decide, by decide, by decide⟩,
    .ofMicros 86399999999, some .utc⟩

theorem Time.Timestamp.truncate_lt_lastEarly {t : Timestamp} (h : t.instant < fourDigitYears) :
    t.truncate.instant < lastEarly.instant := by
  have hlast : lastEarly.instant = fourDigitYears - 1 := by decide
  have hwhole := dvd_fourDigitYears
  rw [instant_truncate, hlast]
  omega

namespace Command

variable {c d : Command} {first second : Order}

def earlyDeletion (ingressId : String) : Command := .ofChange .delete "" .lastEarly ingressId

theorem isDecoded_earlyDeletion (ingressId : String) : (earlyDeletion ingressId).IsDecoded :=
  ⟨.object [("id", .string ""), ("createdAt", .string "0999-12-31T23:59:59.999999Z"),
    ("type", .string deletePolicyType), ("data", .object [("ingressId", .string ingressId)])], rfl⟩

theorem order?_earlyDeletion {ingressId : String} {key : IngressKey}
    (hid : IngressKey.ofId? ingressId = some key) :
    (earlyDeletion ingressId).order? = some ⟨.delete, .lastEarly, key⟩ := by
  simp [earlyDeletion, Order.ofIngressId?, hid]

/-- Before the year 1000 the first command may be followed by a deletion of that time, whose
token cannot be read, and then by anything. -/
theorem not_precludes_of_early (hc : c.IsDecoded) (hd : d.IsDecoded)
    (hfirst : c.order? = some first) (hsecond : d.order? = some second)
    (hkey : second.key = first.key) (hearly : c.createdAt.instant < fourDigitYears) :
    ¬ c.Precludes d := by
  obtain ⟨hdate, ingressId, hid⟩ := of_order? hfirst
  have hsuccess := success?_delivery_cluster second hfirst
  obtain ⟨ingress, hingress, htoken⟩ := Step.token_of_success? hsuccess
  rw [hdate] at htoken
  have hdeletion := success?_delivery (order?_earlyDeletion hid) hingress
    (Token.covers_of_lt htoken hc.dvd_offsetSeconds (Timestamp.truncate_lt_lastEarly hearly))
    (by intro policy hchange; simp at hchange)
  obtain ⟨left, hleft, htoken'⟩ := Step.token_of_success? hdeletion
  have hsuccess' := success?_delivery hsecond (hkey ▸ hleft)
    (Token.covers_of_early_year htoken' rfl (by simp [Timestamp.lastEarly]) _)
    (isPossible_after_delivery (isPossible_after_delivery isPossible_cluster))
  refine not_precludes_of_success [earlyDeletion ingressId]
    [(earlyDeletion ingressId).delivery (c.delivery (first.cluster second)).after] ?_ ?_
    hsuccess hsuccess'
  · simp [hc, hd, isDecoded_earlyDeletion]
  · simp [Visit.steps_delivering_cons, Visit.steps_nil]

/-- A command precludes a command for the same ingress exactly if its own date can be read back
from a token and the other's is not after its second. -/
theorem precludes_iff (hc : c.IsDecoded) (hd : d.IsDecoded) (hfirst : c.order? = some first)
    (hsecond : d.order? = some second) (hkey : second.key = first.key) :
    c.Precludes d ↔ fourDigitYears ≤ c.createdAt.instant ∧
      d.createdAt.instant ≤ c.createdAt.truncate.instant := by
  constructor
  · intro hprecludes
    constructor
    · by_contra hearly
      exact not_precludes_of_early hc hd hfirst hsecond hkey (not_le.1 hearly) hprecludes
    · by_contra hlt
      exact not_precludes_of_lt hc hd hfirst hsecond hkey (not_le.1 hlt) hprecludes
  · rintro ⟨hyear, hle⟩
    exact precludes_of_le hfirst hsecond hkey hyear hle

end Command

namespace Shop

theorem isDecoded_setting_half : (setting (moment 1 500000)).IsDecoded :=
  ⟨.object [("id", .string "1"), ("createdAt", .string "2024-03-01T00:00:01.5Z"),
    ("type", .string setPolicyType),
    ("data", .object [("ingressId", .string ingressId), ("acpName", .string "basic")])], rfl⟩

theorem isDecoded_deletion : (deletion (moment 1 0)).IsDecoded :=
  ⟨.object [("id", .string "2"), ("createdAt", .string "2024-03-01T00:00:01Z"),
    ("type", .string deletePolicyType), ("data", .object [("ingressId", .string ingressId)])], rfl⟩

/-- The command of half a second precludes one of its second, though not itself. -/
theorem precludes_iff_half :
    (setting (moment 1 500000)).IsDecoded ∧ (deletion (moment 1 0)).IsDecoded ∧
      (setting (moment 1 500000)).order? = some ⟨.set "basic", moment 1 500000, key⟩ ∧
      (deletion (moment 1 0)).order? = some ⟨.delete, moment 1 0, key⟩ ∧
      (setting (moment 1 500000)).Precludes (deletion (moment 1 0)) := by
  have hfirst : (setting (moment 1 500000)).order?
      = some ⟨.set "basic", moment 1 500000, key⟩ := by decide
  have hsecond : (deletion (moment 1 0)).order? = some ⟨.delete, moment 1 0, key⟩ := by decide
  exact ⟨isDecoded_setting_half, isDecoded_deletion, hfirst, hsecond,
    (Command.precludes_iff isDecoded_setting_half isDecoded_deletion hfirst hsecond rfl).2
      (by decide)⟩

/-- Not all commands preclude themselves and the older ones for their ingress. -/
theorem not_forall_precludes :
    ¬ ∀ (c d : Command) (first second : Order), c.IsDecoded → d.IsDecoded →
      c.order? = some first → d.order? = some second → second.key = first.key →
      d.createdAt.instant ≤ c.createdAt.instant → c.Precludes d := by
  intro h
  have horder : (setting (moment 1 500000)).order?
      = some ⟨.set "basic", moment 1 500000, key⟩ := by decide
  exact Command.not_precludes_of_lt isDecoded_setting_half isDecoded_setting_half horder horder rfl
    (by decide) (h _ _ _ _ isDecoded_setting_half isDecoded_setting_half horder horder rfl le_rfl)

end Shop

end PolicyAgent
