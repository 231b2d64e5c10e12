import PolicyAgent.Proofs.Overlay
import PolicyAgent.Proofs.Time.Instant

/-!
# Stale orders

The guard of an ingress compares the date of an order with one text, the token. As long as the
dates that are written into tokens can be read back, the token bounds the dates of all orders
that were carried out for the ingress, cut down to the second, and is one of them; so the guard
knows the whole history.
-/
namespace PolicyAgent

open PolicyAgent.Cluster PolicyAgent.Time

theorem Token.covers_of_get? {labels : Annotations} {t : Timestamp}
    (htoken : Annotations.get? labels tokenKey = some t.rfc3339) (h : t.IsReadable)
    (requestedAt : Timestamp) :
    (Token.ofAnnotations labels).covers requestedAt = true
      ↔ requestedAt.instant ≤ t.truncate.instant := by
  simp [ofAnnotations, htoken, Timestamp.readRfc3339_rfc3339 h, covers]

theorem Token.covers_of_absent {labels : Annotations}
    (htoken : Annotations.get? labels tokenKey = none) (requestedAt : Timestamp) :
    (Token.ofAnnotations labels).covers requestedAt = false := by
  simp [ofAnnotations, htoken, covers]

/-- A token of the years before 1000 cannot be read and covers nothing. -/
theorem Token.covers_of_early_year {labels : Annotations} {t : Timestamp}
    (htoken : Annotations.get? labels tokenKey = some t.rfc3339) (hutc : t.offsetSeconds = 0)
    (hyear : t.day.year < 1000) (requestedAt : Timestamp) :
    (Token.ofAnnotations labels).covers requestedAt = false := by
  obtain ⟨e, he⟩ := Timestamp.readRfc3339_early_year hutc hyear
  simp [ofAnnotations, htoken, he, covers]

theorem Token.covers_of_lt {labels : Annotations} {t : Timestamp}
    (htoken : Annotations.get? labels tokenKey = some t.rfc3339) (hwhole : 60 ∣ t.offsetSeconds)
    {requestedAt : Timestamp} (hlt : t.truncate.instant < requestedAt.instant) :
    (Token.ofAnnotations labels).covers requestedAt = false := by
  by_cases hreadable : t.IsReadable
  · rw [Bool.eq_false_iff, ne_eq, covers_of_get? htoken hreadable, not_le]
    exact hlt
  · have hearly : t.offsetSeconds = 0 ∧ t.day.year < 1000 := by
      simpa [Timestamp.IsReadable, hwhole] using hreadable
    exact covers_of_early_year htoken hearly.1 hearly.2 requestedAt

/-- The token of an ingress is a date that can be read back, of the same second as a given date
or behind it. -/
def Cluster.State.Guards (s : State) (key : IngressKey) (t : Timestamp) : Prop :=
  ∃ (ingress : Ingress) (u : Timestamp), s.ingress? key = some ingress ∧
    ingress.labels.get? tokenKey = some u.rfc3339 ∧ u.IsReadable ∧
    t.truncate.instant ≤ u.truncate.instant

theorem Cluster.State.Guards.covers {s : State} {key : IngressKey} {t : Timestamp}
    (h : s.Guards key t) {ingress : Ingress} (hingress : s.ingress? key = some ingress)
    {requestedAt : Timestamp} (hle : requestedAt.instant ≤ t.truncate.instant) :
    (Token.ofAnnotations ingress.labels).covers requestedAt = true := by
  obtain ⟨ingress', u, hingress', htoken, hreadable, hu⟩ := h
  obtain rfl := Option.some.inj (hingress.symm.trans hingress')
  exact (Token.covers_of_get? htoken hreadable requestedAt).2 (hle.trans hu)

namespace Step

variable {step : Step} {key : IngressKey} {order : Order} {t : Timestamp}

theorem token_of_success? (h : step.success? key = some order) :
    ∃ ingress, step.after.ingress? key = some ingress ∧
      ingress.labels.get? tokenKey = some order.requestedAt.rfc3339 := by
  obtain ⟨ingress, -, -, -, hafter⟩ := of_success? h
  exact ⟨_, hafter, (order.overlays_merge ingress).token⟩

theorem guards_of_success? (h : step.success? key = some order)
    (hreadable : order.requestedAt.IsReadable) : step.after.Guards key order.requestedAt := by
  obtain ⟨ingress, hafter, htoken⟩ := token_of_success? h
  exact ⟨ingress, order.requestedAt, hafter, htoken, hreadable, le_rfl⟩

theorem lt_of_guards (hguards : step.before.state.Guards key t)
    (h : step.success? key = some order) : t.truncate.instant < order.requestedAt.instant := by
  obtain ⟨ingress, hingress, hfresh, -, -⟩ := of_success? h
  by_contra hle
  rw [hguards.covers hingress (not_lt.1 hle)] at hfresh
  simp at hfresh

/-- The guard stays as long as the dates behind it can be read back. -/
theorem guards_after (h : step.before.state.Guards key t)
    (hreadable : ∀ order, step.success? key = some order →
      t.truncate.instant < order.requestedAt.instant → order.requestedAt.IsReadable) :
    step.after.Guards key t := by
  cases hsuccess : step.success? key with
  | none =>
    obtain ⟨ingress, hingress⟩ := h
    exact ⟨ingress, by rwa [ingress?_after_of_success?_eq_none hsuccess]⟩
  | some order =>
    have hlt := lt_of_guards h hsuccess
    obtain ⟨ingress, u, hingress, htoken, hread, hle⟩ :=
      guards_of_success? hsuccess (hreadable order hsuccess hlt)
    exact ⟨ingress, u, hingress, htoken, hread,
      (Timestamp.truncate_le_truncate hlt.le).trans hle⟩

end Step

/-- After a success for an ingress its guard stands, whatever the later steps are. -/
theorem History.guards {s s' : State} {steps : List Step} {key : IngressKey} {order : Order}
    {step : Step} (h : History s steps s') (hmem : step ∈ steps)
    (hsuccess : step.success? key = some order) (hreadable : order.requestedAt.IsReadable)
    (hlater : ∀ step ∈ steps, ∀ later, step.success? key = some later →
      order.requestedAt.truncate.instant < later.requestedAt.instant →
      later.requestedAt.IsReadable) :
    s'.Guards key order.requestedAt := by
  induction h with
  | start => simp at hmem
  | @step past last s' hpast h ih =>
    have hguards : last.after.Guards key order.requestedAt := by
      rcases List.mem_append.1 hmem with hmem | hmem
      · apply Step.guards_after
        · exact ih hmem fun step hstep => hlater step (List.mem_append_left _ hstep)
        · exact hlater last (by simp)
      · obtain rfl := List.mem_singleton.1 hmem
        exact Step.guards_of_success? hsuccess hreadable
    obtain ⟨ingress, u, hingress, hu⟩ := hguards
    exact ⟨ingress, u, (State.ingress?_congr h key).trans hingress, hu⟩

theorem Time.Timestamp.instant_truncate_of_rfc3339_eq {t u : Timestamp} (ht : t.IsReadable)
    (hu : u.IsReadable) (h : t.rfc3339 = u.rfc3339) : t.truncate.instant = u.truncate.instant := by
  have hread := readRfc3339_rfc3339 ht
  rw [h, readRfc3339_rfc3339 hu] at hread
  simpa using congrArg instant (Except.ok.inj hread.symm)

/-- The last success has the latest second of all. -/
theorem History.le_lastSuccess? {s s' : State} {steps : List Step} {key : IngressKey}
    {order : Order} {step : Step} (h : History s steps s') (hmem : step ∈ steps)
    (hsuccess : step.success? key = some order)
    (hreadable : ∀ step ∈ steps, ∀ applied, step.success? key = some applied →
      applied.requestedAt.IsReadable) :
    ∃ last, lastSuccess? key steps = some last ∧
      order.requestedAt.truncate.instant ≤ last.requestedAt.truncate.instant := by
  obtain ⟨ingress, u, hingress, htoken, hu, hle⟩ :=
    h.guards hmem hsuccess (hreadable step hmem order hsuccess)
      fun step hstep later hlater _ => hreadable step hstep later hlater
  obtain ⟨last, hlast⟩ := exists_lastSuccess? hmem hsuccess
  obtain ⟨step', hmem', hsuccess'⟩ := mem_of_lastSuccess? hlast
  have hleft := h.leftBy key
  rw [hlast] at hleft
  obtain ⟨_, left, -, hleft, hover⟩ := hleft
  obtain rfl := Option.some.inj (hingress.symm.trans hleft)
  have htext := Option.some.inj (htoken.symm.trans hover.token)
  refine ⟨last, hlast, ?_⟩
  rwa [← Timestamp.instant_truncate_of_rfc3339_eq hu (hreadable step' hmem' last hsuccess') htext]

/-- An order for the same ingress was carried out before, dated in the same second or later. -/
def Order.IsLate (order : Order) (past : List Step) : Prop :=
  ∃ earlier ∈ past, ∃ applied : Order, earlier.task.order? = some applied ∧
    earlier.Applies order.key ∧ order.requestedAt.instant ≤ applied.requestedAt.truncate.instant

theorem Order.isLate_iff {order : Order} {past : List Step} :
    order.IsLate past ↔ ∃ earlier ∈ past, ∃ applied : Order,
      earlier.success? order.key = some applied ∧
        order.requestedAt.instant ≤ applied.requestedAt.truncate.instant := by
  constructor
  · rintro ⟨earlier, hmem, applied, horder, happlies, hle⟩
    obtain ⟨applied', hsuccess⟩ := Step.applies_iff.1 happlies
    obtain ⟨-, horder', -⟩ := Step.success?_eq_some_iff.1 hsuccess
    obtain rfl := Option.some.inj (horder.symm.trans horder')
    exact ⟨earlier, hmem, applied, hsuccess, hle⟩
  · rintro ⟨earlier, hmem, applied, hsuccess, hle⟩
    obtain ⟨-, horder, -⟩ := Step.success?_eq_some_iff.1 hsuccess
    exact ⟨earlier, hmem, applied, horder, Step.applies_iff.2 ⟨applied, hsuccess⟩, hle⟩

/-- If an ingress had no token at first, its token knows which orders are late. -/
theorem History.covers_iff_isLate {s s' : State} {past : List Step} {order : Order}
    {ingress : Ingress} (h : History s past s')
    (habsent : ∀ ingress, s.ingress? order.key = some ingress →
      ingress.labels.get? tokenKey = none)
    (hreadable : ∀ step ∈ past, ∀ applied, step.success? order.key = some applied →
      applied.requestedAt.IsReadable)
    (hingress : s'.ingress? order.key = some ingress) :
    (Token.ofAnnotations ingress.labels).covers order.requestedAt = true ↔ order.IsLate past := by
  constructor
  · intro hcovers
    have hleft := h.leftBy order.key
    cases hlast : lastSuccess? order.key past with
    | none =>
      rw [hlast] at hleft
      have htoken := habsent ingress (hleft.symm.trans hingress)
      simp [Token.covers_of_absent htoken] at hcovers
    | some last =>
      rw [hlast] at hleft
      obtain ⟨_, left, -, hleft', hover⟩ := hleft
      obtain rfl := Option.some.inj (hingress.symm.trans hleft')
      obtain ⟨step, hmem, hsuccess⟩ := mem_of_lastSuccess? hlast
      have hle := (Token.covers_of_get? hover.token (hreadable step hmem last hsuccess) _).1 hcovers
      exact Order.isLate_iff.2 ⟨step, hmem, last, hsuccess, hle⟩
  · intro hlate
    obtain ⟨step, hmem, applied, hsuccess, hle⟩ := Order.isLate_iff.1 hlate
    have hguards := h.guards hmem hsuccess (hreadable step hmem applied hsuccess)
      fun step hstep later hlater _ => hreadable step hstep later hlater
    exact hguards.covers hingress hle

/-- A step is turned away by the guard: it says so, and it made no call after reading. -/
def Step.IsTurnedAway (step : Step) (key : IngressKey) : Prop :=
  step.handled.report = .internalFailure step.task.commandId alreadyExecuted ∧
    step.calls = [.read key]

namespace Step

variable {step : Step} {order : Order} {ingress : Ingress}

theorem isTurnedAway_of_covers (horder : step.task.order? = some order)
    (hread : (step.before.readIngress order.key).1 = .ok ingress)
    (hcovers : (Token.ofAnnotations ingress.labels).covers order.requestedAt = true) :
    step.IsTurnedAway order.key := by
  obtain ⟨hreport, haccess⟩ := (outcome horder).of_covers hread hcovers
  exact ⟨hreport, calls_of_append (by rw [haccess]; rfl)⟩

theorem isTurnedAway_iff_covers (horder : step.task.order? = some order)
    (hread : (step.before.readIngress order.key).1 = .ok ingress) :
    step.IsTurnedAway order.key
      ↔ (Token.ofAnnotations ingress.labels).covers order.requestedAt = true := by
  constructor
  · rintro ⟨hreport, hcalls⟩
    by_contra hfresh
    obtain ⟨hne, -⟩ := (outcome horder).of_fresh hread (Bool.eq_false_iff.2 hfresh) hreport
    exact hne (by rw [← hcalls, step.append_calls])
  · exact isTurnedAway_of_covers horder hread

/-- The report alone tells as much if no fault has the words of the guard. -/
theorem report_eq_iff_covers (horder : step.task.order? = some order)
    (hread : (step.before.readIngress order.key).1 = .ok ingress)
    (hfaults : ∀ kind n fault, step.before.faults kind n = some fault →
      fault.message ≠ alreadyExecuted) :
    step.handled.report = .internalFailure step.task.commandId alreadyExecuted
      ↔ (Token.ofAnnotations ingress.labels).covers order.requestedAt = true := by
  constructor
  · intro hreport
    by_contra hfresh
    obtain ⟨-, kind, n, fault, hfault, hmessage⟩ :=
      (outcome horder).of_fresh hread (Bool.eq_false_iff.2 hfresh) hreport
    exact hfaults kind n fault hfault hmessage
  · intro hcovers
    exact (isTurnedAway_of_covers horder hread hcovers).1

end Step

namespace Round

variable {s : State} {rounds : List Round} {past rest : List Step} {step : Step} {order : Order}
  {ingress : Ingress}

theorem covers_iff_isLate (hkeep : ∀ round ∈ rounds, round.changes.KeepIngresses)
    (hreadable : AllOrders (fun order => order.requestedAt.IsReadable) rounds)
    (habsent : ∀ ingress, s.ingress? order.key = some ingress →
      ingress.labels.get? tokenKey = none)
    (hsteps : steps s rounds = past ++ step :: rest)
    (hingress : step.before.state.ingress? order.key = some ingress) :
    (Token.ofAnnotations ingress.labels).covers order.requestedAt = true ↔ order.IsLate past := by
  have hhistory := history hkeep s
  rw [hsteps] at hhistory
  refine hhistory.before.covers_iff_isLate habsent ?_ hingress
  intro earlier hearlier applied hsuccess
  obtain ⟨-, happlied, -⟩ := Step.success?_eq_some_iff.1 hsuccess
  have hmem : earlier ∈ steps s rounds := by
    rw [hsteps]
    exact List.mem_append_left _ hearlier
  exact hreadable.of_mem_steps hmem happlied

/-- The guard turns away the late orders and no others. A call that fails with the words of the
guard makes a report that sounds the same, so a report alone tells the two apart only if no
fault has these words. -/
theorem isTurnedAway_iff_isLate (hkeep : ∀ round ∈ rounds, round.changes.KeepIngresses)
    (hdates : AllOrders (fun order =>
      60 ∣ order.requestedAt.offsetSeconds ∧ 1000 ≤ order.requestedAt.day.year) rounds)
    (habsent : ∀ ingress ∈ s.ingresses, ingress.labels.get? tokenKey = none)
    (hsteps : steps s rounds = past ++ step :: rest) (horder : step.task.order? = some order)
    (hread : (step.before.readIngress order.key).1 = .ok ingress) :
    (step.IsTurnedAway order.key ↔ order.IsLate past) ∧
      ((∀ kind n fault, step.before.faults kind n = some fault →
          fault.message ≠ alreadyExecuted) →
        (step.handled.report = .internalFailure step.task.commandId alreadyExecuted
          ↔ order.IsLate past)) := by
  have hreadable : AllOrders (fun order => order.requestedAt.IsReadable) rounds := by
    intro round hround task htask order horder
    obtain ⟨hwhole, hyear⟩ := hdates round hround task htask order horder
    exact ⟨hwhole, .inr hyear⟩
  have hlate := covers_iff_isLate hkeep hreadable
    (fun ingress hingress => habsent ingress (List.mem_of_find?_eq_some hingress)) hsteps
    (Access.ingress?_of_readIngress hread)
  constructor
  · exact (Step.isTurnedAway_iff_covers horder hread).trans hlate
  · intro hfaults
    exact (Step.report_eq_iff_covers horder hread hfaults).trans hlate

end Round

namespace Shop

/-- A set, and a deletion that is half a second older. -/
def sameSecond : List Round :=
  [⟨.none, .none, [.route (setting (moment 1 500000)), .route (deletion (moment 1 0))]⟩]

def settingStep : Step := (setting (moment 1 500000)).delivery cluster

def deletionStep : Step := ⟨.route (deletion (moment 1 0)), settingStep.handled.access⟩

theorem isTurnedAway_iff_isLate_sameSecond :
    (∀ round ∈ sameSecond, round.changes.KeepIngresses) ∧
      Round.AllOrders (fun order =>
        60 ∣ order.requestedAt.offsetSeconds ∧ 1000 ≤ order.requestedAt.day.year) sameSecond ∧
      (∀ ingress ∈ cluster.ingresses, ingress.labels.get? tokenKey = none) ∧
      Round.steps cluster sameSecond = [settingStep] ++ deletionStep :: [] ∧
      deletionStep.task.order? = some ⟨.delete, moment 1 0, key⟩ ∧
      (deletionStep.before.readIngress key).1 = .ok ⟨key, some
        [(tokenKey, "2024-03-01T00:00:01Z"), (policyKey, "basic")]⟩ ∧
      (⟨.delete, moment 1 0, key⟩ : Order).IsLate [settingStep] ∧
      deletionStep.IsTurnedAway key := by
  have hkeep : ∀ round ∈ sameSecond, round.changes.KeepIngresses := by
    intro round hround
    obtain rfl := List.mem_singleton.1 hround
    exact ⟨rfl, rfl⟩
  have hdates : Round.AllOrders (fun order =>
      60 ∣ order.requestedAt.offsetSeconds ∧ 1000 ≤ order.requestedAt.day.year) sameSecond := by
    intro round hround task htask order horder
    obtain rfl := List.mem_singleton.1 hround
    rcases List.mem_pair.1 htask with rfl | rfl
    · obtain rfl := Option.some.inj horder
      decide
    · obtain rfl := Option.some.inj horder
      decide
  have habsent : ∀ ingress ∈ cluster.ingresses, ingress.labels.get? tokenKey = none := by decide
  have hsteps : Round.steps cluster sameSecond = [settingStep] ++ deletionStep :: [] := rfl
  have horder : deletionStep.task.order? = some ⟨.delete, moment 1 0, key⟩ := by decide
  have hlate : (⟨.delete, moment 1 0, key⟩ : Order).IsLate [settingStep] :=
    Order.isLate_iff.2 ⟨settingStep, by simp, ⟨.set "basic", moment 1 500000, key⟩, by decide,
      by decide⟩
  exact ⟨hkeep, hdates, habsent, hsteps, horder, rfl, hlate,
    (Round.isTurnedAway_iff_isLate hkeep hdates habsent hsteps horder rfl).1.2 hlate⟩

end Shop

end PolicyAgent
