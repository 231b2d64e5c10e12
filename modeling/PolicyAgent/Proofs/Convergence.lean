import PolicyAgent.Proofs.Staleness

/-!
# Convergence

Commands for one ingress whose dates are different whole seconds settle on the newest of them
that can be carried out. In which order they come, how often, and in which cycles makes no
difference: the newest one is carried out once it comes, unless it was before, and after it
nothing is.
-/
namespace PolicyAgent

open PolicyAgent.Cluster PolicyAgent.Time

theorem Order.isPossible_iff {order : Order} {s : State} :
    order.IsPossible s ↔ order.change.policy?.all s.hasPolicy = true := by
  cases h : order.change <;> simp [IsPossible, h, Change.policy?]

instance (order : Order) (s : State) : Decidable (order.IsPossible s) :=
  decidable_of_iff _ Order.isPossible_iff.symm

namespace Command

/-- The deletions among some commands, and the sets of policies that exist. -/
def possibleOrders (s : State) (commands : List Command) : List Order :=
  (commands.filterMap (·.order?)).filter (·.IsPossible s)

def newestOrder? (s : State) (commands : List Command) : Option Order :=
  (possibleOrders s commands).maxOn? (·.requestedAt.instant)

theorem newestOrder?_eq_none_iff {s : State} {commands : List Command} :
    newestOrder? s commands = none ↔ possibleOrders s commands = [] := by
  rw [← Option.not_isSome_iff_eq_none, newestOrder?, List.isSome_maxOn?_iff, ne_eq, not_not]

theorem mem_of_newestOrder? {s : State} {commands : List Command} {order : Order}
    (h : newestOrder? s commands = some order) : order ∈ possibleOrders s commands :=
  List.maxOn?_mem h

theorem le_of_newestOrder? {s : State} {commands : List Command} {order other : Order}
    (h : newestOrder? s commands = some order) (hmem : other ∈ possibleOrders s commands) :
    other.requestedAt.instant ≤ order.requestedAt.instant := by
  unfold newestOrder? at h
  have hle := List.le_apply_get_maxOn?_of_mem (f := fun order => order.requestedAt.instant) hmem
  simpa only [h, Option.get_some] using hle

theorem newestOrder?_congr {s s' : State} (h : ∀ policy, s.hasPolicy policy = s'.hasPolicy policy)
    (commands : List Command) : newestOrder? s commands = newestOrder? s' commands := by
  have hpossible (order : Order) : order.IsPossible s ↔ order.IsPossible s' := by
    simp [Order.IsPossible, h]
  simp [newestOrder?, possibleOrders, hpossible]

/-- Commands for one ingress, of different instants that a token keeps. -/
structure Compete (key : IngressKey) (commands : List Command) : Prop where
  forIngress : ∀ c ∈ commands, ∃ order, c.order? = some order ∧ order.key = key
  distinct : ∀ c ∈ commands, ∀ d ∈ commands, c.createdAt.instant = d.createdAt.instant → c = d
  dates : ∀ c ∈ commands, c.createdAt.time.micro = 0 ∧ 60 ∣ c.createdAt.offsetSeconds ∧
    1000 ≤ c.createdAt.day.year

namespace Compete

variable {key : IngressKey} {commands : List Command} {order other : Order}

theorem key_eq (h : Compete key commands) (hmem : order ∈ commands.filterMap (·.order?)) :
    order.key = key := by
  obtain ⟨c, hc, horder⟩ := List.mem_filterMap.1 hmem
  obtain ⟨order', horder', hkey⟩ := h.forIngress c hc
  rw [Option.some.inj (horder.symm.trans horder'), hkey]

theorem date (h : Compete key commands) (hmem : order ∈ commands.filterMap (·.order?)) :
    order.requestedAt.IsReadable ∧
      order.requestedAt.truncate.instant = order.requestedAt.instant := by
  obtain ⟨c, hc, horder⟩ := List.mem_filterMap.1 hmem
  obtain ⟨hdate, -⟩ := of_order? horder
  obtain ⟨hmicro, hwhole, hyear⟩ := h.dates c hc
  rw [hdate]
  exact ⟨⟨hwhole, .inr hyear⟩, Timestamp.instant_truncate_of_micro hmicro⟩

theorem eq_of_instant (h : Compete key commands) (hmem : order ∈ commands.filterMap (·.order?))
    (hmem' : other ∈ commands.filterMap (·.order?))
    (heq : order.requestedAt.instant = other.requestedAt.instant) : order = other := by
  obtain ⟨c, hc, horder⟩ := List.mem_filterMap.1 hmem
  obtain ⟨d, hd, hother⟩ := List.mem_filterMap.1 hmem'
  rw [(of_order? horder).1, (of_order? hother).1] at heq
  obtain rfl := h.distinct c hc d hd heq
  exact Option.some.inj (horder.symm.trans hother)

end Compete

end Command

/-- Cycles without faults, and with nothing else going on in the cluster, that list some
commands and all of them. -/
structure Delivers (commands : List Command) (visits : List Visit) : Prop where
  faults : ∀ visit ∈ visits, visit.faults = FaultPlan.none
  changes : ∀ visit ∈ visits, visit.changes = Changes.none
  listed : ∀ visit ∈ visits, ∀ c ∈ visit.listed, c ∈ commands
  complete : ∀ c ∈ commands, ∃ visit ∈ visits, c ∈ visit.listed

namespace Delivers

variable {commands : List Command} {visits : List Visit} {step : Step} {key : IngressKey}
  {order : Order} {s : State}

theorem keepIngresses (h : Delivers commands visits) :
    ∀ visit ∈ visits, visit.changes.KeepIngresses := by
  intro visit hvisit
  rw [h.changes visit hvisit]
  exact ⟨rfl, rfl⟩

theorem history (h : Delivers commands visits) (s : State) :
    History s (Visit.steps s visits) (Watch.lastState s (Visit.cycles s visits)) :=
  Visit.history h.keepIngresses s

theorem before (h : Delivers commands visits) (hmem : step ∈ Visit.steps s visits) :
    step.before.faults = FaultPlan.none ∧ step.before.state.policies = s.policies := by
  refine (Round.invariant (I := fun s' => s'.policies = s.policies)
    (P := fun access => access.faults = FaultPlan.none ∧ access.state.policies = s.policies)
    ?_ ?_ ?_ rfl).1 step hmem
  · intro round hround s' hs'
    obtain ⟨visit, hvisit, rfl⟩ := List.mem_map.1 hround
    refine ⟨h.faults visit hvisit, ?_⟩
    simpa [Round.start, Access.start, Visit.round, h.changes visit hvisit] using hs'
  · intro step hbefore
    exact ⟨step.faults_after.trans hbefore.1, step.sameObjects_after.2.trans hbefore.2⟩
  · intro access haccess
    exact haccess.2

theorem mem_orders (h : Delivers commands visits) (hmem : step ∈ Visit.steps s visits)
    (horder : step.task.order? = some order) : order ∈ commands.filterMap (·.order?) := by
  obtain ⟨visit, hvisit, c, hc, htask⟩ := Visit.exists_listed_of_mem_steps hmem
  rw [htask] at horder
  exact List.mem_filterMap.2 ⟨c, h.listed visit hvisit c hc, horder⟩

theorem mem_possibleOrders (h : Delivers commands visits) (hmem : step ∈ Visit.steps s visits)
    (hsuccess : step.success? key = some order) : order ∈ Command.possibleOrders s commands := by
  obtain ⟨-, horder, -⟩ := Step.success?_eq_some_iff.1 hsuccess
  obtain ⟨-, -, -, hpossible, -⟩ := Step.of_success? hsuccess
  have hpossible' := hpossible.of_policies (h.before hmem).2.symm
  exact List.mem_filter.2 ⟨h.mem_orders hmem horder, decide_eq_true hpossible'⟩

section

variable (h : Delivers commands visits) (hcompete : Command.Compete key commands)

include h hcompete

theorem isReadable_of_success? (hmem : step ∈ Visit.steps s visits)
    (hsuccess : step.success? key = some order) : order.requestedAt.IsReadable := by
  obtain ⟨-, horder, -⟩ := Step.success?_eq_some_iff.1 hsuccess
  exact (hcompete.date (h.mem_orders hmem horder)).1

theorem le_of_covers {past rest : List Step} {ingress left : Ingress}
    (hingress : s.ingress? key = some ingress) (habsent : ingress.labels.get? tokenKey = none)
    (hsteps : Visit.steps s visits = past ++ step :: rest) (hkey : order.key = key)
    (hleft : step.before.state.ingress? key = some left)
    (hcovers : (Token.ofAnnotations left.labels).covers order.requestedAt = true) :
    ∃ earlier ∈ Visit.steps s visits, ∃ applied, earlier.success? key = some applied ∧
      order.requestedAt.instant ≤ applied.requestedAt.instant := by
  subst hkey
  have hpast {earlier : Step} (hearlier : earlier ∈ past) : earlier ∈ Visit.steps s visits := by
    rw [hsteps]
    exact List.mem_append_left _ hearlier
  have hhistory := h.history s
  rw [hsteps] at hhistory
  have hlate := hhistory.before.covers_iff_isLate
    (fun _ hsame => Option.some.inj (hingress.symm.trans hsame) ▸ habsent)
    (fun earlier hearlier _ => h.isReadable_of_success? hcompete (hpast hearlier)) hleft
  obtain ⟨earlier, hearlier, applied, hsuccess, hle⟩ := Order.isLate_iff.1 (hlate.1 hcovers)
  have horders := List.mem_filter.1 (h.mem_possibleOrders (hpast hearlier) hsuccess)
  rw [(hcompete.date horders.1).2] at hle
  exact ⟨earlier, hpast hearlier, applied, hsuccess, hle⟩

/-- The newest order is carried out: when it comes it is fresh, or it was carried out before. -/
theorem exists_success?_of_newest {ingress : Ingress} (hingress : s.ingress? key = some ingress)
    (habsent : ingress.labels.get? tokenKey = none)
    (hnewest : Command.newestOrder? s commands = some order) :
    ∃ step ∈ Visit.steps s visits, step.success? key = some order := by
  have hmem := Command.mem_of_newestOrder? hnewest
  obtain ⟨horders, hpossible⟩ := List.mem_filter.1 hmem
  obtain ⟨c, hc, horder⟩ := List.mem_filterMap.1 horders
  obtain ⟨visit, hvisit, hlisted⟩ := h.complete c hc
  obtain ⟨step, hstep, htask⟩ := Visit.exists_step_of_mem_listed hvisit hlisted s
  have hkey := hcompete.key_eq horders
  obtain ⟨past, rest, hsteps⟩ := List.append_of_mem hstep
  have hhistory := h.history s
  rw [hsteps] at hhistory
  obtain ⟨left, hleft⟩ := (hhistory.before.leftBy key).exists_after hingress
  cases hcovers : (Token.ofAnnotations left.labels).covers order.requestedAt with
  | true =>
    obtain ⟨earlier, hearlier, applied, hsuccess, hle⟩ :=
      h.le_of_covers hcompete hingress habsent hsteps hkey hleft hcovers
    have happlied := h.mem_possibleOrders hearlier hsuccess
    have hge := Command.le_of_newestOrder? hnewest happlied
    obtain rfl := hcompete.eq_of_instant horders (List.mem_filter.1 happlied).1 (hle.antisymm hge)
    exact ⟨earlier, hearlier, hsuccess⟩
  | false =>
    obtain ⟨hfaults, hpolicies⟩ := h.before hstep
    have horder' : step.task.order? = some order := by rw [htask]; exact horder
    subst hkey
    exact ⟨step, hstep, Step.success?_of_fresh horder' hfaults hleft hcovers
      ((of_decide_eq_true hpossible).of_policies hpolicies)⟩

theorem lastSuccess?_eq {ingress : Ingress} (hingress : s.ingress? key = some ingress)
    (habsent : ingress.labels.get? tokenKey = none) :
    lastSuccess? key (Visit.steps s visits) = Command.newestOrder? s commands := by
  cases hnewest : Command.newestOrder? s commands with
  | none =>
    have hnone := Command.newestOrder?_eq_none_iff.1 hnewest
    by_contra hlast
    obtain ⟨last, hlast⟩ := Option.ne_none_iff_exists'.1 hlast
    obtain ⟨step, hmem, hsuccess⟩ := mem_of_lastSuccess? hlast
    have hpossible := h.mem_possibleOrders hmem hsuccess
    simp [hnone] at hpossible
  | some newest =>
    obtain ⟨step, hmem, hsuccess⟩ := h.exists_success?_of_newest hcompete hingress habsent hnewest
    obtain ⟨last, hlast, hle⟩ := (h.history s).le_lastSuccess? hmem hsuccess
      fun step hstep applied => h.isReadable_of_success? hcompete hstep
    obtain ⟨step', hmem', hsuccess'⟩ := mem_of_lastSuccess? hlast
    have hpossible := h.mem_possibleOrders hmem hsuccess
    have hpossible' := h.mem_possibleOrders hmem' hsuccess'
    have hge := Command.le_of_newestOrder? hnewest hpossible'
    have horder := (List.mem_filter.1 hpossible).1
    have horder' := (List.mem_filter.1 hpossible').1
    rw [(hcompete.date horder).2, (hcompete.date horder').2] at hle
    rw [hlast, hcompete.eq_of_instant horder horder' (hle.antisymm hge)]

theorem leftBy_newest {ingress : Ingress} (hingress : s.ingress? key = some ingress)
    (habsent : ingress.labels.get? tokenKey = none) :
    LeftBy (Command.newestOrder? s commands) (s.ingress? key)
      ((Watch.lastState s (Visit.cycles s visits)).ingress? key) := by
  rw [← h.lastSuccess?_eq hcompete hingress habsent]
  exact (h.history s).leftBy key

end

end Delivers

/-- Two runs that deliver the same commands leave the same annotations: those of the newest order
that can be carried out, laid over what was there. -/
theorem Delivers.converge {commands : List Command} {key : IngressKey}
    (hcompete : Command.Compete key commands) {s s' : State} {ingress : Ingress}
    (hingress : s.ingress? key = some ingress) (hingress' : s'.ingress? key = some ingress)
    (habsent : ingress.labels.get? tokenKey = none)
    (hpolicies : ∀ policy, s.hasPolicy policy = s'.hasPolicy policy) {visits visits' : List Visit}
    (h : Delivers commands visits) (h' : Delivers commands visits') :
    ∃ left left', (Watch.lastState s (Visit.cycles s visits)).ingress? key = some left ∧
      (Watch.lastState s' (Visit.cycles s' visits')).ingress? key = some left' ∧
      left.SameAnnotations left' ∧
      LeftBy (Command.newestOrder? s commands) (some ingress) (some left) := by
  have hleft := h.leftBy_newest hcompete hingress habsent
  have hleft' := h'.leftBy_newest hcompete hingress' habsent
  obtain ⟨left, heq⟩ := hleft.exists_after hingress
  obtain ⟨left', heq'⟩ := hleft'.exists_after hingress'
  rw [hingress, heq] at hleft
  rw [hingress', heq', ← Command.newestOrder?_congr hpolicies] at hleft'
  exact ⟨left, left', heq, heq', hleft.sameAnnotations hleft', hleft⟩

namespace Shop

/-- A set, a newer deletion, and a still newer set of a policy that does not exist. -/
def competing : List Command :=
  [setting (moment 1 0), deletion (moment 2 0), .ofChange (.set "none") "3" (moment 3 0) ingressId]

def together : List Visit := [.delivering competing]

def apart : List Visit :=
  [.delivering [.ofChange (.set "none") "3" (moment 3 0) ingressId, deletion (moment 2 0)],
    .delivering [deletion (moment 2 0), setting (moment 1 0)]]

theorem compete_competing : Command.Compete key competing where
  forIngress := by
    intro c hc
    simp only [competing, List.mem_cons, List.not_mem_nil, or_false] at hc
    rcases hc with rfl | rfl | rfl
    · exact ⟨⟨.set "basic", moment 1 0, key⟩, by decide, rfl⟩
    · exact ⟨⟨.delete, moment 2 0, key⟩, by decide, rfl⟩
    · exact ⟨⟨.set "none", moment 3 0, key⟩, by decide, rfl⟩
  distinct := by
    intro c hc d hd heq
    simp only [competing, List.mem_cons, List.not_mem_nil, or_false] at hc hd
    rcases hc with rfl | rfl | rfl <;> rcases hd with rfl | rfl | rfl <;>
      first | rfl | exact absurd heq (by decide)
  dates := by decide

theorem delivers_together : Delivers competing together where
  faults := by simp [together]
  changes := by simp [together]
  listed := by simp [together]
  complete := by simp [together]

theorem delivers_apart : Delivers competing apart where
  faults := by simp [apart]
  changes := by simp [apart]
  listed := by simp [apart, competing]
  complete := by simp [apart, competing]

/-- Either way the deletion comes out on top. -/
theorem converge_competing :
    Command.Compete key competing ∧ cluster.ingress? key = some ⟨key, none⟩ ∧
      Annotations.get? (Ingress.labels ⟨key, none⟩) tokenKey = none ∧
      Delivers competing together ∧ Delivers competing apart ∧
      Command.newestOrder? cluster competing = some ⟨.delete, moment 2 0, key⟩ ∧
      ∃ left left',
        (Watch.lastState cluster (Visit.cycles cluster together)).ingress? key = some left ∧
        (Watch.lastState cluster (Visit.cycles cluster apart)).ingress? key = some left' ∧
        left.SameAnnotations left' ∧
        LeftBy (Command.newestOrder? cluster competing) (some ⟨key, none⟩) (some left) :=
  ⟨compete_competing, by decide, by decide, delivers_together, delivers_apart, by decide,
    Delivers.converge compete_competing (by decide) (by decide) (by decide) (fun _ => rfl)
      delivers_together delivers_apart⟩

end Shop

end PolicyAgent
