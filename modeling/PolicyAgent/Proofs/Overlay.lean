import PolicyAgent.Proofs.History

/-!
# What a run leaves behind

A success lays the two annotations of its order over an ingress, and the next success for the
ingress lays its own over them. So an ingress shows the last success of a run for it and,
besides, what it had at the beginning; an ingress without a success is as it was. No run makes
or removes an ingress or a policy.
-/
namespace PolicyAgent

open PolicyAgent.Cluster PolicyAgent.Time

/-- The ingress behind an order: the token and the policy are those of the order, and all other
annotations are as they were. -/
structure Order.Overlays (order : Order) (before after : Ingress) : Prop where
  key : after.key = before.key
  isSome : after.annotations.isSome
  token : after.labels.get? tokenKey = some order.requestedAt.rfc3339
  policy : after.labels.get? policyKey = order.change.policy?
  other : ∀ name, name ≠ tokenKey → name ≠ policyKey →
    after.labels.get? name = before.labels.get? name

/-- What becomes of an ingress if the last order that was carried out for it is as given. -/
def LeftBy (last : Option Order) (before after : Option Ingress) : Prop :=
  match last with
  | none => after = before
  | some order => ∃ ingress left, before = some ingress ∧ after = some left ∧
      order.Overlays ingress left

theorem leftBy_some {order : Order} {ingress left : Ingress} :
    LeftBy (some order) (some ingress) (some left) ↔ order.Overlays ingress left := by
  simp [LeftBy]

/-- The last order that some steps carried out for an ingress. -/
def lastSuccess? (key : IngressKey) (steps : List Step) : Option Order :=
  (steps.filterMap (·.success? key)).getLast?

theorem lastSuccess?_concat (key : IngressKey) (past : List Step) (step : Step) :
    lastSuccess? key (past ++ [step]) = (step.success? key).or (lastSuccess? key past) := by
  unfold lastSuccess?
  cases h : step.success? key <;> simp [h]

theorem mem_of_lastSuccess? {key : IngressKey} {steps : List Step} {order : Order}
    (h : lastSuccess? key steps = some order) : ∃ step ∈ steps, step.success? key = some order :=
  List.mem_filterMap.1 (List.mem_of_getLast? h)

theorem exists_lastSuccess? {key : IngressKey} {steps : List Step} {step : Step} {order : Order}
    (hmem : step ∈ steps) (h : step.success? key = some order) :
    ∃ last, lastSuccess? key steps = some last := by
  have hne : steps.filterMap (·.success? key) ≠ [] :=
    List.ne_nil_of_mem (List.mem_filterMap.2 ⟨step, hmem, h⟩)
  exact ⟨_, List.getLast?_eq_some_getLast hne⟩

theorem Annotations.get?_merge_tokenPatch (annotations : Annotations) (requestedAt : Timestamp)
    (policy : Option String) (name : String) :
    Annotations.get? (Annotations.merge annotations (tokenPatch requestedAt policy)) name
      = if policyKey = name then policy
        else if tokenKey = name then some requestedAt.rfc3339
        else Annotations.get? annotations name := by
  simp only [Annotations.merge, tokenPatch, List.foldl_cons, List.foldl_nil,
    Annotations.get?_change]

theorem tokenKey_ne_policyKey : tokenKey ≠ policyKey := by decide

namespace Order

variable {order next : Order} {ingress first second : Ingress}

theorem overlays_merge (order : Order) (ingress : Ingress) :
    order.Overlays ingress (ingress.merge order.patch) := by
  have hget (name : String) := Annotations.get?_merge_tokenPatch ingress.labels order.requestedAt
    order.change.policy? name
  refine ⟨rfl, rfl, ?_, ?_, ?_⟩
  · exact (hget tokenKey).trans (by simp [tokenKey_ne_policyKey.symm])
  · exact (hget policyKey).trans (by simp)
  · intro name htoken hpolicy
    exact (hget name).trans (by simp [Ne.symm htoken, Ne.symm hpolicy])

theorem Overlays.trans (h : order.Overlays ingress first) (h' : next.Overlays first second) :
    next.Overlays ingress second := by
  refine ⟨h'.key.trans h.key, h'.isSome, h'.token, h'.policy, ?_⟩
  intro name htoken hpolicy
  exact (h'.other name htoken hpolicy).trans (h.other name htoken hpolicy)

end Order

theorem LeftBy.trans {first second : Option Order} {before between after : Option Ingress}
    (h : LeftBy first before between) (h' : LeftBy second between after) :
    LeftBy (second.or first) before after := by
  cases second with
  | none => exact h'.symm ▸ h
  | some order =>
    obtain ⟨ingress', left, rfl, rfl, hover'⟩ := h'
    cases first with
    | none => exact ⟨ingress', left, h.symm, rfl, hover'⟩
    | some order =>
      obtain ⟨ingress, _, rfl, heq, hover⟩ := h
      obtain rfl := Option.some.inj heq
      exact ⟨ingress, left, rfl, rfl, hover.trans hover'⟩

theorem LeftBy.exists_after {last : Option Order} {before after : Option Ingress}
    {ingress : Ingress} (h : LeftBy last before after) (hbefore : before = some ingress) :
    ∃ left, after = some left := by
  cases last with
  | none => exact ⟨ingress, Eq.trans h hbefore⟩
  | some order =>
    obtain ⟨_, left, -, hleft, -⟩ := h
    exact ⟨left, hleft⟩

theorem Step.leftBy (step : Step) (key : IngressKey) :
    LeftBy (step.success? key) (step.before.state.ingress? key) (step.after.ingress? key) := by
  cases h : step.success? key with
  | none => exact Step.ingress?_after_of_success?_eq_none h
  | some order =>
    obtain ⟨ingress, hbefore, -, -, hafter⟩ := Step.of_success? h
    exact ⟨ingress, _, hbefore, hafter, order.overlays_merge ingress⟩

theorem History.leftBy {s s' : State} {steps : List Step} (h : History s steps s')
    (key : IngressKey) : LeftBy (lastSuccess? key steps) (s.ingress? key) (s'.ingress? key) := by
  induction h with
  | start h => exact State.ingress?_congr h key
  | @step past step s' _ h ih =>
    rw [State.ingress?_congr h key, lastSuccess?_concat]
    exact ih.trans (step.leftBy key)

def Cluster.Ingress.SameAnnotations (ingress other : Ingress) : Prop :=
  ingress.annotations.isSome = other.annotations.isSome ∧
    ∀ name, ingress.labels.get? name = other.labels.get? name

theorem Order.Overlays.sameAnnotations {order : Order} {ingress left left' : Ingress}
    (h : order.Overlays ingress left) (h' : order.Overlays ingress left') :
    left.SameAnnotations left' := by
  refine ⟨h.isSome.trans h'.isSome.symm, ?_⟩
  intro name
  by_cases htoken : name = tokenKey
  · rw [htoken, h.token, h'.token]
  · by_cases hpolicy : name = policyKey
    · rw [hpolicy, h.policy, h'.policy]
    · rw [h.other name htoken hpolicy, h'.other name htoken hpolicy]

theorem LeftBy.sameAnnotations {last : Option Order} {ingress left left' : Ingress}
    (h : LeftBy last (some ingress) (some left)) (h' : LeftBy last (some ingress) (some left')) :
    left.SameAnnotations left' := by
  cases last with
  | none =>
    obtain rfl := Option.some.inj h
    obtain rfl := Option.some.inj h'
    exact ⟨rfl, fun _ => rfl⟩
  | some order => exact (leftBy_some.1 h).sameAnnotations (leftBy_some.1 h')

def Cluster.State.SameObjects (s s' : State) : Prop :=
  s'.ingresses.map (·.key) = s.ingresses.map (·.key) ∧ s'.policies = s.policies

theorem Cluster.State.map_key_putIngress {ingress : Ingress} {list : List Ingress}
    (h : ingress.key ∈ list.map (·.key)) :
    (State.putIngress ingress list).map (·.key) = list.map (·.key) := by
  induction list with
  | nil => simp at h
  | cons other rest ih =>
    unfold putIngress
    split_ifs with hkey
    · rw [List.map_cons, List.map_cons, hkey]
    · rw [List.map_cons, List.map_cons, ih]
      exact (List.mem_cons.1 h).resolve_left (Ne.symm hkey)

theorem Cluster.State.sameObjects_merge (s : State) (key : IngressKey) (patch : AnnotationPatch) :
    s.SameObjects (s.merge key patch) := by
  refine ⟨?_, policies_merge s key patch⟩
  unfold merge
  split
  · rename_i ingress h
    exact map_key_putIngress (List.mem_map.2 ⟨ingress, List.mem_of_find?_eq_some h, rfl⟩)
  · rfl

theorem Step.sameObjects_after (step : Step) : step.before.state.SameObjects step.after := by
  by_cases hstatus : step.handled.report.status = .success
  · obtain ⟨order, horder⟩ := order?_of_success hstatus
    obtain ⟨_, -, -, -, hafter⟩ := (outcome horder).state_of_success hstatus
    rw [after, hafter]
    exact State.sameObjects_merge _ order.key order.patch
  · rw [after_of_ne_success hstatus]
    exact ⟨rfl, rfl⟩

namespace Round

variable {rounds : List Round}

theorem sameObjects_final (h : ∀ round ∈ rounds, round.changes = Changes.none) (s : State) :
    s.SameObjects (final s rounds) := by
  refine (invariant (P := fun access => s.SameObjects access.state) ?_ ?_ ?_ ⟨rfl, rfl⟩).2
  · intro round hround s' hs'
    rw [start, h round hround]
    exact hs'
  · intro step hbefore
    have hafter := step.sameObjects_after
    exact ⟨hafter.1.trans hbefore.1, hafter.2.trans hbefore.2⟩
  · intro access haccess
    exact haccess

/-- The reports of a run tell what it did to the cluster: each ingress is left by the last
success for it, a failure changes nothing, and nothing is made or removed. -/
theorem reports_tell_final (h : ∀ round ∈ rounds, round.changes = Changes.none) (s : State) :
    (∀ key, LeftBy (lastSuccess? key (steps s rounds)) (s.ingress? key)
        ((final s rounds).ingress? key)) ∧
      (∀ step ∈ steps s rounds, step.handled.report.status = .failure →
        step.after = step.before.state) ∧
      s.SameObjects (final s rounds) := by
  have hkeep : ∀ round ∈ rounds, round.changes.KeepIngresses := by
    intro round hround
    rw [h round hround]
    exact ⟨rfl, rfl⟩
  refine ⟨(Round.history hkeep s).leftBy, ?_, sameObjects_final h s⟩
  intro step _ hfailure
  exact step.after_of_ne_success (by simp [hfailure])

end Round

namespace Shop

def key : IngressKey := ⟨"web", "shop"⟩

def ingressId : String := "web@shop.ingress.networking"

def cluster : State := ⟨[⟨key, none⟩], ["basic"]⟩

def moment (second micro : Nat) : Timestamp :=
  ⟨⟨2024, 3, 1, by decide, by decide, by decide, by decide, by decide, by decide⟩,
    .ofMicros (second * 1000000 + micro), some .utc⟩

def setting (t : Timestamp) : Command := .ofChange (.set "basic") "1" t ingressId

def deletion (t : Timestamp) : Command := .ofChange .delete "2" t ingressId

/-- A set and an older deletion, and then a deletion that the cluster refuses. -/
def rounds : List Round :=
  [⟨.none, .none, [.route (setting (moment 1 0)), .handle .delete "3" (moment 0 0) ingressId]⟩,
  ⟨.none, fun kind _ => if kind = .patch then some (.refused 500 none none) else none,
    [.route (deletion (moment 2 0))]⟩]

/-- The set is what the reports tell to have been done last. -/
theorem reports_tell_final_rounds :
    (∀ round ∈ rounds, round.changes = Changes.none) ∧
      lastSuccess? key (Round.steps cluster rounds) = some ⟨.set "basic", moment 1 0, key⟩ ∧
      (∀ key, LeftBy (lastSuccess? key (Round.steps cluster rounds)) (cluster.ingress? key)
        ((Round.final cluster rounds).ingress? key)) ∧
      (∀ step ∈ Round.steps cluster rounds, step.handled.report.status = .failure →
        step.after = step.before.state) ∧
      cluster.SameObjects (Round.final cluster rounds) := by
  have hchanges : ∀ round ∈ rounds, round.changes = Changes.none := by simp [rounds]
  exact ⟨hchanges, by decide, Round.reports_tell_final hchanges cluster⟩

end Shop

end PolicyAgent
