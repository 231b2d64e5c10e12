import Mathlib.Logic.Function.Basic
import PolicyAgent.Proofs.History

/-!
# A store in memory

What the store of ingresses does for its callers can be said without a cluster: it keeps
annotations for some ingresses, finds them, and merges patches into them, and there is one answer
about an ingress that it does not have. A fault on the way to a cluster is another matter: one that
says that there is no such ingress should surface in the words of the store, any other one as it is.

The store over a cluster does all this call for call, except for one thing: when a patch is refused
because there is no such ingress, it passes on the words of the cluster and not its own.
-/
namespace PolicyAgent.Cluster

inductive StoreRequest
  | get (key : IngressKey)
  | patch (key : IngressKey) (patch : AnnotationPatch)

def StoreRequest.key : StoreRequest → IngressKey
  | get key => key
  | patch key _ => key

/-- A call of the store, with the fault that it meets on its way, if any. -/
structure StoreCall where
  request : StoreRequest
  fault : Option Fault

/-- What a call that succeeds is answered with; annotations are texts by their names. -/
inductive StoreAnswer
  | found (key : IngressKey) (labels : String → Option String)
  | patched

/-- The answers to calls made one after another, and what the store is like in the end. -/
def answersFrom {σ : Type} (answer : σ → StoreCall → Except Fault StoreAnswer × σ) (s : σ) :
    List StoreCall → List (Except Fault StoreAnswer) × σ
  | [] => ([], s)
  | call :: calls =>
    let (first, next) := answer s call
    let (rest, last) := answersFrom answer next calls
    (first :: rest, last)

namespace State

def storeAnswer (s : State) (call : StoreCall) : Except Fault StoreAnswer × State :=
  let access := Access.start s fun _ _ => call.fault
  match call.request with
  | .get key =>
    let (read, after) := access.readIngress key
    (read.map fun ingress => .found ingress.key ingress.labels.get?, after.state)
  | .patch key patch =>
    let (done, after) := access.patchIngress key patch
    (done.map fun () => .patched, after.state)

def storeAnswers (s : State) (calls : List StoreCall) : List (Except Fault StoreAnswer) × State :=
  answersFrom storeAnswer s calls

theorem storeAnswer_get (s : State) (key : IngressKey) (fault? : Option Fault) :
    s.storeAnswer ⟨.get key, fault?⟩ =
      (match fault?, s.ingress? key with
        | some fault, _ => .error (Access.nameMissing key fault)
        | none, some ingress => .ok (.found ingress.key ingress.labels.get?)
        | none, none => .error (Access.ingressNotFound key), s) := by
  cases fault? with
  | some fault => rfl
  | none =>
    simp only [storeAnswer, Access.readIngress, Access.callRead, Access.perform, Access.fault?,
      Access.start]
    cases s.ingress? key <;> rfl

theorem storeAnswer_patch (s : State) (key : IngressKey) (patch : AnnotationPatch)
    (fault? : Option Fault) :
    s.storeAnswer ⟨.patch key patch, fault?⟩ =
      match fault?, s.ingress? key with
        | some fault, _ => (.error fault, s)
        | none, some _ => (.ok .patched, s.merge key patch)
        | none, none => (.error .unknownObject, s) := by
  cases fault? with
  | some fault => rfl
  | none =>
    simp only [storeAnswer, Access.patchIngress, Access.callPatch, Access.perform, Access.fault?,
      Access.start]
    cases s.ingress? key <;> rfl

end State

abbrev MemoryStore := IngressKey → Option (String → Option String)

namespace MemoryStore

def put (m : MemoryStore) (ingress : Ingress) : MemoryStore :=
  Function.update m ingress.key (some ingress.labels.get?)

/-- A store of these ingresses; of several with one key the last counts. -/
def ofIngresses (ingresses : List Ingress) : MemoryStore := ingresses.foldl put fun _ => none

/-- Annotations with some of them changed; nothing for a name removes it. -/
def mergeLabels (labels : String → Option String) (patch : AnnotationPatch) :
    String → Option String :=
  patch.foldl (fun labels entry => Function.update labels entry.1 entry.2) labels

def serve (m : MemoryStore) : StoreRequest → Except Fault StoreAnswer × MemoryStore
  | .get key =>
    match m key with
    | some labels => (.ok (.found key labels), m)
    | none => (.error (Access.ingressNotFound key), m)
  | .patch key patch =>
    match m key with
    | some labels => (.ok .patched, Function.update m key (some (mergeLabels labels patch)))
    | none => (.error (Access.ingressNotFound key), m)

/-- How a fault on the way to a cluster should surface. -/
def surfaced (request : StoreRequest) (fault : Fault) : Fault :=
  if fault.hasNotFoundStatus then Access.ingressNotFound request.key else fault

/-- What a call should be answered with: it is served unless a fault comes in between. -/
def answer (m : MemoryStore) (call : StoreCall) : Except Fault StoreAnswer × MemoryStore :=
  match call.fault with
  | none => m.serve call.request
  | some fault => (.error (surfaced call.request fault), m)

def answers (m : MemoryStore) (calls : List StoreCall) :
    List (Except Fault StoreAnswer) × MemoryStore :=
  answersFrom answer m calls

/-- The words of a cluster that a patch passes on: they say that there is no such ingress. -/
def rawRefusal? (m : MemoryStore) (call : StoreCall) : Option Fault :=
  match call.request, call.fault with
  | .get _, _ => none
  | .patch _ _, some fault => if fault.hasNotFoundStatus then some fault else none
  | .patch key _, none => if (m key).isSome then none else some .unknownObject

/-- What is answered where a patch passes on the words of a cluster. -/
def rawAnswer (m : MemoryStore) (call : StoreCall) (answer : Except Fault StoreAnswer) :
    Except Fault StoreAnswer :=
  match m.rawRefusal? call with
  | some fault => .error fault
  | none => answer

/-- The store in memory has what the cluster has. -/
def Mirrors (m : MemoryStore) (s : State) : Prop :=
  ∀ key, m key = (s.ingress? key).map (·.labels.get?)

variable {m : MemoryStore} {s : State}

theorem get?_merge (labels : Annotations) (patch : AnnotationPatch) :
    (labels.merge patch).get? = mergeLabels labels.get? patch := by
  unfold Annotations.merge mergeLabels
  induction patch generalizing labels with
  | nil => rfl
  | cons entry patch ih =>
    have hfirst : (labels.change entry).get? = Function.update labels.get? entry.1 entry.2 := by
      funext name
      simp only [Annotations.get?_change, Function.update_apply, eq_comm]
    rw [List.foldl_cons, List.foldl_cons, ih, hfirst]

theorem Mirrors.put (h : m.Mirrors s) (ingress : Ingress) :
    (m.put ingress).Mirrors (s.put ingress) := by
  intro key
  by_cases hkey : ingress.key = key
  · simp [MemoryStore.put, State.ingress?_put, hkey]
  · rw [MemoryStore.put, Function.update_of_ne (Ne.symm hkey), State.ingress?_put, if_neg hkey,
      h key]

theorem Mirrors.foldl_put (h : m.Mirrors s) (ingresses : List Ingress) :
    Mirrors (ingresses.foldl MemoryStore.put m) (ingresses.foldl State.put s) := by
  induction ingresses generalizing m s with
  | nil => exact h
  | cons ingress ingresses ih => exact ih (h.put ingress)

theorem Mirrors.merge (h : m.Mirrors s) {key : IngressKey} {labels : String → Option String}
    (hkey : m key = some labels) (patch : AnnotationPatch) :
    Mirrors (Function.update m key (some (mergeLabels labels patch))) (s.merge key patch) := by
  intro other
  by_cases hother : key = other
  · subst hother
    obtain ⟨ingress, hingress, rfl⟩ := Option.map_eq_some_iff.1 ((h key).symm.trans hkey)
    simp [State.ingress?_merge, hingress, get?_merge]
  · rw [Function.update_of_ne (Ne.symm hother), State.ingress?_merge, if_neg hother, h other]

theorem rawRefusal?_congr {m' : MemoryStore} (h : ∀ key, (m' key).isSome = (m key).isSome)
    (call : StoreCall) : m'.rawRefusal? call = m.rawRefusal? call := by
  obtain ⟨_ | ⟨key, _⟩, _ | fault⟩ := call <;> simp only [rawRefusal?, h]

/-- No call makes or removes an ingress. -/
theorem isSome_answer (m : MemoryStore) (call : StoreCall) (key : IngressKey) :
    ((m.answer call).2 key).isSome = (m key).isSome := by
  obtain ⟨request, _ | fault⟩ := call
  · cases request with
    | get read => cases h : m read <;> simp [answer, serve, h]
    | patch patched patch =>
      cases h : m patched with
      | none => simp [answer, serve, h]
      | some labels => by_cases hkey : key = patched <;> simp [answer, serve, h, hkey]
  · rfl

theorem Mirrors.eq_none (h : m.Mirrors s) {key : IngressKey} (hnone : s.ingress? key = none) :
    m key = none := by
  rw [h key, hnone, Option.map_none]

theorem Mirrors.eq_some (h : m.Mirrors s) {key : IngressKey} {ingress : Ingress}
    (hsome : s.ingress? key = some ingress) : m key = some ingress.labels.get? := by
  rw [h key, hsome, Option.map_some]

/-- A request that meets no fault keeps the two stores alike, and only a patch of an ingress that
is not there is answered in other words. -/
theorem Mirrors.serve (h : m.Mirrors s) (request : StoreRequest) :
    (m.serve request).2.Mirrors (s.storeAnswer ⟨request, none⟩).2 ∧
      (s.storeAnswer ⟨request, none⟩).1 = m.rawAnswer ⟨request, none⟩ (m.serve request).1 := by
  cases request with
  | get key =>
    rw [State.storeAnswer_get]
    cases hfound : s.ingress? key with
    | none =>
      simp only [MemoryStore.serve, h.eq_none hfound]
      exact ⟨h, rfl⟩
    | some ingress =>
      obtain rfl := State.key_of_ingress? hfound
      simp only [MemoryStore.serve, h.eq_some hfound]
      exact ⟨h, rfl⟩
  | patch key patch =>
    rw [State.storeAnswer_patch]
    cases hfound : s.ingress? key with
    | none =>
      simp only [MemoryStore.serve, rawAnswer, rawRefusal?, h.eq_none hfound]
      exact ⟨h, rfl⟩
    | some ingress =>
      simp only [MemoryStore.serve, rawAnswer, rawRefusal?, h.eq_some hfound]
      exact ⟨h.merge (h.eq_some hfound) patch, rfl⟩

/-- A fault changes nothing, and surfaces as it should if it is none of a patch that is refused for
want of the ingress. -/
theorem storeAnswer_fault (m : MemoryStore) (s : State) (request : StoreRequest) (fault : Fault) :
    s.storeAnswer ⟨request, some fault⟩
      = (m.rawAnswer ⟨request, some fault⟩ (.error (surfaced request fault)), s) := by
  cases request with
  | get key => rw [State.storeAnswer_get]; rfl
  | patch key patch =>
    rw [State.storeAnswer_patch]
    by_cases hstatus : fault.hasNotFoundStatus = true <;>
      simp [surfaced, rawAnswer, rawRefusal?, hstatus]

theorem Mirrors.answer (h : m.Mirrors s) (call : StoreCall) :
    (m.answer call).2.Mirrors (s.storeAnswer call).2 ∧
      (s.storeAnswer call).1 = m.rawAnswer call (m.answer call).1 := by
  obtain ⟨request, _ | fault⟩ := call
  · exact h.serve request
  · rw [storeAnswer_fault m s]
    exact ⟨h, rfl⟩

theorem answer_ne_error_of_rawRefusal? {call : StoreCall} {fault : Fault}
    (h : m.rawRefusal? call = some fault) : (m.answer call).1 ≠ .error fault := by
  obtain ⟨_ | ⟨key, patch⟩, _ | planned⟩ := call
  · cases h
  · cases h
  · cases hkey : m key with
    | some labels => simp [rawRefusal?, hkey] at h
    | none =>
      obtain rfl : Fault.unknownObject = fault := by simpa [rawRefusal?, hkey] using h
      simp [MemoryStore.answer, serve, hkey, Access.ingressNotFound, Fault.unknownObject]
  · obtain ⟨hstatus, rfl⟩ : planned.hasNotFoundStatus = true ∧ planned = fault := by
      simpa [rawRefusal?] using h
    have hnamed : (m.answer ⟨.patch key patch, some planned⟩).1
        = .error (Access.ingressNotFound key) := by
      simp [MemoryStore.answer, surfaced, StoreRequest.key, hstatus]
    rw [hnamed]
    rintro ⟨⟩
    cases hstatus

theorem rawAnswer_eq_iff (m : MemoryStore) (call : StoreCall) :
    m.rawAnswer call (m.answer call).1 = (m.answer call).1 ↔ m.rawRefusal? call = none := by
  cases h : m.rawRefusal? call with
  | none => simp [rawAnswer, h]
  | some fault => simpa [rawAnswer, h] using (answer_ne_error_of_rawRefusal? h).symm

/-- What a cluster refuses is settled by the ingresses that there are at the beginning. -/
theorem rawAnswer_after (m : MemoryStore) (call : StoreCall) :
    (m.answer call).2.rawAnswer = m.rawAnswer := by
  funext later answer
  simp only [rawAnswer, rawRefusal?_congr (m.isSome_answer call) later]

theorem Mirrors.answers (h : m.Mirrors s) (calls : List StoreCall) :
    (m.answers calls).2.Mirrors (s.storeAnswers calls).2 ∧
      (s.storeAnswers calls).1 = List.zipWith m.rawAnswer calls (m.answers calls).1 := by
  induction calls generalizing m s with
  | nil => exact ⟨h, rfl⟩
  | cons call calls ih =>
    obtain ⟨hnext, hfirst⟩ := h.answer call
    obtain ⟨hlast, hrest⟩ := ih hnext
    refine ⟨hlast, ?_⟩
    rw [rawAnswer_after] at hrest
    exact congrArg₂ List.cons hfirst hrest

theorem zipWith_rawAnswer_eq_iff (m : MemoryStore) (calls : List StoreCall) :
    List.zipWith m.rawAnswer calls (m.answers calls).1 = (m.answers calls).1 ↔
      ∀ call ∈ calls, m.rawRefusal? call = none := by
  induction calls generalizing m with
  | nil => simp [MemoryStore.answers, answersFrom]
  | cons call calls ih =>
    have hrest := ih (m.answer call).2
    simp only [rawAnswer_after, rawRefusal?_congr (m.isSome_answer call)] at hrest
    simp only [MemoryStore.answers, answersFrom, List.zipWith_cons_cons, List.cons.injEq,
      List.forall_mem_cons, rawAnswer_eq_iff] at hrest ⊢
    rw [hrest]

theorem mirrors_ofIngresses (ingresses : List Ingress) (policies : List String) :
    (ofIngresses ingresses).Mirrors (State.ofLists ingresses policies) := by
  have hempty : Mirrors (fun _ => none) State.empty := fun _ => rfl
  have hput : Mirrors (ofIngresses ingresses) (ingresses.foldl State.put .empty) :=
    hempty.foldl_put ingresses
  -- the policies come after the ingresses, and change none of them
  have hpolicies : (State.ofLists ingresses policies).ingresses
      = (ingresses.foldl State.put .empty).ingresses :=
    @Changes.ingresses_apply ⟨[], [], policies, []⟩ ⟨rfl, rfl⟩ _
  intro key
  rw [hput key, State.ingress?_congr hpolicies]

/-- Over any ingresses and for any calls, whatever faults they meet, the store over a cluster and
the store in memory leave the same annotations and give the same answers, unless a patch is
refused because there is no such ingress: then the store over a cluster passes on its words. -/
theorem answers_ofLists (ingresses : List Ingress) (policies : List String)
    (calls : List StoreCall) :
    let memory := ofIngresses ingresses
    let cluster := State.ofLists ingresses policies
    (memory.answers calls).2.Mirrors (cluster.storeAnswers calls).2 ∧
      (cluster.storeAnswers calls).1
        = List.zipWith memory.rawAnswer calls (memory.answers calls).1 ∧
      ((cluster.storeAnswers calls).1 = (memory.answers calls).1 ↔
        ∀ call ∈ calls, memory.rawRefusal? call = none) := by
  intro memory cluster
  obtain ⟨hlast, hanswers⟩ := (mirrors_ofIngresses ingresses policies).answers calls
  refine ⟨hlast, hanswers, ?_⟩
  rw [hanswers]
  exact zipWith_rawAnswer_eq_iff memory calls

/-- A patch of an ingress that does not exist tells the two stores apart. -/
theorem not_forall_answers_eq : ¬ ∀ (ingresses : List Ingress) (policies : List String)
    (calls : List StoreCall), ((State.ofLists ingresses policies).storeAnswers calls).1
      = ((ofIngresses ingresses).answers calls).1 := by
  intro h
  have hpatch := h [] [] [⟨.patch ⟨"web", "shop"⟩ [("a", some "b")], none⟩]
  nomatch hpatch

end MemoryStore

end PolicyAgent.Cluster
