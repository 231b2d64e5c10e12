import PolicyAgent.Agent
import PolicyAgent.Proofs.Posting
import PolicyAgent.Proofs.Schedule.Endings

/-!
# The life of the agent

The agent either refuses its settings, and then it has done nothing at all: it has not looked for
credentials, sent no request and made no call. Or it goes on to its credentials and its client, and
once it has both it watches until a signal stops it. Whatever the platform and the cluster answer,
nothing in a cycle ends it, except that a cycle may miss so many ticks that their number is out of
range. However the watching ends, the handlers of signals are removed and the client is closed,
once.
-/
namespace PolicyAgent

open PolicyAgent.Cluster PolicyAgent.Platform PolicyAgent.Schedule

namespace Visit

theorem length_cycles (state : State) (visits : List Visit) :
    (cycles state visits).length = visits.length := by
  induction visits generalizing state with
  | nil => rfl
  | cons visit rest ih => exact congrArg Nat.succ (ih _)

def spans (state : State) (visits : List Visit) : List (Span Float) :=
  visits.zipWith span (cycles state visits)

theorem map_request_spans (state : State) (visits : List Visit) :
    (spans state visits).map (·.request) = visits.map (·.request) := by
  induction visits generalizing state with
  | nil => rfl
  | cons visit rest ih => exact congrArg (visit.request :: ·) (ih _)

theorem length_spans (state : State) (visits : List Visit) :
    (spans state visits).length = visits.length := by
  simpa using congrArg List.length (map_request_spans state visits)

end Visit

namespace Watch

/-- What is behind the ending of watching over some visits: a stop that was asked for before or in
one of the cycles that ran, a number of ticks that cannot be counted, or that the visits are over
and none but the last asked for a stop. -/
structure EndsFor (watch : Watch) (interval : Float) (stop : Stop Float) (visits : List Visit) :
    Prop where
  stopped : watch.ending = .stopped → stop.HasCome watch.ended ∨
    ∃ visit ∈ visits.take watch.beats.length, visit.request ≠ .none
  failed : ∀ e, watch.ending = .failed e ↔
    ∃ c, (∃ beat ∈ watch.beats, beat.1.Uncounted interval c) ∧ .count c = e
  unfinished : watch.ending = .unfinished → watch.beats.length = visits.length ∧
    ∀ visit ∈ visits.dropLast, visit.request = .none

section

variable {interval : Float} (hinterval : isTooShort interval = false) (stop : Stop Float)
  (start : Float) (visits : List Visit) (state : State)

include hinterval

theorem exists_runs : ∃ trace,
    Runs interval stop start (Timeline.plus start interval) (Visit.spans state visits) trace ∧
      (run interval stop start visits state).beats.map (·.1) = trace.beats ∧
      (run interval stop start visits state).ended = trace.ended ∧
      (run interval stop start visits state).ending = trace.ending.mapError .count := by
  have hruns := runs_runFrom interval stop start (Timeline.plus start interval)
    (Visit.spans state visits)
  refine ⟨_, hruns, ?_⟩
  simp only [run, hinterval, Bool.false_eq_true, if_false]
  refine ⟨List.map_fst_zip ?_, rfl, rfl⟩
  rw [Visit.length_cycles, ← Visit.length_spans state visits]
  exact hruns.length_le

theorem run_endsFor : (run interval stop start visits state).EndsFor interval stop visits := by
  obtain ⟨trace, hruns, hbeats, hended, hending⟩ :=
    exists_runs hinterval stop start visits state
  generalize run interval stop start visits state = watch at *
  have hlength : trace.beats.length = watch.beats.length := by rw [← hbeats, List.length_map]
  have hrequests := Visit.map_request_spans state visits
  refine ⟨fun h => ?_, fun e => ?_, fun h => ?_⟩
  · rw [hending, Ending.mapError_eq_stopped_iff] at h
    rw [hended, ← hlength]
    refine (hruns.cause h).imp_right fun ⟨span, hspan, hasked⟩ => ?_
    have hmem : span.request ∈ (visits.take trace.beats.length).map (·.request) := by
      rw [List.map_take, ← hrequests, ← List.map_take]
      exact List.mem_map_of_mem hspan
    obtain ⟨visit, hvisit, heq⟩ := List.mem_map.1 hmem
    exact ⟨visit, hvisit, heq ▸ hasked⟩
  · simp [hending, hruns.failed_iff, nextTick_eq_error_iff, ← hbeats]
  · rw [hending, Ending.mapError_eq_unfinished_iff] at h
    obtain ⟨hall, hcalm⟩ := hruns.of_unfinished h
    refine ⟨by rw [← hlength, hall, Visit.length_spans], fun visit hvisit => ?_⟩
    have hmem : visit.request ∈ (Visit.spans state visits).dropLast.map (·.request) := by
      rw [List.map_dropLast, hrequests, ← List.map_dropLast]
      exact List.mem_map_of_mem hvisit
    obtain ⟨span, hspan, heq⟩ := List.mem_map.1 hmem
    exact heq ▸ hcalm span hspan

end

end Watch

namespace Schedule

/-- Only NaN and the infinities are next to no whole number. -/
theorem exists_wholeOfFloat_eq_error_iff (x : Float) :
    (∃ e, wholeOfFloat x = .error e) ↔ (Decimal.Binary64.ofFloat x).toRat? = none := by
  unfold wholeOfFloat Decimal.Binary64.toRat?
  cases Decimal.Binary64.ofFloat x <;> simp

/-- The number of ticks that a cycle missed, as the clock computes it. -/
def Beat.missed (interval : Float) (beat : Beat Float) : Float :=
  let late := beat.finish - (beat.tick + interval)
  (late - floatRemainder late interval) / interval

theorem Beat.exists_uncounted_iff {interval : Float} {beat : Beat Float} :
    (∃ e, beat.Uncounted interval e) ↔ beat.tick + interval ≤ beat.finish ∧
      (Decimal.Binary64.ofFloat (beat.missed interval)).toRat? = none := by
  rw [← exists_wholeOfFloat_eq_error_iff, ← exists_and_left]
  refine exists_congr fun e => and_congr_left' ?_
  exact decide_eq_true_iff

end Schedule

/-- None of the settings is refused that the agent reads before anything else. -/
structure Environment.IsAccepted (env : Environment) : Prop where
  logLevel : ∃ level, env.logLevel = .ok level
  platform : ∃ platform, env.platform = .ok platform
  pollInterval : ∃ interval, env.pollInterval = .ok interval

theorem Environment.isTooShort_of_pollInterval {env : Environment} {interval : Float}
    (h : env.pollInterval = .ok interval) : Watch.isTooShort interval = false := by
  obtain ⟨x, -, hchecked⟩ := bind_eq_ok_iff.1 h
  by_cases hle : x ≤ 0
  · rw [if_pos hle] at hchecked
    nomatch hchecked
  · rw [if_neg hle] at hchecked
    obtain rfl : x = interval := Except.ok.inj hchecked
    simpa [Watch.isTooShort] using hle

namespace Outcome

def calls (o : Outcome) : List Call := o.service.beats.flatMap (·.2.access.calls)

/-- The agent has touched nothing outside. -/
structure DidNothing (o : Outcome) (s : Surroundings) : Prop where
  credentials : o.service.credentials = []
  client : o.service.client = none
  upkeep : o.service.upkeep = []
  requests : o.requests = []
  calls : o.calls = []
  state : o.service.state = s.state

end Outcome

theorem Cluster.tried_searchCredentials_ne_nil (path : Option String) (faults : CredentialFaults) :
    (searchCredentials path faults).tried ≠ [] := by
  obtain ⟨inCluster, file⟩ := faults
  unfold searchCredentials
  split
  · cases file <;> simp [tryPlace]
  · cases inCluster with
    | none => simp [tryPlace]
    | some fault => cases h : fault.isMissingCredentials <;> simp [tryPlace, h]

theorem Agent.credentials_of_isAccepted {s : Surroundings} (h : s.environment.IsAccepted) :
    (Agent.run s).service.credentials
      = (searchCredentials s.environment.credentialsPath s.credentialFaults).tried := by
  obtain ⟨⟨level, hlevel⟩, ⟨platform, hplatform⟩, ⟨interval, hinterval⟩⟩ := h
  simp only [run, hlevel, Service.run, hplatform, hinterval]
  split
  case h_1 f houtcome => rfl
  case h_2 houtcome =>
    unfold Service.withClient
    cases Client.opened platform.url platform.token platform.timeout with
    | error e => rfl
    | ok client => cases s.loadingFault platform.verify <;> rfl

/-- The agent ends before it has done anything exactly if a setting is refused. -/
theorem Agent.not_isAccepted_iff (s : Surroundings) : ¬ s.environment.IsAccepted ↔
    (Agent.run s).exitCode? = some 1 ∧ (Agent.run s).DidNothing s := by
  have hrefused (failure : Failure) (written : List Journal.Record) (errorOutput : String) :
      let o : Outcome := ⟨Service.refused failure s.state, written, errorOutput⟩
      o.exitCode? = some 1 ∧ o.DidNothing s := ⟨rfl, rfl, rfl, rfl, rfl, rfl, rfl⟩
  constructor
  · intro hnot
    unfold Agent.run
    cases hlevel : s.environment.logLevel with
    | error e => exact hrefused _ _ _
    | ok level =>
      unfold Service.run
      cases hplatform : s.environment.platform with
      | error e => exact hrefused _ _ _
      | ok platform =>
        cases hinterval : s.environment.pollInterval with
        | error e => exact hrefused _ _ _
        | ok interval => exact absurd ⟨⟨_, hlevel⟩, ⟨_, hplatform⟩, ⟨_, hinterval⟩⟩ hnot
  · rintro ⟨-, hnothing⟩ haccepted
    have hnone := hnothing.credentials
    rw [credentials_of_isAccepted haccepted] at hnone
    exact tried_searchCredentials_ne_nil _ _ hnone

theorem Service.exitCode?_eq_one_iff {service : Service} :
    service.exitCode? = some 1 ↔ ∃ failure, service.ending = .failed failure := by
  unfold exitCode?
  cases service.ending <;> simp

theorem Service.exitCode?_eq_none_iff {service : Service} :
    service.exitCode? = none ↔ service.ending = .unfinished := by
  unfold exitCode?
  cases service.ending <;> simp

theorem Occasion.request_visit_eq_none_iff (occasion : Occasion) (client : Client) :
    (occasion.visit client).request = .none ↔ occasion.signal = false := by
  cases h : occasion.signal <;> simp [visit, h]

/-- Everything that the watching needs is there. -/
structure Surroundings.Starts (s : Surroundings) (interval : Float) (client : Client) : Prop where
  logLevel : ∃ level, s.environment.logLevel = .ok level
  pollInterval : s.environment.pollInterval = .ok interval
  credentials :
    (searchCredentials s.environment.credentialsPath s.credentialFaults).outcome = .ok ()
  client : ∃ platform, s.environment.platform = .ok platform ∧
    Client.opened platform.url platform.token platform.timeout = .ok client ∧
      s.loadingFault platform.verify = none

theorem Surroundings.exists_starts {s : Surroundings} {interval : Float}
    (hlevel : s.environment.logLevel.isOk = true)
    (hinterval : s.environment.pollInterval.toOption = some interval)
    (hsearch : (searchCredentials s.environment.credentialsPath s.credentialFaults).outcome.isOk
      = true)
    (hclient : (s.environment.platform.toOption.bind fun platform =>
      (Client.opened platform.url platform.token platform.timeout).toOption).isSome = true)
    (hcertificates : s.certificateFault = none) :
    ∃ client, s.Starts interval client := by
  obtain ⟨client, hopened⟩ := Option.isSome_iff_exists.1 hclient
  simp only [Option.bind_eq_some_iff, toOption_eq_some_iff] at hopened hinterval
  obtain ⟨⟨⟩, hfound⟩ := exists_eq_ok_of_isOk hsearch
  obtain ⟨platform, hplatform, hopened⟩ := hopened
  have hloading : s.loadingFault platform.verify = none := by
    simp [loadingFault, hcertificates]
  exact ⟨client, exists_eq_ok_of_isOk hlevel, hinterval, hfound, platform, hplatform, hopened,
    hloading⟩

def Surroundings.watch (s : Surroundings) (interval : Float) (client : Client) : Watch :=
  Watch.run interval s.stop 0 (s.occasions.map (·.visit client)) s.state

/-- By the end of the watching a signal has come at its time, or one came in a cycle that ran. -/
def Surroundings.Signalled (s : Surroundings) (watch : Watch) : Prop :=
  s.stop.HasCome watch.ended ∨
    ∃ occasion ∈ s.occasions.take watch.beats.length, occasion.signal = true

theorem Surroundings.signalled_of_stopped {s : Surroundings} {interval : Float} {client : Client}
    {watch : Watch} (hends : watch.EndsFor interval s.stop (s.occasions.map (·.visit client)))
    (h : watch.ending = .stopped) : s.Signalled watch := by
  refine (hends.stopped h).imp_right fun ⟨visit, hvisit, hasked⟩ => ?_
  rw [← List.map_take] at hvisit
  obtain ⟨occasion, hoccasion, rfl⟩ := List.mem_map.1 hvisit
  rw [Ne, occasion.request_visit_eq_none_iff, Bool.not_eq_false] at hasked
  exact ⟨occasion, hoccasion, hasked⟩

/-- What becomes of an agent that watches. It fails exactly if a cycle overran and the number of
ticks that it missed is out of range. Otherwise it ends well, and only after a signal. When it has
ended, the handlers of signals are removed and the client has been closed once. As long as it has
not ended it runs every cycle, and none but the last has a signal. -/
structure Outcome.EndsWhenSignalled (o : Outcome) (s : Surroundings) (interval : Float)
    (client : Client) : Prop where
  beats : o.service.beats = (s.watch interval client).beats
  failed : o.exitCode? = some 1 ↔ ∃ beat ∈ o.service.beats,
    beat.1.tick + interval ≤ beat.1.finish ∧
      (Decimal.Binary64.ofFloat (beat.1.missed interval)).toRat? = none
  ended : ∀ code, o.exitCode? = some code →
    (code = 0 ∧ s.Signalled (s.watch interval client) ∨ code = 1) ∧
      o.service.upkeep = [.handlersInstalled, .handlersRemoved, .clientClosed]
  running : o.exitCode? = none → o.service.beats.length = s.occasions.length ∧
    ∀ occasion ∈ s.occasions.dropLast, occasion.signal = false

namespace Work

variable {work next last : Work}

theorem andThen_eq (h : work.ending = .stopped) :
    work.andThen next = ⟨work.upkeep ++ next.upkeep, next.ending⟩ := by
  rw [andThen, h]

theorem andFinally_eq (h : work.ending ≠ .unfinished) (hlast : last.ending = .stopped) :
    work.andFinally last = ⟨work.upkeep ++ last.upkeep, work.ending⟩ := by
  unfold andFinally
  cases hending : work.ending with
  | unfinished => exact absurd hending h
  | stopped | failed => rw [hlast]

section

variable {interval : Float} (hinterval : Watch.isTooShort interval = false)
  {ending : Ending WatchError}

include hinterval

theorem aroundWatch_eq : aroundWatch interval ending =
    (step .handlersInstalled).andThen
      ((ofEnding ending).andFinally ((step .handlersRemoved).andThen (step .clientClosed))) := by
  rw [aroundWatch, hinterval]
  exact andThen_eq rfl

theorem ending_aroundWatch : (aroundWatch interval ending).ending = ending := by
  rw [aroundWatch_eq hinterval, andThen_eq rfl]
  by_cases h : ending = .unfinished
  · subst h
    rfl
  · rw [andFinally_eq h rfl]
    rfl

theorem upkeep_aroundWatch (h : ending ≠ .unfinished) : (aroundWatch interval ending).upkeep
    = [.handlersInstalled, .handlersRemoved, .clientClosed] := by
  rw [aroundWatch_eq hinterval, andThen_eq rfl, andFinally_eq h rfl]
  rfl

end

end Work

namespace Agent

variable {s : Surroundings} {interval : Float} {client : Client}

theorem run_of_starts (h : s.Starts interval client) :
    let watch := s.watch interval client
    let service := (run s).service
    service.ending = watch.ending.mapError .watch ∧ service.beats = watch.beats ∧
      service.upkeep = (Work.aroundWatch interval watch.ending).upkeep := by
  obtain ⟨⟨level, hlevel⟩, hinterval, hsearch, platform, hplatform, hclient, hloading⟩ := h
  have hlong := Environment.isTooShort_of_pollInterval hinterval
  simp [run, hlevel, Service.run, hplatform, hinterval, hsearch, Service.withClient, hclient,
    hloading, Surroundings.watch, Work.ending_aroundWatch hlong]

theorem endsWhenSignalled (h : s.Starts interval client) :
    (run s).EndsWhenSignalled s interval client := by
  obtain ⟨hending, hbeats, hupkeep⟩ := run_of_starts h
  have hlong := Environment.isTooShort_of_pollInterval h.pollInterval
  have hends : (s.watch interval client).EndsFor interval s.stop
      (s.occasions.map (·.visit client)) := Watch.run_endsFor hlong ..
  have hexit : (run s).exitCode? = (run s).service.exitCode? := rfl
  refine ⟨hbeats, ?_, fun code hcode => ?_, fun hrunning => ?_⟩
  · rw [hexit, Service.exitCode?_eq_one_iff, hending, hbeats]
    simp only [Ending.mapError_eq_failed_iff, hends.failed, ← Beat.exists_uncounted_iff]
    constructor
    · rintro ⟨-, -, ⟨e, ⟨beat, hbeat, huncounted⟩, -⟩, -⟩
      exact ⟨beat, hbeat, e, huncounted⟩
    · rintro ⟨beat, hbeat, e, huncounted⟩
      exact ⟨_, _, ⟨e, ⟨beat, hbeat, huncounted⟩, rfl⟩, rfl⟩
  · rw [hexit, Service.exitCode?, hending] at hcode
    rw [hupkeep]
    cases hwatch : (s.watch interval client).ending with
    | unfinished => simp [hwatch, Ending.mapError] at hcode
    | failed e =>
      obtain ⟨c, -, rfl⟩ := (hends.failed e).1 hwatch
      obtain rfl : 1 = code := by simpa [hwatch, Ending.mapError] using hcode
      exact ⟨.inr rfl, Work.upkeep_aroundWatch hlong (by simp)⟩
    | stopped =>
      obtain rfl : 0 = code := by simpa [hwatch, Ending.mapError] using hcode
      exact ⟨.inl ⟨rfl, Surroundings.signalled_of_stopped hends hwatch⟩,
        Work.upkeep_aroundWatch hlong (by simp)⟩
  · rw [hexit, Service.exitCode?_eq_none_iff, hending, Ending.mapError_eq_unfinished_iff]
      at hrunning
    obtain ⟨hlength, hcalm⟩ := hends.unfinished hrunning
    rw [← List.map_dropLast, List.forall_mem_map] at hcalm
    refine ⟨by rw [hbeats, hlength, List.length_map], fun occasion hoccasion => ?_⟩
    exact (occasion.request_visit_eq_none_iff client).1 (hcalm occasion hoccasion)

/-- The agent fails before it has done anything, or goes on until a signal stops it. -/
theorem run_failsFast_or_endsWhenSignalled (s : Surroundings) :
    (¬ s.environment.IsAccepted ↔ (run s).exitCode? = some 1 ∧ (run s).DidNothing s) ∧
      ∀ interval client, s.Starts interval client →
        (run s).EndsWhenSignalled s interval client :=
  ⟨not_isAccepted_iff s, fun _ _ => endsWhenSignalled⟩

end Agent

namespace Shop

/-- An agent that polls at an interval; its cycles take a second, and their listings break off. -/
def polling (interval : String) (signals : List Bool) : Surroundings where
  environment := [(Environment.urlVariable, "http://a"), (Environment.tokenVariable, "t"),
    ("COMMANDS_POLL_INTERVAL", interval)]
  credentialFaults := ⟨none, none⟩
  state := .empty
  occasions := signals.map fun signal =>
    ⟨.none, .none, .fault (.failure .timeout ""), .fault (.failure .timeout ""), 1, signal⟩

/-- An agent that refuses its interval, and one that ends with a signal in its second cycle. -/
theorem run_polling :
    ((Agent.run (polling "0" [true])).exitCode? = some 1 ∧
      (Agent.run (polling "0" [true])).DidNothing (polling "0" [true])) ∧
    ∃ client, (polling "5" [false, true]).Starts 5 client ∧
      (Agent.run (polling "5" [false, true])).exitCode? = some 0 ∧
      (Agent.run (polling "5" [false, true])).EndsWhenSignalled (polling "5" [false, true]) 5
        client := by
  constructor
  · refine (Agent.run_failsFast_or_endsWhenSignalled _).1.1 fun haccepted => ?_
    obtain ⟨interval, hinterval⟩ := haccepted.pollInterval
    have hrefused : (polling "0" [true]).environment.pollInterval.isOk = false := by
      decide +kernel
    rw [hinterval] at hrefused
    nomatch hrefused
  · obtain ⟨client, hstarts⟩ : ∃ client, (polling "5" [false, true]).Starts 5 client :=
      Surroundings.exists_starts (by decide +kernel) (by decide +kernel) (by decide +kernel)
        (by decide +kernel) rfl
    exact ⟨client, hstarts, by decide +kernel,
      (Agent.run_failsFast_or_endsWhenSignalled _).2 5 client hstarts⟩

/-- Missed ticks of the least positive interval cannot be counted. -/
theorem not_forall_exitCode : ¬ ∀ (s : Surroundings) (interval : Float) (client : Client),
    s.Starts interval client → interval.isFinite = true → (Agent.run s).exitCode? ≠ some 1 := by
  intro h
  obtain ⟨client, hstarts⟩ : ∃ client, (polling "5e-324" [false]).Starts 5e-324 client :=
    Surroundings.exists_starts (by decide +kernel) (by decide +kernel) (by decide +kernel)
      (by decide +kernel) rfl
  exact h _ _ client hstarts (by decide +kernel) (by decide +kernel)

end Shop

end PolicyAgent
