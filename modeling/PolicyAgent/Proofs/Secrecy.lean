import PolicyAgent.Proofs.Lifetime

/-!
# The token

The agent shows its token to the platform in the authorization header of its requests, and to
nobody else. Two runs that differ only in the token do the same, apart from these headers:
whatever is logged, reported or done to the cluster, in cycles and in all kinds of failure.

To see this the headers are taken away from what a run did. Each part of the agent does with
redacted requests what it does with the requests as they are, so the redaction moves through the
parts from the outside to the place where a request is made, and there both tokens are gone.
-/
namespace PolicyAgent

open PolicyAgent.Cluster PolicyAgent.Journal PolicyAgent.Platform PolicyAgent.Schedule
  PolicyAgent.Text

namespace Platform

def Request.redacted (r : Request) : Request := { r with authorization := "" }

def Reply.redacted {α : Type} (reply : Reply α) : Reply α :=
  { reply with requests := reply.requests.map Request.redacted }

namespace Client

variable (client : Client) (token : String)

def withToken : Client := { client with token }

/-- An exchange reads nothing of the authorization. -/
theorem redacted_exchange {α : Type} (made : Except ExchangeError Request) (answer : Answer)
    (read : Response → Except ExchangeError α) :
    (exchange made answer read).redacted = exchange (made.map Request.redacted) answer read := by
  cases made <;> rfl

/-- Whether a request can be made does not depend on the token. -/
theorem redacted_request_withToken (method : Method) (segment : String)
    (body : Option Json.Value) :
    ((client.withToken token).request method segment body).map Request.redacted
      = (client.request method segment body).map Request.redacted := by
  have hcheck (url : Url) (authorization : String) :
      Request.check ⟨method, url, authorization, client.timeout, body⟩
        = Request.check ⟨method, url, "", client.timeout, body⟩ := rfl
  unfold request endpoint withToken
  dsimp only
  cases client.base.child segment.toList with
  | error e => rfl
  | ok url =>
    simp only [Except.mapError, bind, Except.bind, hcheck url]
    cases Request.check ⟨method, url, "", client.timeout, body⟩ with
    | error e => rfl
    | ok _ => cases client.closed <;> rfl

theorem redacted_list_withToken (answer : Answer) :
    ((client.withToken token).list answer).redacted = (client.list answer).redacted := by
  simp only [list, redacted_exchange, redacted_request_withToken]

theorem redacted_send_withToken (reports : List Report) (answer : Answer) :
    ((client.withToken token).send reports answer).redacted
      = (client.send reports answer).redacted := by
  unfold send
  cases reportsBody reports with
  | error e => rfl
  | ok body => simp only [redacted_exchange, redacted_request_withToken]

end Client

end Platform

def Exchange.redacted (exchange : Exchange) : Exchange :=
  ⟨exchange.list.redacted, fun reports => (exchange.send reports).redacted⟩

theorem Platform.Client.redacted_exchangeWith_withToken (client : Client) (token : String)
    (listing sending : Answer) :
    ((client.withToken token).exchangeWith listing sending).redacted
      = (client.exchangeWith listing sending).redacted := by
  simp only [exchangeWith, Exchange.redacted, redacted_list_withToken, redacted_send_withToken]

def Cycle.redacted (cycle : Cycle) : Cycle :=
  { cycle with requests := cycle.requests.map Request.redacted }

theorem Cycle.redacted_run (exchange : Exchange) (access : Access) :
    (run exchange access).redacted = run exchange.redacted access := by
  obtain ⟨⟨outcome, requests, records⟩, send⟩ := exchange
  cases outcome with
  | error e => rfl
  | ok commands =>
    cases commands with
    | nil => rfl
    | cons c rest => simp [run, redacted, Exchange.redacted, Reply.redacted]

namespace Visit

def redacted (visit : Visit) : Visit := { visit with exchange := visit.exchange.redacted }

theorem cycles_redacted (state : State) (visits : List Visit) :
    cycles state (visits.map redacted) = (cycles state visits).map Cycle.redacted := by
  induction visits generalizing state with
  | nil => rfl
  | cons visit rest ih =>
    have hcycle : visit.redacted.cycle state = (visit.cycle state).redacted :=
      (Cycle.redacted_run _ _).symm
    simp only [List.map_cons, cycles, hcycle, ← ih]
    rfl

end Visit

namespace Watch

def redactedBeat (beat : Beat Float × Cycle) : Beat Float × Cycle := (beat.1, beat.2.redacted)

def redacted (watch : Watch) : Watch := { watch with beats := watch.beats.map redactedBeat }

theorem flatMap_beatRecords_redacted (beats : List (Beat Float × Cycle)) :
    (beats.map redactedBeat).flatMap beatRecords = beats.flatMap beatRecords :=
  List.flatMap_map ..

theorem lastState_redacted (state : State) (beats : List (Beat Float × Cycle)) :
    lastState state ((beats.map redactedBeat).map (·.2)) = lastState state (beats.map (·.2)) := by
  simp [lastState, redactedBeat, Cycle.redacted, Function.comp_def]

theorem redacted_run (interval : Float) (stop : Stop Float) (start : Float) (visits : List Visit)
    (state : State) :
    (run interval stop start visits state).redacted
      = run interval stop start (visits.map Visit.redacted) state := by
  have hspans : (visits.map Visit.redacted).zipWith Visit.span
      ((Visit.cycles state visits).map Cycle.redacted)
        = visits.zipWith Visit.span (Visit.cycles state visits) :=
    List.zipWith_map ..
  have hbeats (beats : List (Beat Float)) :
      beats.zip ((Visit.cycles state visits).map Cycle.redacted)
        = (beats.zip (Visit.cycles state visits)).map redactedBeat :=
    List.zip_map_right ..
  unfold run
  split_ifs
  · rfl
  · simp only [Visit.cycles_redacted, hspans, hbeats, flatMap_beatRecords_redacted,
      lastState_redacted]
    rfl

end Watch

namespace Platform.Client

/-- A token that a header can carry opens the client that any other such token opens. -/
theorem opened_withToken {token token' : String}
    (htoken : Repertoire.ascii.check (bearer token).toList = .ok ())
    (htoken' : Repertoire.ascii.check (bearer token').toList = .ok ()) (url : String)
    (timeout : Float) :
    opened url token' timeout = (opened url token timeout).map (·.withToken token') := by
  unfold opened
  dsimp only
  cases Url.ofChars (trimSlashes url).toList with
  | error e => rfl
  | ok base =>
    cases hbase : base.directory with
    | error e => simp [Except.mapError, bind, Except.bind, hbase, Except.map]
    | ok base =>
      simp [Except.mapError, bind, Except.bind, hbase, htoken, htoken', Except.map, pure,
        Except.pure, withToken]

end Platform.Client

def PlatformSettings.withToken (settings : PlatformSettings) (token : String) : PlatformSettings :=
  { settings with token }

namespace Environment

def isPrintableAscii (c : Char) : Bool := 0x20 ≤ c.toNat && c.toNat < 0x7f

/-- Text of printable ASCII characters, and some of it. A transport may refuse a header whose value
ends in blanks; it gives the answers that it is asked for here, whatever the token is. -/
structure IsToken (text : String) : Prop where
  ne_empty : text ≠ ""
  printable : text.toList.all isPrintableAscii = true

theorem IsToken.check_bearer {token : String} (h : IsToken token) :
    Repertoire.ascii.check (bearer token).toList = .ok () := by
  have hword : "Bearer ".toList.all isPrintableAscii = true := by decide +kernel
  have hbearer : (bearer token).toList = "Bearer ".toList ++ token.toList := by
    simp [bearer, toString]
  have hall : (bearer token).toList.all isPrintableAscii = true := by
    rw [hbearer, List.all_append, hword, h.printable, Bool.and_true]
  have hrange : ∀ c ∈ (bearer token).toList, c.toNat < 0x7f := by
    intro c hc
    have hc := List.all_eq_true.1 hall c hc
    simp only [isPrintableAscii, Bool.and_eq_true, decide_eq_true_eq] at hc
    exact hc.2
  rw [Repertoire.check_eq_ok_iff, points_eq_map fun c hc => isOrdinary_of_lt
    ((hrange c hc).trans (by decide))]
  intro p hp
  obtain ⟨c, hc, rfl⟩ := List.mem_map.1 hp
  exact decide_eq_true ((hrange c hc).trans (by decide))

/-- Two environments with tokens that are the same otherwise. -/
structure DifferInToken (env env' : Environment) (token token' : String) : Prop where
  hasToken : env.get? tokenVariable = some token
  hasToken' : env'.get? tokenVariable = some token'
  isToken : IsToken token
  isToken' : IsToken token'
  rest : ∀ name ≠ tokenVariable, env'.get? name = env.get? name

namespace DifferInToken

variable {env env' : Environment} {token token' : String} (h : DifferInToken env env' token token')

include h

theorem path?_eq {name : String} (hname : name ≠ tokenVariable) :
    env'.path? name = env.path? name := by
  unfold path?
  rw [h.rest name hname]

theorem number_eq {name : String} (hname : name ≠ tokenVariable) (default : String) :
    env'.number name default = env.number name default := by
  unfold number
  rw [h.rest name hname]

theorem missing_eq : env'.missing = env.missing := by
  have hurl : env'.path? urlVariable = env.path? urlVariable := h.path?_eq (by decide +kernel)
  have htoken : env.path? tokenVariable = some token := by
    simp [path?, h.hasToken, h.isToken.ne_empty]
  have htoken' : env'.path? tokenVariable = some token' := by
    simp [path?, h.hasToken', h.isToken'.ne_empty]
  simp [missing, hurl, htoken, htoken', List.filter_cons]

theorem platform_eq : env'.platform = env.platform.map (·.withToken token') := by
  unfold platform
  rw [h.missing_eq, h.number_eq (by decide +kernel), h.rest urlVariable (by decide +kernel),
    h.rest "HUB_SSL_VERIFY" (by decide +kernel), h.path?_eq (by decide +kernel), h.hasToken']
  split_ifs
  · rfl
  · cases env.number "HUB_PLATFORM_TIMEOUT" "10" <;> rfl

theorem token_of_platform {settings : PlatformSettings} (hsettings : env.platform = .ok settings) :
    settings.token = token := by
  unfold platform at hsettings
  rw [h.hasToken] at hsettings
  split_ifs at hsettings
  · cases hsettings
  · cases hnumber : env.number "HUB_PLATFORM_TIMEOUT" "10" with
    | error e => simp [hnumber, bind, Except.bind] at hsettings
    | ok timeout =>
      simp only [hnumber, bind, Except.bind, pure, Except.pure, Except.ok.injEq] at hsettings
      rw [← hsettings]
      rfl

theorem pollInterval_eq : env'.pollInterval = env.pollInterval := by
  unfold pollInterval
  rw [h.number_eq (by decide +kernel)]

theorem logLevel_eq : env'.logLevel = env.logLevel := by
  unfold logLevel
  rw [h.rest _ (by decide +kernel)]

theorem credentialsPath_eq : env'.credentialsPath = env.credentialsPath :=
  h.path?_eq (by decide +kernel)

end DifferInToken

end Environment

def PlatformSettings.redacted (settings : PlatformSettings) : PlatformSettings :=
  settings.withToken ""

def Service.redacted (service : Service) : Service :=
  { service with
    client := service.client.map PlatformSettings.redacted
    beats := service.beats.map Watch.redactedBeat }

@[simp] theorem Service.records_redacted (service : Service) :
    service.redacted.records = service.records := rfl

@[simp] theorem Service.lastRecords_redacted (service : Service) :
    service.redacted.lastRecords = service.lastRecords := rfl

/-- All that an agent did, without the token in the settings of its client and without the
authorization of its requests. -/
def Outcome.redacted (o : Outcome) : Outcome := { o with service := o.service.redacted }

theorem Occasion.visit_withToken (occasion : Occasion) (client : Client) (token : String) :
    (occasion.visit (client.withToken token)).redacted = (occasion.visit client).redacted := by
  simp only [visit, Visit.redacted, Client.redacted_exchangeWith_withToken]

theorem Watch.redacted_run_withToken (interval : Float) (stop : Stop Float) (start : Float)
    (occasions : List Occasion) (client : Client) (token : String) (state : State) :
    (run interval stop start (occasions.map (·.visit (client.withToken token))) state).redacted
      = (run interval stop start (occasions.map (·.visit client)) state).redacted := by
  simp only [redacted_run, List.map_map, Function.comp_def, Occasion.visit_withToken]

theorem Service.redacted_withClient_withToken {platform : PlatformSettings} {token : String}
    (hplatform : Environment.IsToken platform.token) (htoken : Environment.IsToken token)
    (interval : Float) (search : CredentialSearch) (s : Surroundings) (env' : Environment) :
    (withClient (platform.withToken token) interval search
        { s with environment := env' }).redacted
      = (withClient platform interval search s).redacted := by
  have hopened := Client.opened_withToken hplatform.check_bearer htoken.check_bearer platform.url
    platform.timeout
  have hstop : ({ s with environment := env' } : Surroundings).stop = s.stop := rfl
  have hloading : ({ s with environment := env' } : Surroundings).loadingFault
      (platform.withToken token).verify = s.loadingFault platform.verify := rfl
  unfold withClient
  simp only [hloading, hstop]
  simp only [PlatformSettings.withToken] at hopened ⊢
  rw [hopened]
  cases Client.opened platform.url platform.token platform.timeout with
  | error e => rfl
  | ok client =>
    cases s.loadingFault platform.verify with
    | some fault => rfl
    | none =>
      have hwatch := Watch.redacted_run_withToken interval s.stop 0 s.occasions client token s.state
      have hbeats := congrArg Watch.beats hwatch
      have hending := congrArg Watch.ending hwatch
      have hrecords := congrArg Watch.records hwatch
      have hstate := congrArg Watch.state hwatch
      simp only [Watch.redacted] at hbeats hending hrecords hstate
      simp only [Except.map, redacted, hbeats, hending, hrecords, hstate]
      rfl

section

variable {s : Surroundings} {env' : Environment} {token token' : String}
  (h : s.environment.DifferInToken env' token token')

include h

theorem Service.redacted_run :
    (run { s with environment := env' }).redacted = (run s).redacted := by
  unfold run
  dsimp only
  rw [h.platform_eq, h.pollInterval_eq, h.credentialsPath_eq]
  cases hplatform : s.environment.platform with
  | error e => rfl
  | ok platform =>
    have htoken : Environment.IsToken platform.token :=
      h.token_of_platform hplatform ▸ h.isToken
    cases s.environment.pollInterval with
    | error e => rfl
    | ok interval =>
      cases (searchCredentials s.environment.credentialsPath s.credentialFaults).outcome with
      | error f => rfl
      | ok _ => exact Service.redacted_withClient_withToken htoken h.isToken' ..

/-- Nothing tells two tokens apart but the authorization. -/
theorem Agent.redacted_run_eq :
    (run { s with environment := env' }).redacted = (run s).redacted := by
  have hservice := Service.redacted_run h
  unfold run
  dsimp only
  rw [h.logLevel_eq]
  cases s.environment.logLevel with
  | error e => rfl
  | ok level =>
    have hrecords := congrArg Service.records hservice
    have hlast := congrArg Service.lastRecords hservice
    simp only [Service.records_redacted, Service.lastRecords_redacted] at hrecords hlast
    simp only [Outcome.redacted, hservice, hrecords, hlast]

end

namespace Shop

def tokenOnly (token : String) : Environment :=
  [(Environment.urlVariable, "https://platform.example.com/agent"),
    (Environment.tokenVariable, token)]

def refusedReports (token : String) : Surroundings where
  environment := tokenOnly token
  credentialFaults := ⟨none, none⟩
  state := .empty
  occasions := [⟨.none, .none,
    .response ⟨200, [], utf8Octets "[\x7b\"id\":\"1\",\"createdAt\":0\x7d]"⟩,
    .response ⟨403, [], utf8Octets "who is this?"⟩, 1, true⟩]

theorem differInToken_tokenOnly :
    (tokenOnly "alpha").DifferInToken (tokenOnly "beta") "alpha" "beta" where
  hasToken := by decide +kernel
  hasToken' := by decide +kernel
  isToken := ⟨by decide +kernel, by decide +kernel⟩
  isToken' := ⟨by decide +kernel, by decide +kernel⟩
  rest name hname := by
    simp [tokenOnly, Environment.get?, List.find?_cons, hname.symm]

/-- The platform sees which token it is, and nobody else does. -/
theorem redacted_run_refusedReports :
    (refusedReports "alpha").environment.DifferInToken (tokenOnly "beta") "alpha" "beta" ∧
      (Agent.run (refusedReports "alpha")).requests.map (·.authorization)
        = ["Bearer alpha", "Bearer alpha"] ∧
      (Agent.run (refusedReports "beta")).requests.map (·.authorization)
        = ["Bearer beta", "Bearer beta"] ∧
      (Agent.run (refusedReports "beta")).redacted
        = (Agent.run (refusedReports "alpha")).redacted := by
  have hother : { refusedReports "alpha" with environment := tokenOnly "beta" }
      = refusedReports "beta" := rfl
  have hredacted := Agent.redacted_run_eq (s := refusedReports "alpha") differInToken_tokenOnly
  rw [hother] at hredacted
  exact ⟨differInToken_tokenOnly, by decide +kernel, by decide +kernel, hredacted⟩

end Shop

end PolicyAgent
