import PolicyAgent.Proofs.Addresses
import PolicyAgent.Proofs.Batches
import PolicyAgent.Proofs.Writing

/-!
# What a cycle sends

A client that can list commands can send reports about them, with two exceptions: the address of
the reports is longer than that of the listing and may pass the limit, and reports with a lone
half of a surrogate pair cannot be written. Otherwise a cycle that has listed commands sends one
request with one report for each, from the oldest command to the newest. How the request is
answered makes no difference to the cycle.
-/
namespace PolicyAgent

open PolicyAgent.Cluster PolicyAgent.Json PolicyAgent.Platform PolicyAgent.Text

theorem Platform.Request.check_eq_ok_iff {r : Request} :
    r.check = .ok () ↔ isWellFormed r.bodyText = true ∧ r.url.HasSite := by
  simp only [check, bind_eq_ok_iff, mapError_eq_ok_iff, Url.HasSite, ← utf8_check_eq_ok_iff]
  constructor
  · rintro ⟨_, hbody, name, hhost, hsite⟩
    exact ⟨hbody, ⟨name, hhost⟩, hsite⟩
  · rintro ⟨hbody, ⟨name, hhost⟩, hsite⟩
    exact ⟨_, hbody, name, hhost, hsite⟩

namespace Platform.Client

variable {client : Client} {method : Method} {segment : String} {body : Option Value}
  {request : Request} {reports : List Report}

def requestTo (client : Client) (method : Method) (url : Url) (body : Option Value) : Request :=
  ⟨method, url, authorization client.base.user client.token, client.timeout, body⟩

theorem request_eq_ok_iff :
    client.request method segment body = .ok request ↔
      ∃ url, client.endpoint segment = .ok url ∧ request = client.requestTo method url body ∧
        isWellFormed request.bodyText = true ∧ url.HasSite ∧ client.closed = false := by
  simp only [Client.request, bind_eq_ok_iff, mapError_eq_ok_iff, pure, Except.pure]
  constructor
  · rintro ⟨url, hurl, _, hcheck, hrequest⟩
    split at hrequest
    · cases hrequest
    · rename_i hclosed
      obtain rfl := Except.ok.inj hrequest
      obtain ⟨hbody, hsite⟩ := Request.check_eq_ok_iff.1 hcheck
      exact ⟨url, hurl, rfl, hbody, hsite, Bool.eq_false_iff.2 hclosed⟩
  · rintro ⟨url, hurl, rfl, hbody, hsite, hclosed⟩
    refine ⟨url, hurl, (), Request.check_eq_ok_iff.2 ⟨hbody, hsite⟩, ?_⟩
    simp [hclosed, requestTo]

theorem requests_exchange {α : Type} (made : Except ExchangeError Request) (answer : Answer)
    (read : Response → Except ExchangeError α) :
    (exchange made answer read).requests = made.toOption.toList := by
  cases made <;> rfl

theorem method_of_mem_list {answer : Answer} (h : request ∈ (client.list answer).requests) :
    request.method = .get := by
  rw [list, requests_exchange, Option.mem_toList, toOption_eq_some_iff] at h
  obtain ⟨url, -, rfl, -⟩ := request_eq_ok_iff.1 h
  rfl

theorem request_of_list {answer : Answer} {commands : List Command}
    (h : (client.list answer).outcome = .ok commands) :
    ∃ request, client.request .get listingSegment none = .ok request := by
  cases hmade : client.request .get listingSegment none with
  | ok request => exact ⟨request, rfl⟩
  | error e => simp [list, hmade, exchange, Reply.ofOutcome] at h

def bodyOf (reports : List Report) : Value :=
  .object [("reports", .array (reports.map Report.encode))]

/-- The request that carries reports, if its address is none too long and they can be written. -/
def post? (client : Client) (reports : List Report) : Option Request :=
  match client.endpoint reportsSegment with
  | .error _ => none
  | .ok url =>
    if reports.all Report.isWritable then some (client.requestTo .post url (some (bodyOf reports)))
    else none

theorem post?_eq_some_iff :
    client.post? reports = some request ↔
      ∃ url, client.endpoint reportsSegment = .ok url ∧ reports.all Report.isWritable = true ∧
        request = client.requestTo .post url (some (bodyOf reports)) := by
  unfold post?
  cases client.endpoint reportsSegment with
  | error e => simp
  | ok url =>
    simp only [Except.ok.injEq, exists_eq_left']
    by_cases h : reports.all Report.isWritable = true
    · rw [if_pos h, Option.some.injEq, and_iff_right h, eq_comm]
    · rw [if_neg h]
      exact ⟨nofun, fun hwritable => absurd hwritable.1 h⟩

section

variable (h : ∀ r ∈ reports, r.IsVerdict)

include h

theorem reportsBody_eq : reportsBody reports = .ok (bodyOf reports) := by
  have hwire : reports.mapM Report.wire? = .ok (reports.map Report.encode) := by
    induction reports with
    | nil => rfl
    | cons r rest ih =>
      obtain ⟨hfirst, hrest⟩ := List.forall_mem_cons.1 h
      rw [List.mapM_cons, hfirst.wire?_eq, ih hrest]
      rfl
  rw [reportsBody, hwire]
  rfl

theorem isWellFormed_write_bodyOf :
    isWellFormed ((bodyOf reports).write .compact) = reports.all Report.isWritable := by
  have hname : isWellFormed "reports" = true := by decide
  have hreports : ((reports.map Report.encode).all fun v => isWellFormed (v.write .compact))
      = reports.all Report.isWritable := by
    induction reports with
    | nil => rfl
    | cons r rest ih =>
      obtain ⟨hfirst, hrest⟩ := List.forall_mem_cons.1 h
      rw [List.map_cons, List.all_cons, List.all_cons, hfirst.isWellFormed_write, ih hrest]
  simp [bodyOf, isWellFormed_write_object, isWellFormed_write_array, hname, hreports]

/-- A client that makes the request of a listing makes the one of the reports, too. -/
theorem requests_send (hlist : ∃ request, client.request .get listingSegment none = .ok request)
    (answer : Answer) : (client.send reports answer).requests = (client.post? reports).toList := by
  obtain ⟨listing, hlisting⟩ := hlist
  obtain ⟨url, hurl, -, -, hsite, hclosed⟩ := request_eq_ok_iff.1 hlisting
  have hmade : (client.request .post reportsSegment (some (bodyOf reports))).toOption
      = client.post? reports := by
    ext request
    rw [toOption_eq_some_iff, request_eq_ok_iff, post?_eq_some_iff]
    constructor
    · rintro ⟨url', hurl', rfl, hbody, -, -⟩
      exact ⟨url', hurl', (isWellFormed_write_bodyOf h).symm.trans hbody, rfl⟩
    · rintro ⟨url', hurl', hwritable, rfl⟩
      exact ⟨url', hurl', rfl, (isWellFormed_write_bodyOf h).trans hwritable,
        hsite.of_child hurl hurl', hclosed⟩
  simp only [send, reportsBody_eq h, requests_exchange, hmade]

end

end Platform.Client

theorem Exchange.outcome_of_listed {exchange : Exchange} (h : exchange.listed ≠ []) :
    ∃ commands, exchange.list.outcome = .ok commands := by
  unfold listed at h
  cases houtcome : exchange.list.outcome with
  | ok commands => exact ⟨commands, rfl⟩
  | error e => simp [houtcome] at h

namespace Cycle

variable (client : Client) (listing sending : Answer) (access : Access)

theorem requests_run_exchangeWith (hlisted : (client.exchangeWith listing sending).listed ≠ []) :
    (run (client.exchangeWith listing sending) access).requests
      = (client.list listing).requests
        ++ (client.post? (run (client.exchangeWith listing sending) access).reports).toList := by
  obtain ⟨commands, hlist⟩ := Exchange.outcome_of_listed hlisted
  have hreports : ∀ r ∈ (run (client.exchangeWith listing sending) access).reports,
      r.IsVerdict := by
    rw [(run_eq _ access).1]
    exact fun r hr => Command.isVerdict_of_mem_routeAll hr
  have hsend := Client.requests_send hreports (Client.request_of_list hlist) sending
  rw [requests_run, Exchange.posts, if_neg (by simpa using hlisted), ← hsend]
  rfl

/-- A cycle that lists nothing does nothing else. One that lists commands reports each of them
once, from the oldest to the newest, and sends the reports in one request if that can be made.
The answer to it changes neither the reports nor what was done to the cluster. -/
theorem run_posts_reports :
    let exchange := client.exchangeWith listing sending
    let cycle := run exchange access
    (∀ request ∈ exchange.list.requests, request.method = .get) ∧
      (exchange.listed = [] → cycle.reports = [] ∧ cycle.access = access ∧
        cycle.requests = exchange.list.requests) ∧
      (exchange.listed ≠ [] →
        (∃ ordered, Command.OldestFirst exchange.listed ordered ∧
          cycle.reports = (Command.routeAll ordered access).reports ∧
          cycle.reports.map (·.commandId) = ordered.map (·.id)) ∧
        cycle.requests = exchange.list.requests ++ (client.post? cycle.reports).toList) ∧
      ∀ sending', (run (client.exchangeWith listing sending') access).reports = cycle.reports ∧
        (run (client.exchangeWith listing sending') access).access = cycle.access := by
  intro exchange cycle
  obtain ⟨hreports, haccess⟩ := run_eq exchange access
  refine ⟨fun request => Client.method_of_mem_list, ?_, ?_, ?_⟩
  · intro hlisted
    have hbatch : Command.routeAll (Command.inOrder exchange.listed) access = ⟨[], [], access⟩ := by
      simp [hlisted, Command.inOrder, Command.routeAll]
    refine ⟨hreports.trans (congrArg Batch.reports hbatch),
      haccess.trans (congrArg Batch.access hbatch), ?_⟩
    simp [cycle, requests_run, Exchange.posts, hlisted]
  · intro hlisted
    refine ⟨⟨_, Command.oldestFirst_inOrder exchange.listed, hreports, ?_⟩,
      requests_run_exchangeWith client listing sending access hlisted⟩
    exact (congrArg (List.map (·.commandId)) hreports).trans (Command.commandId_routeAll _ access)
  · intro sending'
    obtain ⟨hreports', haccess'⟩ := run_eq (client.exchangeWith listing sending') access
    exact ⟨hreports'.trans hreports.symm, haccess'.trans haccess.symm⟩

end Cycle

namespace Shop

/-- A listing of one command, whose identifier is half of a surrogate pair. -/
def halfListing : Answer :=
  .response ⟨200, [], utf8Octets "[\x7b\"id\":\"\\ud800\",\"createdAt\":0\x7d]"⟩

/-- The report about this command is never sent. -/
theorem not_forall_posts :
    ¬ ∀ (listing sending : Answer) (access : Access),
      (client.exchangeWith listing sending).listed ≠ [] →
        ∃ post, post.method = .post ∧
          (Cycle.run (client.exchangeWith listing sending) access).requests
            = (client.list listing).requests ++ [post] := by
  intro h
  have hlisted : (client.exchangeWith halfListing (.response ⟨204, [], []⟩)).listed.length = 1 := by
    decide +kernel
  obtain ⟨post, -, hrequests⟩ := h halfListing (.response ⟨204, [], []⟩) (.start cluster .none)
    (List.ne_nil_of_length_eq_add_one hlisted)
  have hcount : (Cycle.run (client.exchangeWith halfListing (.response ⟨204, [], []⟩))
      (.start cluster .none)).requests.length = (client.list halfListing).requests.length := by
    decide +kernel
  simp [hrequests] at hcount

end Shop

end PolicyAgent
