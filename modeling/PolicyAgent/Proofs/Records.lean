import PolicyAgent.Proofs.Orders

/-!
# What the log says of a command

A command leaves one record that tells how it ended, and its severity is that of the ending: a
success is information, an order that the token covers is a matter for debugging, and everything
else is an error. Before it there may be one more record, a warning. It is there exactly if the
ingress was read and has a text for a token that is no date.
-/
namespace PolicyAgent

open PolicyAgent.Cluster PolicyAgent.Journal PolicyAgent.Time

namespace Token

variable {labels : Annotations}

/-- The token of a text, by what came of reading it. -/
def ofReading : Except ReadError Timestamp → Token
  | .error e => .unreadable e
  | .ok t => .readable t

theorem ofAnnotations_eq_ofReading_iff {reading : Except ReadError Timestamp} :
    ofAnnotations labels = ofReading reading
      ↔ ∃ text, labels.get? tokenKey = some text ∧ Timestamp.readRfc3339 text = reading := by
  unfold ofAnnotations
  cases labels.get? tokenKey with
  | none => cases reading <;> simp [ofReading]
  | some text =>
    cases hread : Timestamp.readRfc3339 text <;> cases reading <;> simp [ofReading, hread]

theorem covers_eq_true_iff {token : Token} {requestedAt : Timestamp} :
    token.covers requestedAt = true
      ↔ ∃ t, token = ofReading (.ok t) ∧ requestedAt.withOffset.instant ≤ t.instant := by
  cases token <;> simp [covers, ofReading]

theorem warnings_ne_nil_iff {token : Token} :
    token.warnings ≠ [] ↔ ∃ e, token = ofReading (.error e) := by
  cases token <;> simp [warnings, ofReading]

theorem warnings_eq_nil_or (token : Token) :
    token.warnings = [] ∨ ∃ warning, token.warnings = [warning] ∧ warning.severity = .warning := by
  cases token with
  | unreadable e => exact .inr ⟨_, rfl, rfl⟩
  | absent => exact .inl rfl
  | readable t => exact .inl rfl

end Token

/-- How an ending that is not due to the token is recorded. -/
def Status.severity : Status → Severity
  | .success => .info
  | .failure => .error

/-- The handling left the warnings of a token and one record behind them, which tells of the
staleness of a command requested at a date or else of the status of the report. -/
def Handled.Tells (handled : Handled) (token : Token) (requestedAt : Timestamp) : Prop :=
  ∃ last, handled.records = token.warnings ++ [last] ∧
    last.severity
      = if token.covers requestedAt then .debug else handled.report.status.severity

theorem Handled.tells_absent {report : Report} {last : Record} {access : Access}
    {requestedAt : Timestamp} (h : last.severity = report.status.severity) :
    Handled.Tells ⟨report, [last], access⟩ .absent requestedAt :=
  ⟨last, rfl, h⟩

/-- The token that an order finds; none if its ingress is not read. -/
def Order.token (order : Order) (access : Access) : Token :=
  match (access.readIngress order.key).1 with
  | .ok ingress => .ofAnnotations ingress.labels
  | .error _ => .absent

namespace Change

variable (change : Change) (id : String) (requestedAt : Timestamp) (key : IngressKey)
  (access : Access)

theorem carryOut_tells : (change.carryOut id requestedAt key access).Tells .absent requestedAt := by
  unfold carryOut
  split
  · exact Handled.tells_absent rfl
  · exact Handled.tells_absent rfl

theorem checkAndCarryOut_tells :
    (change.checkAndCarryOut id requestedAt key access).Tells .absent requestedAt := by
  cases change with
  | delete => exact carryOut_tells .delete id requestedAt key access
  | set policy =>
    simp only [checkAndCarryOut]
    split
    · exact Handled.tells_absent rfl
    · exact Handled.tells_absent rfl
    · exact carryOut_tells (.set policy) id requestedAt key _

theorem handleIngress_tells (labels : Annotations) :
    (change.handleIngress id requestedAt key labels access).Tells
      (.ofAnnotations labels) requestedAt := by
  unfold handleIngress
  dsimp only
  by_cases hstale : (Token.ofAnnotations labels).covers requestedAt = true
  · rw [if_pos hstale]
    exact ⟨_, rfl, (if_pos hstale).symm⟩
  · rw [if_neg hstale]
    obtain ⟨last, hrecords, hseverity⟩ :=
      checkAndCarryOut_tells change id requestedAt key access
    refine ⟨last, congrArg _ hrecords, ?_⟩
    rw [if_neg hstale]
    exact hseverity

theorem handle_tells (ingressId : String) :
    (change.handle id requestedAt ingressId access).Tells
      (((Order.ofIngressId? change requestedAt ingressId).map (·.token access)).getD .absent)
      requestedAt := by
  unfold handle Order.ofIngressId?
  cases IngressKey.ofId? ingressId with
  | none => exact Handled.tells_absent rfl
  | some key =>
    simp only [Option.map_some, Option.getD_some, Order.token]
    rcases access.readIngress key with ⟨fault | ingress, after⟩
    · by_cases hmissing : fault.isNotFound = true
      · simp only [if_pos hmissing]
        exact Handled.tells_absent rfl
      · simp only [if_neg hmissing]
        exact Handled.tells_absent rfl
    · exact handleIngress_tells change id requestedAt key after ingress.labels

end Change

namespace Command

variable (c : Command) (access : Access)

/-- The token that a command meets; none if it comes to no ingress. -/
def token : Token := (c.order?.map (·.token access)).getD .absent

theorem route_tells : (c.route access).Tells (c.token access) c.createdAt := by
  unfold route token order?
  cases c.payload with
  | error e => exact Handled.tells_absent rfl
  | ok payload =>
    cases payload with
    | setPolicy ingressId policy =>
      exact (Change.set policy).handle_tells c.id c.createdAt access ingressId
    | deletePolicy ingressId =>
      exact Change.delete.handle_tells c.id c.createdAt access ingressId
    | unsupported type => exact Handled.tells_absent rfl

/-- The ingress of the command is read and has a text for a token. -/
def Finds (text : String) : Prop :=
  ∃ order ingress, c.order? = some order ∧ (access.readIngress order.key).1 = .ok ingress ∧
    ingress.labels.get? tokenKey = some text

/-- The command finds a date that it is not behind. -/
def IsStale : Prop :=
  ∃ text t, c.Finds access text ∧ Timestamp.readRfc3339 text = .ok t ∧
    c.createdAt.withOffset.instant ≤ t.instant

variable {c access}

theorem token_eq_ofReading_iff {reading : Except ReadError Timestamp} :
    c.token access = .ofReading reading
      ↔ ∃ text, c.Finds access text ∧ Timestamp.readRfc3339 text = reading := by
  have hpresent : Token.absent ≠ .ofReading reading := by cases reading <;> simp [Token.ofReading]
  have hfound : c.token access = .ofReading reading ↔ ∃ order ingress, c.order? = some order ∧
      (access.readIngress order.key).1 = .ok ingress ∧
      Token.ofAnnotations ingress.labels = .ofReading reading := by
    unfold Command.token
    cases c.order? with
    | none => simp [hpresent]
    | some order => cases h : (access.readIngress order.key).1 <;> simp [Order.token, h, hpresent]
  rw [hfound]
  simp only [Token.ofAnnotations_eq_ofReading_iff, Finds]
  constructor
  · rintro ⟨order, ingress, horder, hread, text, htext, hreading⟩
    exact ⟨text, ⟨order, ingress, horder, hread, htext⟩, hreading⟩
  · rintro ⟨text, ⟨order, ingress, horder, hread, htext⟩, hreading⟩
    exact ⟨order, ingress, horder, hread, text, htext, hreading⟩

theorem covers_token_iff : (c.token access).covers c.createdAt = true ↔ c.IsStale access := by
  simp only [Token.covers_eq_true_iff, token_eq_ofReading_iff, IsStale]
  constructor
  · rintro ⟨t, ⟨text, hfinds, hok⟩, hle⟩
    exact ⟨text, t, hfinds, hok, hle⟩
  · rintro ⟨text, t, hfinds, hok, hle⟩
    exact ⟨t, ⟨text, hfinds, hok⟩, hle⟩

theorem report_route_of_isStale (h : c.IsStale access) :
    (c.route access).report = .internalFailure c.id alreadyExecuted := by
  obtain ⟨text, t, ⟨order, ingress, horder, hread, htext⟩, hok, hle⟩ := h
  have hcovers : (Token.ofAnnotations ingress.labels).covers order.requestedAt = true := by
    rw [(of_order? horder).1]
    exact Token.covers_eq_true_iff.2
      ⟨t, Token.ofAnnotations_eq_ofReading_iff.2 ⟨text, htext, hok⟩, hle⟩
  have htask : (Task.route c).order? = some order := horder
  have houtcome : order.Outcome c.id access (c.route access) := Task.run_outcome htask access
  exact (houtcome.of_covers hread hcovers).1

/-- Records and report of a command agree. There is at most one warning, and there is one exactly
if the command finds a text that is no date. Behind it one record is left: of information exactly
for a success, for debugging exactly for an internal error of a stale command, and of an error
for every other ending. -/
theorem records_route (c : Command) (access : Access) :
    ∃ warnings last, (c.route access).records = warnings ++ [last] ∧
      (warnings = [] ∨ ∃ warning, warnings = [warning] ∧ warning.severity = .warning) ∧
      (warnings ≠ []
        ↔ ∃ text e, c.Finds access text ∧ Timestamp.readRfc3339 text = .error e) ∧
      (last.severity = .info ↔ (c.route access).report.status = .success) ∧
      (last.severity = .debug
        ↔ (c.route access).report = .internalFailure c.id alreadyExecuted ∧ c.IsStale access) ∧
      (last.severity = .error
        ↔ (c.route access).report.status = .failure ∧ ¬ c.IsStale access) := by
  obtain ⟨last, hrecords, hseverity⟩ := c.route_tells access
  refine ⟨(c.token access).warnings, last, hrecords, Token.warnings_eq_nil_or _, ?_, ?_⟩
  · simp only [Token.warnings_ne_nil_iff, token_eq_ofReading_iff]
    exact exists_comm
  · by_cases hstale : c.IsStale access
    · have hreport := report_route_of_isStale hstale
      rw [if_pos (covers_token_iff.2 hstale)] at hseverity
      simp [hseverity, hreport, hstale]
    · rw [if_neg (mt covers_token_iff.1 hstale)] at hseverity
      cases hstatus : (c.route access).report.status <;>
        simp [hseverity, hstatus, hstale, Status.severity]

end Command

end PolicyAgent
