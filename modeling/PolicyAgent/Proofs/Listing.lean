import Mathlib.Data.List.Forall2
import PolicyAgent.Proofs.Decoding
import PolicyAgent.Proofs.Posting

/-!
# What counts as a listing

An answer gives commands as a whole or not at all: it has to be a success, its document has to be
an array, and every item of it a command. Anything else fails the listing, and the cycle then
leaves the cluster alone and sends nothing more. Two documents escape this rule. The object
without fields and the empty text are no arrays, but nothing in them is wrong either, and so they
pass for a listing without commands.
-/
namespace PolicyAgent

open PolicyAgent.Cluster PolicyAgent.Compression PolicyAgent.Json PolicyAgent.Platform
  PolicyAgent.Text

theorem mapM_eq_ok_iff {ε α β : Type} {f : α → Except ε β} {xs : List α} {ys : List β} :
    xs.mapM f = .ok ys ↔ List.Forall₂ (fun x y => f x = .ok y) xs ys := by
  induction xs generalizing ys with
  | nil =>
    rw [List.forall₂_nil_left_iff]
    exact ⟨fun h => (Except.ok.inj h).symm, fun h => h ▸ rfl⟩
  | cons x xs ih =>
    simp only [List.mapM_cons, bind_eq_ok_iff, List.forall₂_cons_left_iff, ih, pure, Except.pure,
      Except.ok.injEq]
    constructor
    · rintro ⟨y, hy, ys, hys, rfl⟩
      exact ⟨y, ys, hy, hys, rfl⟩
    · rintro ⟨y, ys, hy, hys, rfl⟩
      exact ⟨y, hy, ys, hys, rfl⟩

def DecodesTo (items : List Value) (commands : List Command) : Prop :=
  List.Forall₂ (fun item c => Command.decode item = .ok c) items commands

/-- The documents that count as a listing of some commands. -/
inductive Lists : Value → List Command → Prop
  | array {items : List Value} {commands : List Command} (h : DecodesTo items commands) :
    Lists (.array items) commands
  | noFields : Lists (.object []) []
  | noCharacters : Lists (.string "") []

theorem Command.exists_fields_of_decode {v : Value} {c : Command} (h : decode v = .ok c) :
    ∃ fields, v = .object fields := by
  rw [decode, decodeObject, mapError_eq_ok_iff] at h
  cases v with
  | object fields => exact ⟨fields, rfl⟩
  | _ => cases h

/-- Texts are no commands, and so no commands come from any. -/
theorem decodesTo_strings_iff {texts : List String} {commands : List Command} :
    DecodesTo (texts.map .string) commands ↔ texts = [] ∧ commands = [] := by
  constructor
  · intro h
    cases texts with
    | nil => exact ⟨rfl, List.forall₂_nil_left_iff.1 h⟩
    | cons text texts =>
      obtain ⟨c, _, hdecode, -, -⟩ := List.forall₂_cons_left_iff.1 h
      obtain ⟨_, hobject⟩ := Command.exists_fields_of_decode hdecode
      cases hobject
  · rintro ⟨rfl, rfl⟩
    exact .nil

namespace Platform.Client

variable {client : Client} {answer : Answer} {commands : List Command}

theorem exists_items_iff {document : Value} :
    (∃ items, Client.items document = .ok items ∧ DecodesTo items commands) ↔
      Lists document commands := by
  constructor
  · rintro ⟨items, hitems, hdecodes⟩
    cases document with
    | array _ =>
      obtain rfl := Except.ok.inj hitems
      exact .array hdecodes
    | object fields =>
      have hstrings : items = (fields.map Prod.fst).map .string := by
        rw [List.map_map]
        exact (Except.ok.inj hitems).symm
      rw [hstrings] at hdecodes
      obtain ⟨hfields, rfl⟩ := decodesTo_strings_iff.1 hdecodes
      rw [List.map_eq_nil_iff] at hfields
      exact hfields ▸ .noFields
    | string s =>
      have hstrings : items = ((points s.toList).map fun p => ofPoints [p]).map .string := by
        rw [List.map_map]
        exact (Except.ok.inj hitems).symm
      rw [hstrings] at hdecodes
      obtain ⟨hs, rfl⟩ := decodesTo_strings_iff.1 hdecodes
      rw [List.map_eq_nil_iff, points_eq_nil_iff, String.toList_eq_nil_iff] at hs
      exact hs ▸ .noCharacters
    | _ => cases hitems
  · intro h
    cases h with
    | array h => exact ⟨_, rfl, h⟩
    | noFields => exact ⟨[], rfl, .nil⟩
    | noCharacters => exact ⟨[], rfl, .nil⟩

theorem readListing_eq_ok_iff {r : Response} :
    readListing r = .ok commands ↔
      ∃ document, readOctets r.body = .ok document ∧ Lists document commands := by
  simp only [readListing, bind_eq_ok_iff, mapError_eq_ok_iff, mapM_eq_ok_iff, ← exists_items_iff]
  rfl

theorem checkRedirect_of_isSuccess {request : Request} {r : Response} (h : r.isSuccess = true) :
    request.checkRedirect r = .ok () := by
  have hlocation : r.location? = none := by
    rw [Response.isSuccess, Bool.and_eq_true, decide_eq_true_eq, decide_eq_true_eq] at h
    have hstatus : redirectStatuses.contains r.status = false := by
      simp [redirectStatuses]
      omega
    rw [Response.location?, hstatus]
    rfl
  rw [Request.checkRedirect, hlocation]
  rfl

theorem readResponse_eq_ok_iff {α : Type} {request : Request} {r : Response} {a : α}
    {read : Response → Except ExchangeError α} :
    readResponse request read r = .ok a ↔ r.isSuccess = true ∧ read r = .ok a := by
  by_cases h : r.isSuccess = true
  · have hread : readResponse request read r = read r := by
      rw [readResponse, checkRedirect_of_isSuccess h, if_pos h]
      rfl
    rw [hread, and_iff_right h]
  · simp only [readResponse, bind_eq_ok_iff, if_neg h]
    constructor
    · rintro ⟨_, -, _, -, hthrow⟩
      cases hthrow
    · exact fun hsuccess => absurd hsuccess.1 h

theorem exists_body_of_receive {request : Request} {response received : Response}
    (h : request.receive response = .ok received) :
    ∃ body, decodeContent response.codings response.body = .ok body ∧
      received = { response with body } := by
  simp only [Request.receive, bind_eq_ok_iff, mapError_eq_ok_iff, pure, Except.pure,
    Except.ok.injEq] at h
  obtain ⟨_, -, body, hbody, _, -, rfl⟩ := h
  exact ⟨body, hbody, rfl⟩

/-- The request can be made, the answer to it is a success, and this is its document. -/
def IsAnswered (client : Client) (answer : Answer) (document : Value) : Prop :=
  ∃ request response received, client.request .get listingSegment none = .ok request ∧
    answer = .response response ∧ response.isSuccess = true ∧
    request.receive response = .ok received ∧ readOctets received.body = .ok document

theorem list_eq_ok_iff :
    (client.list answer).outcome = .ok commands ↔
      ∃ document, client.IsAnswered answer document ∧ Lists document commands := by
  have hsuccess {request : Request} {response received : Response}
      (h : request.receive response = .ok received) :
      received.isSuccess = response.isSuccess := by
    obtain ⟨body, -, rfl⟩ := exists_body_of_receive h
    rfl
  unfold list exchange
  constructor
  · intro h
    split at h
    · cases h
    · rename_i request hrequest
      obtain ⟨received, hreceived, hread⟩ := bind_eq_ok_iff.1 h
      obtain ⟨hreceivedSuccess, hlisting⟩ := readResponse_eq_ok_iff.1 hread
      obtain ⟨document, hdocument, hlists⟩ := readListing_eq_ok_iff.1 hlisting
      cases answer with
      | fault f => cases hreceived
      | response response =>
        exact ⟨document, ⟨request, response, received, hrequest, rfl,
          hsuccess hreceived ▸ hreceivedSuccess, hreceived, hdocument⟩, hlists⟩
  · rintro ⟨document, ⟨request, response, received, hrequest, rfl, hresponse, hreceived,
      hdocument⟩, hlists⟩
    rw [hrequest]
    exact bind_eq_ok_iff.2 ⟨received, hreceived, readResponse_eq_ok_iff.2
      ⟨(hsuccess hreceived).trans hresponse, readListing_eq_ok_iff.2 ⟨document, hdocument, hlists⟩⟩⟩

end Platform.Client

theorem Cycle.run_of_error {exchange : Exchange} {e : ExchangeError}
    (h : exchange.list.outcome = .error e) (access : Access) :
    run exchange access = idle exchange.list [listingFailed e] access := by
  rw [run, h]

theorem Cycle.run_of_nil {exchange : Exchange} (h : exchange.list.outcome = .ok [])
    (access : Access) : run exchange access = idle exchange.list [] access := by
  rw [run, h]

/-- The commands of a listing are those of its document, all of them and in its order. A listing
that is no array of commands leads to no handling and no report. It fails, but for two documents
that list no command. -/
theorem Cycle.run_all_or_nothing (client : Client) (answer sending : Answer) (access : Access) :
    let reply := client.list answer
    let cycle := run (client.exchangeWith answer sending) access
    (∀ commands, reply.outcome = .ok commands ↔
      ∃ document, client.IsAnswered answer document ∧ Lists document commands) ∧
    ((¬ ∃ document commands, client.IsAnswered answer document ∧ Lists document commands) →
      ∃ e, reply.outcome = .error e ∧ cycle = idle reply [listingFailed e] access) ∧
    ((¬ ∃ items commands, client.IsAnswered answer (.array items) ∧ DecodesTo items commands) →
      cycle.reports = [] ∧ cycle.sent = false ∧ cycle.access = access ∧
        cycle.requests = reply.requests) := by
  intro reply cycle
  refine ⟨fun commands => Client.list_eq_ok_iff, fun hnone => ?_, fun hnone => ?_⟩
  · cases houtcome : reply.outcome with
    | error e => exact ⟨e, rfl, run_of_error houtcome access⟩
    | ok commands =>
      obtain ⟨document, hdocument⟩ := Client.list_eq_ok_iff.1 houtcome
      exact absurd ⟨document, commands, hdocument⟩ hnone
  · have hidle : ∃ records, cycle = idle reply records access := by
      cases houtcome : reply.outcome with
      | error e => exact ⟨_, run_of_error houtcome access⟩
      | ok commands =>
        obtain ⟨document, hanswered, hlists⟩ := Client.list_eq_ok_iff.1 houtcome
        cases hlists with
        | array hdecodes => exact absurd ⟨_, commands, hanswered, hdecodes⟩ hnone
        | noFields => exact ⟨_, run_of_nil houtcome access⟩
        | noCharacters => exact ⟨_, run_of_nil houtcome access⟩
    obtain ⟨records, hcycle⟩ := hidle
    rw [hcycle]
    exact ⟨rfl, rfl, rfl, rfl⟩

namespace Shop

def emptyObject : Answer := .response ⟨200, [], utf8Octets "\x7b\x7d"⟩

/-- The listing is no array, and yet it does not fail. -/
theorem not_forall_lists :
    ¬ ∀ (answer : Answer) (commands : List Command),
      (client.list answer).outcome = .ok commands →
        ∃ items, client.IsAnswered answer (.array items) ∧ DecodesTo items commands := by
  intro h
  have hok : (client.list emptyObject).outcome.isOk = true := by decide +kernel
  cases houtcome : (client.list emptyObject).outcome with
  | error e =>
    rw [houtcome] at hok
    cases hok
  | ok commands =>
    obtain ⟨items, ⟨request, response, received, -, hanswer, -, hreceived, hdocument⟩, -⟩ :=
      h emptyObject commands houtcome
    obtain rfl := Answer.response.inj hanswer
    obtain ⟨body, hbody, rfl⟩ := Client.exists_body_of_receive hreceived
    obtain rfl := Except.ok.inj hbody
    have hname : (readOctets (utf8Octets "\x7b\x7d")).toOption.map Value.typeName
        = some "dict" := by
      decide +kernel
    rw [hdocument] at hname
    simp [Except.toOption, Value.typeName] at hname

end Shop

end PolicyAgent
