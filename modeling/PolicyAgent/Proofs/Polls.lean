import PolicyAgent.Journal.Setup
import PolicyAgent.Proofs.Posting

/-!
# What is written of the exchanges

The line of an answered request has a fixed beginning, the method, the address, the version, the
status and its phrase. The words of a poll are in none of the fixed parts, nor in a status or in a
phrase, so they are in a line exactly if the method or the address has them.

The line of a listing is never written. The line of reports has neither word in its method or in
its last segment. But it is lost as well if both words are in what the operator has put around
that segment.
-/
namespace PolicyAgent

open PolicyAgent.Journal PolicyAgent.Platform PolicyAgent.Text

namespace Journal

theorem occursIn_eq_true_iff {part cs : List Char} : occursIn part cs = true ↔ part <:+: cs := by
  induction cs with
  | nil => simp [occursIn]
  | cons c rest ih => simp [occursIn, ih, List.infix_cons_iff]

/-- A part that is itself no separator occurs on one side of it. -/
theorem infix_append_cons_iff {part before after : List Char} {c : Char} (h : c ∉ part) :
    part <:+: before ++ c :: after ↔ part <:+: before ∨ part <:+: after := by
  constructor
  · intro hoccurs
    rcases List.infix_append_iff.1 hoccurs with hbefore | hafter | ⟨left, right, rfl, hleft, hright⟩
    · exact .inl hbefore
    · rcases List.infix_cons_iff.1 hafter with hfirst | hafter
      · cases part with
        | nil => exact .inl List.nil_infix
        | cons d rest =>
          obtain rfl : d = c := (List.cons_prefix_cons.1 hfirst).1
          simp at h
      · exact .inr hafter
    · cases right with
      | nil => exact .inl (by simpa using hleft.isInfix)
      | cons d rest =>
        obtain rfl : d = c := (List.cons_prefix_cons.1 hright).1
        simp at h
  · rintro (hbefore | hafter)
    · exact hbefore.trans (List.prefix_append _ _).isInfix
    · exact hafter.trans ((List.suffix_cons c after).trans (List.suffix_append _ _)).isInfix

/-- A part that starts with a mark and has no other does not run over such a mark. -/
theorem infix_append_mark_iff {mark : Char} {rest before after : List Char} (h : mark ∉ rest) :
    mark :: rest <:+: before ++ mark :: after
      ↔ mark :: rest <:+: before ∨ mark :: rest <:+: mark :: after := by
  constructor
  · intro hoccurs
    rcases List.infix_append_iff.1 hoccurs with hbefore | hafter | ⟨left, right, heq, hleft, hright⟩
    · exact .inl hbefore
    · exact .inr hafter
    · cases right with
      | nil =>
        rw [heq, List.append_nil]
        exact .inl hleft.isInfix
      | cons d right =>
        obtain rfl : d = mark := (List.cons_prefix_cons.1 hright).1
        cases left with
        | nil =>
          rw [heq]
          exact .inr hright.isInfix
        | cons e left =>
          obtain ⟨-, rfl⟩ := List.cons.inj heq
          simp at h
  · rintro (hbefore | hafter)
    · exact hbefore.trans (List.prefix_append _ _).isInfix
    · exact hafter.trans (List.suffix_append _ _).isInfix

end Journal

namespace Platform

theorem phrase_property {P : String → Bool} (phrases : List (Int × String))
    (h : (P "" && phrases.all fun entry => P entry.2) = true) (code : Int) :
    P (((phrases.find? (·.1 == code)).map (·.2)).getD "") = true := by
  rw [Bool.and_eq_true, List.all_eq_true] at h
  cases hfind : phrases.find? (·.1 == code) with
  | none => exact h.1
  | some entry => exact h.2 entry (List.mem_of_find?_eq_some hfind)

theorem not_occursIn_statusPhrase (status : Int) :
    (!occursIn pollPath.toList ((statusPhrase status).toList ++ ['"'])
      && !occursIn pollMethod.toList ((statusPhrase status).toList ++ ['"'])) = true :=
  phrase_property (P := fun phrase => !occursIn pollPath.toList (phrase.toList ++ ['"'])
      && !occursIn pollMethod.toList (phrase.toList ++ ['"'])) _ (by decide +kernel) status

theorem toList_requestLine (method : Method) (address : String) (status : Int) :
    (requestLine method address status).toList
      = "HTTP Request:".toList ++ ' ' :: (method.name.toList ++ ' ' :: (address.toList
        ++ ' ' :: ("\"HTTP/1.1".toList ++ ' ' :: ((toString status).toList
          ++ ' ' :: ((statusPhrase status).toList ++ ['"']))))) := by
  unfold requestLine
  generalize statusPhrase status = phrase
  generalize toString status = shown
  simp [toString]

theorem isDigit_or_eq_of_mem_toString {n : Int} {c : Char} (h : c ∈ (toString n).toList) :
    c.isDigit = true ∨ c = '-' := by
  cases n with
  | ofNat n =>
    have hdigit : c ∈ Nat.toDigits 10 n := by simpa [toString, Int.repr, Nat.repr] using h
    exact .inl (Nat.isDigit_of_mem_toDigits (by decide) (by decide) hdigit)
  | negSucc n =>
    have hcases : c = '-' ∨ c ∈ Nat.toDigits 10 (n + 1) := by
      simpa [toString, Int.repr, Nat.repr] using h
    rcases hcases with rfl | hdigit
    · exact .inr rfl
    · exact .inl (Nat.isDigit_of_mem_toDigits (by decide) (by decide) hdigit)

/-- A word of a poll is in a line exactly if it is in the method or in the address. -/
theorem infix_requestLine_iff {word : String} (hword : word = pollPath ∨ word = pollMethod)
    (method : Method) (address : String) (status : Int) :
    word.toList <:+: (requestLine method address status).toList
      ↔ word.toList <:+: method.name.toList ∨ word.toList <:+: address.toList := by
  have hblank : ' ' ∉ word.toList := by rcases hword with rfl | rfl <;> decide +kernel
  have hstart : ¬ word.toList <:+: "HTTP Request:".toList := by
    rcases hword with rfl | rfl <;> decide +kernel
  have hversion : ¬ word.toList <:+: "\"HTTP/1.1".toList := by
    rcases hword with rfl | rfl <;> decide +kernel
  have hstatus : ¬ word.toList <:+: (toString status).toList := by
    intro hoccurs
    have hother : word.toList.any (fun c => !(c.isDigit || c == '-')) = true := by
      rcases hword with rfl | rfl <;> decide +kernel
    obtain ⟨c, hc, hnone⟩ := List.any_eq_true.1 hother
    have hdigit := isDigit_or_eq_of_mem_toString (hoccurs.subset hc)
    simp_all
  have hphrase : ¬ word.toList <:+: (statusPhrase status).toList ++ ['"'] := by
    have hnone := not_occursIn_statusPhrase status
    simp only [Bool.and_eq_true, Bool.not_eq_true', ← Bool.not_eq_true, occursIn_eq_true_iff]
      at hnone
    rcases hword with rfl | rfl
    · exact hnone.1
    · exact hnone.2
  simp only [toList_requestLine, infix_append_cons_iff hblank, hstart, hversion, hstatus, hphrase,
    false_or, or_false]

theorem mentionsPoll_requestLine_iff (method : Method) (address : String) (status : Int) :
    mentionsPoll (requestLine method address status) = true
      ↔ (pollPath.toList <:+: method.name.toList ∨ pollPath.toList <:+: address.toList) ∧
        (pollMethod.toList <:+: method.name.toList ∨ pollMethod.toList <:+: address.toList) := by
  simp only [mentionsPoll, Bool.and_eq_true, occursIn_eq_true_iff,
    infix_requestLine_iff (.inl rfl), infix_requestLine_iff (.inr rfl)]

/-- A part that starts with a mark is not begun in a text without the mark. -/
theorem infix_append_of_not_mem {mark : Char} {rest before after : List Char}
    (h : mark ∉ before) : mark :: rest <:+: before ++ after ↔ mark :: rest <:+: after := by
  induction before with
  | nil => rfl
  | cons c before ih =>
    obtain ⟨hne, hnotMem⟩ := not_or.1 (List.mem_cons.not.1 h)
    rw [List.cons_append, List.infix_cons_iff, ih hnotMem, List.cons_prefix_cons]
    simp [hne]

/-- Each word of a poll is in what an address has before its last segment or behind it. -/
def SurroundPoll (before after : List Char) : Prop :=
  (pollPath.toList <:+: before ∨ pollPath.toList <:+: after) ∧
    (pollMethod.toList <:+: before ∨ pollMethod.toList <:+: after)

instance (before after : List Char) : Decidable (SurroundPoll before after) :=
  inferInstanceAs (Decidable (_ ∧ _))

/-- The address of the reports has the words of a poll around its segment only. -/
theorem infix_reports_iff {before after : List Char} :
    (pollPath.toList <:+: before ++ '/' :: Client.reportsSegment.toList ++ after ∧
        pollMethod.toList <:+: before ++ '/' :: Client.reportsSegment.toList ++ after)
      ↔ SurroundPoll before after := by
  have hpath : pollPath.toList = '/' :: "commands".toList := by decide +kernel
  have hmethod : pollMethod.toList = 'G' :: "ET".toList := by decide +kernel
  have hcommands : "commands".toList = "command".toList ++ ['s'] := by decide +kernel
  have hreports : Client.reportsSegment.toList = "command".toList ++ "-reports".toList := by
    decide +kernel
  have hnotPath :
      ¬ '/' :: "commands".toList <+: '/' :: (Client.reportsSegment.toList ++ after) := by
    rw [List.cons_prefix_cons, hcommands, hreports, List.append_assoc, List.prefix_append_right_inj]
    simp
  rw [SurroundPoll, hpath, hmethod, List.append_assoc, List.cons_append,
    infix_append_mark_iff (by decide +kernel), List.infix_cons_iff, or_iff_right hnotPath,
    infix_append_of_not_mem (by decide +kernel), infix_append_cons_iff (by decide +kernel),
    infix_append_of_not_mem (by decide +kernel)]

/-- A record of a request is written if it is not about a poll, whatever the agent's threshold. -/
theorem written_records (request : Request) (agent : Threshold) (response : Response) :
    written agent (request.records (.ok response))
      = if mentionsPoll (requestLine request.method request.address response.status) then []
        else request.records (.ok response) := by
  have hreaches : reachesThreshold agent requestLogger .info = true := by rfl
  cases h : mentionsPoll (requestLine request.method request.address response.status) <;>
    simp [written, Request.records, isWritten, isPoll, hreaches, h]

namespace Client

variable {client : Client} {listing reports : Request} {body : Option Json.Value}

/-- The lines of a listing are never written. Those of reports are, unless both words of a poll
are around the last segment of the address. -/
theorem written_exchanges (hlisting : client.request .get listingSegment none = .ok listing)
    (hreports : client.request .post reportsSegment body = .ok reports)
    (hhost : listing.url.host ≠ []) :
    let before := listing.url.front ++ client.base.above
    let after := client.base.behind
    listing.url.write = before ++ '/' :: listingSegment.toList ++ after ∧
      reports.url.write = before ++ '/' :: reportsSegment.toList ++ after ∧
      ∀ (agent : Threshold) (response : Response),
        written agent (listing.records (.ok response)) = [] ∧
        (SurroundPoll before after → written agent (reports.records (.ok response)) = []) ∧
        (¬ SurroundPoll before after →
          written agent (reports.records (.ok response)) = reports.records (.ok response)) := by
  obtain ⟨url, hurl, rfl, -, -, -⟩ := request_eq_ok_iff.1 hlisting
  obtain ⟨url', hurl', rfl, -, -, -⟩ := request_eq_ok_iff.1 hreports
  obtain ⟨hsame, -, hfront⟩ := Url.site_of_child hurl hurl'
  have hwrite := Url.write_child (by decide +kernel) hurl hhost
  have hwrite' := Url.write_child (by decide +kernel) hurl' (hsame ▸ hhost)
  rw [← hfront] at hwrite'
  have hget : pollMethod.toList <:+: (Method.name .get).toList := by decide +kernel
  have hpost : ¬ pollPath.toList <:+: (Method.name .post).toList ∧
      ¬ pollMethod.toList <:+: (Method.name .post).toList := by
    decide +kernel
  have hlistingLine (status : Int) :
      mentionsPoll (requestLine .get (String.ofList url.write) status) = true := by
    rw [mentionsPoll_requestLine_iff, String.toList_ofList, hwrite]
    exact ⟨.inr (List.infix_append _ _ _), .inl hget⟩
  have hreportsLine (status : Int) :
      mentionsPoll (requestLine .post (String.ofList url'.write) status) = true
        ↔ SurroundPoll (url.front ++ client.base.above) client.base.behind := by
    rw [mentionsPoll_requestLine_iff, or_iff_right hpost.1, or_iff_right hpost.2,
      String.toList_ofList, hwrite', infix_reports_iff]
  refine ⟨hwrite, hwrite', fun agent response => ⟨?_, fun h => ?_, fun h => ?_⟩⟩
  · exact (written_records _ _ _).trans (if_pos (hlistingLine _))
  · exact (written_records _ _ _).trans (if_pos ((hreportsLine _).2 h))
  · exact (written_records _ _ _).trans (if_neg ((hreportsLine _).not.2 h))

end Client

end Platform

namespace Shop

open PolicyAgent.Platform.Client

def endpointAt (client : Client) (segment : String) : Url :=
  { client.base with path := client.base.path ++ segment.toList }

def listingRequest (client : Client) : Request :=
  client.requestTo .get (endpointAt client listingSegment) none

def reportsRequest (client : Client) : Request :=
  client.requestTo .post (endpointAt client reportsSegment) (some (bodyOf []))

/-- Below this address, no line of reports is lost. -/
theorem written_exchanges_agent :
    client.request .get listingSegment none = .ok (listingRequest client) ∧
      client.request .post reportsSegment (some (bodyOf [])) = .ok (reportsRequest client) ∧
      (listingRequest client).url.host ≠ [] ∧
      ∀ (agent : Threshold) (response : Response),
        written agent ((listingRequest client).records (.ok response)) = [] ∧
          written agent ((reportsRequest client).records (.ok response))
            = (reportsRequest client).records (.ok response) := by
  have hlisting : client.request .get listingSegment none = .ok (listingRequest client) := rfl
  have hreports : client.request .post reportsSegment (some (bodyOf []))
      = .ok (reportsRequest client) := rfl
  have hhost : (listingRequest client).url.host ≠ [] := by decide +kernel
  have hsurround : ¬ SurroundPoll ((listingRequest client).url.front ++ client.base.above)
      client.base.behind := by
    decide +kernel
  obtain ⟨-, -, hwritten⟩ := written_exchanges hlisting hreports hhost
  exact ⟨hlisting, hreports, hhost, fun agent response =>
    ⟨(hwritten agent response).1, (hwritten agent response).2.2 hsurround⟩⟩

/-- A client whose base address has a place for each word of a poll. -/
def pollsClient : Client :=
  { client with
    baseUrl := "https://platform.example.com/GET/commands"
    base := { client.base with path := "/GET/commands/".toList } }

/-- Below that address, the lines of reports are lost. -/
theorem not_forall_written :
    ¬ ∀ (url token : String) (client : Client) (listing reports : Request)
        (body : Option Json.Value) (response : Response),
      Client.opened url token 10 = .ok client →
        client.base.scheme ∈ ["http".toList, "https".toList] → client.base.host ≠ [] →
        client.request .get listingSegment none = .ok listing →
        client.request .post reportsSegment body = .ok reports →
        written (.ofSeverity .info) (listing.records (.ok response)) = [] ∧
          written (.ofSeverity .info) (reports.records (.ok response))
            = reports.records (.ok response) := by
  intro h
  have hopened : Client.opened pollsClient.baseUrl "token" 10 = .ok pollsClient := rfl
  have hlisting : pollsClient.request .get listingSegment none
      = .ok (listingRequest pollsClient) := rfl
  have hreports : pollsClient.request .post reportsSegment (some (bodyOf []))
      = .ok (reportsRequest pollsClient) := rfl
  obtain ⟨-, hkept⟩ := h _ _ _ _ _ _ ⟨204, [], []⟩ hopened (by decide +kernel) (by decide +kernel)
    hlisting hreports
  have hlost : written (.ofSeverity .info)
      ((reportsRequest pollsClient).records (.ok ⟨204, [], []⟩)) = [] := by
    decide +kernel
  exact List.cons_ne_nil _ _ (hkept.symm.trans hlost)

end Shop

end PolicyAgent
