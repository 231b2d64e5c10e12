import PolicyAgent.Compression.ContentCoding
import PolicyAgent.Fault
import PolicyAgent.Journal.Record
import PolicyAgent.Json.Printer
import PolicyAgent.Json.Reader
import PolicyAgent.Platform.Url
import PolicyAgent.Report
import PolicyAgent.Text.Charset
import PolicyAgent.Validation

/-!
# Exchanges with the platform

A request is answered by a response or by a fault of the transport. From a response the agent
wants its status, its headers and its octets, which the headers may say are coded. An exchange
that does not serve its purpose fails for one of a few causes, and the agent goes on with the
text of the cause.
-/
namespace PolicyAgent.Platform

open PolicyAgent.Compression PolicyAgent.Json PolicyAgent.Text

inductive Method
  | get
  | post
  deriving DecidableEq, Repr

def Method.name : Method → String
  | .get => "GET"
  | .post => "POST"

structure Request where
  method : Method
  url : Url
  authorization : String
  timeout : Float
  body : Option Value

namespace Request

def address (r : Request) : String := String.ofList r.url.write

def bodyText (r : Request) : String := ((r.body.map (·.write .compact)).getD "")

def contentType (r : Request) : Option String :=
  r.body.map fun _ => "application/json"

end Request

structure Response where
  status : Int
  headers : List (String × String)
  body : List UInt8

/-- What comes back for a request. -/
inductive Answer
  | response (r : Response)
  | fault (f : Fault)

namespace Response

def isSuccess (r : Response) : Bool := 200 ≤ r.status && r.status ≤ 299

/-- The value of a header. Case does not matter in its name, and of several headers with one
name the values are joined. -/
def header? (r : Response) (name : String) : Option String :=
  match r.headers.filter (·.1.toLower == name) with
  | [] => none
  | headers => some (", ".intercalate (headers.map (·.2)))

def codings (r : Response) : List ContentCoding :=
  match r.header? "content-encoding" with
  | some names => ContentCoding.ofNames names.toList
  | none => []

def charset (r : Response) : Charset :=
  match r.header? "content-type" with
  | some contentType => .ofContentType contentType
  | none => .utf8

/-- The body as a text. An empty one is empty in any character set. -/
def text (r : Response) : Except CharsetError String :=
  if r.body.isEmpty then .ok "" else return ofPoints (← r.charset.read r.body)

end Response

/-- Why an exchange did not serve its purpose. -/
inductive ExchangeError
  | closed
  | fault (f : Fault)
  | url (e : UrlError)
  | host (e : DomainError)
  | unwritable (e : RepertoireError)
  | unknownKind (address : String)
  | content (f : StreamFault)
  | location (e : UrlError)
  | charset (e : CharsetError)
  | status (code : Int) (body : String)
  | document (e : DocumentError)
  | noListing (typeName : String)
  | invalid (e : Invalid)
  | wire (e : WireError)
  deriving DecidableEq, Repr

def ExchangeError.message : ExchangeError → String
  | .closed => "Cannot send a request, as the client has been closed."
  | .fault f => f.message
  | .url e => e.message
  | .host e => e.message
  | .unwritable e => e.message
  | .unknownKind address => s!"unknown url type: {quoted address}"
  | .content f => f.message
  | .location e => s!"Invalid URL in location header: {e.message}."
  | .charset e => e.message
  | .status code body =>
    s!"unexpected status code {code}" ++ if body.isEmpty then "" else s!": {body}"
  | .document e => e.message
  | .noListing typeName => s!"'{typeName}' object is not iterable"
  | .invalid e => e.text
  | .wire e => e.message

/-- What an exchange led to, the requests that were sent and the records about them. -/
structure Reply (α : Type) where
  outcome : Except ExchangeError α
  requests : List Request
  records : List Journal.Record

def Reply.ofOutcome (outcome : Except ExchangeError α) : Reply α := ⟨outcome, [], []⟩

def statusPhrase (code : Int) : String :=
  let phrases : List (Int × String) :=
    [(100, "Continue"), (101, "Switching Protocols"), (102, "Processing"), (103, "Early Hints"),
     (200, "OK"), (201, "Created"), (202, "Accepted"), (203, "Non-Authoritative Information"),
     (204, "No Content"), (205, "Reset Content"), (206, "Partial Content"), (207, "Multi-Status"),
     (208, "Already Reported"), (226, "IM Used"), (300, "Multiple Choices"),
     (301, "Moved Permanently"), (302, "Found"), (303, "See Other"), (304, "Not Modified"),
     (305, "Use Proxy"), (307, "Temporary Redirect"), (308, "Permanent Redirect"),
     (400, "Bad Request"), (401, "Unauthorized"), (402, "Payment Required"), (403, "Forbidden"),
     (404, "Not Found"), (405, "Method Not Allowed"), (406, "Not Acceptable"),
     (407, "Proxy Authentication Required"), (408, "Request Timeout"), (409, "Conflict"),
     (410, "Gone"), (411, "Length Required"), (412, "Precondition Failed"),
     (413, "Request Entity Too Large"), (414, "Request-URI Too Long"),
     (415, "Unsupported Media Type"), (416, "Requested Range Not Satisfiable"),
     (417, "Expectation Failed"), (418, "I'm a teapot"), (421, "Misdirected Request"),
     (422, "Unprocessable Entity"), (423, "Locked"), (424, "Failed Dependency"),
     (425, "Too Early"), (426, "Upgrade Required"), (428, "Precondition Required"),
     (429, "Too Many Requests"), (431, "Request Header Fields Too Large"),
     (451, "Unavailable For Legal Reasons"), (500, "Internal Server Error"),
     (501, "Not Implemented"), (502, "Bad Gateway"), (503, "Service Unavailable"),
     (504, "Gateway Timeout"), (505, "HTTP Version Not Supported"),
     (506, "Variant Also Negotiates"), (507, "Insufficient Storage"), (508, "Loop Detected"),
     (510, "Not Extended"), (511, "Network Authentication Required")]
  ((phrases.find? (·.1 == code)).map (·.2)).getD ""

def requestLine (method : Method) (address : String) (status : Int) : String :=
  s!"HTTP Request: {method.name} {address} \"HTTP/1.1 {status} {statusPhrase status}\""

namespace Request

/-- What is sent has to be writable: the body in UTF-8, the site in ASCII. A host in the ASCII
form of a domain name has to stand for one. -/
def check (r : Request) : Except ExchangeError Unit := do
  (Repertoire.utf8.check r.bodyText.toList).mapError .unwritable
  let _ ← (Host.meant r.url.host).mapError .host
  (Repertoire.ascii.check r.url.site).mapError .unwritable

/-- An address starts with its kind and a colon, before any slash. One that does not is shown
without an empty fragment. -/
def checkKind (r : Request) : Except ExchangeError Unit :=
  let (unmarked, fragment) := cutAtLast '#' r.url.write
  let isMark (c : Char) : Bool := c = ':' || c = '/'
  let shown := if fragment = some [] then unmarked else r.url.write
  let startsWithKind := unmarked.head? != some ':'
    && (unmarked.dropWhile (!isMark ·)).head? == some ':'
  if startsWithKind then .ok () else .error (.unknownKind (String.ofList shown))

/-- The response as it is read, with the codings of its body undone. Its headers are ASCII. -/
def receive (r : Request) (response : Response) : Except ExchangeError Response := do
  response.headers.forM fun (name, value) => do
    (Repertoire.ascii.check name.toList).mapError .unwritable
    (Repertoire.ascii.check value.toList).mapError .unwritable
  let body ← (decodeContent response.codings response.body).mapError .content
  r.checkKind
  return { response with body }

def records (r : Request) : Except ExchangeError Response → List Journal.Record
  | .ok response => [⟨Journal.requestLogger, .info, requestLine r.method r.address response.status⟩]
  | .error _ => []

end Request

end PolicyAgent.Platform
