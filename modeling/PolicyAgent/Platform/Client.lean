import PolicyAgent.Command
import PolicyAgent.Platform.Redirect
import PolicyAgent.Report
import PolicyAgent.Text.Base64

/-!
# The client of the platform

The client knows the base address of the platform and a token, which every request carries in
its authorization header and nowhere else. Where the base address has user information, the
header names the user instead of the token.

The client lists the pending commands and sends reports. A listing is all or nothing: the answer
has to be a success whose document is a list of commands. Objects and texts count as lists of
their names and points, none of which is a command. A closed client sends nothing.
-/
namespace PolicyAgent.Platform

open PolicyAgent.Json PolicyAgent.Text PolicyAgent.Journal

/-- Whether certificates are verified, and against which bundle. -/
inductive Verify
  | flag (b : Bool)
  | bundle (path : String)
  deriving DecidableEq, Repr

/-- A bundle without a path verifies nothing. -/
def Verify.isOn : Verify → Bool
  | .flag b => b
  | .bundle path => !path.isEmpty

structure Client where
  baseUrl : String
  /-- The base address with a slash at its end, from which the endpoints are built. -/
  base : Url
  token : String
  timeout : Float
  closed : Bool

inductive OpeningError
  | url (e : UrlError)
  | token (e : RepertoireError)
  deriving DecidableEq, Repr

def OpeningError.message : OpeningError → String
  | .url e => e.message
  | .token e => e.message

def bearer (token : String) : String := s!"Bearer {token}"

def basic (user password : List Char) : String :=
  let octets := utf8Octets (String.ofList (characters (user ++ ':' :: password)))
  s!"Basic {String.ofList (base64 octets)}"

/-- User information holds a user before its first colon and a password behind it. -/
def authorization (user : List Char) (token : String) : String :=
  let (name, password) := cutAt ':' user
  let name := percentText name
  let password := percentText (password.getD [])
  if name = [] ∧ password = [] then bearer token else basic name password

namespace Client

def trimSlashes (s : String) : String :=
  String.ofList (s.toList.reverse.dropWhile (· = '/')).reverse

/-- Requests without encryption are warned about, unless verification is off anyway. -/
def warnings (baseUrl : String) (verify : Verify) : List Record :=
  if "http://".toList.isPrefixOf baseUrl.toList && verify.isOn then
    [Source.client.record .warning
      "Using HTTP without TLS - this should only be used for local development!"]
  else []

def opened (url token : String) (timeout : Float) : Except OpeningError Client := do
  let baseUrl := trimSlashes url
  let base ← (Url.ofChars baseUrl.toList).mapError .url
  let base ← base.directory.mapError .url
  (Repertoire.ascii.check (bearer token).toList).mapError .token
  return { baseUrl, base, token, timeout, closed := false }

def close (client : Client) : Client := { client with closed := true }

def endpoint (client : Client) (segment : String) : Except UrlError Url :=
  client.base.child segment.toList

/-- A request to an endpoint, if it can be made. A closed client makes none. -/
def request (client : Client) (method : Method) (segment : String) (body : Option Value) :
    Except ExchangeError Request := do
  let url ← (client.endpoint segment).mapError .url
  let request : Request :=
    ⟨method, url, authorization client.base.user client.token, client.timeout, body⟩
  request.check
  if client.closed then throw .closed
  return request

/-- A success is handed on; any other response fails, and one that redirects nowhere fails in
a way of its own. -/
def readResponse (request : Request) (read : Response → Except ExchangeError α)
    (response : Response) : Except ExchangeError α := do
  request.checkRedirect response
  if response.isSuccess then read response
  else throw (.status response.status (← response.text.mapError .charset))

/-- One exchange. A request that cannot be made is not sent. -/
def exchange (request : Except ExchangeError Request) (answer : Answer)
    (read : Response → Except ExchangeError α) : Reply α :=
  match request with
  | .error e => .ofOutcome (.error e)
  | .ok request =>
    let received := match answer with
      | .fault f => .error (.fault f)
      | .response response => request.receive response
    ⟨received.bind (readResponse request read), [request], request.records received⟩

/-- The items that a document lists. -/
def items : Value → Except ExchangeError (List Value)
  | .array items => .ok items
  | .object fields => .ok (fields.map fun field => .string field.1)
  | .string s => .ok ((points s.toList).map fun p => .string (ofPoints [p]))
  | v => .error (.noListing v.typeName)

/-- The commands in a listing; the first item that is none fails the listing. -/
def readListing (r : Response) : Except ExchangeError (List Command) := do
  let document ← (readOctets r.body).mapError .document
  let items ← items document
  items.mapM fun item => (Command.decode item).mapError .invalid

def listingSegment : String := "commands"

def reportsSegment : String := "command-reports"

def list (client : Client) (answer : Answer) : Reply (List Command) :=
  exchange (client.request .get listingSegment none) answer readListing

def reportsBody (reports : List Report) : Except WireError Value := do
  return .object [("reports", .array (← reports.mapM Report.wire?))]

/-- Reports that cannot be written are not sent, whether the client is closed or not. -/
def send (client : Client) (reports : List Report) (answer : Answer) : Reply Unit :=
  match reportsBody reports with
  | .error e => .ofOutcome (.error (.wire e))
  | .ok body =>
    exchange (client.request .post reportsSegment (some body)) answer fun _ => .ok ()

end Client

end PolicyAgent.Platform
