import PolicyAgent.Platform.Exchange
import PolicyAgent.Platform.RelativeUrl

/-!
# Redirects

A response with one of five statuses may name a location to go to instead. The agent goes
nowhere, so a redirect is a refusal like any other one. But where it leads is worked out before
it is refused, and a redirect that leads nowhere fails for that reason.
-/
namespace PolicyAgent.Platform

open PolicyAgent.Text

def redirectStatuses : List Int := [301, 302, 303, 307, 308]

def Response.location? (r : Response) : Option String :=
  if redirectStatuses.contains r.status then r.header? "location" else none

/-- A location with a scheme and without a host is on the host that the request went to. -/
def Url.onHostOf (location url : Url) : Except ExchangeError Url := do
  if location.scheme = [] then return location
  let _ ← (Host.meant location.host).mapError .host
  if location.host ≠ [] then return location
  let host ← (Host.meant url.host).mapError .host
  (ofParts { location with host }.texts).mapError .url

def Request.target (r : Request) (location : Url) : Except ExchangeError Url := do
  let location ← location.onHostOf r.url
  if location.scheme ≠ [] ∧ location.host ≠ [] then return location
  (r.url.join location).mapError .url

def Url.fragmentText (url : Url) : List Char := percentText (url.fragment.getD [])

/-- A redirect has to lead to an address. The fragment of the request goes along to one that
has none. -/
def Request.checkRedirect (r : Request) (response : Response) : Except ExchangeError Unit := do
  match response.location? with
  | none => return ()
  | some text =>
    let location ← (Url.ofChars text.toList).mapError .location
    let target ← r.target location
    if target.fragmentText = [] then
      (Url.checkPart .fragment r.url.fragmentText).mapError .url
    let _ ← (Host.meant target.host).mapError .host

end PolicyAgent.Platform
