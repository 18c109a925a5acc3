import Changeover.Consent
import Changeover.Destination
import Changeover.Input
import Changeover.Snapshot

/-!
# Decisions

Whether a request is sent to the new site and what happens to the consent cookie. An override in the
query comes before the cookie; hosts of machine clients are never redirected; a visitor who has just
come back from the new site is left alone.
-/

namespace Changeover

open Text

/-- What is done with a request: it is redirected when there is a destination. -/
structure Decision where
  destination : Option String := none
  cookie : CookieUpdate := .keep

namespace Decision

/-- Whether the request is redirected. -/
def redirects (d : Decision) : Bool := d.destination.isSome

/-- The decision with these fields, which must agree on whether there is a destination. -/
def ofFields? (redirect : Bool) (destination : Option String) (cookie : CookieUpdate) :
    Option Decision :=
  if redirect = destination.isSome then some ⟨destination, cookie⟩ else none

/-- The text of a refusal of fields that do not agree. -/
def disagreement : String := "destination must be set exactly when redirect is true"

/-- The decision with the given values of its fields, or the report on them. -/
def ofValues (find : String → Option Json) : Except (List Input.Detail) Decision :=
  let (redirect, e₁) := Input.read find Input.boolOf "redirect" false
  let (destination, e₂) := Input.read find Input.textOrNull "destination" none
  let (cookie, e₃) := Input.read find
    (Input.choiceOf CookieUpdate.words CookieUpdate.ofWord?) "cookie" .keep
  match e₁ ++ e₂ ++ e₃ with
  | [] =>
    match ofFields? redirect destination cookie with
    | some d => .ok d
    | none => .error [.whole disagreement]
  | details => .error details

/-- What the query says. -/
def overrideConsent (s : Settings) (a : Snapshot) : Consent :=
  Consent.parse (a.parameter? s.redirectParam)

/-- What the cookie says; without an opt-in the answer is off. -/
def cookieConsent (s : Settings) (a : Snapshot) : Consent :=
  if a.cookies.get? s.redirectCookie = some "on" then .on else .off

/-- Whether the host is one for machine clients. -/
def isApiRequest (s : Settings) (a : Snapshot) : Bool :=
  s.apiHostPrefix.toList.isPrefixOf a.host.toList

/-- Whether the visitor has just come back from the new site. -/
def isReturning (s : Settings) (a : Snapshot) : Bool :=
  a.parameter? "utm_source" == some s.returnMarker

/-- Whether the visitor prefers the new site, wherever this request goes. -/
def prefersNewSite (s : Settings) (a : Snapshot) : Bool :=
  !isApiRequest s a &&
    match overrideConsent s a with
    | .on => true
    | .off => false
    | .unset => cookieConsent s a == .on

/-- The decision on a request. -/
def resolve (s : Settings) (a : Snapshot) : Decision :=
  if isReturning s a then {}
  else
    { destination :=
        if prefersNewSite s a then
          some (String.ofList (Destination.ofUrl s a.requestUri.toList))
        else none
      cookie := CookieUpdate.ofOverride (overrideConsent s a) }

end Decision

end Changeover
