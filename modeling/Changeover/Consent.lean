/-!
# Consent

A visitor has opted in, opted out or said nothing. An opt-in is stored in a cookie; an opt-out is the
absence of the cookie.
-/

namespace Changeover

/-- What a visitor has said. -/
inductive Consent
  | on
  | off
  | unset
  deriving DecidableEq, Repr

/-- The word of a consent. -/
def Consent.word : Consent → String
  | .on => "on"
  | .off => "off"
  | .unset => "unset"

/-- Reads a consent; only the two words themselves count. -/
def Consent.parse (value : Option String) : Consent :=
  if value = some "on" then .on else if value = some "off" then .off else .unset

/-- What a response does to the consent cookie. -/
inductive CookieUpdate
  | keep
  | set
  | clear
  deriving DecidableEq, Repr

/-- The word of an update. -/
def CookieUpdate.word : CookieUpdate → String
  | .keep => "none"
  | .set => "set"
  | .clear => "clear"

/-- The words of all updates. -/
def CookieUpdate.words : List String := [keep, set, clear].map word

/-- Reads the word of an update. -/
def CookieUpdate.ofWord? (w : String) : Option CookieUpdate :=
  if w = "none" then some .keep
  else if w = "set" then some .set
  else if w = "clear" then some .clear
  else none

/-- The update that stores what the visitor says in this request. -/
def CookieUpdate.ofOverride : Consent → CookieUpdate
  | .on => .set
  | .off => .clear
  | .unset => .keep

end Changeover
