import Changeover.Consent
import Changeover.Header
import Changeover.Settings.Basic
import Changeover.Text.Quoted

/-!
# Cookies of a response

How a consent update is written: storing sets the cookie to the word for an opt-in, clearing sets it
to nothing and lets it expire at once. The cookie lasts for the session and holds for the whole site.
-/

namespace Changeover.SetCookie

open Text

/-- Why a name cannot be that of a cookie. -/
inductive Fault
  | reserved (name : String)
  | illegal (name : String)

/-- The text of a refusal. -/
def Fault.message : Fault → String
  | .reserved name => "Attempt to set a reserved key " ++ Quoted.text name
  | .illegal name => "Illegal key " ++ Quoted.text name

/-- The names of cookie attributes. -/
def reservedNames : List String :=
  ["expires", "path", "comment", "domain", "max-age", "secure", "httponly", "version", "samesite"]

/-- The characters of a cookie's name. -/
def isNameChar (c : Char) : Bool := c.isAlphanum || "!#$%&'*+-.^_`|~:".toList.contains c

/-- What is wrong with a name; the reserved names are looked at first. -/
def fault? (name : String) : Option Fault :=
  if reservedNames.contains (String.ofList (lower name.toList)) then some (.reserved name)
  else if name.isEmpty || !name.toList.all isNameChar then some (.illegal name)
  else none

/-- The field that stores an opt-in. -/
def store (name : String) : RawHeader :=
  Header.raw "set-cookie" (name ++ "=" ++ Consent.on.word ++ "; Path=/; SameSite=lax")

/-- The field that deletes the cookie. -/
def delete (name : String) : RawHeader :=
  Header.raw "set-cookie" (name ++ "=\"\"; Max-Age=-1; Path=/; SameSite=lax")

/-- The fields that carry out an update. -/
def ofUpdate (s : Settings) (u : CookieUpdate) : Except Fault (List RawHeader) :=
  match u with
  | .keep => .ok []
  | .set =>
    match fault? s.redirectCookie with
    | none => .ok [store s.redirectCookie]
    | some f => .error f
  | .clear =>
    match fault? s.redirectCookie with
    | none => .ok [delete s.redirectCookie]
    | some f => .error f

end Changeover.SetCookie
