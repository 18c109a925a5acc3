import Changeover.Text.Blank
import Changeover.Text.Case
import Changeover.Text.Digit
import Changeover.Text.Quoted
import Changeover.Url.Idna
import Changeover.Url.Ipv6
import Changeover.Url.Split
import Changeover.Url.Target

/-!
# Base URLs

The URL that a client's requests start from. It is taken apart, every part is brought into the form in
which it is sent, and the path, with the query if there is one, is made to end in a slash.
-/

namespace Changeover.Url

open Text

/-- Why a URL cannot be a base. -/
inductive BaseFault
  | long
  | longPart (part : String)
  | control (c : Char) (position : Nat)
  | service (text : String)
  | ipv4 (host : String)
  | ipv6 (host : String)
  | name (host : String)
  deriving DecidableEq, Repr

/-- The text of a refusal. -/
def BaseFault.message : BaseFault → String
  | .long => "URL too long"
  | .longPart part => "URL component '" ++ part ++ "' too long"
  | .control c position =>
    "Invalid non-printable ASCII character in URL, " ++ Quoted.text c.toString ++ " at position " ++
      toString position ++ "."
  | .service text => "Invalid port: " ++ Quoted.text text
  | .ipv4 host => "Invalid IPv4 address: " ++ Quoted.text host
  | .ipv6 host => "Invalid IPv6 address: " ++ Quoted.text host
  | .name host => "Invalid IDNA hostname: " ++ Quoted.text host

/-- A URL taken apart; a query or a fragment may be there and empty. -/
structure BaseParts where
  scheme : List Char
  authority : List Char
  path : List Char
  query : Option (List Char)
  fragment : Option (List Char)

/-- Takes a URL apart. -/
def BaseParts.of (url : List Char) : BaseParts :=
  let (scheme, hier) := splitScheme url
  let (authority, rest) := splitAuthority hier
  let target := before '#' rest
  { scheme, authority
    path := before '?' target
    query := after? '?' target
    fragment := after? '#' rest }

/-- An authority taken apart. -/
structure Authority where
  user : List Char
  host : List Char
  service : List Char

/-- The host at the beginning of a text and what follows it: up to the last closing bracket after an
opening one, or else up to a colon. -/
def splitHost (s : List Char) : List Char × List Char :=
  match s with
  | '[' :: r =>
    if r.contains ']' then
      let tail := (r.reverse.takeWhile (· != ']')).reverse
      ('[' :: r.take (r.length - tail.length), tail)
    else (before ':' s, s.dropWhile (· != ':'))
  | _ => (before ':' s, s.dropWhile (· != ':'))

/-- Takes an authority apart; the user stands before the last `@`. -/
def Authority.of (s : List Char) : Authority :=
  let place := afterLast '@' s
  let user := if s.contains '@' then s.take (s.length - place.length - 1) else []
  let (host, rest) := splitHost place
  { user, host
    service := match rest with
      | ':' :: r => r
      | r => r }

/-- Whether a character of a user's name is sent as it is. -/
def sentInUser (c : Char) : Bool := sentInPath c && !"/;=@[\\]^|".toList.contains c

/-- Whether a character of a host's name is sent as it is. -/
def sentInHost (c : Char) : Bool :=
  Percent.unreserved c || "!$&'()*+,;=\"`\x7b\x7d%|\\".toList.contains c

/-- Whether a character of a fragment is sent as it is. -/
def sentInFragment (c : Char) : Bool :=
  33 ≤ c.toNat && c.toNat ≤ 126 && !"\"<>`".toList.contains c

/-- How far a text has come in looking like a numeric address: the separators still to come, and
whether the number at hand has a digit. -/
abbrev NumericState := Nat × Bool

/-- The states after one more character, which may be a digit of the number at hand or, whatever it
is, a separator. -/
def numericStep (c : Char) (states : List NumericState) : List NumericState :=
  (states.flatMap fun (left, begun) =>
    (if c.isDigit then [(left, true)] else []) ++
      if begun && 0 < left then [(left - 1, false)] else []).eraseDups

/-- Whether a host looks like a numeric address: four numbers with one character between two. -/
def looksNumeric (host : List Char) : Bool :=
  (host.foldl (fun states c => numericStep c states) [(3, false)]).contains (0, true)

/-- A host as it is sent. -/
def sentHost (host : List Char) : Except BaseFault (List Char) :=
  if looksNumeric host then
    if isIpv4 host then .ok host else .error (.ipv4 (String.ofList host))
  else if host.head? == some '[' && host.getLast? == some ']' then
    if isIpv6 host.tail.dropLast then .ok host else .error (.ipv6 (String.ofList host))
  else if host.all (·.toNat < 128) then .ok (Percent.encode sentInHost (lower host))
  else
    match Idna.encode? (lower host) with
    | some h => .ok h
    | none => .error (.name (String.ofList host))

/-- The whole number that digits of any script write, with single underscores between them; nothing
for other texts. The text before is remembered by whether its last character is a digit. -/
def digitsFrom (n : Nat) (afterDigit : Bool) : List Char → Option Nat
  | [] => if afterDigit then some n else none
  | c :: r =>
    match digitValue? c with
    | some d => digitsFrom (10 * n + d) true r
    | none => if c == '_' && afterDigit then digitsFrom n false r else none

/-- The most digits that a number may have. -/
def maxDigits : Nat := 4300

/-- Reads a whole number between blanks, with a sign. -/
def wholeNumber? (s : List Char) : Option Int :=
  let (negative, digits) := match trim s with
    | '-' :: r => (true, r)
    | '+' :: r => (false, r)
    | r => (false, r)
  if maxDigits < (digits.filter (· != '_')).length then none
  else (digitsFrom 0 false digits).map fun n => if negative then -(n : Int) else n

/-- The number of the usual service of a scheme. -/
def usualService (scheme : List Char) : Int := if scheme == "https".toList then 443 else 80

/-- The number of a service with its colon, unless it is missing or the usual one. -/
def sentService (scheme service : List Char) : Except BaseFault (List Char) :=
  if service.isEmpty then .ok []
  else
    match wholeNumber? service with
    | some n => .ok (if n == usualService scheme then [] else ':' :: (toString n).toList)
    | none => .error (.service (String.ofList service))

/-- Takes one segment of a path back or on: a dot stays, two dots go back, but not before the root. What
has been passed is kept backwards. -/
def walk (passed : List (List Char)) (segment : List Char) : List (List Char) :=
  if segment == ['.'] then passed
  else if segment == ['.', '.'] then
    if passed == [[]] then passed else passed.tail
  else segment :: passed

/-- The path without segments that stay or go back. -/
def walked (path : List Char) : List Char :=
  ['/'].intercalate ((path.splitOn '/').foldl walk []).reverse

/-- The parts of a URL as they are sent. -/
def BaseParts.sent (p : BaseParts) : Except BaseFault BaseParts := do
  let a := Authority.of p.authority
  let host ← sentHost a.host
  let service ← sentService p.scheme a.service
  let user := Percent.encode sentInUser a.user
  return {
    scheme := p.scheme
    authority := (if user.isEmpty then [] else user ++ ['@']) ++ host ++ service
    path := Percent.encode sentInPath (walked p.path)
    query := p.query.map (Percent.encode sentInQuery)
    fragment := p.fragment.map (Percent.encode sentInFragment) }

/-- What a client asks for at a URL: its path, where an empty one is the root, and its query. -/
def BaseParts.request (p : BaseParts) : List Char :=
  (if p.path.isEmpty then ['/'] else p.path) ++ (p.query.map ('?' :: ·)).getD []

/-- The parts with their names. -/
def BaseParts.named (p : BaseParts) : List (String × List Char) :=
  [("scheme", p.scheme), ("authority", p.authority), ("path", p.path), ("query", p.query.getD []),
    ("fragment", p.fragment.getD [])]

/-- The first part that is too long. -/
def BaseParts.longPart? (p : BaseParts) : Option String :=
  (p.named.find? fun x => maxLength < x.2.length).map (·.1)

/-- The URL whose request ends in a slash. -/
def BaseParts.slashed (p : BaseParts) : Except BaseFault BaseParts :=
  if p.request.getLast? == some '/' then .ok p
  else
    let request := p.request ++ ['/']
    let p' := { p with path := before '?' request, query := after? '?' request }
    match p'.longPart? with
    | some part => .error (.longPart part)
    | none => p'.sent

/-- The text of a URL. -/
def BaseParts.text (p : BaseParts) : List Char :=
  (if p.scheme.isEmpty then [] else p.scheme ++ [':']) ++
    (if p.authority.isEmpty then [] else '/' :: '/' :: p.authority) ++ p.path ++
    (p.query.map ('?' :: ·)).getD [] ++ (p.fragment.map ('#' :: ·)).getD []

/-- The first control in a text, with its position. -/
def control? (s : List Char) : Option (Char × Nat) :=
  (s.find? fun c => c.toNat < 32 || c.toNat == 127).map fun c => (c, (before c s).length)

/-- A base URL as it is kept. -/
def normalizeBase (url : List Char) : Except BaseFault (List Char) := do
  if maxLength < url.length then .error .long
  else
    match control? url with
    | some (c, n) => .error (.control c n)
    | none =>
      let p ← (BaseParts.of url).sent
      let q ← p.slashed
      return q.text

end Changeover.Url
