import Changeover.Text.Quoted
import Changeover.Url.Ipv6

/-!
# Acceptable authorities

The authority of a URL may hold brackets only around an IPv6 address (or an address of a future
version), and no character that a compatibility normalization turns into a delimiter.
-/

namespace Changeover.Url

open Text

/-- Why a URL is refused. -/
inductive SplitError
  | unbalanced
  | futureAddress
  | ipv4InBrackets
  | notAnAddress (host : String)
  | ambiguous (authority : String)

/-- The text of a refusal. -/
def SplitError.message : SplitError → String
  | .unbalanced => "Invalid IPv6 URL"
  | .futureAddress => "IPvFuture address is invalid"
  | .ipv4InBrackets => "An IPv4 address cannot be in brackets"
  | .notAnAddress host => Quoted.text host ++ " does not appear to be an IPv4 or IPv6 address"
  | .ambiguous authority =>
    "netloc '" ++ authority ++ "' contains invalid characters under NFKC normalization"

/-- Whether the text after a `v` is hexadecimal digits, a dot and anything. -/
def isFutureAddress (s : List Char) : Bool :=
  let digits := s.takeWhile Hex.isDigit
  !digits.isEmpty &&
    match s.dropWhile Hex.isDigit with
    | '.' :: _ :: _ => true
    | _ => false

/-- Whether a host may stand in brackets. -/
def checkBracketedHost (host : List Char) : Except SplitError Unit :=
  match host with
  | 'v' :: r => if isFutureAddress r then .ok () else .error .futureAddress
  | _ =>
    if isIpv4 host then .error .ipv4InBrackets
    else if isIpv6 host then .ok ()
    else .error (.notAnAddress (String.ofList host))

/-- Whether an authority that holds both brackets uses them well. -/
def checkBracketed (authority : List Char) : Except SplitError Unit :=
  let place := afterLast '@' authority
  match after? '[' place with
  | none => checkBracketedHost (before ':' place)
  | some inside =>
    let rest := after ']' inside
    if !(before '[' place).isEmpty then .error .unbalanced
    else if !rest.isEmpty && rest.head? != some ':' then .error .unbalanced
    else checkBracketedHost (before ']' inside)

/-- Characters whose compatibility form holds one of `/?#@:`. -/
def ambiguousCodes : List Nat :=
  [0x2047, 0x2048, 0x2049, 0x2100, 0x2101, 0x2105, 0x2106, 0x2A74, 0xFE13, 0xFE16, 0xFE55, 0xFE56,
    0xFE5F, 0xFE6B, 0xFF03, 0xFF0F, 0xFF1A, 0xFF1F, 0xFF20]

/-- Whether the brackets of an authority are acceptable. -/
def checkBrackets (authority : List Char) : Except SplitError Unit :=
  match authority.contains '[', authority.contains ']' with
  | false, false => .ok ()
  | true, true => checkBracketed authority
  | _, _ => .error .unbalanced

/-- Whether no character of an authority stands for a delimiter. -/
def checkAmbiguous (authority : List Char) : Except SplitError Unit :=
  if authority.any (ambiguousCodes.contains ·.toNat) then
    .error (.ambiguous (String.ofList authority))
  else .ok ()

/-- Whether an authority is acceptable; brackets are looked at first. -/
def checkAuthority (authority : List Char) : Except SplitError Unit := do
  checkBrackets authority
  checkAmbiguous authority

end Changeover.Url
