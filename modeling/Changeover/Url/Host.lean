import Changeover.Decimal.Read
import Changeover.Text.Percent
import Changeover.Url.Ipv6

/-!
# Hosts as clients name them

The value by which a client names the host that it asks: a name or a numeric address in brackets, and
optionally the number of a service after a colon. A name is made of letters, digits, a few signs and
escapes; in brackets stands an IPv6 address without a zone or an address of a future version.
-/

namespace Changeover.Url

open Text

/-- The characters of a name that are not escaped. -/
def isNameChar (c : Char) : Bool := Percent.unreserved c || "!$&'()*+,;=".toList.contains c

/-- Whether the text is made of the characters of a name and of escapes. -/
def isEscapedName : List Char → Bool
  | [] => true
  | '%' :: a :: b :: r => Hex.isDigit a && Hex.isDigit b && isEscapedName r
  | c :: r => isNameChar c && isEscapedName r

/-- Whether the text after a `v` is hexadecimal digits, a dot and the characters of an address. -/
def isFutureHost (s : List Char) : Bool :=
  match s.dropWhile Hex.isDigit with
  | '.' :: c :: r =>
    !(s.takeWhile Hex.isDigit).isEmpty && (c :: r).all fun x => isNameChar x || x == ':'
  | _ => false

/-- Whether the text may stand in brackets. -/
def isNumericHost : List Char → Bool
  | 'v' :: r => isFutureHost r
  | s => isIpv6 s && !s.contains '%'

/-- Whether the text is the end of a host: nothing, or a colon and the number of a service. -/
def isServicePart : List Char → Bool
  | [] => true
  | ':' :: ds => !ds.isEmpty && ds.all Char.isDigit && Decimal.natOf ds ≤ 65535
  | _ => false

/-- Whether the text names a host. -/
def isHost (s : List Char) : Bool :=
  match s with
  | '[' :: r =>
    match after? ']' r with
    | some rest => isNumericHost (before ']' r) && isServicePart rest
    | none => false
  | _ =>
    let name := before ':' s
    !name.isEmpty && isEscapedName name && isServicePart (s.drop name.length)

end Changeover.Url
