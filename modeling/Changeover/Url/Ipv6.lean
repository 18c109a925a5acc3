import Changeover.Text.Cut
import Changeover.Text.Hex

/-!
# Numeric addresses

Which texts are IPv4 addresses (four decimal octets without superfluous zeros) and which are IPv6
addresses (eight groups of hexadecimal digits, one run of which may be left out, the last two of
which may be written as an IPv4 address, and which may be followed by `%` and a zone).
-/

namespace Changeover.Url

open Text

/-- Whether the text is a decimal octet. -/
def isOctet (s : List Char) : Bool :=
  !s.isEmpty && s.length ≤ 3 && s.all Char.isDigit && (s == ['0'] || s.head? != some '0') &&
    s.foldl (fun n c => 10 * n + (c.toNat - 48)) 0 ≤ 255

/-- Whether the text is an IPv4 address. -/
def isIpv4 (s : List Char) : Bool :=
  let parts := s.splitOn '.'
  parts.length == 4 && parts.all isOctet

/-- Whether the text is one group of an IPv6 address. -/
def isHextet (s : List Char) : Bool := !s.isEmpty && s.length ≤ 4 && s.all Hex.isDigit

/-- The groups of an address whose last part may be an IPv4 address, which counts as two. -/
def hextets? (parts : List (List Char)) : Option (List (List Char)) :=
  match parts.reverse with
  | [] => none
  | l :: r =>
    if l.contains '.' then
      if isIpv4 l then some (r.reverse ++ [['0'], ['0']]) else none
    else some parts

/-- Whether the parts between the colons are those of an address without a gap. -/
def fullGroups (parts : List (List Char)) : Bool := parts.length == 8 && parts.all isHextet

/-- The groups on one side of a gap; an empty part is allowed only alone, at the outer end. -/
def sideGroups (side : List (List Char)) : Option Nat :=
  if side == [[]] then some 0 else if side.all isHextet then some side.length else none

/-- Whether the parts before and after a gap leave at least one group to it. -/
def gappedGroups (hi lo : List (List Char)) : Bool :=
  match sideGroups hi, sideGroups lo with
  | some m, some n => m + n < 8
  | _, _ => false

/-- Whether the parts between the colons are those of an address. A gap is an empty part that is
neither the first nor the last. -/
def areGroups (parts : List (List Char)) : Bool :=
  let inner := parts.tail.dropLast
  if inner.contains [] then
    let hi := before [] parts.tail
    gappedGroups (parts.take 1 ++ hi) (after [] parts.tail)
  else fullGroups parts

/-- Whether the text is an IPv6 address without a zone. -/
def isIpv6Groups (s : List Char) : Bool :=
  let parts := s.splitOn ':'
  3 ≤ parts.length &&
    match hextets? parts with
    | none => false
    | some groups => groups.length ≤ 9 && areGroups groups

/-- Whether the text is an IPv6 address; a zone is not empty and holds no second `%`. -/
def isIpv6 (s : List Char) : Bool :=
  !s.contains '/' && isIpv6Groups (before '%' s) &&
    match after? '%' s with
    | none => true
    | some zone => !zone.isEmpty && !zone.contains '%'

end Changeover.Url
