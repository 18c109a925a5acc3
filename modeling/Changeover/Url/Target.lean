import Changeover.Text.Cut
import Changeover.Text.Latin1
import Changeover.Text.Percent

/-!
# Targets of forwarded requests

A target is a path and, after the first `?`, a query. It must be ASCII without controls and without
`#`, no part of it may be overlong, and its path may not look like an authority or a scheme. What is
escaped stays as it is; of the rest a few characters have to be escaped.
-/

namespace Changeover.Url

open Text

/-- Why a target is refused. -/
inductive TargetFault
  | notAscii
  | invalid
  deriving DecidableEq, Repr

/-- A path and an optional query, ready to be sent. -/
structure Target where
  path : List Char
  query : Option (List Char)

/-- Whether the byte is a control. -/
def isControl (b : UInt8) : Bool := b < 32 || b == 127

/-- Whether a character of a path is sent as it is. -/
def sentInPath (c : Char) : Bool :=
  33 ≤ c.toNat && c.toNat ≤ 126 && !"\"#<>?`\x7b\x7d".toList.contains c

/-- Whether a character of a query is sent as it is. -/
def sentInQuery (c : Char) : Bool :=
  33 ≤ c.toNat && c.toNat ≤ 126 && !"\"#<>".toList.contains c

/-- The longest part that is accepted. -/
def maxLength : Nat := 65536

/-- Whether a path looks like the start of something else. -/
def isMisleading (path : Bytes) : Bool := [47, 47].isPrefixOf path || [58].isPrefixOf path

/-- Whether the path and the query of a target are refused. -/
def isRefused (path query : Bytes) : Bool :=
  path.any isControl || query.any isControl || path.contains 35 || query.contains 35 ||
    maxLength < path.length || maxLength < query.length || isMisleading path

/-- Reads a target. -/
def Target.ofBytes (raw : Bytes) : Except TargetFault Target :=
  let path := before 63 raw
  let query := after? 63 raw
  if raw.any (128 ≤ ·) then .error .notAscii
  else if isRefused path (query.getD []) then .error .invalid
  else
    .ok {
      path := Percent.encode sentInPath (Latin1.ofBytes path)
      query := query.map fun q => Percent.encode sentInQuery (Latin1.ofBytes q) }

/-- The text that is sent; an empty path is the root. -/
def Target.text (t : Target) : List Char :=
  let path := if t.path.isEmpty then ['/'] else t.path
  match t.query with
  | none => path
  | some q => path ++ '?' :: q

end Changeover.Url
