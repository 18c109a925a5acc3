import Changeover.Header
import Changeover.Text.Blank
import Changeover.Text.Cut

/-!
# Cookies of a request

A `cookie` header holds pieces between semicolons, each a name and a value around its first `=`; a
piece without `=` is a value without a name. Blanks around both are dropped, and a value between
double quotes is read without them and with its escapes resolved. A later cookie of the same name
replaces the earlier one.
-/

namespace Changeover.Cookie

open Text

/-- Whether the character is an octal digit. -/
def isOctal (c : Char) : Bool := '0' ≤ c && c ≤ '7'

/-- The number that three octal digits write. -/
def octal (a b c : Char) : Nat := (a.toNat - 48) * 64 + (b.toNat - 48) * 8 + (c.toNat - 48)

/-- Resolves the escapes of a quoted value: a backslash with three octal digits stands for the
character of that number, and with any other character but a line feed for that character. -/
def unescape : List Char → List Char
  | [] => []
  | '\\' :: a :: b :: c :: r =>
    if '0' ≤ a && a ≤ '3' && isOctal b && isOctal c then Char.ofNat (octal a b c) :: unescape r
    else if a == '\n' then '\\' :: unescape (a :: b :: c :: r)
    else a :: unescape (b :: c :: r)
  | '\\' :: a :: r => if a == '\n' then '\\' :: unescape (a :: r) else a :: unescape r
  | c :: r => c :: unescape r

/-- Reads a value, which may be quoted. -/
def value (s : List Char) : List Char :=
  match s with
  | '"' :: r => if r.getLast? == some '"' then unescape r.dropLast else s
  | _ => s

/-- The name and the value of a piece, unless both are empty. -/
def piece? (s : List Char) : Option (List Char × List Char) :=
  let (name, v) := match after? '=' s with
    | some v => (trim (before '=' s), trim v)
    | none => ([], trim s)
  if name.isEmpty && v.isEmpty then none else some (name, value v)

/-- The cookies of one header. -/
def pieces (s : List Char) : List (List Char × List Char) := (s.splitOn ';').filterMap piece?

/-- The cookies of a request. -/
def ofHeaders (hs : List RawHeader) : Table String :=
  let found := (Header.rawValues hs "cookie").flatMap fun v => pieces (Latin1.ofBytes v)
  Table.ofEntries (found.map fun p => (String.ofList p.1, String.ofList p.2))

end Changeover.Cookie
