import Changeover.Url.Authority

/-!
# Splitting URLs

A URL is cut into scheme, authority, path, query and fragment. Leading controls and spaces and all
tabs and line ends are removed first.
-/

namespace Changeover.Url

open Text

/-- The parts of a URL. -/
structure Parts where
  scheme : List Char
  authority : List Char
  path : List Char
  query : List Char
  fragment : List Char

/-- The characters of a scheme. -/
def isSchemeChar (c : Char) : Bool := c.isAlphanum || c == '+' || c == '-' || c == '.'

/-- The text without leading controls and spaces, tabs and line ends. -/
def clean (s : List Char) : List Char :=
  (s.dropWhile (·.toNat ≤ 0x20)).filter fun c => c != '\t' && c != '\n' && c != '\r'

/-- The scheme, in lower case, and the rest: a scheme is a letter and scheme characters before the
first colon. -/
def splitScheme (s : List Char) : List Char × List Char :=
  let scheme := before ':' s
  match scheme, after? ':' s with
  | c :: r, some rest =>
    if c.isAlpha && r.all isSchemeChar then (scheme.map Char.toLower, rest) else ([], s)
  | _, _ => ([], s)

/-- The characters that end an authority. -/
def endsAuthority (c : Char) : Bool := c == '/' || c == '?' || c == '#'

/-- The authority after `//`, and the rest. -/
def splitAuthority : List Char → List Char × List Char
  | '/' :: '/' :: r => (r.takeWhile (!endsAuthority ·), r.dropWhile (!endsAuthority ·))
  | s => ([], s)

/-- The parts of a URL, unless its authority is refused. -/
def split (s : List Char) : Except SplitError Parts := do
  let (scheme, hier) := splitScheme (clean s)
  let (authority, rest) := splitAuthority hier
  checkAuthority authority
  let target := before '#' rest
  return ⟨scheme, authority, before '?' target, after '?' target, after '#' rest⟩

end Changeover.Url
