import Changeover.Table
import Changeover.Text.Blank
import Changeover.Text.Cut

/-!
# Environment files

One entry a line: a name, optionally after `export`, and a value after `=`. A value may stand between
quotes, which may span lines and hold escapes; without quotes it ends at a blank before `#`. Lines
that start with `#` are comments, and a line that is no entry is skipped. References to variables in
values are then resolved from the entries before them and the environment. Lines may end in line feeds,
carriage returns or both, and a mark of the byte order may come first.
-/

namespace Changeover.Settings.EnvFile

open Text

/-- The text with every end of a line written as a line feed. -/
def normalize : List Char → List Char
  | '\r' :: '\n' :: r => '\n' :: normalize r
  | '\r' :: r => '\n' :: normalize r
  | c :: r => c :: normalize r
  | [] => []

/-- The text without a mark of its byte order. -/
def dropMark : List Char → List Char
  | [] => []
  | c :: r => if c.toNat == 0xFEFF then r else c :: r

/-- Whether the character is a blank within a line. -/
def isGap (c : Char) : Bool := isBlank c && c != '\n'

/-- What follows the rest of the line. -/
def nextLine (s : List Char) : List Char :=
  after '\n' s

/-- The text after `export` and a gap, if the line begins so. -/
def skipExport (s : List Char) : List Char :=
  if "export".toList.isPrefixOf s then
    match s.drop 6 with
    | c :: r => if isGap c then r.dropWhile isGap else s
    | [] => s
  else s

/-- The text up to the closing quote and what follows it. A backslash takes the next character with it,
so that a quote after it does not close. -/
def quoted? (q : Char) : List Char → Option (List Char × List Char)
  | '\\' :: c :: r => (quoted? q r).map fun p => ('\\' :: c :: p.1, p.2)
  | c :: r => if c == q then some ([], r) else (quoted? q r).map fun p => (c :: p.1, p.2)
  | [] => none

/-- The character that an escape stands for between quotes `q`. -/
def escaped? (q c : Char) : Option Char :=
  if c == '\\' || c == '\'' then some c
  else if q == '\'' then none
  else if c == '"' then some c
  else if c == 'a' then some (Char.ofNat 7)
  else if c == 'b' then some (Char.ofNat 8)
  else if c == 'f' then some (Char.ofNat 12)
  else if c == 'n' then some '\n'
  else if c == 'r' then some '\r'
  else if c == 't' then some '\t'
  else if c == 'v' then some (Char.ofNat 11)
  else none

/-- The text with its escapes read. -/
def unescape (q : Char) : List Char → List Char
  | '\\' :: c :: r =>
    match escaped? q c with
    | some x => x :: unescape q r
    | none => '\\' :: unescape q (c :: r)
  | c :: r => c :: unescape q r
  | [] => []

/-- The text before the first blanks that a `#` follows. -/
def dropComment : List Char → List Char
  | [] => []
  | c :: r =>
    if isBlank c && (r.dropWhile isBlank).head? == some '#' then [] else c :: dropComment r

/-- The value after `=` and what follows it: between quotes, or else up to a comment or the end of the
line. Blanks before it do not count, but a comment may follow them at once. -/
def value? (s : List Char) : Option (List Char × List Char) :=
  match s.dropWhile isGap with
  | '\'' :: r => (quoted? '\'' r).map fun p => (unescape '\'' p.1, p.2)
  | '"' :: r => (quoted? '"' r).map fun p => (unescape '"' p.1, p.2)
  | _ => some (trim (dropComment (before '\n' s)), s.dropWhile (· != '\n'))

/-- A name and what follows it. -/
def name? (s : List Char) : Option (List Char × List Char) :=
  match s with
  | '\'' :: r =>
    let name := before '\'' r
    match name, after? '\'' r with
    | _ :: _, some rest => some (name, rest)
    | _, _ => none
  | _ =>
    let ends (c : Char) : Bool := c == '=' || c == '#' || isBlank c
    let name := s.takeWhile (!ends ·)
    if name.isEmpty then none else some (name, s.dropWhile (!ends ·))

/-- What follows the end of a line on which only a comment may be left. -/
def lineEnd? (s : List Char) : Option (List Char) :=
  match s.dropWhile isGap with
  | [] => some []
  | c :: r =>
    if c == '#' then some (nextLine r) else if c == '\n' then some r else none

/-- An entry, if the line is one, and the text from which to go on. -/
def entry (s : List Char) : Option (String × Option String) × List Char :=
  if s.head? == some '#' then (none, nextLine s)
  else
    match name? (skipExport s) with
    | none => (none, nextLine s)
    | some (name, r) =>
      let key := String.ofList name
      match r.dropWhile isGap with
      | '=' :: r' =>
        match value? r' with
        | none => (none, nextLine r')
        | some (v, rest) =>
          match lineEnd? rest with
          | some next => (some (key, some (String.ofList v)), next)
          | none => (none, nextLine rest)
      | r' =>
        match lineEnd? r' with
        | some next => (some (key, none), next)
        | none => (none, nextLine r')

/-- The entries of a text, at most `fuel` of them. -/
def entriesUpTo : Nat → List Char → List (String × Option String)
  | 0, _ => []
  | fuel + 1, s =>
    match s.dropWhile isBlank with
    | [] => []
    | c :: r =>
      let (found, rest) := entry (c :: r)
      found.toList ++ entriesUpTo fuel rest

/-- A reference after its `$` and opening brace: its name, its default and what follows. -/
def reference? (s : List Char) : Option (List Char × List Char × List Char) :=
  let close := '\x7d'
  let name := s.takeWhile fun c => c != close && c != ':'
  match s.dropWhile fun c => c != close && c != ':' with
  | ':' :: '-' :: r => (after? close r).map fun rest => (name, before close r, rest)
  | c :: rest => if c == close then some (name, [], rest) else none
  | [] => none

/-- The text with its references resolved, looking at no more than `fuel` characters. -/
def resolve (lookup : String → Option (Option String)) : Nat → List Char → List Char
  | 0, _ => []
  | _ + 1, [] => []
  | fuel + 1, c :: r =>
    match c, r with
    | '$', '\x7b' :: r' =>
      match reference? r' with
      | some (name, default, rest) =>
        let v := match lookup (String.ofList name) with
          | some v => (v.getD "").toList
          | none => default
        v ++ resolve lookup fuel rest
      | none => c :: resolve lookup fuel r
    | _, _ => c :: resolve lookup fuel r

/-- Adds an entry whose references are resolved from the table and the environment. -/
def addEntry (env : Table String) (t : Table (Option String)) (e : String × Option String) :
    Table (Option String) :=
  let lookup (k : String) : Option (Option String) :=
    match t.get? k with
    | some v => some v
    | none => (env.get? k).map some
  t.put e.1 (e.2.map fun v => String.ofList (resolve lookup (v.length + 1) v.toList))

/-- The entries of an environment file. -/
def read (env : Table String) (content : String) : Table (Option String) :=
  let s := normalize (dropMark content.toList)
  (entriesUpTo (s.length + 1) s).foldl (addEntry env) []

end Changeover.Settings.EnvFile
