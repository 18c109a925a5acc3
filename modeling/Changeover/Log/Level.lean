import Changeover.Table
import Changeover.Text.Case
import Changeover.Text.Quoted

/-!
# Log levels

The levels, their numbers, the words by which a call or the environment names them, and how the
environment chooses the least level that is written.
-/

namespace Changeover.Log

/-- The importance of a record. -/
inductive Level
  | debug
  | info
  | warning
  | error
  | critical
  deriving DecidableEq, Repr

/-- The number of a level. -/
def Level.number : Level → Nat
  | .debug => 10
  | .info => 20
  | .warning => 30
  | .error => 40
  | .critical => 50

/-- The word of a level. -/
def Level.word : Level → String
  | .debug => "debug"
  | .info => "info"
  | .warning => "warning"
  | .error => "error"
  | .critical => "critical"

/-- What a name in capitals stands for. -/
inductive Meaning
  | level (l : Level)
  /-- The number below all levels. -/
  | lowest
  /-- The layout of a line. -/
  | layout
  /-- The table of the ways to write layouts. -/
  | layouts

/-- The names that mean something. -/
def meanings : Table Meaning :=
  [("DEBUG", .level .debug), ("INFO", .level .info), ("WARNING", .level .warning),
    ("WARN", .level .warning), ("ERROR", .level .error), ("CRITICAL", .level .critical),
    ("FATAL", .level .critical), ("NOTSET", .lowest), ("BASIC_FORMAT", .layout),
    ("_STYLES", .layouts)]

/-- What a name in any letter case stands for. -/
def meaning? (name : String) : Option Meaning :=
  meanings.get? (String.ofList (Text.upper name.toList))

/-- A name that stands for something else than a level and so chooses no threshold. -/
inductive NotALevel
  | layout
  | layouts

/-- The layout that a line has unless it is changed. -/
def basicFormat : String := "%(levelname)s:%(name)s:%(message)s"

/-- The table of the ways to write layouts, as it is shown. -/
def layoutsShown : String :=
  "\x7b'%': (<class 'logging.PercentStyle'>, '%(levelname)s:%(name)s:%(message)s'), '\x7b': " ++
    "(<class 'logging.StrFormatStyle'>, '\x7blevelname\x7d:\x7bname\x7d:\x7bmessage\x7d'), '$': " ++
    "(<class 'logging.StringTemplateStyle'>, '$\x7blevelname\x7d:$\x7bname\x7d:$\x7bmessage\x7d')\x7d"

/-- The kind of the refusal. -/
def NotALevel.kind : NotALevel → String
  | .layout => "ValueError"
  | .layouts => "TypeError"

/-- The text of the refusal. -/
def NotALevel.message : NotALevel → String
  | .layout => "Unknown level: " ++ Text.Quoted.text basicFormat
  | .layouts => "Level not an integer or a valid string: " ++ layoutsShown

/-- The least number of a level that is written, by the name of a level; that of `info` for a name that
means nothing. -/
def thresholdNamed (name : String) : Except NotALevel Nat :=
  match meaning? name with
  | some (.level l) => .ok l.number
  | some .lowest => .ok 0
  | some .layout => .error .layout
  | some .layouts => .error .layouts
  | none => .ok Level.info.number

end Changeover.Log
