import Changeover.Log.Record
import Changeover.Log.Template

/-!
# Calls of loggers

What becomes of a call that names a level by a word and gives a message with its arguments and fields.
A plain call is looked at only when its level is written; then its fields may not take the names of a
record's own, and a message that cannot be filled in leaves no line. A bound call goes to the method of
that name; its fields may not take the names of what the method is given, and its message is filled in
before its level is looked at.
-/

namespace Changeover.Log

/-- A call of a logger. -/
structure Call where
  style : Style := .plain
  logger : String
  /-- The word for the level. -/
  level : String
  event : String
  arguments : List Json := []
  fields : Table Json := []

/-- Why a call is refused. -/
inductive CallFault
  | noSuchName (name : String)
  | notALevel
  | noSuchMethod (name : String)
  | given (method field : String)
  | overwritten (field : String)
  | unfilled (f : Template.Fault)

/-- The kind of a refusal. -/
def CallFault.kind : CallFault → String
  | .noSuchName _ | .noSuchMethod _ => "AttributeError"
  | .notALevel | .given _ _ => "TypeError"
  | .overwritten _ => "KeyError"
  | .unfilled f => f.kind

/-- The text of a refusal. -/
def CallFault.message : CallFault → String
  | .noSuchName name =>
    "module 'logging' has no attribute '" ++ String.ofList (Text.upper name.toList) ++ "'"
  | .notALevel => "level must be an integer"
  | .noSuchMethod name => "'BoundLogger' object has no attribute '" ++ name ++ "'"
  | .given method field =>
    "BoundLogger." ++ method ++ "() got multiple values for argument '" ++ field ++ "'"
  | .overwritten field =>
    Text.Quoted.text ("Attempt to overwrite " ++ Text.Quoted.text field ++ " in LogRecord")
  | .unfilled f => f.message

/-- What becomes of a call. -/
inductive Written
  | nothing
  | text
  | line (object : Json)

/-- The name of a logger; the one without a name is the root of all. -/
def loggerName (name : String) : String := if name.isEmpty then "root" else name

/-- The names that the fields of a plain call may not take. -/
def recordNames : List String :=
  ["name", "msg", "args", "levelname", "levelno", "pathname", "filename", "module", "exc_info",
    "exc_text", "stack_info", "lineno", "funcName", "created", "msecs", "relativeCreated", "thread",
    "threadName", "processName", "process", "message", "asctime"]

/-- The methods of a bound logger: their words, their own names and their levels. -/
def methods : Table (String × Level) :=
  [("debug", "debug", .debug), ("info", "info", .info), ("warning", "warning", .warning),
    ("warn", "warning", .warning), ("error", "error", .error), ("critical", "critical", .critical),
    ("fatal", "critical", .critical), ("exception", "exception", .error)]

/-- The members that never stand in a line: what is kept for the writing itself, and the time. -/
def hiddenMembers : List String := ["positional_args", "timestamp", "_record", "_from_structlog"]

/-- Those that are left out of a bound call's line besides. -/
def boundHiddenMembers : List String := ["exc_info", "stack_info"]

/-- The arguments that the member kept for them stands for: nothing when it is as good as missing. An
array of one object that is not empty stands for that object. -/
def suppliedBy : Json → Except Template.Fault (Option Template.Arguments)
  | .null | .bool false | .text "" | .array [] | .object [] => .ok none
  | .array [.object (m :: r)] => .ok (some (.ofValue (.object (m :: r))))
  | .array l => .ok (some (.ofValue (.array l)))
  | .text s => .ok (some (.ofValue (.text s)))
  | .object [_] => .error (.noIndex "0")
  | .object m => .ok (some (.ofValue (.object m)))
  | .int n => if n == 0 then .ok none else .error (.noLength "int")
  | .float x => if x == 0.0 then .ok none else .error (.noLength "float")
  | .bool true => .error (.noLength "bool")

/-- The members with their name filled in by the arguments, which are given with their kind. -/
def fillEvent (members : Table Json) (a : Template.Arguments) (kind : String) :
    Except Template.Fault (Table Json) :=
  match members.get? "event" with
  | some (.text s) => (Template.fill s a).map fun e => members.put "event" (.text e)
  | some v => .error (.notATemplate (Template.typeName v) kind)
  | none => .ok members

/-- The members with their name filled in from the member kept for arguments. -/
def fillKept (members : Table Json) : Except Template.Fault (Table Json) :=
  match members.get? "positional_args" with
  | none => .ok members
  | some v =>
    match suppliedBy v with
    | .error f => .error f
    | .ok none => .ok members
    | .ok (some a) => fillEvent members a (Template.typeName v)

/-- The members that stand in a line. A member kept for arguments stands only when it says nothing. -/
def visible (style : Style) (members : Table Json) : Table Json :=
  let kept := match members.get? "positional_args" with
    | some .null => [("positional_args", Json.null)]
    | _ => []
  let hidden := hiddenMembers ++ if style = .bound then boundHiddenMembers else []
  members.filter (fun m => !hidden.contains m.1) ++ kept

/-- Whether coloured text can be made of the members: the level is a text, and so are a stack and a
failure unless they say nothing. -/
def isShowable (members : Table Json) : Bool :=
  let fits (mayBeNull : Bool) (name : String) : Bool :=
    match members.get? name with
    | none | some (.text _) => true
    | some .null => mayBeNull
    | some _ => false
  fits false "level" && fits true "stack" && fits true "exception"

/-- What is written of members. -/
def Config.writeMembers (c : Config) (members : Table Json) : Written :=
  if c.structured then .line (.object members) else if isShowable members then .text else .nothing

/-- The record of a call. -/
def Call.record (x : Call) (level : Level) : Record :=
  { logger := loggerName x.logger, level, event := x.event, fields := x.fields, style := x.style }

/-- What is written of a plain call at a level that is written. -/
def Config.writePlain (c : Config) (x : Call) (level : Level) : Written :=
  let filled : Except Template.Fault (Table Json) := do
    let event ← if x.arguments.isEmpty then .ok x.event else Template.fill x.event (.ofList x.arguments)
    fillKept ({ x.record level with event }).members
  match filled with
  | .ok members => c.writeMembers (visible .plain members)
  | .error _ => .nothing

/-- What becomes of a plain call. -/
def Config.answerPlain (c : Config) (x : Call) : Except CallFault Written :=
  match meaning? x.level with
  | none => .error (.noSuchName x.level)
  | some .layout | some .layouts => .error .notALevel
  | some .lowest => .ok .nothing
  | some (.level level) =>
    if !c.writes (x.record level) then .ok .nothing
    else
      match x.fields.find? fun f => recordNames.contains f.1 with
      | some f => .error (.overwritten f.1)
      | none => .ok (c.writePlain x level)

/-- The field of a bound call that the method is given already. -/
def Call.givenTwice? (x : Call) (method : String) : Option CallFault :=
  match x.fields.find? fun f => f.1 == "event" || f.1 == "self" with
  | some f => some (.given method f.1)
  | none =>
    if (x.fields.get? "method_name").isSome then some (.given "_proxy_to_logger" "method_name") else none

/-- The members of a bound call with its name filled in. Arguments of the call take the place of the
member kept for them. -/
def Call.boundMembers (x : Call) (level : Level) : Except Template.Fault (Table Json) :=
  let members := (x.record level).members
  if x.arguments.isEmpty then fillKept members
  else
    (fillEvent members (.ofList x.arguments) "tuple").map (·.put "positional_args" (.array x.arguments))

/-- What becomes of a bound call. -/
def Config.answerBound (c : Config) (x : Call) : Except CallFault Written :=
  match methods.get? x.level with
  | none => .error (.noSuchMethod x.level)
  | some (method, level) =>
    match x.givenTwice? method with
    | some f => .error f
    | none =>
      match x.boundMembers level with
      | .error f => .error (.unfilled f)
      | .ok members =>
        .ok (if c.writes (x.record level) then c.writeMembers (visible .bound members) else .nothing)

/-- What becomes of a call. -/
def Config.answer (c : Config) (x : Call) : Except CallFault Written :=
  match x.style with
  | .plain => c.answerPlain x
  | .bound => c.answerBound x

end Changeover.Log
