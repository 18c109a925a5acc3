import Changeover.Snapshot
import Changeover.Text.Blank

/-!
# Robots

A client is taken for a robot when it does not name itself or when its name holds one of the usual
words, whatever the letter case.
-/

namespace Changeover.Robot

open Text

/-- The words that robots use of themselves. -/
def tokens : List String :=
  ["bot", "crawler", "spider", "slurp", "archiver", "facebookexternalhit", "curl/", "wget/",
    "python-requests", "python-httpx", "go-http-client", "headlesschrome"]

/-- A character without its case. The two letters `i` of other alphabets, the sign for degrees Kelvin
and the long `s` count as the letters they look like. -/
def fold (c : Char) : Char :=
  if c.toNat == 0x130 || c.toNat == 0x131 then 'i'
  else if c.toNat == 0x212A then 'k'
  else if c.toNat == 0x17F then 's'
  else c.toLower

/-- Whether the name of a client is that of a robot. -/
def isRobotName (agent : List Char) : Bool :=
  agent.all isBlank || tokens.any fun t => occursIn t.toList (agent.map fold)

/-- Whether a request comes from a robot. -/
def sent (a : Snapshot) : Bool := isRobotName (a.header "User-Agent").toList

end Changeover.Robot
