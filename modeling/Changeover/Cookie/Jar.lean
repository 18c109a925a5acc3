import Changeover.Cookie

/-!
# A browser's cookies

What a browser keeps of the `set-cookie` fields that it receives, and what it sends back.
-/

namespace Changeover

open Text

/-- The cookies that a browser holds. -/
abbrev Jar := Table String

namespace Jar

/-- Takes one `set-cookie` value: a negative age removes the cookie, anything else stores the text
between the first `=` and the first `;`. -/
def receive (j : Jar) (setCookie : List Char) : Jar :=
  let pair := before ';' setCookie
  let name := String.ofList (before '=' pair)
  if occursIn "Max-Age=-1".toList setCookie then j.erase name
  else j.put name (String.ofList (after '=' pair))

/-- Takes the fields of a response. -/
def receiveAll (j : Jar) (hs : List RawHeader) : Jar :=
  (Header.rawValues hs "set-cookie").foldl (fun j v => j.receive (Latin1.ofBytes v)) j

/-- The value that a browser sends. -/
def header (j : Jar) : String := "; ".intercalate (j.map fun c => c.1 ++ "=" ++ c.2)

/-- The fields that a browser adds to a request: none when it holds no cookies. -/
def fields (j : Jar) : List RawHeader := if j.isEmpty then [] else [Header.raw "cookie" j.header]

end Jar

end Changeover
