import Changeover.Text.Percent

/-!
# Paths in URLs

How a decoded path is written back into a URL. The delimiters `?` and `#` and the escape sign are
always escaped, so the path ends where it is meant to end and reads back as it was.
-/

namespace Changeover.Url

open Text

/-- The characters that are kept in a path. -/
def keptInPath (c : Char) : Bool :=
  Percent.unreserved c || "/:@!$&'()*+,;=".toList.contains c

/-- Writes a decoded path. -/
def escapePath (path : List Char) : List Char := Percent.encode keptInPath path

/-- The characters that are kept when a whole URL becomes a header value. -/
def keptInLocation (c : Char) : Bool :=
  Percent.unreserved c || ":/%#?=@[]!$&'()*+,;".toList.contains c

/-- Writes a URL as the value of a `location` header. -/
def escapeLocation (url : List Char) : List Char := Percent.encode keptInLocation url

end Changeover.Url
