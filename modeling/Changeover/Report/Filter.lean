import Changeover.Text.Cut

/-!
# What is reported

Requests for the platform's own paths, for files that go with a page and for the operational pages
are not reported; all others are.
-/

namespace Changeover.Report

open Text

/-- The extension of the last segment of a path, with its dot; empty without one. -/
def pathExtension (path : List Char) : List Char :=
  let name := afterLast '/' path
  if name.contains '.' then '.' :: afterLast '.' name else []

/-- The extensions of files that go with a page. -/
def assetExtensions : List (List Char) :=
  [".css".toList, ".html".toList, ".js".toList, ".txt".toList, ".xml".toList]

/-- The operational pages. -/
def operationalPaths : List (List Char) := ["/-/bot".toList, "/-/refresh".toList]

/-- Whether a request for the path is reported. -/
def isReported (path : List Char) : Bool :=
  !("/_ah/".toList.isPrefixOf path || assetExtensions.contains (pathExtension path) ||
    operationalPaths.contains path)

end Changeover.Report
