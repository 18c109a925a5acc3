import Changeover.Query
import Changeover.Settings.Basic
import Changeover.Url.Path
import Changeover.Url.Split

/-!
# Destinations

Where a page of the old site lives on the new one. The rules are tried in order and the last one takes
every path, so every URL has a destination.
-/

namespace Changeover

open Text

/-- The rules of the mapping, in the order in which they are tried. -/
inductive Rule
  | vendor
  | stdlib
  | about
  | home
  | subrepo
  | package
  deriving DecidableEq, Repr

namespace Rule

/-- The name of a rule. -/
def name : Rule → String
  | .vendor => "vendor"
  | .stdlib => "stdlib"
  | .about => "about"
  | .home => "home"
  | .subrepo => "subrepo"
  | .package => "package"

/-- Whether a path leads into a vendored package, which has no page of its own. -/
def isVendored (path : List Char) : Bool :=
  occursIn "/vendor/".toList path || "/vendor".toList.isSuffixOf path

/-- The first rule that takes a decoded path. -/
def ofPath (path : List Char) : Rule :=
  if isVendored path then .vendor
  else if path = "/-/go".toList then .stdlib
  else if path = "/-/about".toList then .about
  else if path = "/".toList then .home
  else if path = "/-/subrepo".toList then .subrepo
  else .package

/-- The path of the search page with the term looked for, or the root without one. -/
def searchTarget (query : List Query.Pair) : List Char × List Query.Pair :=
  match Query.first? "q".toList query with
  | some (c :: r) => ("/search".toList, [("q".toList, c :: r)])
  | _ => ("/".toList, [])

/-- The tab of a package page. -/
def tab (query : List Query.Pair) : List Char :=
  if Query.mentions "imports".toList query then "imports".toList
  else if Query.mentions "importers".toList query then "importedby".toList
  else "doc".toList

/-- The path on the new site and its parameters. -/
def target (path : List Char) (query : List Query.Pair) : Rule → List Char × List Query.Pair
  | .vendor => ("/".toList, [])
  | .stdlib => ("/std".toList, [("tab".toList, "packages".toList)])
  | .about => ("/about".toList, [])
  | .home => searchTarget query
  | .subrepo => ("/search".toList, [("q".toList, "golang.org/x".toList)])
  | .package => (path, [("tab".toList, tab query)])

end Rule

namespace Destination

/-- The path and the query of an old URL, its fragment left out. What begins with a slash is a path
even when it begins with two; anything else is a URL, and an unreadable one stands for the root. -/
def splitTarget (url : List Char) : List Char × List Char :=
  let target := before '#' url
  if target.head? == some '/' then (before '?' target, after '?' target)
  else
    match Url.split target with
    | .ok parts => (parts.path, parts.query)
    | .error _ => (['/'], [])

/-- The decoded path of an old URL. -/
def pathOf (url : List Char) : List Char :=
  let path := Percent.decode (splitTarget url).1
  if path.isEmpty then ['/'] else path

/-- The parameters of an old URL. -/
def queryOf (url : List Char) : List Query.Pair := Query.parse (splitTarget url).2

/-- The parameters of a destination: those of the page and then the tag that says where the visitor
comes from, which is their alphabetical order. -/
def tagged (s : Settings) (page : List Query.Pair) : List Query.Pair :=
  page ++ [("utm_source".toList, s.attributionSource.toList)]

/-- The path and the parameters of the destination of an old URL. -/
def page (url : List Char) : List Char × List Query.Pair :=
  (Rule.ofPath (pathOf url)).target (pathOf url) (queryOf url)

/-- The destination of an old URL. -/
def ofUrl (s : Settings) (url : List Char) : List Char :=
  let (path, extra) := page url
  "https://".toList ++ s.newSiteHost.toList ++ Url.escapePath path ++
    '?' :: Query.render (tagged s extra)

end Destination

end Changeover
