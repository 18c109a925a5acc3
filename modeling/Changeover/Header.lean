import Changeover.Table
import Changeover.Text.Case
import Changeover.Text.Latin1

/-!
# Header fields

A raw header field is a pair of byte strings. Grouped, the values of one name stand together under
its canonical form, names in order of first appearance and values in order of arrival.
-/

namespace Changeover

open Text

/-- A header field as it is sent. -/
abbrev RawHeader := Bytes × Bytes

namespace Header

/-- A field from its two texts, whose characters are bytes. -/
def raw (name value : String) : RawHeader :=
  ((Latin1.toBytes? name.toList).getD [], (Latin1.toBytes? value.toList).getD [])

theorem ofBytes_raw_name {name : String} (h : name.toList.all (·.toNat < 256) = true) (value : String) :
    Latin1.ofBytes (raw name value).1 = name.toList :=
  Latin1.ofBytes_toBytes? h

theorem ofBytes_raw_value {value : String} (h : value.toList.all (·.toNat < 256) = true) (name : String) :
    Latin1.ofBytes (raw name value).2 = value.toList :=
  Latin1.ofBytes_toBytes? h

/-- The canonical form of a name: each part between hyphens is capitalized. -/
def canonical (name : List Char) : List Char :=
  ['-'].intercalate ((name.splitOn '-').map capitalize)

/-- The canonical form of a name as a string. -/
def canonicalName (name : String) : String := String.ofList (canonical name.toList)

/-- Adds a value to the group of its name. -/
def add (groups : Table (List String)) (h : RawHeader) : Table (List String) :=
  groups.alter (String.ofList (canonical (Latin1.ofBytes h.1)))
    fun values => values.getD [] ++ [Latin1.text h.2]

/-- The groups of the fields. -/
def group (hs : List RawHeader) : Table (List String) := hs.foldl add []

/-- The first value of a name in whatever letter case; empty when there is none. -/
def value (groups : Table (List String)) (name : String) : String :=
  let key := String.ofList (canonical (lower name.toList))
  ((groups.get? key).bind List.head?).getD ""

/-- The value of the first field whose raw name is exactly `name`. -/
def rawValue? (hs : List RawHeader) (name : String) : Option Bytes :=
  (hs.find? fun h => Latin1.ofBytes h.1 == name.toList).map (·.2)

/-- The values of all fields whose raw name is exactly `name`. -/
def rawValues (hs : List RawHeader) (name : String) : List Bytes :=
  (hs.filter fun h => Latin1.ofBytes h.1 == name.toList).map (·.2)

end Header

end Changeover
