import Changeover.Decimal.Read
import Changeover.Decimal.Rounded

/-!
# Durations

A duration is a whole number of microseconds, positive or negative. It is given by amounts of several
units, which are added up, or by a clock that counts seconds, and may not reach a thousand million days.
Its parts are whole days, positive or negative, and seconds and microseconds that are never negative.
-/

namespace Changeover

/-- A span of time. -/
structure Duration where
  microseconds : Int
  deriving DecidableEq, Repr

namespace Duration

/-- The microseconds of each unit. -/
def units : List (String × Int) :=
  [("weeks", 604800000000), ("days", 86400000000), ("hours", 3600000000), ("minutes", 60000000),
    ("seconds", 1000000), ("milliseconds", 1000), ("microseconds", 1)]

/-- A duration that is too long, in days. -/
structure TooLong where
  days : Int

/-- Whether a number of days fits into the word that it is kept in. -/
def fitsWord (days : Int) : Bool := -2147483648 ≤ days && days < 2147483648

/-- The text of the refusal. -/
def TooLong.message (e : TooLong) : String :=
  if fitsWord e.days then "days=" ++ toString e.days ++ "; must have magnitude <= 999999999"
  else "Python int too large to convert to C int"

/-- The sum of the amounts of all units. -/
def total (amount : String → Int) : Int := units.foldl (fun sum u => sum + amount u.1 * u.2) 0

/-- The duration of so many microseconds. -/
def ofMicroseconds (n : Int) : Except TooLong Duration :=
  let days := n.fdiv 86400000000
  if days.natAbs ≤ 999999999 then .ok ⟨n⟩ else .error ⟨days⟩

/-- The duration of these amounts. -/
def ofUnits (amount : String → Int) : Except TooLong Duration := ofMicroseconds (total amount)

/-- The microseconds that `m * 2 ^ q` seconds take, rounded. -/
def microsecondsIn (m : Nat) (q : Int) : Nat := (Decimal.Fraction.ofBinary m q).scaledBy 6

/-- The duration that a clock shows which has counted so many microseconds in binary seconds. -/
def ofClock (counted : Int) : Except TooLong Duration :=
  match Decimal.shape (Decimal.ofInt counted / 1000000.0) with
  | (negative, .finite m q) =>
    ofMicroseconds (if negative then -(microsecondsIn m q : Int) else microsecondsIn m q)
  | _ => .error ⟨counted.fdiv 86400000000⟩

/-- The whole days; those of a negative duration reach beyond it. -/
def days (d : Duration) : Int := d.microseconds / 86400000000

/-- The whole seconds beside the days. -/
def seconds (d : Duration) : Int := d.microseconds % 86400000000 / 1000000

/-- The microseconds beside the seconds. -/
def beyondSeconds (d : Duration) : Int := d.microseconds % 1000000

/-- The duration in nanoseconds, from its parts. -/
def nanoseconds (d : Duration) : Int :=
  (d.days * 86400 + d.seconds) * 1000000000 + d.beyondSeconds * 1000

end Duration

end Changeover
