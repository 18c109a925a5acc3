import Changeover.Settings.Source

/-!
# Settings that are read once

The settings are read from the environment at their first use and kept until they are cleared; a
failed reading is not kept. Each reading that succeeds counts as a new instance.
-/

namespace Changeover.Settings

open Input (Detail)

/-- The kept settings, and how many readings have succeeded. -/
structure Cache where
  kept : Option (Nat × Settings) := none
  readings : Nat := 0

/-- Forgets the kept settings. -/
def Cache.clear (c : Cache) : Cache := { c with kept := none }

/-- The settings in use, read from `src` when none are kept, with the number of their reading. -/
def Cache.get (c : Cache) (src : Source) : Except (List Detail) (Nat × Settings) × Cache :=
  match c.kept with
  | some r => (.ok r, c)
  | none =>
    match src.load with
    | .ok s => (.ok (c.readings, s), ⟨some (c.readings, s), c.readings + 1⟩)
    | .error e => (.error e, c)

/-- An environment beside the settings that were read from it. -/
structure Session where
  environment : Table String := []
  cache : Cache := {}

/-- What can happen to the environment and the kept settings. -/
inductive Act
  | enter (entries : Table String)
  | remove (name : String)
  | clear
  | get

/-- Does one act; only asking for the settings gives an answer. -/
def Session.act (w : Session) : Act → Session × Option (Except (List Detail) (Nat × Settings))
  | .enter entries =>
    ({ w with environment := entries.foldl (fun t v => t.put v.1 v.2) w.environment }, none)
  | .remove name => ({ w with environment := w.environment.erase name }, none)
  | .clear => ({ w with cache := w.cache.clear }, none)
  | .get =>
    let (r, cache) := w.cache.get { environment := w.environment }
    ({ w with cache }, some r)

end Changeover.Settings
