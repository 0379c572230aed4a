import Columnar.Calendar.ZoneTable

/-!
Time zones by their names, and what their clocks show.

A local time means the earliest moment at which the clock of the zone shows it; in the gap of a
change to summer time there is none. Which moment that is depends on the clocks (`Clocks`).
-/

namespace Columnar.Calendar

/-- A time zone that the tz database has. -/
structure Zone where
  name : String
  isKnown : (ZoneTable.clock? name).isSome
  deriving DecidableEq, Repr

namespace Zone

/-- The zone with the given name. -/
def ofName? (name : String) : Option Zone :=
  if h : (ZoneTable.clock? name).isSome then some ⟨name, h⟩ else none

/-- Each zone is found by its name. -/
theorem ofName?_name (zone : Zone) : ofName? zone.name = some zone := by
  simp [ofName?, zone.isKnown]

/-- Coordinated universal time. -/
def utc : Zone :=
  ⟨"UTC", by decide +kernel⟩

instance : Inhabited Zone := ⟨utc⟩

/-- The clock of the zone. -/
def clock (zone : Zone) : Clock :=
  (ZoneTable.clock? zone.name).get zone.isKnown

end Zone

end Columnar.Calendar

namespace Columnar

/-- What the clocks of the zones have shown and will show. The tz database has that history, and it
changes with the decisions of states, so it is no part of this library: what is said of decoded
moments is said for any clocks. -/
class Clocks where
  /-- The earliest second at which the clock of the zone shows the local second, if any. -/
  ofLocal? : Calendar.Zone → Int → Option Int

/-- The clocks of the rules in force today, for all years. -/
instance : Clocks where
  ofLocal? zone localSeconds := zone.clock.ofLocal? localSeconds

/-- The earliest second at which the clock of the zone shows the local second, if any. -/
def Calendar.Zone.ofLocal? [Clocks] (zone : Calendar.Zone) (localSeconds : Int) : Option Int :=
  Clocks.ofLocal? zone localSeconds

end Columnar
