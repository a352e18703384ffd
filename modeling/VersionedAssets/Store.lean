import VersionedAssets.Host
import VersionedAssets.Journal

/-! # Stores

A store turns a resource path into a location. It may look at what the host offers, which is a file
tree and the packages installed. Not finding anything is an ordinary answer; failing is a fault.
-/

namespace VersionedAssets

/-- The answer of a store with what it writes to the journal. -/
structure Lookup where
  outcome : Except Fault (Option Location)
  records : List Record := []

/-- A place to find resources in. -/
structure Store where
  /-- How messages name the store. -/
  name : String
  /-- Looks a resource path up. -/
  lookup : Host → String → Lookup

namespace Lookup

/-- The answer of a store that writes nothing to the journal. -/
def silent (outcome : Except Fault (Option Location)) : Lookup := { outcome }

end Lookup

end VersionedAssets
