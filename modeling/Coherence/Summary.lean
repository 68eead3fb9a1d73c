import Coherence.Counters
import Coherence.Json.Writer
import Coherence.Snapshot

set_option autoImplicit false

namespace Coherence

def version : String := "0.1.0"

def Counters.toJson (counters : Counters) : Json :=
  .object (Counter.all.map fun counter => (counter.name, .number (counters.get counter).toNat))

def Snapshot.toJson (snapshot : Snapshot) : Json :=
  .object [("groups", Json.strings snapshot.groups.toList), ("generation", .number snapshot.generation.toNat)]

end Coherence
