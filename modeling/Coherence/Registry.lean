import Std.Data.ExtTreeMap
import Std.Data.ExtTreeSet
import Coherence.Event
import Coherence.Fault
import Coherence.Listeners

set_option autoImplicit false

namespace Coherence

open Std

abbrev Cache := ExtTreeMap Group (ExtTreeSet Key)

namespace Cache

def keysOf (cache : Cache) (group : Group) : ExtTreeSet Key := cache[group]?.getD ∅

def holds (cache : Cache) (group : Group) (key : Key) : Bool := (cache.keysOf group).contains key

def evictPair (cache : Cache) (pair : Group × Key) : Cache := cache.modify pair.1 (·.erase pair.2)

def evictPairs (cache : Cache) : List (Group × Key) → Cache × Nat
  | [] => (cache, 0)
  | pair :: pairs =>
      let (rest, count) := (cache.evictPair pair).evictPairs pairs
      (rest, count + if cache.holds pair.1 pair.2 then 1 else 0)

def evict (cache : Cache) (event : Event) : Cache × Nat := cache.evictPairs event.pairs

end Cache

structure Registry (ℓ : Type) where
  cache : Cache := ∅
  listeners : Listeners ℓ := {}
  applied : List Event := []
  rejecting : Bool := false

inductive Notice where
  | created (group : Group)
  | dropped (group : Group)
  | invalidated (event : Event) (mode : Mode)

namespace Registry

variable {ℓ : Type}

def groupNames (registry : Registry ℓ) : List Group := registry.cache.keys

def audience (registry : Registry ℓ) : List ℓ := registry.listeners.toList

def createGroup? (registry : Registry ℓ) (group : Group) : Option (Registry ℓ) :=
  if group ∈ registry.cache then none else some { registry with cache := registry.cache.insert group ∅ }

def dropGroup? (registry : Registry ℓ) (group : Group) : Option (Registry ℓ) :=
  if group ∈ registry.cache then some { registry with cache := registry.cache.erase group } else none

def put? (registry : Registry ℓ) (group : Group) (key : Key) : Option (Registry ℓ) :=
  if group ∈ registry.cache then some { registry with cache := registry.cache.modify group (·.insert key) } else none

def evict (registry : Registry ℓ) (event : Event) : Registry ℓ :=
  { registry with cache := (registry.cache.evict event).1 }

-- Apply an event from another node. Nobody is told, so it goes no further.
def apply (registry : Registry ℓ) (event : Event) : Registry ℓ × Except Fault Unit :=
  if registry.rejecting then (registry, .error (.rejected event.method))
  else ({ registry.evict event with applied := registry.applied ++ [event] }, .ok ())

def label : String := "registry"

def subscribe (registry : Registry ℓ) (listener : ℓ) : Registry ℓ × UInt64 :=
  let (listeners, id) := registry.listeners.add listener
  ({ registry with listeners }, id)

def release (registry : Registry ℓ) (id : UInt64) : Registry ℓ :=
  { registry with listeners := registry.listeners.remove id }

end Registry

end Coherence
