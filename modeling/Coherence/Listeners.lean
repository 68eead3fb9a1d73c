import Std.Data.ExtTreeMap

set_option autoImplicit false

namespace Coherence

open Std

structure Listeners (ℓ : Type) where
  next : UInt64 := 0
  entries : ExtTreeMap UInt64 ℓ := ∅

namespace Listeners

variable {ℓ : Type}

def add (listeners : Listeners ℓ) (listener : ℓ) : Listeners ℓ × UInt64 :=
  ({ next := listeners.next + 1, entries := listeners.entries.insert listeners.next listener }, listeners.next)

def remove (listeners : Listeners ℓ) (id : UInt64) : Listeners ℓ :=
  { listeners with entries := listeners.entries.erase id }

def toList (listeners : Listeners ℓ) : List ℓ := listeners.entries.toList.map (·.2)

def size (listeners : Listeners ℓ) : Nat := listeners.entries.size

end Listeners

end Coherence
