import Std.Data.ExtTreeSet
import Coherence.NodeId

set_option autoImplicit false

namespace Coherence

open Std

structure View where
  members : ExtTreeSet NodeId

namespace View

def ofList (members : List NodeId) : View := ⟨ExtTreeSet.ofList members⟩

def contains (view : View) (node : NodeId) : Bool := view.members.contains node

def primary? (view : View) : Option NodeId := view.members.toList.head?

def isPrimary (view : View) (node : NodeId) : Bool := view.primary? = some node

def deadOwners (view : View) (owners : List NodeId) : List NodeId := owners.filter (!view.contains ·)

end View

end Coherence
