import Coherence.Fault
import Coherence.Listeners
import Coherence.View

set_option autoImplicit false

namespace Coherence

open Std

-- A node that leaves loses its circle, and the next one is of another era.
structure Circle (ℓ : Type) where
  era : Nat
  listeners : Listeners ℓ

structure Hub (ℓ : Type) where
  members : ExtTreeSet NodeId := ∅
  unreachable : ExtTreeSet NodeId := ∅
  appointed : Option NodeId := none
  circles : ExtTreeMap NodeId (Circle ℓ) := ∅
  eras : Nat := 0

namespace Hub

structure Handle where
  node : NodeId
  era : Nat
  id : UInt64
deriving DecidableEq

variable {ℓ : Type}

def view (hub : Hub ℓ) : View := ⟨hub.members⟩

def join (hub : Hub ℓ) (node : NodeId) : Hub ℓ := { hub with members := hub.members.insert node }

-- A member that leaves is treated as crashed: its listeners go with it, unheard.
def leave? (hub : Hub ℓ) (node : NodeId) : Option (Hub ℓ) :=
  if node ∈ hub.members then
    some { hub with
      members := hub.members.erase node
      appointed := if hub.appointed = some node then none else hub.appointed
      circles := hub.circles.erase node }
  else none

def setUnreachable (hub : Hub ℓ) (node : NodeId) (on : Bool) : Hub ℓ :=
  { hub with unreachable := if on then hub.unreachable.insert node else hub.unreachable.erase node }

def appoint (hub : Hub ℓ) (node : Option NodeId) : Hub ℓ := { hub with appointed := node }

def primary? (hub : Hub ℓ) : Option NodeId := hub.appointed.or hub.view.primary?

def currentMembers (hub : Hub ℓ) (node : NodeId) (channel : Channel) : Except Fault (ExtTreeSet NodeId) :=
  if node ∈ hub.unreachable then .error (.unreachable ("membership for " ++ channel)) else .ok hub.members

def isPrimary (hub : Hub ℓ) (node : NodeId) (channel : Channel) : Except Fault Bool :=
  (hub.currentMembers node channel).map fun _ => hub.primary? = some node

-- The answer of a membership that cannot appoint anyone.
def isLowest (hub : Hub ℓ) (node : NodeId) (channel : Channel) : Except Fault Bool :=
  (hub.currentMembers node channel).map fun members => (View.mk members).primary? = some node

def label (channel : Channel) : String := "membership:" ++ channel

def subscribe (hub : Hub ℓ) (node : NodeId) (listener : ℓ) : Hub ℓ × Handle :=
  match hub.circles[node]? with
  | some circle =>
      let (listeners, id) := circle.listeners.add listener
      ({ hub with circles := hub.circles.insert node { circle with listeners } }, ⟨node, circle.era, id⟩)
  | none =>
      let (listeners, id) := ({} : Listeners ℓ).add listener
      ({ hub with circles := hub.circles.insert node ⟨hub.eras, listeners⟩, eras := hub.eras + 1 },
        ⟨node, hub.eras, id⟩)

def release (hub : Hub ℓ) (handle : Handle) : Hub ℓ :=
  match hub.circles[handle.node]? with
  | some circle =>
      if circle.era = handle.era then
        { hub with
          circles := hub.circles.insert handle.node { circle with listeners := circle.listeners.remove handle.id } }
      else hub
  | none => hub

def circleKeys (hub : Hub ℓ) : List (NodeId × Nat) := hub.circles.toList.map fun (node, circle) => (node, circle.era)

def circleListeners (hub : Hub ℓ) (key : NodeId × Nat) : List ℓ :=
  match hub.circles[key.1]? with
  | some circle => if circle.era = key.2 then circle.listeners.toList else []
  | none => []

def audience (hub : Hub ℓ) : List ℓ := hub.circleKeys.flatMap hub.circleListeners

end Hub

end Coherence
