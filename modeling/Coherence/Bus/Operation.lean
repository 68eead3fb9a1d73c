import Coherence.Bus
import Coherence.Reply

set_option autoImplicit false

namespace Coherence.Bus

inductive Control where
  | setUnreachable (node : NodeId) (on : Bool)
  | setDelay (node : NodeId) (millis : Nat)
  | advance (millis : Nat)
  | flush

inductive Operation (η : Type) where
  | control (control : Control)
  | register (channel : Channel) (node : NodeId) (handler : η)
  | unregister (channel : Channel) (node : NodeId)
  | broadcast (sender : NodeId) (channel : Channel) (event : Event) (mode : Mode)

variable {η : Type}

def control (bus : Bus η) : Control → Bus η × List (Delivery η)
  | .setUnreachable node on => (bus.setUnreachable node on, [])
  | .setDelay node millis => (bus.setDelay node millis, [])
  | .advance millis => bus.advance millis
  | .flush => bus.flush

def orKeep (bus : Bus η) : Except Fault (Bus η) → Bus η × Reply
  | .ok changed => (changed, .done)
  | .error why => (bus, .fault why)

def step (bus : Bus η) : Operation η → Bus η × Reply × List (Delivery η)
  | .control control =>
      let (bus, arrived) := bus.control control
      (bus, .done, arrived)
  | .register channel node handler =>
      let (bus, reply) := bus.orKeep (bus.register channel node handler)
      (bus, reply, [])
  | .unregister channel node =>
      let (bus, reply) := bus.orKeep (bus.unregister channel node)
      (bus, reply, [])
  | .broadcast sender channel event mode =>
      let (bus, arrived, result) := bus.broadcast sender channel event mode
      (bus, .ofFault result, arrived)

def run (bus : Bus η) : List (Operation η) → Bus η × List (Delivery η)
  | [] => (bus, [])
  | operation :: operations =>
      let (bus, _, arrived) := bus.step operation
      let (bus, later) := bus.run operations
      (bus, arrived ++ later)

end Coherence.Bus
