import Coherence.Bus.Operation
import Coherence.Relay

set_option autoImplicit false

namespace Coherence.Relay

inductive Operation where
  | control (control : Bus.Control)
  | createGroup (group : Group)
  | put (group : Group) (key : Key)
  | setRejecting (on : Bool)
  | setSnapshot (snapshot : Snapshot)
  | send (event : Event) (mode : Mode)
  | receive (event : Event)
  | receiveOne (group : Group) (key : Key)
  | receiveMany (group : Group) (keys : List Key)
  | receiveBatch (entries : List BatchEntry)
  | dispatch (event : Event)

structure Session where
  own : NodeId
  channel : Channel
  relay : Relay String := {}
  bus : Bus String := {}

namespace Session

def received (session : Session) (result : Relay String × Log) : Session × Reply × List (Delivery String) × Log :=
  ({ session with relay := result.1 }, .done, [], result.2)

def step (session : Session) : Operation → Session × Reply × List (Delivery String) × Log
  | .control control =>
      let (bus, arrived) := session.bus.control control
      ({ session with bus }, .done, arrived, [])
  | .createGroup group =>
      let registry := (session.relay.registry.createGroup? group).getD session.relay.registry
      ({ session with relay := { session.relay with registry } }, .done, [], [])
  | .put group key =>
      match session.relay.registry.put? group key with
      | none => (session, .flag false, [], [])
      | some registry => ({ session with relay := { session.relay with registry } }, .flag true, [], [])
  | .setRejecting on =>
      let registry := { session.relay.registry with rejecting := on }
      ({ session with relay := { session.relay with registry } }, .done, [], [])
  | .setSnapshot snapshot => ({ session with relay := { session.relay with snapshot } }, .done, [], [])
  | .send event mode =>
      let (relay, bus, outcome, arrived, log) := session.relay.send session.bus session.own session.channel event mode
      ({ session with relay, bus }, .outcome outcome, arrived, log)
  | .receive event => session.received (session.relay.receive event)
  | .receiveOne group key => session.received (session.relay.receiveOne group key)
  | .receiveMany group keys => session.received (session.relay.receiveMany group keys)
  | .receiveBatch entries => session.received (session.relay.receiveBatch entries)
  | .dispatch event => session.received (session.relay.dispatch event)

end Session

end Coherence.Relay
