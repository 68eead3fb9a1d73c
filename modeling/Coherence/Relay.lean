import Coherence.Bus
import Coherence.Counters
import Coherence.Log
import Coherence.Registry
import Coherence.Reply
import Coherence.Snapshot

set_option autoImplicit false

namespace Coherence

structure Relay (ℓ : Type) where
  snapshot : Snapshot := {}
  registry : Registry ℓ := {}
  counters : Counters := {}

namespace Relay

variable {ℓ η : Type}

def count (relay : Relay ℓ) (counter : Counter) : Relay ℓ := { relay with counters := relay.counters.bump counter }

def acknowledge (relay : Relay ℓ) : Except Fault Unit → Relay ℓ × Log
  | .ok () => (relay.count .remoteEventsApplied, [])
  | .error fault => (relay.count .remoteApplyFailures, [.remoteRejected fault])

def receive (relay : Relay ℓ) (event : Event) : Relay ℓ × Log :=
  let (registry, result) := relay.registry.apply event
  { relay with registry }.acknowledge result

def receiveOne (relay : Relay ℓ) (group : Group) (key : Key) : Relay ℓ × Log := relay.receive (.single group key)

def receiveMany (relay : Relay ℓ) (group : Group) (keys : List Key) : Relay ℓ × Log := relay.receive (.many group keys)

def receiveBatch (relay : Relay ℓ) (entries : List BatchEntry) : Relay ℓ × Log := relay.receive (.batch entries)

def dispatch (relay : Relay ℓ) : Event → Relay ℓ × Log
  | .single group key => relay.receiveOne group key
  | .many group keys => relay.receiveMany group keys
  | .batch entries => relay.receiveBatch entries

theorem dispatch_eq (relay : Relay ℓ) (event : Event) : relay.dispatch event = relay.receive event := by
  cases event <;> rfl

def conclude (relay : Relay ℓ) (event : Event) : Except Fault Unit → Relay ℓ × Outcome × Log
  | .ok () => (relay.count .broadcastsSent, .sent, [])
  | .error fault => (relay.count .broadcastFailures, .failed, [.broadcastDropped (.broadcast event.groups fault)])

def send (relay : Relay ℓ) (bus : Bus η) (own : NodeId) (channel : Channel) (event : Event) (mode : Mode) :
    Relay ℓ × Bus η × Outcome × List (Delivery η) × Log :=
  match relay.snapshot.gate event with
  | none => (relay.count .broadcastsSuppressed, bus, .suppressed, [], [])
  | some wanted =>
      let (bus, arrived, result) := bus.broadcast own channel wanted mode
      let (relay, outcome, log) := relay.conclude wanted result
      (relay, bus, outcome, arrived, log)

end Relay

end Coherence
