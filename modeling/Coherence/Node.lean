import Coherence.Hub
import Coherence.Relay

set_option autoImplicit false

namespace Coherence

open Std

-- A node that was added again under the same name is another incarnation.
abbrev Incarnation := Nat

structure Held where
  registry : UInt64
  store : Store.Handle
  hub : Hub.Handle

structure Node where
  id : NodeId
  replica : Replica
  relay : Relay Incarnation := {}
  state : Lifecycle := .stopped
  draws : Nat := 0
  held : Option Held := none

namespace Node

def create (id : NodeId) : Node := { id, replica := { node := id } }

def registry (node : Node) : Registry Incarnation := node.relay.registry

def snapshot (node : Node) : Snapshot := node.relay.snapshot

def counters (node : Node) : Counters := node.relay.counters

def isRunning (node : Node) : Bool := node.state.acceptsCallbacks

def setState (node : Node) (state : Lifecycle) : Node := { node with state }

def setRegistry (node : Node) (registry : Registry Incarnation) : Node :=
  { node with relay := { node.relay with registry } }

def count (node : Node) (counter : Counter) : Node := { node with relay := node.relay.count counter }

def announcing (node : Node) : Mutation :=
  match node.registry.groupNames with
  | [] => .remove node.id
  | groups => .set node.id (Announcement.encode ⟨node.id, ExtTreeSet.ofList groups⟩)

-- It has 64 bits, so that it starts again from zero when they are used up.
def generation (node : Node) : UInt64 := UInt64.ofNat node.draws

def drawGeneration (node : Node) : Node := { node with draws := node.draws + 1 }

def adopt (node : Node) (generation : UInt64) (entries : Entries) : Node × Log :=
  let read := Recomputation.ofEntries node.id entries generation
  let counters := node.counters.add .malformedAnnouncements (UInt64.ofNat read.malformed.length)
  let relay := { node.relay with
    snapshot := node.snapshot.install read.snapshot
    counters := counters.bump .recomputations }
  ({ node with relay }, read.malformed.map .malformedSkipped)

def clear (node : Node) : Node :=
  let node := node.drawGeneration
  { node with relay := { node.relay with snapshot := { generation := node.generation } } }

def published (node : Node) : Except Fault Unit → Node × Log
  | .ok () => (node.count .publishes, [])
  | .error fault => (node.count .publishFailures, [.publishFailed (.publish fault)])

def withdrawn (node : Node) : Except Fault Unit → Node × Log
  | .ok () => (node.count .publishes, [])
  | .error fault => (node.count .publishFailures, [.withdrawFailed (.publish fault)])

def swept (owner : NodeId) (node : Node) : Except Fault Unit → Node × Log
  | .ok () => (node.count .prunedAnnouncements, [])
  | .error fault => (node.count .pruneFailures, [.sweepFailed (.cleanup owner fault)])

def receive (node : Node) (event : Event) : Node × Log :=
  let (relay, log) := node.relay.receive event
  ({ node with relay }, log)

def dispatch (node : Node) (event : Event) : Node × Log :=
  let (relay, log) := node.relay.dispatch event
  ({ node with relay }, log)

theorem dispatch_eq (node : Node) (event : Event) : node.dispatch event = node.receive event := by
  rw [dispatch, Relay.dispatch_eq, receive]

end Node

end Coherence
