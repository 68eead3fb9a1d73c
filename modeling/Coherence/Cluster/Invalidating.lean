import Coherence.Cluster.Basic

set_option autoImplicit false

namespace Coherence.Cluster

-- What arrives meanwhile is handed over before the call counts.
def send (cluster : Cluster) (k : Incarnation) (event : Event) (mode : Mode) : Cluster × Outcome :=
  match cluster.nodes[k]? with
  | none => (cluster, .suppressed)
  | some node =>
      match node.snapshot.gate event with
      | none => (cluster.setNode k (node.count .broadcastsSuppressed), .suppressed)
      | some wanted =>
          let (bus, arrived, result) := cluster.bus.broadcast node.id cluster.channel wanted mode
          let cluster := { cluster with bus }.deliver arrived
          match cluster.nodes[k]? with
          | none => (cluster, .suppressed)
          | some node =>
              let (relay, outcome, log) := node.relay.conclude wanted result
              ((cluster.setNode k { node with relay }).note k log, outcome)

def invalidated (event : Event) (mode : Mode) (cluster : Cluster) (k : Incarnation) : Cluster :=
  if cluster.isRunning k then (cluster.send k event mode).1 else cluster

def invalidate (cluster : Cluster) (k : Incarnation) (event : Event) (mode : Mode) : Cluster :=
  match cluster.nodes[k]? with
  | none => cluster
  | some node =>
      let registry := node.registry.evict event
      registry.audience.foldl (invalidated event mode) (cluster.setNode k (node.setRegistry registry))

end Coherence.Cluster
