import Coherence.Cluster.Basic

set_option autoImplicit false

namespace Coherence.Cluster

def recompute (cluster : Cluster) (k : Incarnation) : Cluster :=
  cluster.amend k fun node =>
    let node := node.drawGeneration
    match node.replica.read cluster.store cluster.channel with
    | .error fault => (node, [.readFailed fault])
    | .ok entries => node.adopt node.generation entries

def storeChanged (cluster : Cluster) (k : Incarnation) : Cluster :=
  if cluster.isRunning k then cluster.recompute k else cluster

def mutate (cluster : Cluster) (k : Incarnation) (mutation : Mutation) : Cluster × Except Fault Unit :=
  match cluster.nodes[k]? with
  | none => (cluster, .ok ())
  | some node =>
      match cluster.write k node mutation with
      | (cluster, .error fault) => (cluster, .error fault)
      | (cluster, .ok audience) => (audience.foldl storeChanged cluster, .ok ())

def putRaw (cluster : Cluster) (channel : Channel) (key : String) (value : Option Bytes) : Cluster :=
  let store := cluster.store.put channel key value
  (store.audience channel).foldl storeChanged { cluster with store }

def publish (cluster : Cluster) (k : Incarnation) : Cluster :=
  match cluster.nodes[k]? with
  | none => cluster
  | some node =>
      if node.isRunning then
        let (cluster, result) := cluster.mutate k node.announcing
        cluster.amend k (·.published result)
      else cluster

def isPrimary (cluster : Cluster) (node : Node) (view : View) : Except Fault Bool :=
  match cluster.config.election with
  | .lowestNodeId => .ok (view.isPrimary node.id)
  | .membershipService => cluster.hub.isPrimary node.id cluster.channel

def sweepOwner (k : Incarnation) (cluster : Cluster) (owner : NodeId) : Cluster :=
  let (cluster, result) := cluster.mutate k (.remove owner)
  cluster.amend k (Node.swept owner · result)

def sweep (cluster : Cluster) (k : Incarnation) (view : View) : Cluster :=
  match cluster.nodes[k]? with
  | none => cluster
  | some node =>
      match cluster.isPrimary node view with
      | .error fault => cluster.note k [.primaryCheckFailed fault]
      | .ok false => cluster
      | .ok true =>
          match node.replica.read cluster.store cluster.channel with
          | .error fault => cluster.note k [.sweepReadFailed fault]
          | .ok entries => (view.deadOwners entries.keys).foldl (sweepOwner k) cluster

def membershipChanged (view : View) (cluster : Cluster) (k : Incarnation) : Cluster :=
  if cluster.isRunning k then cluster.sweep k view else cluster

def notifyMembership (cluster : Cluster) (view : View) : Cluster :=
  cluster.hub.audience.foldl (membershipChanged view) cluster

def join (cluster : Cluster) (id : NodeId) : Cluster :=
  let hub := cluster.hub.join id
  { cluster with hub }.notifyMembership hub.view

def leave (cluster : Cluster) (id : NodeId) : Cluster :=
  match cluster.hub.leave? id with
  | none => cluster
  | some hub => { cluster with hub }.notifyMembership hub.view

def groupsChanged (cluster : Cluster) (k : Incarnation) : Cluster :=
  if cluster.isRunning k then cluster.publish k else cluster

def changeGroups (cluster : Cluster) (k : Incarnation)
    (change : Registry Incarnation → Option (Registry Incarnation)) : Cluster :=
  match cluster.nodes[k]? with
  | none => cluster
  | some node =>
      match change node.registry with
      | none => cluster
      | some registry => registry.audience.foldl groupsChanged (cluster.setNode k (node.setRegistry registry))

end Coherence.Cluster
