import Coherence.Cluster.Announcing

set_option autoImplicit false

namespace Coherence.Cluster

-- Listen to the registry, the store and the membership. If one of them refuses, all are left.
def subscribe (cluster : Cluster) (refused : Service → Bool) (k : Incarnation) (node : Node) :
    Cluster × Except Error Held :=
  match Service.attempt refused .registrySubscribe (.ok (node.registry.subscribe k)) with
  | .error fault => (cluster, .error (.startup .registrySubscription fault))
  | .ok (registry, inRegistry) =>
      let left := cluster.setNode k (node.setRegistry (registry.release inRegistry))
      match Service.attempt refused .storeSubscribe (node.replica.subscribe cluster.store cluster.channel k) with
      | .error fault => (left, .error (.startup .storeSubscription fault))
      | .ok (store, inStore) =>
          match Service.attempt refused .membershipSubscribe (.ok (cluster.hub.subscribe node.id k)) with
          | .error fault =>
              ({ left with store := store.release inStore }, .error (.startup .membershipSubscription fault))
          | .ok (hub, inHub) =>
              ({ cluster with store, hub }.setNode k (node.setRegistry registry), .ok ⟨inRegistry, inStore, inHub⟩)

def unregister (cluster : Cluster) (refused : Service → Bool) (k : Incarnation) (id : NodeId)
    (complaint : Fault → LogEntry) : Cluster :=
  match Service.attempt refused .unregister (cluster.bus.unregister cluster.channel id) with
  | .ok bus => { cluster with bus }
  | .error fault => cluster.note k [complaint fault]

def enroll (cluster : Cluster) (refused : Service → Bool) (k : Incarnation) (node : Node) :
    Cluster × Except Error Held :=
  match Service.attempt refused .register (cluster.bus.register cluster.channel node.id k) with
  | .error fault => (cluster, .error (.startup .registration fault))
  | .ok bus =>
      match { cluster with bus }.subscribe refused k node with
      | (cluster, .ok held) => (cluster, .ok held)
      | (cluster, .error error) => (cluster.unregister refused k node.id .rollbackFailed, .error error)

def release (cluster : Cluster) (k : Incarnation) : Cluster :=
  match cluster.nodes[k]? with
  | none => cluster
  | some node =>
      match node.held with
      | none => cluster
      | some held =>
          let node := { node.setRegistry (node.registry.release held.registry) with held := none }
          { cluster with store := cluster.store.release held.store, hub := cluster.hub.release held.hub }.setNode k node

def startFailed (cluster : Cluster) (k : Incarnation) (error : Error) : Cluster :=
  (cluster.note k [.startupFailed error]).modify k (·.setState .stopped)

def admission (cluster : Cluster) (refused : Service → Bool) (k : Incarnation) (node : Node) :
    Cluster × Except Error Unit :=
  match Service.attempt refused .currentMembers (cluster.hub.currentMembers node.id cluster.channel) with
  | .error fault =>
      let error := .startup .membership fault
      (cluster.startFailed k error, .error error)
  | .ok _ =>
      match cluster.enroll refused k node with
      | (cluster, .error error) => (cluster.startFailed k error, .error error)
      | (cluster, .ok held) => (cluster.modify k fun node => { node with state := .running, held }, .ok ())

def beginStart (cluster : Cluster) (k : Incarnation) (node : Node) : Except Error Cluster :=
  if node.state.canBecome .starting then .ok (cluster.setNode k (node.setState .starting))
  else .error (.invalidState node.state "start")

def start (cluster : Cluster) (k : Incarnation) : Cluster × Except Error Unit :=
  match cluster.nodes[k]? with
  | none => (cluster, .ok ())
  | some node =>
      match cluster.beginStart k node with
      | .error error => (cluster, .error error)
      | .ok cluster =>
          match cluster.admission Service.granted k (node.setState .starting) with
          | (cluster, .error error) => (cluster, .error error)
          | (cluster, .ok ()) => ((cluster.publish k).recompute k, .ok ())

def beginStop (cluster : Cluster) (refused : Service → Bool) (k : Incarnation) (node : Node) : Cluster :=
  ((cluster.setNode k (node.setState .stopping)).unregister refused k node.id .unregisterFailed).release k

def endStop (cluster : Cluster) (k : Incarnation) : Cluster :=
  cluster.modify k fun node => node.clear.setState .stopped

def stop (cluster : Cluster) (k : Incarnation) : Cluster :=
  match cluster.nodes[k]? with
  | none => cluster
  | some node =>
      if node.state = .stopped then cluster
      else
        let (cluster, result) := (cluster.beginStop Service.granted k node).mutate k (.remove node.id)
        (cluster.amend k (·.withdrawn result)).endStop k

-- A bridge that is lost before it is stopped leaves its announcement behind.
def discard (cluster : Cluster) (refused : Service → Bool) (k : Incarnation) : Cluster :=
  match cluster.nodes[k]? with
  | none => cluster
  | some node =>
      if node.state = .stopped then cluster
      else ((cluster.note k [.droppedWhileActive]).unregister refused k node.id .dropUnregisterFailed).release k

def crash (cluster : Cluster) (id : NodeId) : Cluster :=
  match cluster.current[id]? with
  | none => cluster.leave id
  | some k => ({ cluster with current := cluster.current.erase id }.discard Service.granted k).leave id

-- A node goes while someone holds its bridge: that runs on, unseen.
def detach (cluster : Cluster) (id : NodeId) : Cluster :=
  { cluster with current := cluster.current.erase id }.leave id

-- Whoever is added joins first. A name that is taken keeps its node.
def addNode (cluster : Cluster) (id : NodeId) : Cluster × Except Error Unit :=
  let cluster := cluster.join id
  match cluster.config.validate with
  | .error error => (cluster, .error error)
  | .ok () =>
      if id ∈ cluster.current then (cluster, .ok ())
      else
        let k := cluster.nodes.size
        ({ cluster.setNode k (.create id) with current := cluster.current.insert id k }, .ok ())

end Coherence.Cluster
