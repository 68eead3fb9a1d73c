import Coherence.Node
import Coherence.Service

set_option autoImplicit false

namespace Coherence

open Std

-- An incarnation that is gone is kept, since events may still be on their way to it.
structure Cluster where
  config : Config := {}
  hub : Hub Incarnation := {}
  store : Store Incarnation := {}
  bus : Bus Incarnation := {}
  nodes : ExtTreeMap Incarnation Node := ∅
  current : ExtTreeMap NodeId Incarnation := ∅
  log : List (Incarnation × LogEntry) := []

namespace Cluster

def channel (cluster : Cluster) : Channel := cluster.config.channel

def members (cluster : Cluster) : List (Incarnation × Node) :=
  cluster.current.toList.filterMap fun (_, k) => cluster.nodes[k]?.map (k, ·)

def incarnations (cluster : Cluster) : List Incarnation := cluster.current.toList.map (·.2)

def find? (cluster : Cluster) (id : NodeId) : Option (Incarnation × Node) :=
  match cluster.current[id]? with
  | none => none
  | some k => cluster.nodes[k]?.map (k, ·)

def entries (cluster : Cluster) : Entries := cluster.store.entries cluster.channel

def note (cluster : Cluster) (k : Incarnation) (log : Log) : Cluster :=
  { cluster with log := cluster.log ++ log.map (k, ·) }

def newLog (cluster earlier : Cluster) : Log := (cluster.log.drop earlier.log.length).map (·.2)

def setNode (cluster : Cluster) (k : Incarnation) (node : Node) : Cluster :=
  { cluster with nodes := cluster.nodes.insert k node }

def amend (cluster : Cluster) (k : Incarnation) (change : Node → Node × Log) : Cluster :=
  match cluster.nodes[k]? with
  | none => cluster
  | some node =>
      let (node, log) := change node
      (cluster.setNode k node).note k log

def modify (cluster : Cluster) (k : Incarnation) (change : Node → Node) : Cluster :=
  cluster.amend k fun node => (change node, [])

def isRunning (cluster : Cluster) (k : Incarnation) : Bool := cluster.nodes[k]?.any Node.isRunning

def write (cluster : Cluster) (k : Incarnation) (node : Node) (mutation : Mutation) :
    Cluster × Except Fault (List Incarnation) :=
  let (replica, store, result) := node.replica.write cluster.store cluster.channel mutation
  ({ cluster with store }.setNode k { node with replica }, result)

def receive (cluster : Cluster) (k : Incarnation) (event : Event) : Cluster := cluster.amend k (·.receive event)

def dispatch (cluster : Cluster) (k : Incarnation) (event : Event) : Cluster := cluster.amend k (·.dispatch event)

theorem dispatch_eq (cluster : Cluster) (k : Incarnation) (event : Event) :
    cluster.dispatch k event = cluster.receive k event := by
  simp only [dispatch, Node.dispatch_eq, receive]

def deliver (cluster : Cluster) (arrived : List (Delivery Incarnation)) : Cluster :=
  arrived.foldl (fun cluster delivery => cluster.dispatch delivery.handler delivery.event) cluster

theorem deliver_eq (cluster : Cluster) (arrived : List (Delivery Incarnation)) :
    cluster.deliver arrived =
      arrived.foldl (fun cluster delivery => cluster.receive delivery.handler delivery.event) cluster := by
  simp only [deliver, dispatch_eq]

theorem deliver_cons (cluster : Cluster) (delivery : Delivery Incarnation) (arrived : List (Delivery Incarnation)) :
    cluster.deliver (delivery :: arrived) = (cluster.receive delivery.handler delivery.event).deliver arrived := by
  rw [deliver, List.foldl_cons, dispatch_eq, deliver]

end Cluster

end Coherence
