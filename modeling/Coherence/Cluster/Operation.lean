import Coherence.Bus.Operation
import Coherence.Cluster.Enrolment
import Coherence.Cluster.Invalidating

set_option autoImplicit false

namespace Coherence.Cluster

inductive NodeOperation where
  | start
  | stop
  | createGroup (group : Group)
  | dropGroup (group : Group)
  | put (group : Group) (key : Key)
  | setRejecting (on : Bool)
  | send (event : Event) (mode : Mode)
  | invalidate (event : Event) (mode : Mode)
  | receive (event : Event)
  | publish
  | storeChanged
  | membershipChanged (members : List NodeId)
  | setStoreUnreachable (on : Bool)
  | rejectKey (key : String)
  | write (mutation : Mutation)
  | squat
  | unregister

inductive Operation where
  | addNode (id : NodeId)
  | crash (id : NodeId)
  | startAll
  | stopAll
  | join (id : NodeId)
  | leave (id : NodeId)
  | notify (members : List NodeId)
  | setMembershipUnreachable (id : NodeId) (on : Bool)
  | appoint (id : Option NodeId)
  | putRaw (channel : Channel) (key : String) (value : Option Bytes)
  | control (control : Bus.Control)
  | node (id : NodeId) (operation : NodeOperation)

def modifyReplica (cluster : Cluster) (k : Incarnation) (change : Replica → Replica) : Cluster :=
  cluster.modify k fun node => { node with replica := change node.replica }

def stepNode (cluster : Cluster) (k : Incarnation) (node : Node) : NodeOperation → Cluster × Reply
  | .start =>
      let (cluster, result) := cluster.start k
      (cluster, .ofError result)
  | .stop => (cluster.stop k, .done)
  | .createGroup group => (cluster.changeGroups k (·.createGroup? group), .done)
  | .dropGroup group => (cluster.changeGroups k (·.dropGroup? group), .done)
  | .put group key =>
      match node.registry.put? group key with
      | none => (cluster, .flag false)
      | some registry => (cluster.setNode k (node.setRegistry registry), .flag true)
  | .setRejecting on => (cluster.setNode k (node.setRegistry { node.registry with rejecting := on }), .done)
  | .send event mode =>
      let (cluster, outcome) := cluster.send k event mode
      (cluster, .outcome outcome)
  | .invalidate event mode => (cluster.invalidate k event mode, .done)
  | .receive event => (cluster.receive k event, .done)
  | .publish => (cluster.publish k, .done)
  | .storeChanged => (cluster.storeChanged k, .done)
  | .membershipChanged members => (cluster.membershipChanged (View.ofList members) k, .done)
  | .setStoreUnreachable on => (cluster.modifyReplica k fun replica => { replica with unreachable := on }, .done)
  | .rejectKey key =>
      (cluster.modifyReplica k fun replica => { replica with rejected := replica.rejected.insert key }, .done)
  | .write mutation =>
      let (cluster, result) := cluster.mutate k mutation
      (cluster, .ofFault result)
  | .squat =>
      let (bus, reply) := cluster.bus.orKeep (cluster.bus.register cluster.channel node.id k)
      ({ cluster with bus }, reply)
  | .unregister =>
      let (bus, reply) := cluster.bus.orKeep (cluster.bus.unregister cluster.channel node.id)
      ({ cluster with bus }, reply)

def startAll (cluster : Cluster) : List Incarnation → Cluster × Except Error Unit
  | [] => (cluster, .ok ())
  | k :: rest =>
      match cluster.start k with
      | (cluster, .error error) => (cluster, .error error)
      | (cluster, .ok ()) => cluster.startAll rest

def step (cluster : Cluster) : Operation → Cluster × Reply
  | .addNode id =>
      let (cluster, result) := cluster.addNode id
      match result with
      | .ok () => (cluster, .added id cluster.config)
      | .error error => (cluster, .error error)
  | .crash id => (cluster.crash id, .done)
  | .startAll =>
      let (cluster, result) := cluster.startAll cluster.incarnations
      (cluster, .ofError result)
  | .stopAll => (cluster.incarnations.foldl stop cluster, .done)
  | .join id => (cluster.join id, .done)
  | .leave id => (cluster.leave id, .done)
  | .notify members => (cluster.notifyMembership (View.ofList members), .done)
  | .setMembershipUnreachable id on => ({ cluster with hub := cluster.hub.setUnreachable id on }, .done)
  | .appoint id => ({ cluster with hub := cluster.hub.appoint id }, .done)
  | .putRaw channel key value => (cluster.putRaw channel key value, .done)
  | .control control =>
      let (bus, arrived) := cluster.bus.control control
      ({ cluster with bus }.deliver arrived, .done)
  | .node id operation =>
      match cluster.find? id with
      | none => (cluster, .noSuchNode)
      | some (k, node) => cluster.stepNode k node operation

def run (cluster : Cluster) (operations : List Operation) : Cluster :=
  operations.foldl (fun cluster operation => (cluster.step operation).1) cluster

end Coherence.Cluster
