import Coherence.Interleaving.Turn

set_option autoImplicit false

namespace Coherence.Interleaving

inductive NodeRequest where
  | hold (service : Service)
  | unpark (service : Service)
  | refuse (service : Service) (on : Bool)
  | start
  | stop
  | createGroup (group : Group)
  | dropGroup (group : Group)
  | put (group : Group) (key : Key)
  | publish
  | storeChanged
  | membershipChanged (members : List NodeId)
  | send (event : Event) (mode : Mode)
  | invalidate (event : Event) (mode : Mode)
  | issued

inductive Request where
  | addNode (id : NodeId)
  | join (id : NodeId)
  | leave (id : NodeId)
  | appoint (id : Option NodeId)
  | putRaw (key : String) (value : Option Bytes)
  | drop (id : NodeId)
  | node (id : NodeId) (request : NodeRequest)

namespace Bench

def telling (bench : Bench) : List Action :=
  bench.cluster.hub.circleKeys.map fun circle => .tellCircle circle bench.cluster.hub.view

def join (bench : Bench) (id : NodeId) : Bench :=
  bench.withCluster { bench.cluster with hub := bench.cluster.hub.join id }

def changeGroups (bench : Bench) (k : Incarnation) (node : Node) :
    Option (Registry Incarnation) → Bench × List Action
  | none => (bench, [.answer .done])
  | some registry =>
      (bench.withCluster (bench.cluster.setNode k (node.setRegistry registry)),
        registry.audience.map (.work · .groupsChanged) ++ [.answer .done])

def beginNode (bench : Bench) (k : Incarnation) (node : Node) : NodeRequest → Bench × List Action
  | .hold service => ({ bench with holds := bench.holds ++ [(k, service)] }, [.answer .done])
  | .unpark service =>
      let (bench, found) := bench.unpark (k, service)
      (bench, [.answer (.flag found)])
  | .refuse service on =>
      let others := bench.refusals.filter (· ≠ (k, service))
      ({ bench with refusals := if on then (k, service) :: others else others },
        [.answer (.flag (bench.refused k service ≠ on))])
  | .start => (bench, [.acquire (.lifecycle k), .work k .start])
  | .stop => (bench, [.acquire (.lifecycle k), .work k .stop])
  | .createGroup group => bench.changeGroups k node (node.registry.createGroup? group)
  | .dropGroup group => bench.changeGroups k node (node.registry.dropGroup? group)
  | .put group key =>
      match node.registry.put? group key with
      | none => (bench, [.answer (.flag false)])
      | some registry =>
          (bench.withCluster (bench.cluster.setNode k (node.setRegistry registry)), [.answer (.flag true)])
  | .publish => (bench, Action.publishing k ++ [.answer .done])
  | .storeChanged => (bench, [.work k .storeChanged, .answer .done])
  | .membershipChanged members => (bench, [.work k (.membershipChanged (View.ofList members)), .answer .done])
  | .send event mode => (bench, [.work k (.send event mode true)])
  | .invalidate event mode =>
      let registry := node.registry.evict event
      (bench.withCluster (bench.cluster.setNode k (node.setRegistry registry)),
        registry.audience.map (.work · (.invalidated event mode)) ++ [.answer .done])
  | .issued => (bench, [.answer (.issued node.replica.issued)])

def begin (bench : Bench) : Request → Bench × Option Incarnation × List Action
  | .addNode id =>
      let bench := bench.join id
      (bench, none, bench.telling ++ [.install id])
  | .join id =>
      let bench := bench.join id
      (bench, none, bench.telling ++ [.answer .done])
  | .leave id =>
      match bench.cluster.hub.leave? id with
      | none => (bench, none, [.answer .done])
      | some hub =>
          let bench := bench.withCluster { bench.cluster with hub }
          (bench, none, bench.telling ++ [.answer .done])
  | .appoint id =>
      (bench.withCluster { bench.cluster with hub := bench.cluster.hub.appoint id }, none, [.answer .done])
  | .putRaw key value =>
      let cluster := bench.cluster
      let store := cluster.store.put cluster.channel key value
      (bench.withCluster { cluster with store }, none,
        (store.audience cluster.channel).map (.work · .storeChanged) ++ [.answer .done])
  | .drop id =>
      match bench.cluster.current[id]? with
      | none => (bench, none, [.answer (.flag false)])
      | some k => (bench.lose id k, none, [.answer (.flag true)])
  | .node id request =>
      match bench.cluster.find? id with
      | none => (bench, none, [.answer .noSuchNode])
      | some (k, node) =>
          let (bench, agenda) := bench.beginNode k node request
          (bench, some k, agenda)

def patience : Nat := Nat.pow 2 32

def request (bench : Bench) (index : Nat) (request : Request) : Bench :=
  let (bench, keeps, agenda) := { bench with answered := ∅ }.begin request
  (bench.spawn { request := some index, keeps, agenda }).settle patience

end Bench

end Coherence.Interleaving
