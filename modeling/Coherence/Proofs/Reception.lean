import Coherence.Proofs.Gating
import Coherence.Proofs.ResourceSteps
import Coherence.Registry.Session

set_option autoImplicit false

namespace Coherence

open Std

def eventsFor (k : Incarnation) (arrived : List (Delivery Incarnation)) : List Event :=
  (arrived.filter (·.handler = k)).map (·.event)

theorem events_for_append (k : Incarnation) (first second : List (Delivery Incarnation)) :
    eventsFor k (first ++ second) = eventsFor k first ++ eventsFor k second := by
  simp [eventsFor]

theorem Cache.evict_pairs_append (first second : List (Group × Key)) (cache : Cache) :
    (cache.evictPairs (first ++ second)).1 = ((cache.evictPairs first).1.evictPairs second).1 := by
  induction first generalizing cache with
  | nil => rfl
  | cons pair first ih => exact ih (cache.evictPair pair)

namespace Counters

theorem add_zero (counters : Counters) (counter : Counter) : counters.add counter 0 = counters := by
  cases counter <;> simp [add]

theorem add_add (counters : Counters) (counter : Counter) (first second : Nat) :
    (counters.add counter (UInt64.ofNat first)).add counter (UInt64.ofNat second) =
      counters.add counter (UInt64.ofNat (first + second)) := by
  cases counter <;> simp [add, UInt64.add_assoc]

end Counters

namespace Node

-- The events cost the node keys, are put on record and counted; or they are only counted, if it rejects them.
def taken (node : Node) (events : List Event) : Node :=
  let count := UInt64.ofNat events.length
  if node.registry.rejecting then
    { node with relay := { node.relay with counters := node.counters.add .remoteApplyFailures count } }
  else
    { node with relay := { node.relay with
        registry := { node.registry with
          cache := (node.registry.cache.evictPairs (events.flatMap Event.pairs)).1
          applied := node.registry.applied ++ events }
        counters := node.counters.add .remoteEventsApplied count } }

theorem rejecting_taken (node : Node) (events : List Event) :
    (node.taken events).registry.rejecting = node.registry.rejecting := by
  rw [taken]
  split <;> rfl

theorem taken_nil (node : Node) : node.taken [] = node := by
  rw [taken]
  split
  · exact congrArg (fun counters => { node with relay := { node.relay with counters } }) (Counters.add_zero _ _)
  · simp only [List.append_nil]
    exact congrArg (fun counters => { node with relay := { node.relay with counters } }) (Counters.add_zero _ _)

theorem receive_eq (node : Node) (event : Event) : (node.receive event).1 = node.taken [event] := by
  rw [receive, Relay.receive, Registry.apply, taken]
  by_cases rejecting : node.registry.rejecting = true
  · rw [if_pos rejecting, if_pos (show node.relay.registry.rejecting = true from rejecting)]
    rfl
  · rw [if_neg rejecting, if_neg (show ¬ node.relay.registry.rejecting = true from rejecting)]
    simp [Registry.evict, Cache.evict, Relay.acknowledge, Relay.count, registry, counters, Counters.bump]

theorem taken_taken (node : Node) (first second : List Event) :
    (node.taken first).taken second = node.taken (first ++ second) := by
  rw [taken, rejecting_taken]
  by_cases rejecting : node.registry.rejecting = true
  · rw [if_pos rejecting, taken, if_pos rejecting, taken, if_pos rejecting, List.length_append, ← Counters.add_add]
    rfl
  · rw [if_neg rejecting, taken, if_neg rejecting, taken, if_neg rejecting, List.length_append, ← Counters.add_add,
      List.flatMap_append, Cache.evict_pairs_append, ← List.append_assoc]
    rfl

theorem holds_taken (node : Node) (events : List Event) (group : Group) (key : Key) :
    (node.taken events).registry.cache.holds group key =
      ((node.registry.rejecting || decide ((group, key) ∉ events.flatMap Event.pairs)) &&
        node.registry.cache.holds group key) := by
  rw [taken]
  split
  · rename_i rejecting
    rw [rejecting, Bool.true_or, Bool.true_and]
    rfl
  · rename_i accepting
    simp only [Bool.not_eq_true] at accepting
    rw [accepting, Bool.false_or, ← Cache.holds_evict_pairs]
    rfl

end Node

namespace Cluster

-- Some events have reached their nodes, and nothing else has happened.
def Absorbs (cluster : Cluster) (arrived : List (Delivery Incarnation)) (after : Cluster) : Prop :=
  ∃ log, after = { cluster with nodes := cluster.nodes.map fun k node => node.taken (eventsFor k arrived), log }

theorem absorbs_nil (cluster : Cluster) : cluster.Absorbs [] cluster := by
  refine ⟨cluster.log, ?_⟩
  have nodes : (cluster.nodes.map fun k node => node.taken (eventsFor k [])) = cluster.nodes := by
    apply ExtTreeMap.ext_getElem?
    intro k
    rw [ExtTreeMap.getElem?_map]
    cases cluster.nodes[k]? with
    | none => rfl
    | some node => exact congrArg some node.taken_nil
  rw [nodes]

theorem Absorbs.trans {first second third : Cluster} {here there : List (Delivery Incarnation)}
    (earlier : first.Absorbs here second) (later : second.Absorbs there third) : first.Absorbs (here ++ there) third := by
  obtain ⟨log, rfl⟩ := earlier
  obtain ⟨log, rfl⟩ := later
  refine ⟨log, ?_⟩
  have nodes : ((first.nodes.map fun k node => node.taken (eventsFor k here)).map fun k node =>
      node.taken (eventsFor k there)) = first.nodes.map fun k node => node.taken (eventsFor k (here ++ there)) := by
    apply ExtTreeMap.ext_getElem?
    intro k
    rw [ExtTreeMap.getElem?_map, ExtTreeMap.getElem?_map, ExtTreeMap.getElem?_map, Option.map_map, events_for_append]
    cases first.nodes[k]? with
    | none => rfl
    | some node => exact congrArg some (node.taken_taken _ _)
  rw [nodes]

theorem absorbs_receive (cluster : Cluster) (delivery : Delivery Incarnation) :
    cluster.Absorbs [delivery] (cluster.receive delivery.handler delivery.event) := by
  have nodes : (cluster.receive delivery.handler delivery.event).nodes =
      cluster.nodes.map fun k node => node.taken (eventsFor k [delivery]) := by
    apply ExtTreeMap.ext_getElem?
    intro k
    rw [ExtTreeMap.getElem?_map, receive, nodes_amend]
    by_cases same : delivery.handler = k
    · rw [if_pos same]
      simp [eventsFor, same, Node.receive_eq]
    · rw [if_neg same]
      simp [eventsFor, same, Node.taken_nil]
  refine ⟨(cluster.receive delivery.handler delivery.event).log, ?_⟩
  rw [← nodes, receive, amend]
  split <;> rfl

theorem absorbs_deliver (cluster : Cluster) (arrived : List (Delivery Incarnation)) :
    cluster.Absorbs arrived (cluster.deliver arrived) := by
  induction arrived generalizing cluster with
  | nil => exact cluster.absorbs_nil
  | cons delivery arrived ih =>
      rw [deliver_cons]
      exact (cluster.absorbs_receive delivery).trans (ih _)

theorem receive_wire (cluster : Cluster) (bus : Bus Incarnation) (k : Incarnation) (event : Event) :
    { cluster with bus }.receive k event = { cluster.receive k event with bus } := by
  rw [receive, receive, amend, amend]
  cases cluster.nodes[k]? <;> rfl

theorem deliver_wire (cluster : Cluster) (bus : Bus Incarnation) (arrived : List (Delivery Incarnation)) :
    { cluster with bus }.deliver arrived = { cluster.deliver arrived with bus } := by
  induction arrived generalizing cluster with
  | nil => rfl
  | cons delivery arrived ih =>
      rw [deliver_cons, deliver_cons, receive_wire, ih]

theorem deliver_append (cluster : Cluster) (first second : List (Delivery Incarnation)) :
    cluster.deliver (first ++ second) = (cluster.deliver first).deliver second :=
  List.foldl_append

def await (cluster : Cluster) (id : Nat) : Cluster :=
  let (bus, arrived) := cluster.bus.await id
  { cluster with bus }.deliver arrived

-- Wait for all deliveries that are kept track of at the moment.
def awaitRound (cluster : Cluster) : Cluster :=
  cluster.bus.pending.foldl await { cluster with bus := { cluster.bus with pending := [] } }

-- Go on in rounds until no delivery is kept track of.
inductive Flushes : Cluster → Cluster → Prop
  | done (cluster : Cluster) (nothing : cluster.bus.pending = []) : Flushes cluster cluster
  | round (cluster after : Cluster) (busy : cluster.bus.pending ≠ []) (rest : Flushes cluster.awaitRound after) :
      Flushes cluster after

theorem foldl_await (cluster : Cluster) (ids : List Nat) :
    ids.foldl await cluster = { cluster with bus := (cluster.bus.awaitAll ids).1 }.deliver (cluster.bus.awaitAll ids).2 := by
  induction ids generalizing cluster with
  | nil => rfl
  | cons id ids ih =>
      have bus : (cluster.await id).bus = (cluster.bus.await id).1 := bus_deliver _ _
      have first : cluster.await id = { cluster.deliver (cluster.bus.await id).2 with bus := (cluster.bus.await id).1 } :=
        deliver_wire cluster _ _
      have last := deliver_wire cluster ((cluster.bus.await id).1.awaitAll ids).1 (cluster.bus.await id).2
      rw [List.foldl_cons, ih, bus, first, Bus.awaitAll, deliver_append]
      dsimp only
      rw [last]

end Cluster

namespace Bus

variable {η : Type}

theorem await_keeps (bus : Bus η) (id : Nat) :
    (bus.await id).1.setting = bus.setting ∧ (bus.await id).1.pending = bus.pending := by
  rw [await]
  split
  · dsimp only
    rw [wake]
    split <;> exact ⟨rfl, rfl⟩
  · exact ⟨rfl, rfl⟩

theorem await_all_keeps (bus : Bus η) (ids : List Nat) :
    (bus.awaitAll ids).1.setting = bus.setting ∧ (bus.awaitAll ids).1.pending = bus.pending := by
  induction ids generalizing bus with
  | nil => exact ⟨rfl, rfl⟩
  | cons id ids ih =>
      obtain ⟨setting, pending⟩ := await_keeps bus id
      obtain ⟨later, still⟩ := ih (bus.await id).1
      exact ⟨later.trans setting, still.trans pending⟩

end Bus

namespace Cluster

theorem round_eq (cluster : Cluster) :
    let waited := { cluster.bus with pending := [] }.awaitAll cluster.bus.pending
    cluster.awaitRound = { cluster with bus := waited.1 }.deliver waited.2 :=
  foldl_await { cluster with bus := { cluster.bus with pending := [] } } cluster.bus.pending

theorem pending_round (cluster : Cluster) : cluster.awaitRound.bus.pending = [] := by
  rw [round_eq, bus_deliver]
  exact (Bus.await_all_keeps { cluster.bus with pending := [] } cluster.bus.pending).2

-- One round is enough, since what it hands over sends nothing.
theorem flushes_iff (cluster after : Cluster) :
    Flushes cluster after ↔ after = if cluster.bus.pending = [] then cluster else cluster.awaitRound := by
  constructor
  · intro flushes
    cases flushes with
    | done _ nothing => rw [if_pos nothing]
    | round _ _ busy rest =>
        rw [if_neg busy]
        cases rest with
        | done _ _ => rfl
        | round _ _ more _ => exact absurd cluster.pending_round more
  · rintro rfl
    split
    · rename_i nothing
      exact .done cluster nothing
    · rename_i busy
      exact .round cluster _ busy (.done _ cluster.pending_round)

theorem flushes_flush (cluster : Cluster) (trackedOnce : cluster.bus.TrackedOnce) :
    Flushes cluster (cluster.step (.control .flush)).1 := by
  have flushed := cluster.bus.flush_awaits trackedOnce
  have step : (cluster.step (.control .flush)).1 = cluster.awaitRound := by
    rw [round_eq, ← flushed]
    rfl
  rw [flushes_iff, step]
  split
  · rename_i nothing
    have still : ({ cluster.bus with pending := [] } : Bus Incarnation) = cluster.bus := by rw [← nothing]
    rw [awaitRound, still, nothing]
    rfl
  · rfl

theorem flush_ends (cluster : Cluster) :
    ∃ after, (∀ other, Flushes cluster other ↔ other = after) ∧ after.bus.pending = [] ∧
      after.bus.sent = cluster.bus.sent := by
  refine ⟨_, cluster.flushes_iff, ?_⟩
  split
  · rename_i nothing
    exact ⟨nothing, rfl⟩
  · refine ⟨cluster.pending_round, ?_⟩
    rw [round_eq, bus_deliver]
    exact congrArg Bus.Setting.sent (Bus.await_all_keeps { cluster.bus with pending := [] } cluster.bus.pending).1

theorem receive_found (cluster : Cluster) (k : Incarnation) (node : Node) (event : Event)
    (found : cluster.nodes[k]? = some node) :
    ∃ log, cluster.receive k event = { cluster with log }.setNode k (node.taken [event]) := by
  refine ⟨(cluster.receive k event).log, ?_⟩
  rw [receive, amend_found cluster k _ node found, node.receive_eq]
  rfl

theorem send_absorbs (cluster : Cluster) (k : Incarnation) (node : Node) (event wanted : Event) (mode : Mode)
    (found : cluster.nodes[k]? = some node) (passed : node.snapshot.gate event = some wanted) :
    let traffic := cluster.bus.broadcast node.id cluster.channel wanted mode
    ∃ middle last log, { cluster with bus := traffic.1 }.Absorbs traffic.2.1 middle ∧ middle.nodes[k]? = some last ∧
      (cluster.send k event mode).1 =
        (middle.setNode k { last with relay := (last.relay.conclude wanted traffic.2.2).1 }).note k log ∧
      (cluster.send k event mode).1.bus.sent = cluster.bus.sent ++
        [⟨node.id, cluster.channel, wanted, mode, (cluster.bus.targets cluster.channel node.id).map (·.1)⟩] := by
  obtain ⟨last, log, outcome, _, there, sent⟩ := send_wanted cluster k node event wanted mode found passed
  refine ⟨_, last, log, absorbs_deliver _ _, there, congrArg Prod.fst sent, ?_⟩
  rw [sent, ← Bus.sent_broadcast]
  exact congrArg Bus.sent (bus_deliver _ _)

/-- An event that arrives costs cached keys, is recorded and counted, or is only counted; nothing more is sent. -/
theorem reception_amplifies_nothing (cluster : Cluster) (k : Incarnation) (node : Node)
    (found : cluster.nodes[k]? = some node) :
    (∀ event, ∃ log, cluster.receive k event = { cluster with log }.setNode k (node.taken [event])) ∧
    (∀ events group key, (node.taken events).registry.cache.holds group key =
      ((node.registry.rejecting || decide ((group, key) ∉ events.flatMap Event.pairs)) &&
        node.registry.cache.holds group key)) ∧
    (∀ (session : Registry.Session) event, (session.step (.apply event)).2.2 = []) ∧
    (∀ arrived, cluster.Absorbs arrived (cluster.deliver arrived)) ∧
    (∀ control, { cluster with bus := (cluster.bus.control control).1 }.Absorbs (cluster.bus.control control).2
        (cluster.step (.control control)).1 ∧ (cluster.step (.control control)).1.bus.sent = cluster.bus.sent) ∧
    (∀ event wanted mode, node.snapshot.gate event = some wanted →
      let traffic := cluster.bus.broadcast node.id cluster.channel wanted mode
      ∃ middle last log, { cluster with bus := traffic.1 }.Absorbs traffic.2.1 middle ∧ middle.nodes[k]? = some last ∧
        (cluster.send k event mode).1 =
          (middle.setNode k { last with relay := (last.relay.conclude wanted traffic.2.2).1 }).note k log ∧
        (cluster.send k event mode).1.bus.sent = cluster.bus.sent ++
          [⟨node.id, cluster.channel, wanted, mode, (cluster.bus.targets cluster.channel node.id).map (·.1)⟩]) ∧
    (∃ after, (∀ other, Flushes cluster other ↔ other = after) ∧ after.bus.pending = [] ∧
      after.bus.sent = cluster.bus.sent) ∧
    ∀ config timeout operations, cluster = (initial config timeout).run operations →
      Flushes cluster (cluster.step (.control .flush)).1 := by
  refine ⟨fun event => cluster.receive_found k node event found, node.holds_taken, fun _ _ => rfl, cluster.absorbs_deliver,
    fun control => ⟨absorbs_deliver _ _, ?_⟩,
    fun event wanted mode passed => cluster.send_absorbs k node event wanted mode found passed, cluster.flush_ends, ?_⟩
  · exact (congrArg Bus.sent (bus_deliver _ _)).trans (cluster.bus.sent_control control)
  · rintro config timeout operations rfl
    have upheld := upheld_run False config timeout operations fun wrong => wrong.elim
    exact flushes_flush _ upheld.sound.trackedOnce

/-- Two nodes that cache a common group, and an event between them that was sent and not waited for. -/
def echoing : List Operation :=
  [.addNode "a", .addNode "b", .startAll, .node "a" (.createGroup "g"), .node "b" (.createGroup "g"),
    .node "b" (.put "g" "x"), .control (.setDelay "b" 20), .node "a" (.invalidate (.single "g" "x") .async)]

theorem echoing_dies_away : ∃ k node, ((initial {} 5000).run echoing).nodes[k]? = some node ∧ node.id = "b" ∧
    node.snapshot.gate (.single "g" "x") = some (.single "g" "x") ∧
    ((initial {} 5000).run echoing).bus.pending = [0] ∧
    (∃ log, ((initial {} 5000).run echoing).receive k (.single "g" "x") =
      { (initial {} 5000).run echoing with log }.setNode k (node.taken [.single "g" "x"])) ∧
    Flushes ((initial {} 5000).run echoing) (((initial {} 5000).run echoing).step (.control .flush)).1 ∧
    (((initial {} 5000).run echoing).step (.control .flush)).1.bus.sent = ((initial {} 5000).run echoing).bus.sent := by
  have seen : (((initial {} 5000).run echoing).nodes[1]?).any (fun node => node.id = "b" &&
      node.snapshot.gate (.single "g" "x") = some (.single "g" "x")) = true := by
    decide +kernel
  have pending : ((initial {} 5000).run echoing).bus.pending = [0] := by decide +kernel
  obtain ⟨node, found, named⟩ := (Option.any_eq_true ..).mp seen
  obtain ⟨received, _, _, _, controls, _, _, flushes⟩ := reception_amplifies_nothing _ 1 node found
  simp only [Bool.and_eq_true, decide_eq_true_eq] at named
  exact ⟨1, node, found, named.1, named.2, pending, received _, flushes {} 5000 echoing rfl, (controls .flush).2⟩

end Cluster

end Coherence
