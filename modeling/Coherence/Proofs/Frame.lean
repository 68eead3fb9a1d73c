import Coherence.Cluster.Announcing
import Coherence.Proofs.Maps

set_option autoImplicit false

namespace Coherence

open Std

-- What a node keeps while it only reads, counts and writes to the store.
structure Standing where
  id : NodeId
  state : Lifecycle
  held : Option Held
  registry : Registry Incarnation
  unreachable : Bool
  rejected : ExtTreeSet String

def Node.standing (node : Node) : Standing :=
  ⟨node.id, node.state, node.held, node.registry, node.replica.unreachable, node.replica.rejected⟩

-- A cluster without what the store holds, what the nodes know of it, and the log.
structure Frame where
  config : Config
  hub : Hub Incarnation
  bus : Bus Incarnation
  listeners : ExtTreeMap Channel (Listeners Incarnation)
  nodes : ExtTreeMap Incarnation Standing
  current : ExtTreeMap NodeId Incarnation

namespace Frame

def subscribers (frame : Frame) : Listeners Incarnation := frame.listeners[frame.config.channel]?.getD {}

def audience (frame : Frame) : List Incarnation := frame.subscribers.toList

def place (frame : Frame) (k : Incarnation) (standing : Standing) : Frame :=
  { frame with nodes := frame.nodes.insert k standing }

theorem nodes_place (frame : Frame) (k j : Incarnation) (standing : Standing) :
    (frame.place k standing).nodes[j]? = if k = j then some standing else frame.nodes[j]? := by
  simp [place, ExtTreeMap.getElem?_insert]

theorem place_place (frame : Frame) (k : Incarnation) (first second : Standing) :
    (frame.place k first).place k second = frame.place k second := by
  rw [place, place, place, insert_again]

-- A node that is told of every change of the store, and can read it then.
def Hears (frame : Frame) (k : Incarnation) : Prop :=
  k ∈ frame.audience ∧ ∃ standing, frame.nodes[k]? = some standing ∧ standing.unreachable = false

end Frame

namespace Cluster

def frame (cluster : Cluster) : Frame :=
  { config := cluster.config
    hub := cluster.hub
    bus := cluster.bus
    listeners := cluster.store.listeners
    nodes := cluster.nodes.map fun _ => Node.standing
    current := cluster.current }

@[simp] theorem frame_config (cluster : Cluster) : cluster.frame.config = cluster.config := rfl

@[simp] theorem frame_hub (cluster : Cluster) : cluster.frame.hub = cluster.hub := rfl

@[simp] theorem frame_bus (cluster : Cluster) : cluster.frame.bus = cluster.bus := rfl

@[simp] theorem frame_listeners (cluster : Cluster) : cluster.frame.listeners = cluster.store.listeners := rfl

@[simp] theorem frame_current (cluster : Cluster) : cluster.frame.current = cluster.current := rfl

@[simp] theorem frame_nodes (cluster : Cluster) (k : Incarnation) :
    cluster.frame.nodes[k]? = cluster.nodes[k]?.map Node.standing := by
  simp [frame]

theorem standing_of_found (cluster : Cluster) (k : Incarnation) (node : Node) (found : cluster.nodes[k]? = some node) :
    cluster.frame.nodes[k]? = some node.standing := by
  rw [frame_nodes, found]
  rfl

theorem node_of_standing (cluster : Cluster) (k : Incarnation) (standing : Standing)
    (found : cluster.frame.nodes[k]? = some standing) : ∃ node, cluster.nodes[k]? = some node ∧ node.standing = standing := by
  rw [frame_nodes, Option.map_eq_some_iff] at found
  exact found

theorem frame_size (cluster : Cluster) : cluster.frame.nodes.size = cluster.nodes.size := by
  simp [frame]

theorem nodes_set_node (cluster : Cluster) (k j : Incarnation) (node : Node) :
    (cluster.setNode k node).nodes[j]? = if k = j then some node else cluster.nodes[j]? := by
  simp [setNode, ExtTreeMap.getElem?_insert]

theorem find_eq_some_iff (cluster : Cluster) (id : NodeId) (k : Incarnation) (node : Node) :
    cluster.find? id = some (k, node) ↔ cluster.current[id]? = some k ∧ cluster.nodes[k]? = some node := by
  rw [find?]
  cases cluster.current[id]? with
  | none => simp
  | some j =>
      dsimp only
      rw [Option.map_eq_some_iff, Option.some.injEq]
      constructor
      · rintro ⟨other, there, same⟩
        cases same
        exact ⟨rfl, there⟩
      · rintro ⟨rfl, there⟩
        exact ⟨node, there, rfl⟩

theorem frame_set_node (cluster : Cluster) (k : Incarnation) (node : Node) :
    (cluster.setNode k node).frame = cluster.frame.place k node.standing := by
  have nodes : (cluster.setNode k node).frame.nodes = cluster.frame.nodes.insert k node.standing := by
    apply ExtTreeMap.ext_getElem?
    intro j
    rw [frame_nodes, nodes_set_node, ExtTreeMap.getElem?_insert, frame_nodes]
    by_cases same : k = j <;> simp [same]
  rw [Frame.place, ← nodes]
  rfl

theorem frame_replace (cluster : Cluster) (k : Incarnation) (node fresh : Node) (found : cluster.nodes[k]? = some node)
    (alike : fresh.standing = node.standing) : (cluster.setNode k fresh).frame = cluster.frame := by
  have nodes : cluster.frame.nodes.insert k fresh.standing = cluster.frame.nodes := by
    apply ExtTreeMap.ext_getElem?
    intro j
    rw [ExtTreeMap.getElem?_insert]
    by_cases same : k = j
    · subst same
      simp [found, alike]
    · simp [same]
  rw [frame_set_node, Frame.place, nodes]

theorem set_node_found (cluster : Cluster) (k : Incarnation) (node : Node) (found : cluster.nodes[k]? = some node) :
    cluster.setNode k node = cluster := by
  rw [setNode, insert_found _ k node found]

theorem frame_note (cluster : Cluster) (k : Incarnation) (log : Log) : (cluster.note k log).frame = cluster.frame := rfl

theorem amend_missing (cluster : Cluster) (k : Incarnation) (change : Node → Node × Log)
    (missing : cluster.nodes[k]? = none) : cluster.amend k change = cluster := by
  rw [amend, missing]

theorem amend_found (cluster : Cluster) (k : Incarnation) (change : Node → Node × Log) (node : Node)
    (found : cluster.nodes[k]? = some node) :
    cluster.amend k change = (cluster.setNode k (change node).1).note k (change node).2 := by
  rw [amend, found]

theorem nodes_amend (cluster : Cluster) (k j : Incarnation) (change : Node → Node × Log) :
    (cluster.amend k change).nodes[j]? =
      if k = j then cluster.nodes[j]?.map fun node => (change node).1 else cluster.nodes[j]? := by
  cases found : cluster.nodes[k]? with
  | none =>
      rw [amend_missing cluster k change found]
      by_cases same : k = j
      · subst same
        simp [found]
      · simp [same]
  | some node =>
      rw [amend_found cluster k change node found]
      change (cluster.setNode k (change node).1).nodes[j]? = _
      rw [nodes_set_node]
      by_cases same : k = j
      · subst same
        simp [found]
      · simp [same]

theorem store_amend (cluster : Cluster) (k : Incarnation) (change : Node → Node × Log) :
    (cluster.amend k change).store = cluster.store := by
  rw [amend]
  split <;> rfl

theorem config_amend (cluster : Cluster) (k : Incarnation) (change : Node → Node × Log) :
    (cluster.amend k change).config = cluster.config := by
  rw [amend]
  split <;> rfl

theorem bus_amend (cluster : Cluster) (k : Incarnation) (change : Node → Node × Log) :
    (cluster.amend k change).bus = cluster.bus := by
  rw [amend]
  split <;> rfl

theorem entries_amend (cluster : Cluster) (k : Incarnation) (change : Node → Node × Log) :
    (cluster.amend k change).entries = cluster.entries := by
  rw [entries, entries, store_amend, channel, channel, config_amend]

theorem frame_amend (cluster : Cluster) (k : Incarnation) (change : Node → Node × Log)
    (alike : ∀ node, cluster.nodes[k]? = some node → (change node).1.standing = node.standing) :
    (cluster.amend k change).frame = cluster.frame := by
  cases found : cluster.nodes[k]? with
  | none => rw [amend_missing cluster k change found]
  | some node =>
      rw [amend_found cluster k change node found, frame_note]
      exact frame_replace cluster k node _ found (alike node found)

end Cluster

end Coherence
