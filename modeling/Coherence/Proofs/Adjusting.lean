import Coherence.Cluster.Operation
import Coherence.Proofs.Eviction
import Coherence.Proofs.Frame
import Coherence.Proofs.Transit

set_option autoImplicit false

namespace Coherence

open Std

namespace Registry

theorem alike_apply (registry : Registry Incarnation) (event : Event) :
    (registry.apply event).1.listeners = registry.listeners ∧
      (registry.apply event).1.groupNames = registry.groupNames := by
  rw [apply]
  split
  · exact ⟨rfl, rfl⟩
  · exact ⟨rfl, Cache.keys_evict registry.cache event⟩

theorem alike_put (registry after : Registry Incarnation) (group : Group) (key : Key)
    (cached : registry.put? group key = some after) :
    after.listeners = registry.listeners ∧ after.groupNames = registry.groupNames := by
  rw [put?] at cached
  split at cached
  · cases cached
    exact ⟨rfl, Cache.keys_modify registry.cache group _⟩
  · cases cached

end Registry

namespace Node

-- A change of what a node caches and counts.
structure Retains (node fresh : Node) : Prop where
  id : fresh.id = node.id
  state : fresh.state = node.state
  held : fresh.held = node.held
  draws : fresh.draws = node.draws
  snapshot : fresh.snapshot = node.snapshot
  listeners : fresh.registry.listeners = node.registry.listeners
  reachable : node.replica.unreachable = false → fresh.replica.unreachable = false

structure Alike (node fresh : Node) : Prop extends node.Retains fresh where
  groups : fresh.registry.groupNames = node.registry.groupNames
  rejected : fresh.replica.rejected = node.replica.rejected

variable (node : Node)

theorem retains_set_registry (registry : Registry Incarnation) (listeners : registry.listeners = node.registry.listeners) :
    node.Retains (node.setRegistry registry) :=
  ⟨rfl, rfl, rfl, rfl, rfl, listeners, fun reachable => reachable⟩

theorem alike_set_registry (registry : Registry Incarnation) (listeners : registry.listeners = node.registry.listeners)
    (groups : registry.groupNames = node.registry.groupNames) : node.Alike (node.setRegistry registry) :=
  ⟨node.retains_set_registry registry listeners, groups, rfl⟩

theorem alike_evicted (event : Event) : node.Alike (node.setRegistry (node.registry.evict event)) :=
  node.alike_set_registry _ rfl (Cache.keys_evict node.registry.cache event)

theorem alike_counted (counter : Counter) : node.Alike (node.count counter) :=
  ⟨⟨rfl, rfl, rfl, rfl, rfl, rfl, fun reachable => reachable⟩, rfl, rfl⟩

theorem registry_received (event : Event) : (node.receive event).1.registry = (node.registry.apply event).1 := by
  rw [receive, Relay.receive]
  dsimp only
  cases (node.relay.registry.apply event).2 <;> rfl

theorem alike_received (event : Event) : node.Alike (node.receive event).1 := by
  have kept := node.registry.alike_apply event
  refine ⟨⟨rfl, rfl, rfl, rfl, ?_, ?_, fun reachable => reachable⟩, ?_, rfl⟩
  · rw [receive, Relay.receive]
    dsimp only
    cases (node.relay.registry.apply event).2 <;> rfl
  · rw [registry_received]
    exact kept.1
  · rw [registry_received]
    exact kept.2

theorem alike_concluded (event : Event) (result : Except Fault Unit) :
    node.Alike { node with relay := (node.relay.conclude event result).1 } := by
  cases result with
  | error fault => exact ⟨⟨rfl, rfl, rfl, rfl, rfl, rfl, fun reachable => reachable⟩, rfl, rfl⟩
  | ok => exact ⟨⟨rfl, rfl, rfl, rfl, rfl, rfl, fun reachable => reachable⟩, rfl, rfl⟩

end Node

namespace Cluster

-- Events travel, and nodes take them or count them.
inductive Adjusted (before : Cluster) : Cluster → Prop
  | refl : Adjusted before before
  | wire (after : Cluster) (bus : Bus Incarnation) (handlers : bus.handlers = after.bus.handlers)
      (earlier : Adjusted before after) : Adjusted before { after with bus }
  | node (after : Cluster) (k : Incarnation) (node fresh : Node) (found : after.nodes[k]? = some node)
      (alike : node.Alike fresh) (earlier : Adjusted before after) : Adjusted before (after.setNode k fresh)
  | note (after : Cluster) (k : Incarnation) (log : Log) (earlier : Adjusted before after) :
      Adjusted before (after.note k log)

theorem Adjusted.trans {first second third : Cluster} (earlier : Adjusted first second) (later : Adjusted second third) :
    Adjusted first third := by
  induction later with
  | refl => exact earlier
  | wire after bus handlers _ ih => exact .wire after bus handlers ih
  | node after k node fresh found alike _ ih => exact .node after k node fresh found alike ih
  | note after k log _ ih => exact .note after k log ih

theorem Adjusted.current {before after : Cluster} (adjusted : Adjusted before after) : after.current = before.current := by
  induction adjusted with
  | refl => rfl
  | wire _ _ _ _ ih => exact ih
  | node _ _ _ _ _ _ _ ih => exact ih
  | note _ _ _ _ ih => exact ih

theorem Adjusted.found {before after : Cluster} (adjusted : Adjusted before after) (k : Incarnation) (node : Node)
    (found : before.nodes[k]? = some node) : ∃ last, after.nodes[k]? = some last := by
  induction adjusted with
  | refl => exact ⟨node, found⟩
  | wire _ _ _ _ ih => exact ih
  | note _ _ _ _ ih => exact ih
  | node after j old fresh _ _ _ ih =>
      rw [nodes_set_node]
      split
      · exact ⟨fresh, rfl⟩
      · exact ih

theorem adjusted_foldl {α : Type} (f : Cluster → α → Cluster) (adjusted : ∀ cluster a, Adjusted cluster (f cluster a))
    (xs : List α) (cluster : Cluster) : Adjusted cluster (xs.foldl f cluster) := by
  induction xs generalizing cluster with
  | nil => exact .refl
  | cons a xs ih => exact (adjusted cluster a).trans (ih (f cluster a))

theorem adjusted_receive (cluster : Cluster) (k : Incarnation) (event : Event) :
    Adjusted cluster (cluster.receive k event) := by
  rw [receive]
  cases found : cluster.nodes[k]? with
  | none =>
      rw [amend_missing cluster k _ found]
      exact .refl
  | some node =>
      rw [amend_found cluster k _ node found]
      exact .note _ k _ (.node cluster k node _ found (node.alike_received event) .refl)

theorem adjusted_deliver (cluster : Cluster) (arrived : List (Delivery Incarnation)) :
    Adjusted cluster (cluster.deliver arrived) := by
  rw [deliver_eq]
  exact adjusted_foldl (fun cluster (delivery : Delivery Incarnation) => cluster.receive delivery.handler delivery.event)
    (fun cluster delivery => adjusted_receive cluster delivery.handler delivery.event) arrived cluster

theorem adjusted_traffic (cluster : Cluster) (bus : Bus Incarnation) (arrived : List (Delivery Incarnation))
    (handlers : bus.handlers = cluster.bus.handlers) : Adjusted cluster ({ cluster with bus }.deliver arrived) :=
  (Adjusted.wire cluster bus handlers .refl).trans (adjusted_deliver _ arrived)

theorem adjusted_send (cluster : Cluster) (k : Incarnation) (event : Event) (mode : Mode) :
    Adjusted cluster (cluster.send k event mode).1 := by
  rw [send]
  cases found : cluster.nodes[k]? with
  | none => exact .refl
  | some node =>
      dsimp only
      cases node.snapshot.gate event with
      | none => exact .node cluster k node _ found (node.alike_counted _) .refl
      | some wanted =>
          have handlers := cluster.bus.handlers_broadcast node.id cluster.channel wanted mode
          have traffic := adjusted_traffic cluster _ (cluster.bus.broadcast node.id cluster.channel wanted mode).2.1 handlers
          dsimp only
          split
          · exact traffic
          · rename_i later there
            exact .note _ k _ (.node _ k later _ there (later.alike_concluded wanted _) traffic)

theorem adjusted_invalidated (event : Event) (mode : Mode) (cluster : Cluster) (k : Incarnation) :
    Adjusted cluster (invalidated event mode cluster k) := by
  rw [invalidated]
  split
  · exact adjusted_send cluster k event mode
  · exact .refl

theorem adjusted_invalidate (cluster : Cluster) (k : Incarnation) (event : Event) (mode : Mode) :
    Adjusted cluster (cluster.invalidate k event mode) := by
  rw [invalidate]
  cases found : cluster.nodes[k]? with
  | none => exact .refl
  | some node =>
      have evicted := Adjusted.node cluster k node _ found (node.alike_evicted event) .refl
      exact evicted.trans (adjusted_foldl _ (adjusted_invalidated event mode) _ _)

theorem adjusted_control (cluster : Cluster) (control : Bus.Control) :
    Adjusted cluster (cluster.step (.control control)).1 :=
  adjusted_traffic cluster _ _ (cluster.bus.handlers_control control)

end Cluster

end Coherence
