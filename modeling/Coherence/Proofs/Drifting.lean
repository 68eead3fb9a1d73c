import Coherence.Proofs.Syncing

set_option autoImplicit false

namespace Coherence

open Std

namespace Bus

variable {η : Type}

def Operation.rewires : Operation η → Bool
  | .register _ _ _ => true
  | .unregister _ _ => true
  | _ => false

theorem handlers_step (bus : Bus η) (operation : Operation η) (traffic : operation.rewires = false) :
    (bus.step operation).1.handlers = bus.handlers := by
  cases operation with
  | control control => exact handlers_control bus control
  | register channel node handler => cases traffic
  | unregister channel node => cases traffic
  | broadcast sender channel event mode => exact handlers_broadcast bus sender channel event mode

end Bus

-- A node that goes on as it is: it keeps its bridge, and while that does not run also what it knows.
structure Node.Abides (node fresh : Node) : Prop where
  id : fresh.id = node.id
  state : fresh.state = node.state
  held : fresh.held = node.held
  listeners : fresh.registry.listeners = node.registry.listeners
  aged : node.draws ≤ fresh.draws
  dated : node.snapshot.generation.toNat ≤ node.draws → fresh.snapshot.generation.toNat ≤ fresh.draws
  idle : node.state ≠ .running → fresh.snapshot = node.snapshot

theorem Node.Retains.abides {node fresh : Node} (retains : node.Retains fresh) : node.Abides fresh where
  id := retains.id
  state := retains.state
  held := retains.held
  listeners := retains.listeners
  aged := Nat.le_of_eq retains.draws.symm
  dated := by
    rw [retains.draws, retains.snapshot]
    exact fun dated => dated
  idle _ := retains.snapshot

namespace Node

variable (node : Node)

theorem abides_tried (mutation : Mutation) : node.Abides { node with replica := node.replica.tried mutation } :=
  ⟨rfl, rfl, rfl, rfl, Nat.le_refl _, fun dated => dated, fun _ => rfl⟩

theorem abides_counted (counter : Counter) : node.Abides (node.count counter) :=
  (node.alike_counted counter).abides

theorem abides_published (result : Except Fault Unit) : node.Abides (node.published result).1 := by
  cases result with
  | error fault => exact node.abides_counted _
  | ok => exact node.abides_counted _

theorem abides_withdrawn (result : Except Fault Unit) : node.Abides (node.withdrawn result).1 := by
  cases result with
  | error fault => exact node.abides_counted _
  | ok => exact node.abides_counted _

theorem abides_swept (owner : NodeId) (result : Except Fault Unit) : node.Abides (Node.swept owner node result).1 := by
  cases result with
  | error fault => exact node.abides_counted _
  | ok => exact node.abides_counted _

end Node

namespace Cluster

-- If the cluster is loyal, nobody interferes with the handlers, and whoever leaves the members is gone already.
inductive Drifts (loyal : Prop) (before : Cluster) : Cluster → Prop
  | refl : Drifts loyal before before
  | note (after : Cluster) (k : Incarnation) (log : Log) (earlier : Drifts loyal before after) :
      Drifts loyal before (after.note k log)
  | node (after : Cluster) (k : Incarnation) (node fresh : Node) (found : after.nodes[k]? = some node)
      (abides : node.Abides fresh) (earlier : Drifts loyal before after) : Drifts loyal before (after.setNode k fresh)
  | store (after : Cluster) (store : Store Incarnation) (listeners : store.listeners = after.store.listeners)
      (earlier : Drifts loyal before after) : Drifts loyal before { after with store }
  | wire (after : Cluster) (operation : Bus.Operation Incarnation) (traffic : loyal → operation.rewires = false)
      (earlier : Drifts loyal before after) : Drifts loyal before { after with bus := (after.bus.step operation).1 }
  | hub (after : Cluster) (hub : Hub Incarnation) (circles : hub.circles = after.hub.circles)
      (earlier : Drifts loyal before after) : Drifts loyal before { after with hub }
  | leave (after : Cluster) (id : NodeId) (hub : Hub Incarnation) (left : after.hub.leave? id = some hub)
      (gone : loyal → after.current[id]? = none) (earlier : Drifts loyal before after) :
      Drifts loyal before { after with hub }
  | create (after : Cluster) (id : NodeId) (absent : after.current[id]? = none) (earlier : Drifts loyal before after) :
      Drifts loyal before (after.added id)
  | forget (after : Cluster) (id : NodeId) (k : Incarnation) (node : Node) (located : after.current[id]? = some k)
      (found : after.nodes[k]? = some node) (stopped : node.state = .stopped) (earlier : Drifts loyal before after) :
      Drifts loyal before { after with current := after.current.erase id }
  | discard (after : Cluster) (id : NodeId) (k : Incarnation) (node : Node) (held : Held)
      (log : List (Incarnation × LogEntry)) (located : after.current[id]? = some k) (found : after.nodes[k]? = some node)
      (named : node.id = id) (running : node.state = .running) (holding : node.held = some held)
      (earlier : Drifts loyal before after) :
      Drifts loyal before ({ after with current := after.current.erase id }.dismissal k node held log)

variable {loyal : Prop}

theorem Drifts.trans {first second third : Cluster} (earlier : Drifts loyal first second)
    (later : Drifts loyal second third) : Drifts loyal first third := by
  induction later with
  | refl => exact earlier
  | note after k log _ ih => exact .note after k log ih
  | node after k node fresh found abides _ ih => exact .node after k node fresh found abides ih
  | store after store listeners _ ih => exact .store after store listeners ih
  | wire after operation traffic _ ih => exact .wire after operation traffic ih
  | hub after hub circles _ ih => exact .hub after hub circles ih
  | leave after id hub left gone _ ih => exact .leave after id hub left gone ih
  | create after id absent _ ih => exact .create after id absent ih
  | forget after id k node located found stopped _ ih => exact .forget after id k node located found stopped ih
  | discard after id k node held log located found named running holding _ ih =>
      exact .discard after id k node held log located found named running holding ih

theorem drifts_foldl {α : Type} (f : Cluster → α → Cluster) (drifts : ∀ cluster a, Drifts loyal cluster (f cluster a))
    (xs : List α) (cluster : Cluster) : Drifts loyal cluster (xs.foldl f cluster) := by
  induction xs generalizing cluster with
  | nil => exact .refl
  | cons a xs ih => exact (drifts cluster a).trans (ih (f cluster a))

theorem drifts_amend (cluster : Cluster) (k : Incarnation) (change : Node → Node × Log)
    (abides : ∀ node, cluster.nodes[k]? = some node → node.Abides (change node).1) :
    Drifts loyal cluster (cluster.amend k change) := by
  cases found : cluster.nodes[k]? with
  | none =>
      rw [amend_missing cluster k change found]
      exact .refl
  | some node =>
      rw [amend_found cluster k change node found]
      exact .note _ k _ (.node cluster k node _ found (abides node found) .refl)

section Bookkeeping

theorem drifts_recompute (cluster : Cluster) (k : Incarnation)
    (running : ∀ node, cluster.nodes[k]? = some node → node.state = .running) :
    Drifts loyal cluster (cluster.recompute k) := by
  apply drifts_amend
  intro node found
  have runs := running node found
  dsimp only
  split
  · exact ⟨rfl, rfl, rfl, rfl, Nat.le_succ _, Nat.le_succ_of_le, fun resting => absurd runs resting⟩
  · exact ⟨rfl, rfl, rfl, rfl, Nat.le_succ _, install_dated node.snapshot _ node.draws, fun resting => absurd runs resting⟩

theorem running_of_is_running (cluster : Cluster) (k : Incarnation) (running : cluster.isRunning k = true) (node : Node)
    (found : cluster.nodes[k]? = some node) : node.state = .running := by
  rw [isRunning, found, Option.any_some] at running
  exact node.is_running_iff.mp running

theorem drifts_store_changed (cluster : Cluster) (k : Incarnation) : Drifts loyal cluster (cluster.storeChanged k) := by
  rw [storeChanged]
  split
  · rename_i running
    exact drifts_recompute cluster k (cluster.running_of_is_running k running)
  · exact .refl

theorem drifts_mutate (cluster : Cluster) (k : Incarnation) (mutation : Mutation) :
    Drifts loyal cluster (cluster.mutate k mutation).1 := by
  cases found : cluster.nodes[k]? with
  | none =>
      rw [mutate_missing cluster k mutation found]
      exact .refl
  | some node =>
      have abides := node.abides_tried mutation
      have mutated := mutate_mutated cluster k node mutation found
      generalize cluster.mutate k mutation = result at mutated
      cases mutated with
      | refused fault why => exact .node cluster k node _ found abides .refl
      | unchanged permitted entries => exact .node cluster k node _ found abides .refl
      | told store permitted entries listeners =>
          have stored : Drifts loyal cluster { cluster with store } := .store cluster store listeners .refl
          exact (Drifts.node { cluster with store } k node _ found abides stored).trans
            (drifts_foldl storeChanged drifts_store_changed _ _)

theorem drifts_put_raw (cluster : Cluster) (channel : Channel) (key : String) (value : Option Bytes) :
    Drifts loyal cluster (cluster.putRaw channel key value) :=
  (Drifts.store cluster (cluster.store.put channel key value) rfl .refl).trans
    (drifts_foldl storeChanged drifts_store_changed _ _)

theorem drifts_publish (cluster : Cluster) (k : Incarnation) : Drifts loyal cluster (cluster.publish k) := by
  rw [publish]
  split
  · exact .refl
  · split
    · exact (drifts_mutate cluster k _).trans (drifts_amend _ k _ fun node _ => node.abides_published _)
    · exact .refl

theorem drifts_sweep_owner (k : Incarnation) (cluster : Cluster) (owner : NodeId) :
    Drifts loyal cluster (sweepOwner k cluster owner) :=
  (drifts_mutate cluster k (.remove owner)).trans (drifts_amend _ k _ fun node _ => node.abides_swept owner _)

theorem drifts_sweep (cluster : Cluster) (k : Incarnation) (view : View) : Drifts loyal cluster (cluster.sweep k view) := by
  rw [sweep]
  split
  · exact .refl
  · split
    · exact .note cluster k _ .refl
    · exact .refl
    · split
      · exact .note cluster k _ .refl
      · exact drifts_foldl (sweepOwner k) (drifts_sweep_owner k) _ cluster

theorem drifts_membership_changed (view : View) (cluster : Cluster) (k : Incarnation) :
    Drifts loyal cluster (membershipChanged view cluster k) := by
  rw [membershipChanged]
  split
  · exact drifts_sweep cluster k view
  · exact .refl

theorem drifts_notify (cluster : Cluster) (view : View) : Drifts loyal cluster (cluster.notifyMembership view) :=
  drifts_foldl (membershipChanged view) (drifts_membership_changed view) _ cluster

theorem drifts_join (cluster : Cluster) (id : NodeId) : Drifts loyal cluster (cluster.join id) :=
  (Drifts.hub cluster (cluster.hub.join id) rfl .refl).trans (drifts_notify _ _)

theorem drifts_leave (cluster : Cluster) (id : NodeId) (gone : loyal → cluster.current[id]? = none) :
    Drifts loyal cluster (cluster.leave id) := by
  rw [Cluster.leave]
  cases left : cluster.hub.leave? id with
  | none => exact .refl
  | some hub => exact (Drifts.leave cluster id hub left gone .refl).trans (drifts_notify _ _)

theorem drifts_groups_changed (cluster : Cluster) (k : Incarnation) : Drifts loyal cluster (cluster.groupsChanged k) := by
  rw [groupsChanged]
  split
  · exact drifts_publish cluster k
  · exact .refl

theorem drifts_change_groups (cluster : Cluster) (k : Incarnation)
    (change : Registry Incarnation → Option (Registry Incarnation))
    (listeners : ∀ registry changed, change registry = some changed → changed.listeners = registry.listeners) :
    Drifts loyal cluster (cluster.changeGroups k change) := by
  rw [changeGroups]
  split
  · exact .refl
  · rename_i node found
    split
    · exact .refl
    · rename_i registry changed
      have abides := (node.retains_set_registry registry (listeners _ _ changed)).abides
      exact (Drifts.node cluster k node _ found abides .refl).trans
        (drifts_foldl groupsChanged drifts_groups_changed _ _)

end Bookkeeping

section Traffic

theorem drifts_receive (cluster : Cluster) (k : Incarnation) (event : Event) :
    Drifts loyal cluster (cluster.receive k event) :=
  drifts_amend cluster k _ fun node _ => (node.alike_received event).abides

theorem drifts_deliver (cluster : Cluster) (arrived : List (Delivery Incarnation)) :
    Drifts loyal cluster (cluster.deliver arrived) := by
  rw [deliver_eq]
  exact drifts_foldl (fun cluster (delivery : Delivery Incarnation) => cluster.receive delivery.handler delivery.event)
    (fun cluster delivery => drifts_receive cluster delivery.handler delivery.event) arrived cluster

theorem drifts_traffic (cluster : Cluster) (operation : Bus.Operation Incarnation) (traffic : operation.rewires = false)
    (arrived : List (Delivery Incarnation)) :
    Drifts loyal cluster ({ cluster with bus := (cluster.bus.step operation).1 }.deliver arrived) :=
  (Drifts.wire cluster operation (fun _ => traffic) .refl).trans (drifts_deliver _ arrived)

theorem drifts_send (cluster : Cluster) (k : Incarnation) (event : Event) (mode : Mode) :
    Drifts loyal cluster (cluster.send k event mode).1 := by
  rw [send]
  cases found : cluster.nodes[k]? with
  | none => exact .refl
  | some node =>
      dsimp only
      cases node.snapshot.gate event with
      | none => exact .node cluster k node _ found (node.abides_counted _) .refl
      | some wanted =>
          have traffic : Drifts loyal cluster _ := drifts_traffic cluster (.broadcast node.id cluster.channel wanted mode)
            rfl (cluster.bus.broadcast node.id cluster.channel wanted mode).2.1
          dsimp only
          split
          · exact traffic
          · rename_i later there
            exact .note _ k _ (.node _ k later _ there (later.alike_concluded wanted _).abides traffic)

theorem drifts_invalidated (event : Event) (mode : Mode) (cluster : Cluster) (k : Incarnation) :
    Drifts loyal cluster (invalidated event mode cluster k) := by
  rw [invalidated]
  split
  · exact drifts_send cluster k event mode
  · exact .refl

theorem drifts_invalidate (cluster : Cluster) (k : Incarnation) (event : Event) (mode : Mode) :
    Drifts loyal cluster (cluster.invalidate k event mode) := by
  rw [invalidate]
  cases found : cluster.nodes[k]? with
  | none => exact .refl
  | some node =>
      exact (Drifts.node cluster k node _ found (node.alike_evicted event).abides .refl).trans
        (drifts_foldl _ (drifts_invalidated event mode) _ _)

theorem drifts_control (cluster : Cluster) (control : Bus.Control) :
    Drifts loyal cluster (cluster.step (.control control)).1 :=
  drifts_traffic cluster (.control control) rfl _

end Traffic

end Cluster

end Coherence
