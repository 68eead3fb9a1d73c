import Coherence.Proofs.ResourceSteps

set_option autoImplicit false

namespace Coherence

open Std

def Node.unnumbered (node : Node) : Node :=
  node.setRegistry { node.registry with listeners := { node.registry.listeners with next := 0 } }

theorem Node.RegistryMatchesHeld.unnumbered_retried {node : Node} {k : Incarnation}
    (registryMatches : node.RegistryMatchesHeld k)
    (stopped : node.state = .stopped) : (node.retried k).unnumbered = node.unnumbered := by
  have empty := registryMatches.empty (by simp [stopped])
  have again := (registryMatches.retry stopped).empty (by simp [retried, setRegistry, stopped])
  have listeners : (node.retried k).registry.listeners.entries = node.registry.listeners.entries := again.trans empty.symm
  exact congrArg (fun entries => node.setRegistry { node.registry with listeners := { next := 0, entries } }) listeners

theorem Bus.or_keep_unregister {η : Type} (bus : Bus η) (channel : Channel) (node : NodeId) :
    (bus.orKeep (bus.unregister channel node)).1 = bus.without channel node := by
  rw [unregister]
  split
  · rfl
  · rename_i unregistered
    exact (bus.without_unregistered channel node unregistered).symm

namespace Cluster

-- Nothing has changed that can be seen, but for the log.
structure Restored (before after : Cluster) : Prop where
  config : after.config = before.config
  hub : after.hub = before.hub
  store : after.store = before.store
  current : after.current = before.current
  bus : ∃ handlers, after.bus = { before.bus with handlers }
  handlers : ∀ channel, after.bus.handlersOn channel = before.bus.handlersOn channel
  nodes : ∀ k : Incarnation, after.nodes[k]?.map Node.unnumbered = before.nodes[k]?.map Node.unnumbered

variable {cluster : Cluster}

theorem Failed.restored {k : Incarnation} {node : Node} {result : Cluster × Except Error Unit}
    (failed : Failed cluster k node result) (found : cluster.nodes[k]? = some node)
    (registryMatches : node.RegistryMatchesHeld k) :
    Restored cluster result.1 := by
  cases failed with
  | refused error log => exact ⟨rfl, rfl, rfl, rfl, ⟨_, rfl⟩, fun _ => rfl, fun _ => rfl⟩
  | retried error log bus stopped registered =>
      obtain ⟨handlers, rewired⟩ := Bus.registered_eq cluster.bus bus cluster.channel node.id k registered
      refine ⟨rfl, rfl, rfl, rfl, ?_, ?_, ?_⟩
      · subst rewired
        exact ⟨_, rfl⟩
      · exact fun channel => Bus.handlers_on_rolled_back cluster.bus bus cluster.channel channel node.id k registered
      · intro j
        rw [nodes_set_node]
        split
        · rename_i same
          rw [← same, found]
          exact congrArg some (registryMatches.unnumbered_retried stopped)
        · rfl

theorem step_start (id : NodeId) (k : Incarnation) (node : Node) (found : cluster.find? id = some (k, node)) :
    cluster.step (.node id .start) = ((cluster.start k).1, .ofError (cluster.start k).2) := by
  rw [Cluster.step, found]
  rfl

-- What can keep a bridge from starting.
inductive Obstacle where
  | membership
  | handler
  | store

namespace Obstacle

def Bars (cluster : Cluster) (id : NodeId) : Obstacle → Prop
  | membership => id ∈ cluster.hub.unreachable
  | handler => cluster.bus.isRegistered cluster.channel id = true
  | store => ∃ k node, cluster.find? id = some (k, node) ∧ node.replica.unreachable = true

def remedy (id : NodeId) : Obstacle → Operation
  | membership => .setMembershipUnreachable id false
  | handler => .node id .unregister
  | store => .node id (.setStoreUnreachable false)

end Obstacle

def Rests (cluster : Cluster) (id : NodeId) (k : Incarnation) : Prop :=
  ∃ node, cluster.find? id = some (k, node) ∧ node.id = id ∧ node.state = .stopped

theorem Restored.rests {before after : Cluster} (restored : Restored before after) (id : NodeId) (k : Incarnation)
    (rests : before.Rests id k) : after.Rests id k := by
  obtain ⟨node, found, named, stopped⟩ := rests
  obtain ⟨located, here⟩ := (before.find_eq_some_iff id k node).mp found
  have same := restored.nodes k
  rw [here, Option.map_some, Option.map_eq_some_iff] at same
  obtain ⟨fresh, there, alike⟩ := same
  refine ⟨fresh, (after.find_eq_some_iff id k fresh).mpr ⟨?_, there⟩, ?_, ?_⟩
  · rw [restored.current]
    exact located
  · exact (congrArg Node.id alike).trans named
  · exact (congrArg Node.state alike).trans stopped

theorem find_set_node (id : NodeId) (k : Incarnation) (node fresh : Node) (found : cluster.find? id = some (k, node)) :
    (cluster.setNode k fresh).find? id = some (k, fresh) := by
  rw [find_eq_some_iff] at found ⊢
  exact ⟨found.1, (nodes_set_node cluster k k fresh).trans (if_pos rfl)⟩

theorem Rests.remedy {id : NodeId} {k : Incarnation} (rests : cluster.Rests id k) (obstacle : Obstacle) :
    (cluster.step (obstacle.remedy id)).1.Rests id k ∧
      ∀ other : Obstacle, other.Bars (cluster.step (obstacle.remedy id)).1 id → other.Bars cluster id ∧ other ≠ obstacle := by
  obtain ⟨node, found, named, stopped⟩ := rests
  cases obstacle with
  | membership =>
      refine ⟨⟨node, found, named, stopped⟩, ?_⟩
      intro other bars
      cases other with
      | membership =>
          have still : id ∈ cluster.hub.unreachable.erase id := bars
          simp at still
      | handler => exact ⟨bars, by simp⟩
      | store => exact ⟨bars, by simp⟩
  | handler =>
      have step : (cluster.step (.node id .unregister)).1 =
          { cluster with bus := cluster.bus.without cluster.channel id } := by
        rw [Cluster.step, found]
        change { cluster with bus := (cluster.bus.orKeep (cluster.bus.unregister cluster.channel node.id)).1 } = _
        rw [Bus.or_keep_unregister, named]
      rw [Obstacle.remedy, step]
      refine ⟨⟨node, found, named, stopped⟩, ?_⟩
      intro other bars
      cases other with
      | membership => exact ⟨bars, by simp⟩
      | handler =>
          have still : (cluster.bus.without cluster.channel id).isRegistered cluster.channel id = true := bars
          rw [Bus.isRegistered, Bus.handlers_on_without] at still
          simp at still
      | store => exact ⟨bars, by simp⟩
  | store =>
      have here := ((cluster.find_eq_some_iff id k node).mp found).2
      have step : (cluster.step (.node id (.setStoreUnreachable false))).1 =
          (cluster.setNode k { node with replica := { node.replica with unreachable := false } }).note k [] := by
        rw [Cluster.step, found]
        exact amend_found cluster k (fun node => ({ node with replica := { node.replica with unreachable := false } }, []))
          node here
      have there := find_set_node id k node { node with replica := { node.replica with unreachable := false } } found
      rw [Obstacle.remedy, step]
      refine ⟨⟨_, there, named, stopped⟩, ?_⟩
      intro other bars
      cases other with
      | membership => exact ⟨bars, by simp⟩
      | handler => exact ⟨bars, by simp⟩
      | store =>
          obtain ⟨j, later, same, cut⟩ := bars
          have equal := there.symm.trans same
          rw [Option.some.injEq, Prod.mk.injEq] at equal
          rw [← equal.2] at cut
          cases cut

theorem Rests.remedies {id : NodeId} {k : Incarnation} (rests : cluster.Rests id k) (obstacles : List Obstacle) :
    (cluster.run (obstacles.map (·.remedy id))).Rests id k ∧
      ∀ other : Obstacle, other.Bars (cluster.run (obstacles.map (·.remedy id))) id →
        other.Bars cluster id ∧ other ∉ obstacles := by
  induction obstacles generalizing cluster with
  | nil => exact ⟨rests, fun _ bars => ⟨bars, List.not_mem_nil⟩⟩
  | cons obstacle obstacles ih =>
      obtain ⟨still, fewer⟩ := rests.remedy obstacle
      obtain ⟨last, rest⟩ := ih still
      refine ⟨last, fun other bars => ?_⟩
      obtain ⟨before, elsewhere⟩ := rest other bars
      obtain ⟨first, different⟩ := fewer other before
      exact ⟨first, by simp [different, elsewhere]⟩

theorem Rests.start {id : NodeId} {k : Incarnation} (rests : cluster.Rests id k)
    (free : ∀ obstacle : Obstacle, ¬ obstacle.Bars cluster id) :
    (cluster.step (.node id .start)).2 = .done ∧
      ∃ node, (cluster.step (.node id .start)).1.find? id = some (k, node) ∧ node.isRunning = true := by
  obtain ⟨node, found, rfl, stopped⟩ := rests
  obtain ⟨located, here⟩ := (cluster.find_eq_some_iff node.id k node).mp found
  have reachable : node.replica.unreachable = false := by
    cases cut : node.replica.unreachable with
    | false => rfl
    | true => exact absurd ⟨k, node, found, cut⟩ (free .store)
  have answered : cluster.hub.currentMembers node.id cluster.channel = .ok cluster.hub.members := if_neg (free .membership)
  have registered : ∃ bus, cluster.bus.register cluster.channel node.id k = .ok bus := ⟨_, if_neg (free .handler)⟩
  obtain ⟨bus, registered⟩ := registered
  have started := start_granted cluster k node cluster.hub.members bus here stopped reachable answered registered
  have frame := ((follows_publish (cluster.enrolled k node bus) k).trans (follows_recompute _ k)).frame
  rw [step_start node.id k node found, started]
  refine ⟨rfl, ?_⟩
  have there := congrArg (fun frame : Frame => frame.nodes[k]?) frame
  rw [frame_enrolled, Frame.nodes_place, if_pos rfl] at there
  obtain ⟨last, present, standing⟩ := node_of_standing _ k _ there
  refine ⟨last, (find_eq_some_iff _ node.id k last).mpr ⟨?_, present⟩, ?_⟩
  · exact (congrArg (fun frame : Frame => frame.current[node.id]?) frame).trans located
  · exact last.is_running_iff.mpr (congrArg Standing.state standing)

/-- A start that fails changes nothing that can be seen, and succeeds once nothing is in its way. -/
theorem failed_start_atomic (config : Config) (timeout : Nat) (operations : List Operation) (id : NodeId) (error : Error)
    (failed : (((initial config timeout).run operations).step (.node id .start)).2 = .error error) :
    Restored ((initial config timeout).run operations)
      (((initial config timeout).run operations).step (.node id .start)).1 ∧
    ∀ k node, ((initial config timeout).run operations).find? id = some (k, node) → node.state = .stopped →
      ∀ obstacles : List Obstacle,
        (∀ obstacle : Obstacle, obstacle.Bars (((initial config timeout).run operations).step (.node id .start)).1 id →
          obstacle ∈ obstacles) →
        let cleared := (((initial config timeout).run operations).step (.node id .start)).1.run
          (obstacles.map (·.remedy id))
        (cleared.step (.node id .start)).2 = .done ∧
          ∃ fresh, (cleared.step (.node id .start)).1.find? id = some (k, fresh) ∧ fresh.isRunning = true := by
  have upheld := upheld_run False config timeout operations fun wrong => wrong.elim
  generalize (initial config timeout).run operations = cluster at failed upheld
  cases found : cluster.find? id with
  | none =>
      rw [Cluster.step, found] at failed
      cases failed
  | some place =>
      obtain ⟨k, node⟩ := place
      obtain ⟨located, here⟩ := (cluster.find_eq_some_iff id k node).mp found
      have named := upheld.sound.addressed.id_of_located id k node.standing located (cluster.standing_of_found k node here)
      have restored : Restored cluster (cluster.step (.node id .start)).1 := by
        rw [step_start id k node found] at failed ⊢
        cases result : (cluster.start k).2 with
        | ok =>
            rw [result] at failed
            cases failed
        | error why =>
            exact (start_error cluster k node why here result).restored here
              (upheld.sound.registryMatches k node here)
      refine ⟨restored, ?_⟩
      intro j other same stopped obstacles covered
      cases same
      have rests := restored.rests id k ⟨node, found, named, stopped⟩
      obtain ⟨still, fewer⟩ := rests.remedies obstacles
      refine still.start fun obstacle bars => ?_
      obtain ⟨before, elsewhere⟩ := fewer obstacle bars
      exact elsewhere (covered obstacle before)

/-- A node that was stopped and has lost the store since, next to one that runs. -/
def stranded : List Operation :=
  [.addNode "a", .addNode "b", .startAll, .node "a" (.createGroup "g"), .node "a" .stop,
    .node "a" (.setStoreUnreachable true)]

theorem stranded_start_recovers : ∃ k node, ((initial {} 5000).run stranded).find? "a" = some (k, node) ∧
    (((initial {} 5000).run stranded).step (.node "a" .start)).2 =
      .error (.startup .storeSubscription (.unreachable "store replica on a")) ∧
    Restored ((initial {} 5000).run stranded) (((initial {} 5000).run stranded).step (.node "a" .start)).1 ∧
    (((((initial {} 5000).run stranded).step (.node "a" .start)).1.run [Obstacle.store.remedy "a"]).step
      (.node "a" .start)).2 = .done := by
  have refused : (((initial {} 5000).run stranded).step (.node "a" .start)).2 =
      .error (.startup .storeSubscription (.unreachable "store replica on a")) := by rfl
  have seen : (((initial {} 5000).run stranded).find? "a").any (fun found => found.2.state = .stopped) = true := by
    decide +kernel
  have answered : ¬ Obstacle.membership.Bars (((initial {} 5000).run stranded).step (.node "a" .start)).1 "a" :=
    (by decide +kernel : ¬ "a" ∈ (((initial {} 5000).run stranded).step (.node "a" .start)).1.hub.unreachable)
  have unregistered : ¬ Obstacle.handler.Bars (((initial {} 5000).run stranded).step (.node "a" .start)).1 "a" :=
    (by decide +kernel : ¬ (((initial {} 5000).run stranded).step (.node "a" .start)).1.bus.isRegistered
      (((initial {} 5000).run stranded).step (.node "a" .start)).1.channel "a" = true)
  obtain ⟨⟨k, node⟩, found, stopped⟩ := (Option.any_eq_true ..).mp seen
  obtain ⟨restored, recovers⟩ := failed_start_atomic {} 5000 stranded "a" _ refused
  refine ⟨k, node, found, refused, restored, (recovers k node found (of_decide_eq_true stopped) [.store] ?_).1⟩
  intro obstacle bars
  cases obstacle with
  | membership => exact absurd bars answered
  | handler => exact absurd bars unregistered
  | store => exact List.mem_cons_self

end Cluster

end Coherence
