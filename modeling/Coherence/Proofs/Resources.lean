import Coherence.Proofs.Conduct
import Coherence.Proofs.Gating

set_option autoImplicit false

namespace Coherence

open Std

-- Where a bridge can be called from.
inductive Place where
  | handler (channel : Channel) (name : NodeId)
  | registry (owner : Incarnation) (number : UInt64)
  | store (handle : Store.Handle)
  | membership (handle : Hub.Handle)

theorem Snapshot.gate_empty (snapshot : Snapshot) (empty : snapshot.groups = ∅) (event : Event) :
    snapshot.gate event = none := by
  have nothing (group : Group) : snapshot.contains group = false := by simp [contains, empty]
  cases event with
  | single group key => simp [gate, nothing]
  | many group keys => simp [gate, nothing]
  | batch entries => simp [gate, filterBatch, nothing]

namespace Cluster

def Occupies (cluster : Cluster) (k : Incarnation) : Place → Prop
  | .handler channel name => (cluster.bus.handlersOn channel)[name]? = some k
  | .registry owner number =>
      ∃ node, cluster.nodes[owner]? = some node ∧ node.registry.listeners.entries[number]? = some k
  | .store handle => (cluster.store.listenersOf handle.channel).entries[handle.id]? = some k
  | .membership handle => cluster.hub.Lists handle k

def places (cluster : Cluster) (id : NodeId) (k : Incarnation) (held : Held) : List Place :=
  [.handler cluster.channel id, .registry k held.registry, .store held.store, .membership held.hub]

variable {cluster : Cluster} {loyal : Prop}

section Places

theorem Upheld.occupant (upheld : cluster.Upheld True) (k : Incarnation) (place : Place)
    (occupies : cluster.Occupies k place) :
    ∃ node held, cluster.find? node.id = some (k, node) ∧ node.state = .running ∧ node.held = some held ∧
      place ∈ cluster.places node.id k held := by
  cases place with
  | handler channel name =>
      obtain ⟨rfl, located, node, found, running⟩ := (upheld.sound.answering trivial channel name k).mp occupies
      have standing := cluster.standing_of_found k node found
      have named : node.id = name := upheld.sound.addressed.id_of_located name k node.standing located standing
      obtain ⟨held, holding, _⟩ := upheld.hubSound.holding name k node.standing located standing running
      subst named
      exact ⟨node, held, (cluster.find_eq_some_iff _ k node).mpr ⟨located, found⟩, running, holding, by simp [places]⟩
  | registry owner number =>
      obtain ⟨node, found, entry⟩ := occupies
      have registryMatches := upheld.sound.registryMatches owner node found
      cases holding : node.held with
      | none =>
          rw [registryMatches.vacant holding] at entry
          simp at entry
      | some held =>
          -- A registry has no listener but the bridge of its own node.
          have located := upheld.sound.present owner node found (by simp [holding])
          obtain ⟨running, entries⟩ := registryMatches.taken held holding
          rw [entries, ExtTreeMap.getElem?_insert] at entry
          split at entry
          · rename_i same
            cases entry
            cases Std.compare_eq_iff_eq.mp same
            exact ⟨node, held, (cluster.find_eq_some_iff _ k node).mpr ⟨located, found⟩, running, holding,
              by simp [places]⟩
          · simp at entry
  | store handle =>
      obtain ⟨node, held, ⟨located, other, there, running⟩, found, holding, same⟩ :=
        upheld.sound.heard handle.channel handle.id k occupies
      rw [found, Option.some.injEq] at there
      subst there
      exact ⟨node, held, (cluster.find_eq_some_iff _ k node).mpr ⟨located, found⟩, running, holding, by simp [places, same]⟩
  | membership handle =>
      obtain ⟨located, standing, held, found, running, holding, same⟩ := upheld.hubSound.listed handle k occupies
      obtain ⟨node, here, rfl⟩ := cluster.node_of_standing k standing found
      have named : node.id = handle.node := upheld.sound.addressed.id_of_located handle.node k node.standing located found
      refine ⟨node, held, (cluster.find_eq_some_iff _ k node).mpr ⟨?_, here⟩, running, holding, by simp [places, same]⟩
      rw [named]
      exact located

theorem Upheld.occupies (upheld : cluster.Upheld True) (k : Incarnation) (node : Node) (held : Held)
    (found : cluster.find? node.id = some (k, node)) (running : node.state = .running) (holding : node.held = some held)
    (place : Place) (member : place ∈ cluster.places node.id k held)
    (capacity : place = .store held.store → cluster.draws < UInt64.size) : cluster.Occupies k place := by
  obtain ⟨located, here⟩ := (cluster.find_eq_some_iff node.id k node).mp found
  have standing := cluster.standing_of_found k node here
  simp only [places, List.mem_cons, List.not_mem_nil, or_false] at member
  obtain rfl | rfl | rfl | rfl := member
  · exact (upheld.sound.answering trivial cluster.channel node.id k).mpr ⟨rfl, located, node, here, running⟩
  · refine ⟨node, here, ?_⟩
    rw [((upheld.sound.registryMatches k node here).taken held holding).2, ExtTreeMap.getElem?_insert_self]
  · have attentive := upheld.sound.attentive (capacity rfl)
    obtain ⟨channel, entry⟩ := attentive.listens node.id k node.standing held located standing running holding
    rw [Occupies, channel]
    exact entry
  · obtain ⟨other, same, lists⟩ := upheld.hubSound.present trivial node.id k node.standing located standing running
    rw [show node.standing.held = some held from holding, Option.some.injEq] at same
    exact same ▸ lists

end Places

section Dormancy

def NodeOperation.stirs : NodeOperation → Bool
  | .createGroup _ => true
  | .dropGroup _ => true
  | .send _ _ => true
  | .invalidate _ _ => true
  | .publish => true
  | .storeChanged => true
  | .membershipChanged _ => true
  | _ => false

-- Nothing is sent or written, and a node knows what it knew before.
def Sleeps (cluster : Cluster) (k : Incarnation) (node : Node) (after : Cluster) : Prop :=
  ∃ fresh, after = cluster.setNode k fresh ∧ fresh.state = node.state ∧ fresh.replica = node.replica ∧
    fresh.snapshot = node.snapshot

variable {k : Incarnation} {node : Node}

theorem sleeps_refl (found : cluster.nodes[k]? = some node) : cluster.Sleeps k node cluster :=
  ⟨node, (cluster.set_node_found k node found).symm, rfl, rfl, rfl⟩

theorem sleeps_registry (cluster : Cluster) (k : Incarnation) (node : Node) (registry : Registry Incarnation) :
    cluster.Sleeps k node (cluster.setNode k (node.setRegistry registry)) :=
  ⟨_, rfl, rfl, rfl, rfl⟩

theorem not_running_of_stopped (found : cluster.nodes[k]? = some node) (stopped : node.state = .stopped) :
    ¬ cluster.isRunning k = true := by
  intro running
  cases stopped.symm.trans (cluster.running_of_is_running k running node found)

theorem unheard (registryMatches : node.RegistryMatchesHeld k) (stopped : node.state = .stopped)
    (registry : Registry Incarnation)
    (listeners : registry.listeners = node.registry.listeners) : registry.audience = [] := by
  rw [Registry.audience, Listeners.toList, listeners, registryMatches.empty (by simp [stopped])]
  rfl

theorem sleeps_change_groups (found : cluster.nodes[k]? = some node) (stopped : node.state = .stopped)
    (registryMatches : node.RegistryMatchesHeld k) (change : Registry Incarnation → Option (Registry Incarnation))
    (listeners : ∀ registry changed, change registry = some changed → changed.listeners = registry.listeners) :
    cluster.Sleeps k node (cluster.changeGroups k change) := by
  rw [changeGroups, found]
  dsimp only
  split
  · exact sleeps_refl found
  · rename_i registry changed
    rw [unheard registryMatches stopped registry (listeners _ _ changed)]
    exact sleeps_registry cluster k node registry

theorem callbacks_ignored (found : cluster.nodes[k]? = some node) (stopped : node.state = .stopped) :
    cluster.groupsChanged k = cluster ∧ ∀ event mode, invalidated event mode cluster k = cluster := by
  have resting := not_running_of_stopped found stopped
  exact ⟨if_neg resting, fun _ _ => if_neg resting⟩

theorem Upheld.dormant (upheld : cluster.Upheld loyal) (found : cluster.nodes[k]? = some node)
    (stopped : node.state = .stopped) (operation : NodeOperation) (stirs : operation.stirs = true) :
    cluster.Sleeps k node (cluster.stepNode k node operation).1 := by
  have registryMatches := upheld.sound.registryMatches k node found
  have resting := not_running_of_stopped found stopped
  cases operation with
  | createGroup group => exact sleeps_change_groups found stopped registryMatches _ (create_group_listeners group)
  | dropGroup group => exact sleeps_change_groups found stopped registryMatches _ (drop_group_listeners group)
  | send event mode =>
      have nothing := node.snapshot.gate_empty (upheld.sound.cleared k node found stopped) event
      rw [stepNode, send_suppressed cluster k node event mode found nothing]
      exact ⟨_, rfl, rfl, rfl, rfl⟩
  | invalidate event mode =>
      rw [stepNode, invalidate, found]
      dsimp only
      rw [unheard registryMatches stopped (node.registry.evict event) rfl]
      exact sleeps_registry cluster k node _
  | publish =>
      have idle : ¬ node.isRunning = true := by
        intro running
        cases stopped.symm.trans (node.is_running_iff.mp running)
      rw [stepNode, publish, found]
      dsimp only
      rw [if_neg idle]
      exact sleeps_refl found
  | storeChanged =>
      rw [stepNode, storeChanged, if_neg resting]
      exact sleeps_refl found
  | membershipChanged members =>
      rw [stepNode, membershipChanged, if_neg resting]
      exact sleeps_refl found
  | _ => cases stirs

end Dormancy

/-- Bridges change their states as they may; one that runs is called from exactly four places, any other from none. -/
theorem lifecycle_resources (config : Config) (timeout : Nat) (operations : List Operation)
    (kept : ∀ operation ∈ operations, operation.meddles = false) :
    let cluster := (initial config timeout).run operations
    (∀ operation, Traverses cluster (cluster.trail operation) (cluster.step operation).1) ∧
    (∀ id k node, cluster.find? id = some (k, node) → node.state = .running →
      ∃ held, node.held = some held ∧ (∀ place, cluster.Occupies k place → place ∈ cluster.places id k held) ∧
        ∀ place ∈ cluster.places id k held, (place = .store held.store → cluster.draws < UInt64.size) →
          cluster.Occupies k place) ∧
    (∀ id k node, cluster.find? id = some (k, node) → node.state ≠ .running →
      node.state = .stopped ∧ (∀ place, ¬ cluster.Occupies k place) ∧ node.snapshot.groups = ∅ ∧
        (∀ operation : NodeOperation, operation.stirs = true →
          cluster.Sleeps k node (cluster.step (.node id operation)).1) ∧
        cluster.groupsChanged k = cluster ∧ ∀ event mode, invalidated event mode cluster k = cluster) ∧
    ∀ k place, cluster.Occupies k place → ∃ id node, cluster.find? id = some (k, node) ∧ node.state = .running := by
  have freely := upheld_run False config timeout operations fun wrong => wrong.elim
  have upheld := upheld_run True config timeout operations fun _ => kept
  generalize (initial config timeout).run operations = cluster at freely upheld
  dsimp only
  refine ⟨fun operation => traverses_trail freely operation fun wrong => wrong.elim, ?_, ?_, ?_⟩
  · intro id k node found running
    obtain ⟨located, here⟩ := (cluster.find_eq_some_iff id k node).mp found
    have standing := cluster.standing_of_found k node here
    have named : node.id = id := upheld.sound.addressed.id_of_located id k node.standing located standing
    obtain ⟨held, holding, _⟩ := upheld.hubSound.holding id k node.standing located standing running
    subst named
    refine ⟨held, holding, ?_, upheld.occupies k node held found running holding⟩
    intro place occupies
    obtain ⟨other, theirs, there, _, holds, member⟩ := upheld.occupant k place occupies
    rw [((cluster.find_eq_some_iff other.id k other).mp there).2, Option.some.injEq] at here
    subst here
    rw [show other.held = some held from holding, Option.some.injEq] at holds
    exact holds ▸ member
  · intro id k node found resting
    obtain ⟨located, here⟩ := (cluster.find_eq_some_iff id k node).mp found
    have stopped : node.state = .stopped :=
      (upheld.hubSound.settled id k node.standing located (cluster.standing_of_found k node here)).resolve_right resting
    refine ⟨stopped, ?_, upheld.sound.cleared k node here stopped, ?_, callbacks_ignored here stopped⟩
    · intro place occupies
      obtain ⟨other, _, there, running, _⟩ := upheld.occupant k place occupies
      rw [((cluster.find_eq_some_iff other.id k other).mp there).2, Option.some.injEq] at here
      exact resting (here ▸ running)
    · intro operation stirs
      rw [Cluster.step, found]
      exact upheld.dormant here stopped operation stirs
  · intro k place occupies
    obtain ⟨node, _, found, running, _⟩ := upheld.occupant k place occupies
    exact ⟨node.id, node, found, running⟩

/-- A node was lost and replaced without reaching the store; another was stopped and started again. -/
def succession : List Operation :=
  [.appoint (some "b"), .addNode "a", .addNode "b", .startAll, .node "a" (.createGroup "g"), .node "b" (.createGroup "g"),
    .crash "a", .addNode "a", .node "a" (.setStoreUnreachable true), .node "a" .start, .node "b" .stop, .node "b" .start]

theorem succession_resources :
    let cluster := (initial { election := .membershipService } 5000).run succession
    (∃ k node, cluster.find? "a" = some (k, node) ∧ node.state = .stopped ∧ ∀ place, ¬ cluster.Occupies k place) ∧
    ∃ k node held, cluster.find? "b" = some (k, node) ∧ node.state = .running ∧
      ∀ place, cluster.Occupies k place ↔ place ∈ cluster.places "b" k held := by
  intro cluster
  have lost : (cluster.find? "a").any (fun found => found.2.state = .stopped) = true := by decide +kernel
  have seen : (cluster.find? "b").any (fun found => found.2.state = .running) = true := by decide +kernel
  have capacity : cluster.draws < UInt64.size := by decide +kernel
  obtain ⟨⟨k, node⟩, found, state⟩ := (Option.any_eq_true ..).mp lost
  obtain ⟨⟨j, other⟩, there, state'⟩ := (Option.any_eq_true ..).mp seen
  have stopped : node.state = .stopped := of_decide_eq_true state
  have runs : other.state = .running := of_decide_eq_true state'
  obtain ⟨_, running, resting, _⟩ := lifecycle_resources { election := .membershipService } 5000 succession (by decide)
  obtain ⟨held, _, only, all⟩ := running "b" j other there runs
  refine ⟨⟨k, node, found, stopped, (resting "a" k node found (by simp [stopped])).2.1⟩, j, other, held, there, runs, ?_⟩
  exact fun place => ⟨only place, fun member => all place member fun _ => capacity⟩

end Cluster

end Coherence
