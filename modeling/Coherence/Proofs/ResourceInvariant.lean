import Coherence.Proofs.Awaiting
import Coherence.Proofs.Drifting
import Coherence.Proofs.Orderly
import Coherence.Proofs.HubListeners

set_option autoImplicit false

namespace Coherence

open Std

namespace Bus

variable {η : Type}

theorem handlers_on_without_other (bus : Bus η) (channel other : Channel) (node : NodeId) (different : channel ≠ other) :
    (bus.without channel node).handlersOn other = bus.handlersOn other := by
  rw [handlersOn, without, ExtTreeMap.getElem?_modify, if_neg fun same => different (Std.compare_eq_iff_eq.mp same)]
  rfl

theorem found_without (bus : Bus η) (channel other : Channel) (node name : NodeId) (handler : η) :
    ((bus.without channel node).handlersOn other)[name]? = some handler ↔
      (bus.handlersOn other)[name]? = some handler ∧ ¬ (channel = other ∧ node = name) := by
  by_cases same : channel = other
  · subst same
    rw [handlers_on_without]
    by_cases equal : node = name
    · simp [equal]
    · simp [equal, found_erase_other _ node name equal]
  · simp [handlers_on_without_other bus channel other node same, same]

theorem registered_eq (bus after : Bus η) (channel : Channel) (node : NodeId) (handler : η)
    (registered : bus.register channel node handler = .ok after) :
    ∃ handlers, after = { bus with handlers } := by
  rw [register] at registered
  split at registered
  · cases registered
  · cases registered
    exact ⟨_, rfl⟩

theorem handlers_on_registered_other (bus after : Bus η) (channel other : Channel) (node : NodeId) (handler : η)
    (registered : bus.register channel node handler = .ok after) (different : channel ≠ other) :
    after.handlersOn other = bus.handlersOn other := by
  rw [register] at registered
  split at registered
  · cases registered
  · cases registered
    rw [handlersOn, found_insert_other _ channel other _ different]
    rfl

theorem unregistered_of_registered (bus after : Bus η) (channel : Channel) (node : NodeId) (handler : η)
    (registered : bus.register channel node handler = .ok after) : (bus.handlersOn channel)[node]? = none := by
  rw [register] at registered
  split at registered
  · cases registered
  · rename_i vacant
    rw [isRegistered, ExtTreeMap.contains_iff_mem] at vacant
    exact ExtTreeMap.getElem?_eq_none vacant

theorem found_registered (bus after : Bus η) (channel other : Channel) (node name : NodeId) (handler found : η)
    (registered : bus.register channel node handler = .ok after) :
    (after.handlersOn other)[name]? = some found ↔
      channel = other ∧ node = name ∧ handler = found ∨ (bus.handlersOn other)[name]? = some found := by
  by_cases same : channel = other
  · subst same
    have vacant := unregistered_of_registered bus after channel node handler registered
    rw [handlers_on_registered bus after channel node handler registered]
    by_cases equal : node = name
    · subst equal
      simp [vacant]
    · simp [equal, found_insert_other _ node name handler equal]
  · simp [handlers_on_registered_other bus after channel other node handler registered same, same]

theorem handlers_on_rolled_back (bus after : Bus η) (channel other : Channel) (node : NodeId) (handler : η)
    (registered : bus.register channel node handler = .ok after) :
    (after.without channel node).handlersOn other = bus.handlersOn other := by
  apply ExtTreeMap.ext_getElem?
  intro name
  apply Option.ext
  intro found
  rw [found_without, found_registered bus after channel other node name handler found registered]
  constructor
  · rintro ⟨⟨rfl, rfl, rfl⟩ | before, left⟩
    · exact absurd ⟨rfl, rfl⟩ left
    · exact before
  · intro before
    refine ⟨.inr before, ?_⟩
    rintro ⟨rfl, rfl⟩
    rw [unregistered_of_registered bus after channel node handler registered] at before
    cases before

end Bus

-- The registry's only listener is the node's bridge, while that holds a place there.
structure Node.RegistryMatchesHeld (node : Node) (k : Incarnation) : Prop where
  vacant : node.held = none → node.registry.listeners.entries = ∅
  taken : ∀ held, node.held = some held → node.state = .running ∧
    node.registry.listeners.entries = (∅ : ExtTreeMap UInt64 Incarnation).insert held.registry k

namespace Node

variable {node : Node} {k : Incarnation}

theorem RegistryMatchesHeld.unheld (registryMatches : node.RegistryMatchesHeld k) (resting : node.state ≠ .running) :
    node.held = none := by
  cases holding : node.held with
  | none => rfl
  | some held => exact absurd (registryMatches.taken held holding).1 resting

theorem RegistryMatchesHeld.empty (registryMatches : node.RegistryMatchesHeld k) (resting : node.state ≠ .running) :
    node.registry.listeners.entries = ∅ :=
  registryMatches.vacant (registryMatches.unheld resting)

theorem RegistryMatchesHeld.abide (registryMatches : node.RegistryMatchesHeld k) (fresh : Node)
    (abides : node.Abides fresh) : fresh.RegistryMatchesHeld k := by
  refine ⟨?_, ?_⟩
  · rw [abides.held, abides.listeners]
    exact registryMatches.vacant
  · rw [abides.held, abides.listeners, abides.state]
    exact registryMatches.taken

theorem registry_matches_created (id : NodeId) (k : Incarnation) : (Node.create id).RegistryMatchesHeld k :=
  ⟨fun _ => rfl, fun _ holding => absurd holding (by simp [Node.create])⟩

theorem RegistryMatchesHeld.enlist (registryMatches : node.RegistryMatchesHeld k) (store : Store.Handle) (hub : Hub.Handle)
    (stopped : node.state = .stopped) : (node.enlisted k store hub).RegistryMatchesHeld k := by
  refine ⟨?_, ?_⟩
  · intro wrong
    cases wrong
  · intro held holding
    cases holding
    refine ⟨rfl, ?_⟩
    change node.registry.listeners.entries.insert _ k = _
    rw [registryMatches.empty (by simp [stopped])]
    rfl

theorem RegistryMatchesHeld.retry (registryMatches : node.RegistryMatchesHeld k) (stopped : node.state = .stopped) :
    (node.retried k).RegistryMatchesHeld k := by
  have resting : node.state ≠ .running := by simp [stopped]
  refine ⟨fun _ => ?_, fun held holding => absurd (holding.symm.trans (registryMatches.unheld resting)) (by simp)⟩
  change (node.registry.listeners.entries.insert _ k).erase _ = _
  rw [registryMatches.empty resting]
  exact erase_sole _ k

theorem RegistryMatchesHeld.rest (registryMatches : node.RegistryMatchesHeld k) (resting : node.state ≠ .running) :
    (node.clear.setState .stopped).RegistryMatchesHeld k :=
  ⟨fun _ => registryMatches.empty resting, fun _ holding =>
    absurd (holding.symm.trans (registryMatches.unheld resting)) (by simp)⟩

theorem RegistryMatchesHeld.dismiss (registryMatches : node.RegistryMatchesHeld k) (held : Held)
    (holding : node.held = some held)
    (state : Lifecycle) : ((node.setState state).dismissed held).RegistryMatchesHeld k := by
  refine ⟨fun _ => ?_, ?_⟩
  · change node.registry.listeners.entries.erase held.registry = ∅
    rw [(registryMatches.taken held holding).2]
    exact erase_sole held.registry k
  · intro other wrong
    cases wrong

end Node

namespace Cluster

def Serves (cluster : Cluster) (name : NodeId) (k : Incarnation) : Prop :=
  cluster.current[name]? = some k ∧ ∃ node, cluster.nodes[k]? = some node ∧ node.state = .running

-- Places belong to bridges that run, and who runs has its place at the store, as long as the numbers last. A bridge
-- that was enrolled and has not read the store since is a `debt`: it took a number and has drawn none.
structure ResourcesSound (loyal : Prop) (debt : Nat) (cluster : Cluster) : Prop where
  trackedOnce : cluster.bus.TrackedOnce
  addressed : cluster.frame.Addressed
  registryMatches : ∀ (k : Incarnation) (node : Node), cluster.nodes[k]? = some node → node.RegistryMatchesHeld k
  present : ∀ (k : Incarnation) (node : Node), cluster.nodes[k]? = some node → node.held ≠ none →
    cluster.current[node.id]? = some k
  cleared : ∀ (k : Incarnation) (node : Node), cluster.nodes[k]? = some node → node.state = .stopped →
    node.snapshot.groups = ∅
  answering : loyal → ∀ (channel : Channel) (name : NodeId) (k : Incarnation),
    (cluster.bus.handlersOn channel)[name]? = some k ↔ channel = cluster.channel ∧ cluster.Serves name k
  heard : ∀ (channel : Channel) (number : UInt64) (k : Incarnation),
    (cluster.store.listenersOf channel).entries[number]? = some k →
      ∃ (node : Node) (held : Held), cluster.Serves node.id k ∧ cluster.nodes[k]? = some node ∧ node.held = some held ∧
        held.store = ⟨channel, number⟩
  attentive : cluster.draws + debt < UInt64.size → cluster.frame.Attentive (cluster.draws + debt)

variable {cluster : Cluster} {loyal : Prop} {debt : Nat}

theorem each_set_node (cluster : Cluster) (k : Incarnation) (fresh : Node) {P : Incarnation → Node → Prop} (own : P k fresh)
    (others : ∀ (j : Incarnation) (other : Node), k ≠ j → cluster.nodes[j]? = some other → P j other) (j : Incarnation)
    (other : Node) (found : (cluster.setNode k fresh).nodes[j]? = some other) : P j other := by
  rw [nodes_set_node] at found
  split at found
  · rename_i same
    cases found
    exact same ▸ own
  · rename_i different
    exact others j other different found

theorem nodes_enrolled (cluster : Cluster) (k j : Incarnation) (node : Node) (bus : Bus Incarnation) :
    (cluster.enrolled k node bus).nodes[j]? =
      if k = j then some (node.enlisted k (cluster.store.subscribe cluster.channel k).2 (cluster.hub.subscribe node.id k).2)
      else cluster.nodes[j]? :=
  nodes_set_node _ k j _

theorem serves_set_node (k j : Incarnation) (name : NodeId) (node fresh : Node) (found : cluster.nodes[k]? = some node)
    (running : fresh.state = .running ↔ node.state = .running) :
    (cluster.setNode k fresh).Serves name j ↔ cluster.Serves name j := by
  rw [Serves, Serves, nodes_set_node]
  by_cases same : k = j
  · subst same
    simp [found, running, setNode]
  · simp [same, setNode]

theorem serves_forget (id name : NodeId) (k j : Incarnation) (node : Node) (located : cluster.current[id]? = some k)
    (found : cluster.nodes[k]? = some node) (stopped : node.state = .stopped) :
    { cluster with current := cluster.current.erase id }.Serves name j ↔ cluster.Serves name j := by
  constructor
  · rintro ⟨there, rest⟩
    exact ⟨(Frame.located_of_erased id name j there).2, rest⟩
  · rintro ⟨there, other, here, running⟩
    have different : id ≠ name := by
      rintro rfl
      rw [located, Option.some.injEq] at there
      rw [← there, found, Option.some.injEq] at here
      rw [← here, stopped] at running
      cases running
    exact ⟨(found_erase_other _ id name different).trans there, other, here, running⟩

theorem serves_added (id name : NodeId) (j : Incarnation) (fresh : cluster.nodes[cluster.nodes.size]? = none)
    (absent : cluster.current[id]? = none) : (cluster.added id).Serves name j ↔ cluster.Serves name j := by
  have nodes : (cluster.added id).nodes[j]? =
      if cluster.nodes.size = j then some (Node.create id) else cluster.nodes[j]? := nodes_set_node cluster _ j _
  constructor
  · rintro ⟨there, other, here, running⟩
    rw [nodes] at here
    split at here
    · cases here
      cases running
    · rename_i different
      have located : (cluster.current.insert id cluster.nodes.size)[name]? = some j := there
      by_cases same : id = name
      · rw [same, ExtTreeMap.getElem?_insert_self, Option.some.injEq] at located
        exact absurd located different
      · rw [found_insert_other _ id name _ same] at located
        exact ⟨located, other, here, running⟩
  · rintro ⟨there, other, here, running⟩
    have different : id ≠ name := by
      rintro rfl
      cases absent.symm.trans there
    refine ⟨(found_insert_other _ id name _ different).trans there, other, ?_, running⟩
    rw [nodes, if_neg]
    · exact here
    · rintro rfl
      cases fresh.symm.trans here

theorem serves_dismissal (k j : Incarnation) (name : NodeId) (node : Node) (held : Held)
    (log : List (Incarnation × LogEntry)) (current : ExtTreeMap NodeId Incarnation)
    (fewer : ∀ (other : NodeId) (j : Incarnation), current[other]? = some j → cluster.current[other]? = some j)
    (others : ∀ (other : NodeId) (j : Incarnation), cluster.current[other]? = some j → j ≠ k → current[other]? = some j)
    (gone : ∀ other : NodeId, current[other]? = some k → node.state ≠ .running) :
    ({ cluster with current }.dismissal k node held log).Serves name j ↔ cluster.Serves name j ∧ j ≠ k := by
  have nodes : ({ cluster with current }.dismissal k node held log).nodes[j]? =
      if k = j then some (node.dismissed held) else cluster.nodes[j]? := nodes_set_node _ k j _
  constructor
  · rintro ⟨there, other, here, runs⟩
    rw [nodes] at here
    split at here
    · rename_i same
      cases here
      subst same
      exact absurd runs (gone name there)
    · rename_i different
      exact ⟨⟨fewer name j there, other, here, runs⟩, Ne.symm different⟩
  · rintro ⟨⟨there, other, here, runs⟩, different⟩
    refine ⟨others name j there different, other, ?_, runs⟩
    rw [nodes, if_neg (Ne.symm different)]
    exact here

theorem not_serves (k : Incarnation) (name : NodeId) (node : Node) (found : cluster.nodes[k]? = some node)
    (stopped : node.state = .stopped) : ¬ cluster.Serves name k := by
  rintro ⟨_, other, here, running⟩
  rw [found, Option.some.injEq] at here
  rw [← here, stopped] at running
  cases running

theorem serves_enrolled (addressed : cluster.frame.Addressed) (k j : Incarnation) (name : NodeId) (node : Node)
    (bus : Bus Incarnation) (located : cluster.current[node.id]? = some k) (found : cluster.nodes[k]? = some node)
    (stopped : node.state = .stopped) :
    (cluster.enrolled k node bus).Serves name j ↔ node.id = name ∧ k = j ∨ cluster.Serves name j := by
  have nodes := nodes_enrolled cluster k j node bus
  rw [Serves, nodes]
  by_cases same : k = j
  · subst same
    rw [if_pos rfl]
    constructor
    · rintro ⟨there, _⟩
      exact .inl ⟨addressed.name_unique node.id name k located there, rfl⟩
    · rintro (⟨rfl, _⟩ | wrong)
      · exact ⟨located, _, rfl, rfl⟩
      · exact absurd wrong (not_serves k name node found stopped)
  · rw [if_neg same]
    simp only [same, and_false, false_or]
    rfl

namespace ResourcesSound

theorem replace (sound : cluster.ResourcesSound loyal debt) (k : Incarnation) (node fresh : Node)
    (found : cluster.nodes[k]? = some node) (named : fresh.id = node.id)
    (running : fresh.state = .running ↔ node.state = .running) (held : fresh.held = node.held)
    (aged : node.draws ≤ fresh.draws) (registryMatches : fresh.RegistryMatchesHeld k)
    (cleared : fresh.state = .stopped → fresh.snapshot.groups = ∅) : (cluster.setNode k fresh).ResourcesSound loyal debt := by
  have standing := cluster.standing_of_found k node found
  have older : cluster.draws ≤ (cluster.setNode k fresh).draws :=
    draws_le_set_node cluster k fresh (draws_of_found cluster k node found ▸ aged)
  refine ⟨sound.trackedOnce, ?_, ?_, ?_, ?_, ?_, ?_, ?_⟩
  · rw [frame_set_node]
    exact sound.addressed.place k node.standing fresh.standing standing named
  · exact each_set_node cluster k fresh registryMatches fun j other _ => sound.registryMatches j other
  · refine each_set_node cluster k fresh ?_ fun j other _ => sound.present j other
    rw [held, named]
    exact sound.present k node found
  · exact each_set_node cluster k fresh cleared fun j other _ => sound.cleared j other
  · intro keeps channel name j
    rw [serves_set_node k j name node fresh found running]
    exact sound.answering keeps channel name j
  · intro channel number j present
    obtain ⟨other, theirs, serves, there, holding, same⟩ := sound.heard channel number j present
    rw [nodes_set_node]
    by_cases own : k = j
    · subst own
      rw [found, Option.some.injEq] at there
      subst there
      refine ⟨fresh, theirs, ?_, if_pos rfl, held.trans holding, same⟩
      rw [named, serves_set_node k k node.id node fresh found running]
      exact serves
    · refine ⟨other, theirs, ?_, (if_neg own).trans there, holding, same⟩
      rw [serves_set_node k j other.id node fresh found running]
      exact serves
  · intro capacity
    have more : cluster.draws + debt ≤ (cluster.setNode k fresh).draws + debt := Nat.add_le_add_right older debt
    rw [frame_set_node]
    refine ((sound.attentive (Nat.lt_of_le_of_lt more capacity)).mono _ more).place k node.standing fresh.standing standing ?_
    exact fun _ _ runs => ⟨running.mp runs, held⟩

theorem abide (sound : cluster.ResourcesSound loyal debt) (k : Incarnation) (node fresh : Node)
    (found : cluster.nodes[k]? = some node) (abides : node.Abides fresh) :
    (cluster.setNode k fresh).ResourcesSound loyal debt := by
  refine sound.replace k node fresh found abides.id (by rw [abides.state]) abides.held abides.aged
    ((sound.registryMatches k node found).abide fresh abides) ?_
  intro stopped
  rw [abides.state] at stopped
  rw [abides.idle (by simp [stopped])]
  exact sound.cleared k node found stopped

theorem furnish (sound : cluster.ResourcesSound loyal debt) (bus : Bus Incarnation) (hub : Hub Incarnation)
    (log : List (Incarnation × LogEntry)) (trackedOnce : bus.TrackedOnce)
    (handlers : loyal → ∀ channel, bus.handlersOn channel = cluster.bus.handlersOn channel) :
    { cluster with bus, hub, log }.ResourcesSound loyal debt where
  trackedOnce := trackedOnce
  addressed := sound.addressed.furnish hub bus cluster.store.listeners
  registryMatches := sound.registryMatches
  present := sound.present
  cleared := sound.cleared
  answering keeps channel name k := by
    rw [handlers keeps channel]
    exact sound.answering keeps channel name k
  heard := sound.heard
  attentive capacity := ⟨(sound.attentive capacity).listening, (sound.attentive capacity).earlier,
    (sound.attentive capacity).few⟩

theorem restock (sound : cluster.ResourcesSound loyal debt) (store : Store Incarnation)
    (listeners : store.listeners = cluster.store.listeners) : { cluster with store }.ResourcesSound loyal debt where
  trackedOnce := sound.trackedOnce
  addressed := by
    rw [frame_store cluster store listeners]
    exact sound.addressed
  registryMatches := sound.registryMatches
  present := sound.present
  cleared := sound.cleared
  answering := sound.answering
  heard channel number k present := by
    rw [Store.listenersOf, listeners] at present
    exact sound.heard channel number k present
  attentive capacity := by
    rw [frame_store cluster store listeners]
    exact sound.attentive capacity

theorem forget (sound : cluster.ResourcesSound loyal debt) (id : NodeId) (k : Incarnation) (node : Node)
    (located : cluster.current[id]? = some k) (found : cluster.nodes[k]? = some node) (stopped : node.state = .stopped) :
    { cluster with current := cluster.current.erase id }.ResourcesSound loyal debt := by
  have serves (name : NodeId) (j : Incarnation) := serves_forget id name k j node located found stopped
  refine ⟨sound.trackedOnce, sound.addressed.forget id, sound.registryMatches, ?_, sound.cleared, ?_, ?_, ?_⟩
  · intro j other here holds
    have there := sound.present j other here holds
    refine (found_erase_other _ id other.id ?_).trans there
    rintro rfl
    rw [located, Option.some.injEq] at there
    rw [← there, found, Option.some.injEq] at here
    rw [← here] at holds
    exact holds ((sound.registryMatches k node found).unheld (by simp [stopped]))
  · intro keeps channel name j
    rw [serves]
    exact sound.answering keeps channel name j
  · intro channel number j present
    obtain ⟨other, held, there, rest⟩ := sound.heard channel number j present
    exact ⟨other, held, (serves _ _).mpr there, rest⟩
  · exact fun capacity => (sound.attentive capacity).forget id

theorem vacancy (sound : cluster.ResourcesSound loyal debt) : cluster.nodes[cluster.nodes.size]? = none := by
  apply ExtTreeMap.getElem?_eq_none
  intro member
  have there : cluster.nodes.size ∈ cluster.frame.nodes := by simpa [frame] using member
  exact Nat.lt_irrefl _ (cluster.frame_size ▸ sound.addressed.numbered _ there)

theorem create (sound : cluster.ResourcesSound loyal debt) (id : NodeId) (absent : cluster.current[id]? = none) :
    (cluster.added id).ResourcesSound loyal debt := by
  have fresh := sound.vacancy
  have serves (name : NodeId) (j : Incarnation) := serves_added id name j fresh absent
  have drawn : (cluster.added id).draws = cluster.draws := by
    refine draws_set_node cluster cluster.nodes.size (.create id) ?_
    rw [drawsOf, fresh]
    rfl
  refine ⟨sound.trackedOnce, ?_, ?_, ?_, ?_, ?_, ?_, ?_⟩
  · rw [frame_added]
    exact sound.addressed.create id _ rfl
  · exact each_set_node cluster _ _ (Node.registry_matches_created id _) fun j other _ => sound.registryMatches j other
  · refine each_set_node cluster _ _ (fun holds => absurd rfl holds) fun j other _ here holds => ?_
    have there := sound.present j other here holds
    refine (found_insert_other _ id other.id _ ?_).trans there
    rintro rfl
    cases absent.symm.trans there
  · exact each_set_node cluster _ _ (fun _ => rfl) fun j other _ => sound.cleared j other
  · intro keeps channel name j
    rw [serves]
    exact sound.answering keeps channel name j
  · intro channel number j present
    obtain ⟨other, held, there, here, rest⟩ := sound.heard channel number j present
    refine ⟨other, held, (serves _ _).mpr there, (nodes_set_node cluster _ j _).trans ((if_neg ?_).trans here), rest⟩
    rintro rfl
    cases fresh.symm.trans here
  · rw [drawn, frame_added]
    exact fun capacity => (sound.attentive capacity).create sound.addressed id _
      (by decide : Lifecycle.stopped ≠ Lifecycle.running)

theorem dismiss (sound : cluster.ResourcesSound loyal debt) (k : Incarnation) (node : Node) (state : Lifecycle) (held : Held)
    (log : List (Incarnation × LogEntry)) (current : ExtTreeMap NodeId Incarnation)
    (located : cluster.current[node.id]? = some k) (found : cluster.nodes[k]? = some node) (running : node.state = .running)
    (holding : node.held = some held) (going : state ≠ .stopped)
    (fewer : ∀ (other : NodeId) (j : Incarnation), current[other]? = some j → cluster.current[other]? = some j)
    (others : ∀ (other : NodeId) (j : Incarnation), cluster.current[other]? = some j → j ≠ k → current[other]? = some j)
    (gone : ∀ other : NodeId, current[other]? = some k → state ≠ .running) :
    ({ cluster with current }.dismissal k (node.setState state) held log).ResourcesSound loyal debt := by
  have standing := cluster.standing_of_found k node found
  have serves (name : NodeId) (j : Incarnation) :=
    serves_dismissal k j name (node.setState state) held log current fewer others gone
  have drawn : ({ cluster with current }.dismissal k (node.setState state) held log).draws = cluster.draws :=
    draws_set_node _ k _ (draws_of_found cluster k node found).symm
  refine ⟨sound.trackedOnce.rewire _, ?_, ?_, ?_, ?_, ?_, ?_, ?_⟩
  · have placed := sound.addressed.place k node.standing ((node.setState state).dismissed held).standing standing rfl
    rw [frame_dismissal]
    exact ⟨placed.numbered, fun other j there => placed.located other j (fewer other j there)⟩
  · exact each_set_node _ k _ ((sound.registryMatches k node found).dismiss held holding state) fun j other _ =>
      sound.registryMatches j other
  · exact each_set_node _ k _ (fun holds => absurd rfl holds) fun j other different here holds =>
      others other.id j (sound.present j other here holds) (Ne.symm different)
  · exact each_set_node _ k _ (fun stopped => absurd stopped going) fun j other _ => sound.cleared j other
  · intro keeps channel name j
    change ((cluster.bus.without cluster.channel node.id).handlersOn channel)[name]? = some j ↔ channel = cluster.channel ∧ _
    rw [Bus.found_without, sound.answering keeps channel name j, serves]
    constructor
    · rintro ⟨⟨rfl, answers⟩, left⟩
      refine ⟨rfl, answers, ?_⟩
      rintro rfl
      exact left ⟨rfl, sound.addressed.name_unique node.id name j located answers.1⟩
    · rintro ⟨rfl, answers, different⟩
      exact ⟨⟨rfl, answers⟩, fun own => Frame.name_apart node.id name k j located answers.1 different own.2⟩
  · intro channel number j present
    obtain ⟨before, other⟩ := (cluster.store.lists_release held.store ⟨channel, number⟩ j).mp present
    obtain ⟨theirs, place, answers, here, holds, same⟩ := sound.heard channel number j before
    -- The only place that the bridge had at the store is the one that is gone.
    have different : j ≠ k := by
      rintro rfl
      rw [found, Option.some.injEq] at here
      subst here
      rw [holding, Option.some.injEq] at holds
      subst holds
      exact other same.symm
    exact ⟨theirs, place, (serves _ _).mpr ⟨answers, different⟩,
      (nodes_set_node _ k j _).trans ((if_neg (Ne.symm different)).trans here), holds, same⟩
  · rw [drawn, frame_dismissal]
    intro capacity
    have attentive := sound.attentive capacity
    have listens := attentive.listens node.id k node.standing held located standing running holding
    have restricted : { cluster.frame with current }.Attentive (cluster.draws + debt) :=
      ⟨attentive.listening.restrict current fewer, attentive.earlier, attentive.few⟩
    exact restricted.dismiss k ((node.setState state).dismissed held).standing held
      (cluster.bus.without cluster.channel node.id) (cluster.hub.release held.hub) listens gone

theorem enlist (sound : cluster.ResourcesSound loyal 0) (k : Incarnation) (node : Node) (bus : Bus Incarnation)
    (located : cluster.current[node.id]? = some k) (found : cluster.nodes[k]? = some node) (stopped : node.state = .stopped)
    (registered : cluster.bus.register cluster.channel node.id k = .ok bus) :
    (cluster.enrolled k node bus).ResourcesSound loyal 1 := by
  have standing := cluster.standing_of_found k node found
  have serves (name : NodeId) (j : Incarnation) :=
    serves_enrolled sound.addressed k j name node bus located found stopped
  have drawn := draws_enrolled cluster k node bus found
  obtain ⟨handlers, rewired⟩ := Bus.registered_eq cluster.bus bus cluster.channel node.id k registered
  refine ⟨?_, ?_, ?_, ?_, ?_, ?_, ?_, ?_⟩
  · change bus.TrackedOnce
    rw [rewired]
    exact sound.trackedOnce.rewire handlers
  · rw [frame_enrolled]
    exact (sound.addressed.furnish _ _ _).place k node.standing _ standing rfl
  · exact each_set_node _ k _ ((sound.registryMatches k node found).enlist _ _ stopped) fun j other _ =>
      sound.registryMatches j other
  · exact each_set_node _ k _ (fun _ => located) fun j other _ => sound.present j other
  · exact each_set_node _ k _ (fun wrong => by cases wrong) fun j other _ => sound.cleared j other
  · intro keeps channel name j
    change (bus.handlersOn channel)[name]? = some j ↔ channel = cluster.channel ∧ _
    rw [Bus.found_registered cluster.bus bus cluster.channel channel node.id name k j registered, serves,
      sound.answering keeps channel name j]
    constructor
    · rintro (⟨rfl, own⟩ | ⟨same, answers⟩)
      · exact ⟨rfl, .inl own⟩
      · exact ⟨same, .inr answers⟩
    · rintro ⟨rfl, own | answers⟩
      · exact .inl ⟨rfl, own⟩
      · exact .inr ⟨rfl, answers⟩
  · intro channel number j present
    have lists := (cluster.store.lists_subscribe cluster.channel k j ⟨channel, number⟩).mp present
    split at lists
    · rename_i given
      subst lists
      exact ⟨node.enlisted k (cluster.store.subscribe cluster.channel k).2 (cluster.hub.subscribe node.id k).2, _,
        (serves _ _).mpr (.inl ⟨rfl, rfl⟩), (nodes_enrolled cluster k k node bus).trans (if_pos rfl), rfl, given⟩
    · obtain ⟨other, held, answers, here, rest⟩ := sound.heard channel number j lists
      refine ⟨other, held, (serves _ _).mpr (.inr answers), ?_, rest⟩
      refine (nodes_enrolled cluster k j node bus).trans ((if_neg ?_).trans here)
      rintro rfl
      exact not_serves k _ node found stopped answers
  · rw [drawn, frame_enrolled]
    intro capacity
    -- One more place is taken, and no number is drawn for it yet.
    exact (sound.attentive (Nat.lt_of_succ_lt capacity)).enlist k _ _ _ _ rfl rfl capacity

end ResourcesSound

end Cluster

end Coherence
