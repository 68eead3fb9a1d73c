import Coherence.Proofs.Orderly

set_option autoImplicit false

namespace Coherence

open Std

namespace Cluster

-- Between operations every node is reached under its name, and every running one has announced its groups.
structure Orderly (cluster : Cluster) : Prop extends cluster.Synced where
  ordered : cluster.frame.Ordered
  announced : cluster.frame.Announced cluster.entries

-- Entries of nodes that do not run are left from before.
def Leaves (before after : Cluster) : Prop :=
  ∀ key, key ∈ after.entries → ¬ after.frame.Runs key → key ∈ before.entries ∧ ¬ before.frame.Runs key

structure Proceeds (before after : Cluster) : Prop where
  orderly : after.Orderly
  leaves : Leaves before after

theorem Leaves.trans {first second third : Cluster} (earlier : Leaves first second) (later : Leaves second third) :
    Leaves first third := by
  intro key present resting
  obtain ⟨before, rested⟩ := later key present resting
  exact earlier key before rested

theorem Leaves.intro {before after : Cluster}
    (known : ∀ key, key ∈ after.entries → key ∈ before.entries ∨ after.frame.Runs key)
    (runs : ∀ key, key ∈ after.entries → before.frame.Runs key → after.frame.Runs key) : Leaves before after := by
  intro key present resting
  exact ⟨(known key present).resolve_right resting, fun running => resting (runs key present running)⟩

theorem Leaves.of_eq {before after : Cluster} (entries : after.entries = before.entries)
    (runs : ∀ key, before.frame.Runs key → after.frame.Runs key) : Leaves before after :=
  .intro (fun _ present => .inl (entries ▸ present)) fun key _ => runs key

theorem Proceeds.trans {first second third : Cluster} (earlier : Proceeds first second)
    (later : Proceeds second third) : Proceeds first third :=
  ⟨later.orderly, earlier.leaves.trans later.leaves⟩

variable {cluster : Cluster}

theorem Orderly.refl (orderly : cluster.Orderly) : Proceeds cluster cluster :=
  ⟨orderly, .of_eq rfl fun _ runs => runs⟩

theorem Orderly.follow {before after : Cluster} (orderly : before.Orderly) (follows : Follows before after)
    (entries : after.entries = before.entries) : Proceeds before after := by
  refine ⟨⟨orderly.toSynced.follow follows, follows.frame ▸ orderly.ordered, ?_⟩, .of_eq entries fun key runs => ?_⟩
  · rw [follows.frame, entries]
    exact orderly.announced
  · rw [follows.frame]
    exact runs

theorem Orderly.furnish (orderly : cluster.Orderly) (bus : Bus Incarnation) (hub : Hub Incarnation)
    (log : List (Incarnation × LogEntry)) (handlers : bus.handlers = cluster.bus.handlers)
    (members : ∀ id ∈ cluster.hub.members, id ∈ hub.members) : Proceeds cluster { cluster with bus, hub, log } :=
  ⟨⟨orderly.toSynced.furnish bus hub log, orderly.ordered.furnish bus hub handlers members, orderly.announced⟩,
    .of_eq rfl fun _ runs => runs⟩

theorem entry_alike (node fresh : Node) (alike : node.Alike fresh) : fresh.standing.entry = node.standing.entry := by
  rw [Standing.entry, Standing.entry, show fresh.standing.registry.groupNames = _ from alike.groups,
    show fresh.standing.id = node.standing.id from alike.id]
  rfl

theorem Orderly.renew (orderly : cluster.Orderly) (k : Incarnation) (node fresh : Node)
    (found : cluster.nodes[k]? = some node) (alike : node.Alike fresh) : Proceeds cluster (cluster.setNode k fresh) := by
  have standing := cluster.standing_of_found k node found
  have state : fresh.standing.state = node.standing.state := alike.state
  refine ⟨⟨orderly.toSynced.retain k node fresh found alike.toRetains, ?_, ?_⟩, .of_eq rfl fun key runs => ?_⟩
  · rw [frame_set_node]
    exact orderly.ordered.place k node.standing fresh.standing standing alike.rejected fun running => state ▸ running
  · rw [frame_set_node]
    refine Frame.Every.replace orderly.announced k node.standing fresh.standing standing fun id announced running => ?_
    rw [entry_alike node fresh alike]
    exact announced (state ▸ running)
  · rw [frame_set_node]
    exact runs.replace k node.standing fresh.standing standing state

theorem Orderly.adjust {before after : Cluster} (orderly : before.Orderly) (adjusted : Adjusted before after) :
    Proceeds before after := by
  induction adjusted with
  | refl => exact orderly.refl
  | wire after bus handlers _ ih =>
      exact ih.trans (ih.orderly.furnish bus after.hub after.log handlers fun _ member => member)
  | node after k node fresh found alike _ ih => exact ih.trans (ih.orderly.renew k node fresh found alike)
  | note after k log _ ih => exact ih.trans (ih.orderly.furnish after.bus after.hub _ rfl fun _ member => member)

theorem runs_of_found (cluster : Cluster) (id : NodeId) (k : Incarnation) (node : Node)
    (located : cluster.current[id]? = some k) (found : cluster.nodes[k]? = some node) (running : node.state = .running) :
    cluster.frame.Runs id :=
  ⟨k, node.standing, located, cluster.standing_of_found k node found, running⟩

theorem announce (cluster : Cluster) (id : NodeId) (k : Incarnation) (node : Node) (allLinked : cluster.frame.AllLinked)
    (ordered : cluster.frame.Ordered) (located : cluster.current[id]? = some k) (found : cluster.nodes[k]? = some node)
    (running : node.state = .running)
    (others : cluster.frame.Every fun other j standing => j ≠ k → standing.state = .running →
      cluster.entries[other]? = standing.entry) :
    cluster.frame.Announced (cluster.publish k).entries ∧
      ∀ key, key ∈ (cluster.publish k).entries → key ∈ cluster.entries ∨ cluster.frame.Runs key := by
  have standing := cluster.standing_of_found k node found
  have named : node.id = id := allLinked.id_of_located id k node.standing located standing
  have key : node.announcing.key = id := node.announcing_key.trans named
  have entries := entries_publish cluster k node found running
    (allLinked.linked id k node.standing located standing).reachable
    (ordered.lawful id k node.standing located standing)
  rw [entries]
  constructor
  · intro other j there place seen runs
    by_cases same : j = k
    · subst same
      rw [standing, Option.some.injEq] at seen
      subst seen
      rw [allLinked.addressed.name_unique other id j place located, ← named]
      exact node.announcing_entry cluster.entries
    · have unlike : node.announcing.key ≠ other := by
        rw [key]
        exact Frame.name_apart id other k j located place same
      rw [Mutation.apply_other node.announcing cluster.entries other unlike]
      exact others other j there place seen same runs
  · intro other present
    by_cases same : id = other
    · subst same
      exact .inr (cluster.runs_of_found id k node located found running)
    · refine .inl ?_
      rw [ExtTreeMap.mem_iff_isSome_getElem?, Mutation.apply_other _ _ _ (by rw [key]; exact same)] at present
      rwa [ExtTreeMap.mem_iff_isSome_getElem?]

theorem Orderly.publish (orderly : cluster.Orderly) (id : NodeId) (k : Incarnation)
    (located : cluster.current[id]? = some k) : Proceeds cluster (cluster.publish k) := by
  obtain ⟨node, found, _, _⟩ := orderly.node_of_located id k located
  by_cases running : node.state = .running
  · have follows := follows_publish cluster k
    obtain ⟨announced, known⟩ := announce cluster id k node orderly.allLinked orderly.ordered located found running
      (orderly.announced.imp fun _ _ _ announced _ => announced)
    refine ⟨⟨orderly.toSynced.follow follows, follows.frame ▸ orderly.ordered, follows.frame ▸ announced⟩, .intro ?_ ?_⟩
    · rw [follows.frame]
      exact known
    · exact fun key _ runs => follows.frame ▸ runs
  · rw [publish_idle cluster k node found running]
    exact orderly.refl

theorem Orderly.start (orderly : cluster.Orderly) (id : NodeId) (k : Incarnation)
    (located : cluster.current[id]? = some k) : Proceeds cluster (cluster.start k).1 := by
  obtain ⟨node, found, named, linked⟩ := orderly.node_of_located id k located
  have standing := cluster.standing_of_found k node found
  have synced := orderly.toSynced.start id k located
  have started := start_started cluster k node found linked.reachable
  generalize cluster.start k = result at started synced
  cases started with
  | refused error log => exact orderly.furnish cluster.bus cluster.hub log rfl fun _ member => member
  | running bus stopped registered =>
      have frame := ((follows_publish (cluster.enrolled k node bus) k).trans (follows_recompute _ k)).frame
      have allLinked : (cluster.enrolled k node bus).frame.AllLinked := frame ▸ synced.allLinked
      have ordered : (cluster.enrolled k node bus).frame.Ordered := by
        rw [frame_enrolled]
        exact orderly.ordered.enlist orderly.allLinked id k node.standing _ located standing (by rfl) bus _ _
          (named ▸ registered) (Hub.members_subscribe cluster.hub node.id k)
      have here : (cluster.enrolled k node bus).nodes[k]? = some _ := (nodes_set_node _ k k _).trans (if_pos rfl)
      obtain ⟨announced, known⟩ := announce (cluster.enrolled k node bus) id k _ allLinked ordered located here rfl (by
        rw [frame_enrolled]
        refine (orderly.announced.furnish _ _ _).place k _ (fun _ _ _ _ _ announced _ => announced) ?_
        exact fun _ _ absent => absurd rfl absent)
      refine ⟨⟨synced, frame ▸ ordered, ?_⟩, .intro ?_ ?_⟩
      · rw [frame, entries_recompute]
        exact announced
      · rw [frame, entries_recompute]
        exact known
      · intro key _ before
        rw [frame, frame_enrolled]
        exact Frame.Runs.place before k _ fun _ => rfl

theorem entries_stop (cluster : Cluster) (k : Incarnation) (node : Node) (held : Held)
    (found : cluster.nodes[k]? = some node) (running : node.state = .running) (holding : node.held = some held)
    (reachable : node.replica.unreachable = false) (lawful : node.replica.rejected = ∅) :
    (cluster.stop k).entries = cluster.entries.erase node.id := by
  obtain ⟨log, stopped⟩ := stop_running cluster k node held found running holding
  have here : (cluster.dismissal k (node.setState .stopping) held log).nodes[k]? = some _ :=
    (nodes_set_node _ k k _).trans (if_pos rfl)
  rw [stopped, endStop, modify, entries_amend, entries_amend,
    entries_mutate_lawful _ k _ (.remove node.id) here reachable lawful]
  rfl

theorem Orderly.stop (orderly : cluster.Orderly) (id : NodeId) (k : Incarnation)
    (located : cluster.current[id]? = some k) : Proceeds cluster (cluster.stop k) := by
  obtain ⟨node, found, named, linked⟩ := orderly.node_of_located id k located
  have standing := cluster.standing_of_found k node found
  cases orderly.settled id k node.standing located standing with
  | inl stopped =>
      rw [stop_stopped cluster k node found stopped]
      exact orderly.refl
  | inr running =>
      obtain ⟨held, holding, _⟩ := linked.enrolled running
      have frame := frame_stop cluster k node held found running holding
      have entries := entries_stop cluster k node held found running holding linked.reachable
        (orderly.ordered.lawful id k node.standing located standing)
      have other (name : NodeId) (j : Incarnation) (there : cluster.current[name]? = some j) (different : j ≠ k) :
          node.id ≠ name := by
        rw [named]
        exact Frame.name_apart id name k j located there different
      rw [frame_dismissal] at frame
      refine ⟨⟨orderly.toSynced.stop id k located, ?_, ?_⟩, .intro ?_ ?_⟩
      · rw [frame]
        exact orderly.ordered.dismiss node.id k node.standing _ standing (by rfl) _ _
          (Hub.members_release cluster.hub held.hub) other fun _ _ runs => nomatch runs
      · rw [frame, entries]
        refine (orderly.announced.furnish _ _ _).place k _ ?_ fun _ _ runs => nomatch runs
        intro name j there place different announced runs
        rw [found_erase_other _ node.id name (other name j place different)]
        exact announced runs
      · intro key present
        rw [entries, ExtTreeMap.mem_erase] at present
        exact .inl present.2
      · intro key present runs
        -- The entry of the stopped node is gone, so this key is another one.
        rw [entries, ExtTreeMap.mem_erase] at present
        rw [frame]
        refine Frame.Runs.place runs k _ fun place => ?_
        have same := orderly.allLinked.addressed.name_unique key id k place located
        exact absurd (Std.compare_eq_iff_eq.mpr (named.trans same.symm)) present.1

theorem Orderly.notify (orderly : cluster.Orderly) (hub : Hub Incarnation)
    (members : ∀ (id : NodeId) (k : Incarnation), cluster.current[id]? = some k → id ∈ hub.members) :
    Proceeds cluster ({ cluster with hub }.notifyMembership hub.view) := by
  have follows := follows_notify { cluster with hub } hub.view
  have swept := swept_notify { cluster with hub } hub.view
  have frame : ({ cluster with hub }.notifyMembership hub.view).frame = { cluster.frame with hub } := follows.frame
  refine ⟨⟨(orderly.toSynced.furnish cluster.bus hub cluster.log).follow follows, ?_, ?_⟩, .intro ?_ ?_⟩
  · rw [frame]
    exact ⟨orderly.ordered.lawful, members, orderly.ordered.handled⟩
  · rw [frame]
    intro id k standing located found running
    rw [swept.kept id (ExtTreeSet.contains_iff_mem.mpr (members id k located))]
    exact orderly.announced id k standing located found running
  · exact fun key present => .inl (swept.mem key present)
  · intro key _ runs
    rw [frame]
    exact runs

theorem Orderly.join (orderly : cluster.Orderly) (id : NodeId) : Proceeds cluster (cluster.join id) := by
  refine orderly.notify (cluster.hub.join id) fun other k located => ?_
  exact ExtTreeSet.mem_insert.mpr (.inr (orderly.ordered.joined other k located))

theorem Orderly.leave (orderly : cluster.Orderly) (id : NodeId) (absent : cluster.current[id]? = none) :
    Proceeds cluster (cluster.leave id) := by
  rw [Cluster.leave]
  cases left : cluster.hub.leave? id with
  | none => exact orderly.refl
  | some hub =>
      refine orderly.notify hub fun other k located => ?_
      have different : ¬ compare id other = .eq := by
        intro same
        rw [Std.compare_eq_iff_eq.mp same, located] at absent
        cases absent
      rw [Hub.leave?] at left
      split at left
      · cases left
        exact ExtTreeSet.mem_erase.mpr ⟨different, orderly.ordered.joined other k located⟩
      · cases left

theorem Orderly.forget (orderly : cluster.Orderly) (id : NodeId) :
    { cluster with current := cluster.current.erase id }.Orderly :=
  ⟨orderly.toSynced.forget id, orderly.ordered.forget id, orderly.announced.forget id⟩

theorem Orderly.discard (orderly : cluster.Orderly) (id : NodeId) (k : Incarnation)
    (located : cluster.current[id]? = some k) :
    Proceeds { cluster with current := cluster.current.erase id }
      ({ cluster with current := cluster.current.erase id }.discard Service.granted k) := by
  obtain ⟨node, found, named, linked⟩ := orderly.node_of_located id k located
  have standing := cluster.standing_of_found k node found
  have left := orderly.forget id
  have gone (other : NodeId) := orderly.allLinked.addressed.gone id other k located
  cases orderly.settled id k node.standing located standing with
  | inl stopped =>
      rw [discard_stopped { cluster with current := cluster.current.erase id } k node found stopped]
      exact left.refl
  | inr running =>
      obtain ⟨held, holding, _⟩ := linked.enrolled running
      have synced := orderly.toSynced.discard id k located
      obtain ⟨log, discarded⟩ := discard_running { cluster with current := cluster.current.erase id } k node held found
        running holding
      rw [discarded] at synced ⊢
      refine ⟨⟨synced, ?_, ?_⟩, .of_eq rfl fun key runs => ?_⟩
      · rw [frame_dismissal]
        refine left.ordered.dismiss node.id k node.standing _ standing (by rfl) _ _
          (Hub.members_release cluster.hub held.hub) ?_ fun other there => absurd there (gone other)
        intro other j there _
        rw [named]
        exact (Frame.located_of_erased id other j there).1
      · rw [frame_dismissal]
        exact (left.announced.furnish _ _ _).place k _ (fun _ _ _ _ _ announced => announced)
          fun other there => absurd there (gone other)
      · rw [frame_dismissal]
        exact Frame.Runs.place runs k _ fun there => absurd there (gone key)

theorem Orderly.crash (orderly : cluster.Orderly) (id : NodeId) :
    (cluster.crash id).Orderly ∧ ∀ key, key ∈ (cluster.crash id).entries → ¬ (cluster.crash id).frame.Runs key →
      key ∈ cluster.entries ∧ (id = key ∨ ¬ cluster.frame.Runs key) := by
  rw [Cluster.crash]
  cases located : cluster.current[id]? with
  | none =>
      have proceeds := orderly.leave id located
      refine ⟨proceeds.orderly, fun key present resting => ?_⟩
      exact ⟨(proceeds.leaves key present resting).1, .inr (proceeds.leaves key present resting).2⟩
  | some k =>
      have discarded := orderly.discard id k located
      -- By the time others hear of it the name leads nowhere, so that no running node is swept.
      have absent : ({ cluster with current := cluster.current.erase id }.discard Service.granted k).current[id]? = none := by
        rw [current_discard]
        exact ExtTreeMap.getElem?_erase_self
      have proceeds := discarded.trans (discarded.orderly.leave id absent)
      refine ⟨proceeds.orderly, fun key present resting => ?_⟩
      obtain ⟨before, rested⟩ := proceeds.leaves key present resting
      refine ⟨before, ?_⟩
      by_cases same : id = key
      · exact .inl same
      · exact .inr fun runs => rested (runs.forget same)

theorem Orderly.add (orderly : cluster.Orderly) (id : NodeId) (member : id ∈ cluster.hub.members)
    (absent : id ∉ cluster.current) : Proceeds cluster (cluster.added id) := by
  refine ⟨⟨orderly.toSynced.add id, ?_, ?_⟩, .of_eq rfl fun key runs => ?_⟩
  · rw [frame_added]
    exact orderly.ordered.create orderly.allLinked.addressed id member
  · rw [frame_added]
    exact Frame.Every.create orderly.announced orderly.allLinked.addressed id _ fun running => nomatch running
  · rw [frame_added]
    obtain ⟨k, standing, located, found, running⟩ := runs
    have different : id ≠ key := by
      rintro rfl
      apply absent
      rw [frame_current] at located
      rw [ExtTreeMap.mem_iff_isSome_getElem?, located]
      rfl
    refine ⟨k, standing, ?_, ?_, running⟩
    · change (cluster.frame.current.insert id _)[key]? = some k
      rw [found_insert_other _ id key _ different]
      exact located
    · rw [Frame.added, Frame.nodes_place, if_neg (Ne.symm (orderly.allLinked.addressed.fresh_not_current key k located))]
      exact found

theorem members_notify (cluster : Cluster) (view : View) :
    (cluster.notifyMembership view).hub = cluster.hub :=
  congrArg Frame.hub (follows_notify cluster view).frame

theorem Orderly.add_node (orderly : cluster.Orderly) (id : NodeId) : Proceeds cluster (cluster.addNode id).1 := by
  have joined := orderly.join id
  have member : id ∈ (cluster.join id).hub.members := by
    rw [Cluster.join, members_notify]
    exact ExtTreeSet.mem_insert_self
  rw [addNode]
  dsimp only
  split
  · exact joined
  · split
    · exact joined
    · rename_i absent
      exact joined.trans (joined.orderly.add id member absent)

theorem groups_changed_running (cluster : Cluster) (k : Incarnation) (node : Node) (found : cluster.nodes[k]? = some node)
    (running : node.state = .running) : cluster.groupsChanged k = cluster.publish k := by
  have runs : cluster.isRunning k = true := by
    rw [isRunning, found, Option.any_some, node.is_running_iff]
    exact running
  rw [groupsChanged, if_pos runs]

theorem Orderly.change_groups (orderly : cluster.Orderly) (id : NodeId) (k : Incarnation)
    (located : cluster.current[id]? = some k) (change : Registry Incarnation → Option (Registry Incarnation))
    (listeners : ∀ registry changed, change registry = some changed → changed.listeners = registry.listeners) :
    Proceeds cluster (cluster.changeGroups k change) := by
  obtain ⟨node, found, _, linked⟩ := orderly.node_of_located id k located
  have standing := cluster.standing_of_found k node found
  rw [changeGroups, found]
  dsimp only
  cases changed : change node.registry with
  | none => exact orderly.refl
  | some registry =>
      dsimp only
      have retains := node.retains_set_registry registry (listeners _ _ changed)
      have synced := orderly.toSynced.retain k node _ found retains
      have ordered : (cluster.setNode k (node.setRegistry registry)).frame.Ordered := by
        rw [frame_set_node]
        exact orderly.ordered.place k node.standing _ standing (by rfl) fun running => running
      have here : (cluster.setNode k (node.setRegistry registry)).nodes[k]? = some (node.setRegistry registry) :=
        (nodes_set_node _ k k _).trans (if_pos rfl)
      have audience : registry.audience = node.registry.audience := by
        rw [Registry.audience, listeners _ _ changed]
        rfl
      have kept (key : String) (runs : cluster.frame.Runs key) :
          (cluster.setNode k (node.setRegistry registry)).frame.Runs key := by
        rw [frame_set_node]
        exact runs.replace k node.standing _ standing (by rfl)
      by_cases running : node.state = .running
      · rw [audience, show node.registry.audience = [k] from linked.audience_running running, List.foldl_cons,
          List.foldl_nil, groups_changed_running _ k _ here running]
        have follows := follows_publish (cluster.setNode k (node.setRegistry registry)) k
        obtain ⟨announced, known⟩ := announce _ id k _ synced.allLinked ordered located here running (by
          rw [frame_set_node]
          refine orderly.announced.place k _ (fun _ _ _ _ _ announced _ => announced) ?_
          exact fun _ _ absent => absurd rfl absent)
        refine ⟨⟨synced.follow follows, follows.frame ▸ ordered, follows.frame ▸ announced⟩, .intro ?_ ?_⟩
        · rw [follows.frame]
          exact known
        · exact fun key _ runs => follows.frame ▸ kept key runs
      · rw [audience, show node.registry.audience = [] from linked.audience_idle running, List.foldl_nil]
        refine ⟨⟨synced, ordered, ?_⟩, .of_eq rfl kept⟩
        rw [frame_set_node]
        exact orderly.announced.place k _ (fun _ _ _ _ _ announced => announced) fun _ _ runs => absurd runs running

theorem Orderly.start_all (orderly : cluster.Orderly) :
    Proceeds cluster (cluster.startAll cluster.incarnations).1 := by
  refine start_all_keeps ?_ cluster.incarnations cluster orderly.refl cluster.located_of_incarnation
  intro middle id k proceeds located
  exact ⟨proceeds.trans (proceeds.orderly.start id k located), proceeds.orderly.current_start id k located⟩

theorem Orderly.stop_all (orderly : cluster.Orderly) :
    Proceeds cluster (cluster.incarnations.foldl Cluster.stop cluster) := by
  refine stop_all_keeps ?_ cluster.incarnations cluster orderly.refl cluster.located_of_incarnation
  intro middle id k proceeds located
  exact ⟨proceeds.trans (proceeds.orderly.stop id k located), proceeds.orderly.current_stop id k located⟩

-- Nothing is wrong with the store, and nobody writes there or changes a handler behind a node's back.
def NodeOperation.isOrdinary : NodeOperation → Bool
  | .membershipChanged _ | .rejectKey _ | .write _ | .squat | .unregister => false
  | .setStoreUnreachable on => !on
  | _ => true

def Operation.isOrdinary : Operation → Bool
  | .join _ | .leave _ | .notify _ | .putRaw .. => false
  | .node _ operation => operation.isOrdinary
  | _ => true

theorem Orderly.step_node (orderly : cluster.Orderly) (id : NodeId) (k : Incarnation) (node : Node)
    (located : cluster.current[id]? = some k) (found : cluster.nodes[k]? = some node) (operation : NodeOperation)
    (ordinary : operation.isOrdinary = true) : Proceeds cluster (cluster.stepNode k node operation).1 := by
  cases operation with
  | start => exact orderly.start id k located
  | stop => exact orderly.stop id k located
  | createGroup group => exact orderly.change_groups id k located _ (create_group_listeners group)
  | dropGroup group => exact orderly.change_groups id k located _ (drop_group_listeners group)
  | put group key =>
      rw [stepNode]
      split
      · exact orderly.refl
      · rename_i registry cached
        have kept := Registry.alike_put node.registry registry group key cached
        exact orderly.renew k node _ found (node.alike_set_registry registry kept.1 kept.2)
  | setRejecting on => exact orderly.renew k node _ found (node.alike_set_registry _ rfl rfl)
  | send event mode => exact orderly.adjust (adjusted_send cluster k event mode)
  | invalidate event mode => exact orderly.adjust (adjusted_invalidate cluster k event mode)
  | receive event => exact orderly.adjust (adjusted_receive cluster k event)
  | publish => exact orderly.publish id k located
  | storeChanged => exact orderly.follow (follows_store_changed cluster k) (entries_store_changed cluster k)
  | setStoreUnreachable on =>
      cases on with
      | true => cases ordinary
      | false =>
          rw [stepNode, modifyReplica, modify, amend_found cluster k _ node found]
          have alike : node.Alike { node with replica := { node.replica with unreachable := false } } :=
            ⟨⟨rfl, rfl, rfl, rfl, rfl, rfl, fun _ => rfl⟩, rfl, rfl⟩
          exact orderly.adjust (.note _ k _ (.node cluster k node _ found alike .refl))
  | membershipChanged _ => cases ordinary
  | rejectKey _ => cases ordinary
  | write _ => cases ordinary
  | squat => cases ordinary
  | unregister => cases ordinary

theorem Orderly.step (orderly : cluster.Orderly) (operation : Operation) (ordinary : operation.isOrdinary = true) :
    (cluster.step operation).1.Orderly ∧ ∀ key, key ∈ (cluster.step operation).1.entries →
      ¬ (cluster.step operation).1.frame.Runs key →
      key ∈ cluster.entries ∧ (operation = .crash key ∨ ¬ cluster.frame.Runs key) := by
  have still (after : Cluster) (proceeds : Proceeds cluster after) : after.Orderly ∧ ∀ key, key ∈ after.entries →
      ¬ after.frame.Runs key → key ∈ cluster.entries ∧ (operation = .crash key ∨ ¬ cluster.frame.Runs key) := by
    refine ⟨proceeds.orderly, fun key present resting => ?_⟩
    exact ⟨(proceeds.leaves key present resting).1, .inr (proceeds.leaves key present resting).2⟩
  cases operation with
  | addNode id =>
      rw [step_add_node]
      exact still _ (orderly.add_node id)
  | crash id =>
      obtain ⟨after, left⟩ := orderly.crash id
      refine ⟨after, fun key present resting => ?_⟩
      obtain ⟨before, crashed⟩ := left key present resting
      exact ⟨before, crashed.imp_left fun same => congrArg Operation.crash same⟩
  | startAll => exact still _ (orderly.start_all)
  | stopAll => exact still _ (orderly.stop_all)
  | setMembershipUnreachable id on =>
      exact still _ (orderly.furnish cluster.bus (cluster.hub.setUnreachable id on) cluster.log rfl fun _ member => member)
  | appoint id =>
      exact still _ (orderly.furnish cluster.bus (cluster.hub.appoint id) cluster.log rfl fun _ member => member)
  | control control => exact still _ (orderly.adjust (adjusted_control cluster control))
  | node id operation =>
      rw [Cluster.step]
      cases found : cluster.find? id with
      | none => exact still _ orderly.refl
      | some place =>
          obtain ⟨k, node⟩ := place
          obtain ⟨located, here⟩ := (cluster.find_eq_some_iff id k node).mp found
          exact still _ (orderly.step_node id k node located here operation ordinary)
  | join _ => cases ordinary
  | leave _ => cases ordinary
  | notify _ => cases ordinary
  | putRaw _ _ _ => cases ordinary

theorem orderly_initial (config : Config) (timeout : Nat) : (initial config timeout).Orderly := by
  have nobody := initial_current config timeout
  exact ⟨synced_initial config timeout, ⟨fun id k _ located => (nobody id k located).elim,
    fun id k located => (nobody id k located).elim, fun id k _ located => (nobody id k located).elim⟩,
    fun id k _ located => (nobody id k located).elim⟩

theorem Orderly.run (orderly : cluster.Orderly) (operations : List Operation)
    (ordinary : ∀ operation ∈ operations, operation.isOrdinary = true) : (cluster.run operations).Orderly := by
  induction operations generalizing cluster with
  | nil => exact orderly
  | cons operation operations ih =>
      refine ih (orderly.step operation (ordinary operation (List.mem_cons_self ..))).1 fun later member => ?_
      exact ordinary later (List.mem_cons_of_mem operation member)

def Attained (cluster : Cluster) : Prop :=
  ∃ config timeout operations, (∀ operation ∈ operations, operation.isOrdinary = true) ∧
    (initial config timeout).run operations = cluster

theorem Attained.orderly (attained : cluster.Attained) : cluster.Orderly := by
  obtain ⟨config, timeout, operations, ordinary, rfl⟩ := attained
  exact (orderly_initial config timeout).run operations ordinary

end Cluster

end Coherence
