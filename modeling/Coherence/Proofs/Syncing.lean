import Coherence.Proofs.Tracking

set_option autoImplicit false

namespace Coherence

open Std

namespace Cluster

structure Synced (cluster : Cluster) : Prop extends cluster.Tracking where
  settled : cluster.frame.Settled

variable {cluster : Cluster}

theorem Tracking.node_of_located (tracking : cluster.Tracking) (id : NodeId) (k : Incarnation)
    (located : cluster.current[id]? = some k) :
    ∃ node, cluster.nodes[k]? = some node ∧ node.id = id ∧ node.standing.Linked k := by
  obtain ⟨standing, found, named⟩ := tracking.allLinked.located id k located
  obtain ⟨node, here, rfl⟩ := cluster.node_of_standing k standing found
  exact ⟨node, here, named, tracking.allLinked.linked id k node.standing located found⟩

theorem Synced.follow {before after : Cluster} (synced : before.Synced) (follows : Follows before after) :
    after.Synced :=
  ⟨synced.toTracking.follow follows, follows.frame ▸ synced.settled⟩

theorem Synced.furnish (synced : cluster.Synced) (bus : Bus Incarnation) (hub : Hub Incarnation)
    (log : List (Incarnation × LogEntry)) : { cluster with bus, hub, log }.Synced :=
  ⟨synced.toTracking.furnish bus hub log, synced.settled⟩

theorem Synced.retain (synced : cluster.Synced) (k : Incarnation) (node fresh : Node)
    (found : cluster.nodes[k]? = some node) (retains : node.Retains fresh) : (cluster.setNode k fresh).Synced := by
  refine ⟨synced.toTracking.retain k node fresh found retains, ?_⟩
  rw [frame_set_node]
  refine synced.settled.replace k node.standing fresh.standing (cluster.standing_of_found k node found) fun _ settled => ?_
  rw [show fresh.standing.state = node.standing.state from retains.state]
  exact settled

theorem Synced.adjust {before after : Cluster} (synced : before.Synced) (adjusted : Adjusted before after) :
    after.Synced := by
  induction adjusted with
  | refl => exact synced
  | wire after bus handlers _ ih => exact ih.furnish bus after.hub after.log
  | node after k node fresh found alike _ ih => exact ih.retain k node fresh found alike.toRetains
  | note after k log _ ih => exact ih.furnish after.bus after.hub _

theorem draws_enrolled (cluster : Cluster) (k : Incarnation) (node : Node) (bus : Bus Incarnation)
    (found : cluster.nodes[k]? = some node) : (cluster.enrolled k node bus).draws = cluster.draws :=
  draws_set_node _ k _ (draws_of_found cluster k node found).symm

theorem draws_lt_recompute (cluster : Cluster) (k : Incarnation) (node : Node) (found : cluster.nodes[k]? = some node) :
    cluster.draws < (cluster.recompute k).draws := by
  apply draws_lt_of_aged cluster _ (follows_recompute cluster k).aged k
  rw [drawsOf, drawsOf, recompute, nodes_amend, if_pos rfl, found]
  dsimp only [Option.map_some, Option.getD_some]
  split <;> exact Nat.lt_succ_self _

theorem enrolled_agrees (cluster : Cluster) (k j : Incarnation) (node : Node) (bus : Bus Incarnation) (other : k ≠ j)
    (agrees : cluster.Agrees j) : (cluster.enrolled k node bus).Agrees j := by
  refine agrees_congr cluster _ j ?_ rfl agrees
  rw [enrolled, nodes_set_node, if_neg other]

-- If all nodes but one track the store, then all do once that one has read it.
theorem Tracking.of_reading (before : Cluster) (k : Incarnation) (node : Node) (found : before.nodes[k]? = some node)
    (allLinked : before.frame.AllLinked) (dated : ∀ j, before.Dated j)
    (attentive : before.draws + 1 < UInt64.size → before.frame.Attentive (before.draws + 1))
    (agrees : before.draws < UInt64.size → ∀ (id : NodeId) (j : Incarnation), before.current[id]? = some j → k ≠ j →
      before.Agrees j)
    (middle : Cluster) (follows : Follows before middle) : (middle.recompute k).Tracking := by
  have reads := follows_recompute middle k
  have both := follows.trans reads
  -- The reading draws one number, which pays for the place that k took among the listeners.
  have more : before.draws < (middle.recompute k).draws := by
    obtain ⟨last, here, _⟩ := node_of_standing middle k _ (follows.frame ▸ before.standing_of_found k node found)
    exact Nat.lt_of_le_of_lt (draws_le_of_aged before middle follows.aged) (draws_lt_recompute middle k last here)
  refine ⟨both.frame ▸ allLinked, fun j => both.dated j (dated j), ?_, ?_⟩
  · intro capacity
    rw [both.frame]
    exact (attentive (Nat.lt_of_le_of_lt more capacity)).mono _ more
  · intro capacity id j located node there running
    have few := Nat.lt_trans more capacity
    have drawn := Nat.lt_of_le_of_lt (draws_of_le (middle.recompute k) j) capacity
    have place : before.current[id]? = some j := by
      rw [← frame_current, ← both.frame]
      exact located
    have seen : before.frame.nodes[j]? = some node.standing := by
      rw [← both.frame]
      exact standing_of_found _ j node there
    have hears := (attentive (Nat.lt_of_le_of_lt more capacity)).hears allLinked id j node.standing place seen
      (node.is_running_iff.mp running)
    by_cases same : k = j
    · subst same
      exact recompute_agrees middle k drawn (follows.frame ▸ hears) (follows.dated k (dated k)) node there running
    · exact both.agrees j drawn hears (dated j) (agrees few id j place same) node there running

theorem Tracking.enroll (tracking : cluster.Tracking) (k : Incarnation) (node : Node) (bus : Bus Incarnation)
    (found : cluster.nodes[k]? = some node) (stopped : node.state = .stopped) :
    (((cluster.enrolled k node bus).publish k).recompute k).Tracking := by
  have standing := cluster.standing_of_found k node found
  have drawn := draws_enrolled cluster k node bus found
  have here : (cluster.enrolled k node bus).nodes[k]? = some _ := (nodes_set_node _ k k _).trans (if_pos rfl)
  refine Tracking.of_reading (cluster.enrolled k node bus) k _ here ?_ ?_ ?_ ?_ _ (follows_publish _ k)
  · rw [frame_enrolled]
    exact (tracking.allLinked.furnish _ _ _).place k node.standing _ standing rfl fun _ _ linked =>
      node.linked_enlisted k _ _ linked stopped
  · exact dated_set_node _ k _ tracking.dated (tracking.dated k node found)
  · rw [drawn, frame_enrolled]
    intro capacity
    exact (tracking.attentive (Nat.lt_of_succ_lt capacity)).enlist k _ _ _ _ rfl rfl capacity
  · rw [drawn]
    intro capacity other j there different
    exact enrolled_agrees cluster k j node bus different (tracking.agrees capacity other j there)

theorem Synced.start (synced : cluster.Synced) (id : NodeId) (k : Incarnation) (located : cluster.current[id]? = some k) :
    (cluster.start k).1.Synced := by
  obtain ⟨node, found, _, linked⟩ := synced.node_of_located id k located
  have started := start_started cluster k node found linked.reachable
  generalize cluster.start k = result at started
  cases started with
  | refused error log => exact synced.furnish cluster.bus cluster.hub log
  | running bus stopped registered =>
      refine ⟨synced.enroll k node bus found stopped, ?_⟩
      rw [((follows_publish _ k).trans (follows_recompute _ k)).frame, frame_enrolled]
      exact Frame.Every.place synced.settled k _ (fun _ _ _ _ _ settled => settled) fun _ _ => .inr rfl

theorem Tracking.end_stop (tracking : cluster.Tracking) (k : Incarnation) (node : Node)
    (found : cluster.nodes[k]? = some node) (resting : node.state ≠ .running) : (cluster.endStop k).Tracking := by
  rw [endStop, modify, amend_found cluster k _ node found]
  have cleared := tracking.replace k node (node.clear.setState .stopped) found rfl (Nat.le_succ _) ?_ ?_ ?_
  · exact cleared.furnish cluster.bus cluster.hub _
  · intro _
    change (UInt64.ofNat (node.draws + 1)).toNat ≤ node.draws + 1
    rw [UInt64.toNat_ofNat']
    exact Nat.mod_le _ _
  · intro linked
    refine ⟨linked.reachable, fun _ => linked.idle resting, ?_⟩
    intro running
    cases running
  · intro running
    cases running

theorem Synced.stop (synced : cluster.Synced) (id : NodeId) (k : Incarnation) (located : cluster.current[id]? = some k) :
    (cluster.stop k).Synced := by
  obtain ⟨node, found, _, linked⟩ := synced.node_of_located id k located
  have standing := cluster.standing_of_found k node found
  cases synced.settled id k node.standing located standing with
  | inl stopped =>
      rw [stop_stopped cluster k node found stopped]
      exact synced
  | inr running =>
      obtain ⟨held, holding, _⟩ := linked.enrolled running
      refine ⟨?_, ?_⟩
      · obtain ⟨log, withdrawn, last, follows, there, same, stopped⟩ :=
          stop_withdraws cluster k node held found running holding
        have dismissed := synced.dismiss k node .stopping held log found
          (fun capacity => (synced.attentive capacity).listens id k node.standing held located standing running holding)
          fun _ _ => ⟨by decide, node.linked_dismissed k held linked running holding .stopping (by decide)⟩
        have resting : last.state ≠ .running := by
          rw [show last.state = last.standing.state from rfl, same]
          exact (by decide : Lifecycle.stopping ≠ Lifecycle.running)
        rw [stopped]
        exact (dismissed.follow follows).end_stop k last there resting
      · rw [frame_stop cluster k node held found running holding, frame_dismissal]
        exact Frame.Every.place synced.settled k _ (fun _ _ _ _ _ settled => settled) fun _ _ => .inl rfl

theorem Synced.current_start (synced : cluster.Synced) (id : NodeId) (k : Incarnation)
    (located : cluster.current[id]? = some k) : (cluster.start k).1.current = cluster.current := by
  obtain ⟨node, found, _, linked⟩ := synced.node_of_located id k located
  have started := start_started cluster k node found linked.reachable
  generalize cluster.start k = result at started
  cases started with
  | refused error log => rfl
  | running bus stopped registered =>
      exact congrArg Frame.current ((follows_publish (cluster.enrolled k node bus) k).trans (follows_recompute _ k)).frame

theorem Synced.current_stop (synced : cluster.Synced) (id : NodeId) (k : Incarnation)
    (located : cluster.current[id]? = some k) : (cluster.stop k).current = cluster.current := by
  obtain ⟨node, found, _, linked⟩ := synced.node_of_located id k located
  cases synced.settled id k node.standing located (cluster.standing_of_found k node found) with
  | inl stopped => rw [stop_stopped cluster k node found stopped]
  | inr running =>
      obtain ⟨held, holding, _⟩ := linked.enrolled running
      exact congrArg Frame.current (frame_stop cluster k node held found running holding)

theorem located_of_incarnation (cluster : Cluster) (k : Incarnation) (member : k ∈ cluster.incarnations) :
    ∃ id : NodeId, cluster.current[id]? = some k := by
  obtain ⟨⟨id, _⟩, entry, rfl⟩ := List.mem_map.mp member
  exact ⟨id, ExtTreeMap.mem_toList_iff_getElem?_eq_some.mp entry⟩

theorem start_all_keeps {P : Cluster → Prop}
    (kept : ∀ cluster (id : NodeId) k, P cluster → cluster.current[id]? = some k →
      P (cluster.start k).1 ∧ (cluster.start k).1.current = cluster.current)
    (ks : List Incarnation) (cluster : Cluster) (holds : P cluster)
    (located : ∀ k ∈ ks, ∃ id : NodeId, cluster.current[id]? = some k) : P (cluster.startAll ks).1 := by
  induction ks generalizing cluster with
  | nil => exact holds
  | cons k rest ih =>
      obtain ⟨id, here⟩ := located k (List.mem_cons_self ..)
      obtain ⟨started, current⟩ := kept cluster id k holds here
      rw [startAll]
      split
      · rename_i after error result
        rw [result] at started
        exact started
      · rename_i after result
        rw [result] at started current
        refine ih after started fun j member => ?_
        rw [current]
        exact located j (List.mem_cons_of_mem k member)

theorem stop_all_keeps {P : Cluster → Prop}
    (kept : ∀ cluster (id : NodeId) k, P cluster → cluster.current[id]? = some k →
      P (cluster.stop k) ∧ (cluster.stop k).current = cluster.current)
    (ks : List Incarnation) (cluster : Cluster) (holds : P cluster)
    (located : ∀ k ∈ ks, ∃ id : NodeId, cluster.current[id]? = some k) : P (ks.foldl Cluster.stop cluster) := by
  induction ks generalizing cluster with
  | nil => exact holds
  | cons k rest ih =>
      obtain ⟨id, here⟩ := located k (List.mem_cons_self ..)
      obtain ⟨stopped, current⟩ := kept cluster id k holds here
      refine ih (cluster.stop k) stopped fun j member => ?_
      rw [current]
      exact located j (List.mem_cons_of_mem k member)

theorem Synced.start_all (synced : cluster.Synced) : (cluster.startAll cluster.incarnations).1.Synced := by
  refine start_all_keeps ?_ cluster.incarnations cluster synced cluster.located_of_incarnation
  exact fun _ id k synced located => ⟨synced.start id k located, synced.current_start id k located⟩

theorem Synced.stop_all (synced : cluster.Synced) : (cluster.incarnations.foldl Cluster.stop cluster).Synced := by
  refine stop_all_keeps ?_ cluster.incarnations cluster synced cluster.located_of_incarnation
  exact fun _ id k synced located => ⟨synced.stop id k located, synced.current_stop id k located⟩

theorem Synced.forget (synced : cluster.Synced) (id : NodeId) :
    { cluster with current := cluster.current.erase id }.Synced :=
  ⟨synced.toTracking.forget id, Frame.Every.forget synced.settled id⟩

theorem Synced.discard (synced : cluster.Synced) (id : NodeId) (k : Incarnation) (located : cluster.current[id]? = some k) :
    ({ cluster with current := cluster.current.erase id }.discard Service.granted k).Synced := by
  obtain ⟨node, found, _, linked⟩ := synced.node_of_located id k located
  have standing := cluster.standing_of_found k node found
  have left := synced.forget id
  have gone (other : NodeId) := synced.allLinked.addressed.gone id other k located
  cases synced.settled id k node.standing located standing with
  | inl stopped =>
      rw [discard_stopped { cluster with current := cluster.current.erase id } k node found stopped]
      exact left
  | inr running =>
      obtain ⟨held, holding, _⟩ := linked.enrolled running
      obtain ⟨log, discarded⟩ := discard_running { cluster with current := cluster.current.erase id } k node held found
        running holding
      rw [discarded]
      refine ⟨left.dismiss k node node.state held log found ?_ ?_, ?_⟩
      · exact fun capacity => (synced.attentive capacity).listens id k node.standing held located standing running holding
      · exact fun other there => absurd there (gone other)
      · rw [frame_dismissal]
        exact Frame.Every.place left.settled k _ (fun _ _ _ _ _ settled => settled) fun other there =>
          absurd there (gone other)

theorem Synced.leave (synced : cluster.Synced) (id : NodeId) : (cluster.leave id).Synced := by
  rw [Cluster.leave]
  split
  · exact synced
  · exact (synced.furnish cluster.bus _ cluster.log).follow (follows_notify _ _)

theorem Synced.crash (synced : cluster.Synced) (id : NodeId) : (cluster.crash id).Synced := by
  rw [Cluster.crash]
  split
  · exact synced.leave id
  · rename_i k located
    exact (synced.discard id k located).leave id

theorem Synced.join (synced : cluster.Synced) (id : NodeId) : (cluster.join id).Synced :=
  (synced.furnish cluster.bus _ cluster.log).follow (follows_notify _ _)

def added (cluster : Cluster) (id : NodeId) : Cluster :=
  { cluster.setNode cluster.nodes.size (.create id) with current := cluster.current.insert id cluster.nodes.size }

theorem frame_added (cluster : Cluster) (id : NodeId) :
    (cluster.added id).frame = cluster.frame.added id (Node.create id).standing := by
  rw [Frame.added, frame_size]
  exact congrArg (fun frame : Frame => { frame with current := cluster.current.insert id cluster.nodes.size })
    (frame_set_node cluster cluster.nodes.size (.create id))

theorem Synced.add (synced : cluster.Synced) (id : NodeId) : (cluster.added id).Synced := by
  have fresh : cluster.nodes[cluster.nodes.size]? = none := by
    apply ExtTreeMap.getElem?_eq_none
    intro member
    have there : cluster.nodes.size ∈ cluster.frame.nodes := by simpa [frame] using member
    exact Nat.lt_irrefl _ (cluster.frame_size ▸ synced.allLinked.numbered _ there)
  have drawn : (cluster.added id).draws = cluster.draws := by
    refine draws_set_node cluster cluster.nodes.size (.create id) ?_
    rw [drawsOf, fresh]
    rfl
  refine ⟨⟨?_, ?_, ?_, ?_⟩, ?_⟩
  · rw [frame_added]
    exact synced.allLinked.create id _ rfl (Node.linked_created id _)
  · exact dated_set_node cluster _ _ synced.dated (Nat.zero_le _)
  · rw [drawn, frame_added]
    exact fun capacity => (synced.attentive capacity).create synced.allLinked.addressed id _
      (by decide : Lifecycle.stopped ≠ Lifecycle.running)
  · rw [drawn]
    intro capacity other j located node found running
    rw [show (cluster.added id).nodes = (cluster.setNode cluster.nodes.size (.create id)).nodes from rfl,
      nodes_set_node] at found
    rw [← frame_current, frame_added] at located
    cases Frame.located_of_added id other j _ located with
    | inl here =>
        rw [if_pos (cluster.frame_size ▸ here.2), Option.some.injEq] at found
        subst found
        cases running
    | inr there =>
        have different := synced.allLinked.addressed.fresh_not_current other j there
        rw [cluster.frame_size] at different
        rw [if_neg (Ne.symm different)] at found
        exact synced.agrees capacity other j there node found running
  · rw [frame_added]
    exact Frame.Every.create synced.settled synced.allLinked.addressed id _ (.inl rfl)

theorem Synced.add_node (synced : cluster.Synced) (id : NodeId) : (cluster.addNode id).1.Synced := by
  have joined := synced.join id
  rw [addNode]
  dsimp only
  split
  · exact joined
  · split
    · exact joined
    · exact joined.add id

theorem Synced.change_groups (synced : cluster.Synced) (k : Incarnation)
    (change : Registry Incarnation → Option (Registry Incarnation))
    (listeners : ∀ registry changed, change registry = some changed → changed.listeners = registry.listeners) :
    (cluster.changeGroups k change).Synced := by
  rw [changeGroups]
  split
  · exact synced
  · rename_i node found
    split
    · exact synced
    · rename_i registry changed
      have retains := node.retains_set_registry registry (listeners _ _ changed)
      exact (synced.retain k node _ found retains).follow (follows_foldl groupsChanged follows_groups_changed _ _)

theorem create_group_listeners (group : Group) (registry changed : Registry Incarnation)
    (created : registry.createGroup? group = some changed) : changed.listeners = registry.listeners := by
  rw [Registry.createGroup?] at created
  split at created
  · cases created
  · cases created
    rfl

theorem drop_group_listeners (group : Group) (registry changed : Registry Incarnation)
    (dropped : registry.dropGroup? group = some changed) : changed.listeners = registry.listeners := by
  rw [Registry.dropGroup?] at dropped
  split at dropped
  · cases dropped
    rfl
  · cases dropped

theorem Synced.modify_replica (synced : cluster.Synced) (k : Incarnation) (change : Replica → Replica)
    (reachable : ∀ replica, replica.unreachable = false → (change replica).unreachable = false) :
    (cluster.modifyReplica k change).Synced := by
  rw [modifyReplica, modify]
  cases found : cluster.nodes[k]? with
  | none =>
      rw [amend_missing cluster k _ found]
      exact synced
  | some node =>
      rw [amend_found cluster k _ node found]
      have retains : node.Retains { node with replica := change node.replica } :=
        ⟨rfl, rfl, rfl, rfl, rfl, rfl, reachable node.replica⟩
      exact (synced.retain k node _ found retains).furnish cluster.bus cluster.hub _

theorem Synced.step_node (synced : cluster.Synced) (id : NodeId) (k : Incarnation) (node : Node)
    (located : cluster.current[id]? = some k) (found : cluster.nodes[k]? = some node) (operation : NodeOperation)
    (connected : operation ≠ .setStoreUnreachable true) : (cluster.stepNode k node operation).1.Synced := by
  cases operation with
  | start => exact synced.start id k located
  | stop => exact synced.stop id k located
  | createGroup group => exact synced.change_groups k _ (create_group_listeners group)
  | dropGroup group => exact synced.change_groups k _ (drop_group_listeners group)
  | put group key =>
      rw [stepNode]
      split
      · exact synced
      · rename_i registry cached
        have kept := Registry.alike_put node.registry registry group key cached
        exact synced.retain k node _ found (node.retains_set_registry registry kept.1)
  | setRejecting on => exact synced.retain k node _ found (node.retains_set_registry _ rfl)
  | send event mode => exact synced.adjust (adjusted_send cluster k event mode)
  | invalidate event mode => exact synced.adjust (adjusted_invalidate cluster k event mode)
  | receive event => exact synced.adjust (adjusted_receive cluster k event)
  | publish => exact synced.follow (follows_publish cluster k)
  | storeChanged => exact synced.follow (follows_store_changed cluster k)
  | membershipChanged members => exact synced.follow (follows_membership_changed _ cluster k)
  | setStoreUnreachable on =>
      cases on with
      | true => exact absurd rfl connected
      | false => exact synced.modify_replica k (fun replica => { replica with unreachable := false }) fun _ _ => rfl
  | rejectKey key =>
      exact synced.modify_replica k (fun replica => { replica with rejected := replica.rejected.insert key })
        fun _ reachable => reachable
  | write mutation => exact synced.follow (follows_mutate cluster k mutation)
  | squat => exact synced.furnish _ cluster.hub cluster.log
  | unregister => exact synced.furnish _ cluster.hub cluster.log

def Operation.cutsStore : Operation → Bool
  | .node _ (.setStoreUnreachable on) => on
  | _ => false

theorem step_add_node (cluster : Cluster) (id : NodeId) : (cluster.step (.addNode id)).1 = (cluster.addNode id).1 := by
  rw [step]
  dsimp only
  split <;> rfl

theorem Synced.step (synced : cluster.Synced) (operation : Operation) (connected : operation.cutsStore = false) :
    (cluster.step operation).1.Synced := by
  cases operation with
  | addNode id =>
      rw [step_add_node]
      exact synced.add_node id
  | crash id => exact synced.crash id
  | startAll => exact synced.start_all
  | stopAll => exact synced.stop_all
  | join id => exact synced.join id
  | leave id => exact synced.leave id
  | notify members => exact synced.follow (follows_notify cluster _)
  | setMembershipUnreachable id on => exact synced.furnish cluster.bus _ cluster.log
  | appoint id => exact synced.furnish cluster.bus _ cluster.log
  | putRaw channel key value => exact synced.follow (follows_put_raw cluster channel key value)
  | control control => exact synced.adjust (adjusted_control cluster control)
  | node id operation =>
      rw [Cluster.step]
      split
      · exact synced
      · rename_i k node found
        obtain ⟨located, here⟩ := (cluster.find_eq_some_iff id k node).mp found
        refine synced.step_node id k node located here operation ?_
        rintro rfl
        cases connected

def initial (config : Config) (timeout : Nat) : Cluster := { config, bus := { timeout } }

theorem initial_nodes (config : Config) (timeout : Nat) (k : Incarnation) : (initial config timeout).nodes[k]? = none :=
  ExtTreeMap.getElem?_empty

theorem initial_current (config : Config) (timeout : Nat) (id : NodeId) (k : Incarnation)
    (located : (initial config timeout).current[id]? = some k) : False := by
  rw [show (initial config timeout).current[id]? = none from ExtTreeMap.getElem?_empty] at located
  cases located

theorem synced_initial (config : Config) (timeout : Nat) : (initial config timeout).Synced := by
  have nobody := initial_current config timeout
  refine ⟨⟨⟨?_, fun id k located => (nobody id k located).elim, fun id k _ located => (nobody id k located).elim⟩,
    ?_, ?_, fun _ id k located => (nobody id k located).elim⟩, fun id k _ located => (nobody id k located).elim⟩
  · intro k member
    rw [ExtTreeMap.mem_iff_isSome_getElem?, frame_nodes, initial_nodes] at member
    cases member
  · intro k node found
    rw [initial_nodes] at found
    cases found
  · intro _
    refine ⟨fun id k _ located => (nobody id k located).elim, ?_, Nat.zero_le _⟩
    intro number member
    simp [initial, Frame.subscribers] at member

theorem run_append (cluster : Cluster) (first second : List Operation) :
    cluster.run (first ++ second) = (cluster.run first).run second :=
  List.foldl_append

theorem Synced.run (synced : cluster.Synced) (operations : List Operation)
    (connected : ∀ operation ∈ operations, operation.cutsStore = false) : (cluster.run operations).Synced := by
  induction operations generalizing cluster with
  | nil => exact synced
  | cons operation operations ih =>
      refine ih (synced.step operation (connected operation (List.mem_cons_self ..))) fun later member => ?_
      exact connected later (List.mem_cons_of_mem operation member)

end Cluster

end Coherence
