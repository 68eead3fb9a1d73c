import Coherence.Proofs.ResourceInvariant

set_option autoImplicit false

namespace Coherence

open Std

namespace Cluster

variable {cluster : Cluster} {loyal : Prop} {debt : Nat}

theorem Drifts.sound {before after : Cluster} (drifts : Drifts loyal before after)
    (sound : before.ResourcesSound loyal debt) :
    after.ResourcesSound loyal debt := by
  induction drifts with
  | refl => exact sound
  | note after k log _ ih => exact ih.furnish after.bus after.hub _ ih.trackedOnce fun _ _ => rfl
  | node after k node fresh found abides _ ih => exact ih.abide k node fresh found abides
  | store after store listeners _ ih => exact ih.restock store listeners
  | wire after operation traffic _ ih =>
      refine ih.furnish _ after.hub after.log (ih.trackedOnce.step operation) fun keeps channel => ?_
      rw [Bus.handlersOn, after.bus.handlers_step operation (traffic keeps)]
      rfl
  | hub after hub _ _ ih => exact ih.furnish after.bus hub after.log ih.trackedOnce fun _ _ => rfl
  | leave after id hub _ _ _ ih => exact ih.furnish after.bus hub after.log ih.trackedOnce fun _ _ => rfl
  | create after id absent _ ih => exact ih.create id absent
  | forget after id k node located found stopped _ ih => exact ih.forget id k node located found stopped
  | discard after id k node held log located found named running holding _ ih =>
      subst named
      have same : node.setState .running = node := by rw [← running]; rfl
      have dismissed := ih.dismiss k node .running held log (after.current.erase node.id) located found running holding
        (by decide) (fun other j there => (Frame.located_of_erased node.id other j there).2)
        (fun other j there different =>
          (found_erase_other _ node.id other (Frame.name_apart node.id other k j located there different)).trans there)
        (fun other there => absurd there (ih.addressed.gone node.id other k located))
      rwa [same] at dismissed

def lifecycle (cluster : Cluster) (k : Incarnation) : Lifecycle := cluster.nodes[k]?.elim .stopped Node.state

theorem lifecycle_found (k : Incarnation) (node : Node) (found : cluster.nodes[k]? = some node) :
    cluster.lifecycle k = node.state := by
  rw [lifecycle, found]
  rfl

theorem running_of_lifecycle (k : Incarnation) (running : cluster.lifecycle k = .running) :
    ∃ node, cluster.nodes[k]? = some node ∧ node.state = .running := by
  rw [lifecycle] at running
  cases found : cluster.nodes[k]? with
  | none =>
      rw [found] at running
      cases running
  | some node =>
      rw [found] at running
      exact ⟨node, rfl, running⟩

theorem lifecycle_set_node (k j : Incarnation) (node : Node) :
    (cluster.setNode k node).lifecycle j = if k = j then node.state else cluster.lifecycle j := by
  rw [lifecycle, nodes_set_node]
  split <;> rfl

theorem lifecycle_replace (k j : Incarnation) (node fresh : Node) (found : cluster.nodes[k]? = some node)
    (state : fresh.state = node.state) : (cluster.setNode k fresh).lifecycle j = cluster.lifecycle j := by
  rw [lifecycle_set_node]
  split
  · rename_i same
    rw [state, ← same, lifecycle_found k node found]
  · rfl

theorem Drifts.lifecycle {before after : Cluster} (drifts : Drifts loyal before after)
    (sound : before.ResourcesSound loyal debt) (k : Incarnation) : after.lifecycle k = before.lifecycle k := by
  induction drifts with
  | refl => rfl
  | note after j log _ ih => exact ih
  | node after j node fresh found abides _ ih => exact (lifecycle_replace j k node fresh found abides.state).trans ih
  | store after store listeners _ ih => exact ih
  | wire after operation traffic _ ih => exact ih
  | hub after hub _ _ ih => exact ih
  | leave after id hub _ _ _ ih => exact ih
  | create after id absent earlier ih =>
      rw [← ih]
      change (after.setNode after.nodes.size (.create id)).lifecycle k = _
      rw [lifecycle_set_node]
      split
      · rename_i same
        rw [Cluster.lifecycle, ← same, (earlier.sound sound).vacancy]
        rfl
      · rfl
  | forget after id j node _ _ _ _ ih => exact ih
  | discard after id j node held log _ found _ _ _ _ ih =>
      exact (lifecycle_replace j k node (node.dismissed held) found rfl).trans ih

theorem Drifts.dated {before after : Cluster} (drifts : Drifts loyal before after) (dated : ∀ k, before.Dated k) :
    ∀ k, after.Dated k := by
  induction drifts with
  | refl => exact dated
  | note after k log _ ih => exact ih
  | node after k node fresh found abides _ ih => exact dated_set_node after k fresh ih (abides.dated (ih k node found))
  | store after store listeners _ ih => exact ih
  | wire after operation traffic _ ih => exact ih
  | hub after hub _ _ ih => exact ih
  | leave after id hub _ _ _ ih => exact ih
  | create after id absent _ ih => exact dated_set_node after after.nodes.size (.create id) ih (Nat.le_refl 0)
  | forget after id k node _ _ _ _ ih => exact ih
  | discard after id k node held log _ found _ _ _ _ ih =>
      exact dated_set_node after k (node.dismissed held) ih (ih k node found)

-- Reading the store draws the number that was owed.
theorem ResourcesSound.settle (sound : cluster.ResourcesSound loyal 1) (k : Incarnation) (node : Node)
    (found : cluster.nodes[k]? = some node)
    (running : node.state = .running) : (cluster.recompute k).ResourcesSound loyal 0 := by
  have drifts : Drifts loyal cluster (cluster.recompute k) := by
    refine drifts_recompute cluster k fun other there => ?_
    rw [found, Option.some.injEq] at there
    rw [← there, running]
  have after := drifts.sound sound
  refine ⟨after.trackedOnce, after.addressed, after.registryMatches, after.present, after.cleared, after.answering,
    after.heard, ?_⟩
  intro capacity
  have drawn : cluster.draws + 1 ≤ (cluster.recompute k).draws := draws_lt_recompute cluster k node found
  rw [(follows_recompute cluster k).frame]
  exact (sound.attentive (Nat.lt_of_le_of_lt drawn capacity)).mono _ drawn

theorem resources_sound_failed {k : Incarnation} {node : Node} {result : Cluster × Except Error Unit}
    (sound : cluster.ResourcesSound loyal 0)
    (found : cluster.nodes[k]? = some node) (failed : Failed cluster k node result) : result.1.ResourcesSound loyal 0 := by
  cases failed with
  | refused error log => exact sound.furnish cluster.bus cluster.hub log sound.trackedOnce fun _ _ => rfl
  | retried error log bus stopped registered =>
      obtain ⟨handlers, rewired⟩ := Bus.registered_eq cluster.bus bus cluster.channel node.id k registered
      have trackedOnce : (bus.without cluster.channel node.id).TrackedOnce := by
        rw [rewired]
        exact sound.trackedOnce.rewire _
      have wired := sound.furnish (bus.without cluster.channel node.id) cluster.hub log trackedOnce fun _ channel =>
        Bus.handlers_on_rolled_back cluster.bus bus cluster.channel channel node.id k registered
      exact wired.replace k node (node.retried k) found rfl Iff.rfl rfl (Nat.le_refl _)
        ((sound.registryMatches k node found).retry stopped) (sound.cleared k node found)

theorem resources_sound_start (sound : cluster.ResourcesSound loyal 0) (id : NodeId) (k : Incarnation)
    (located : cluster.current[id]? = some k) :
    (cluster.start k).1.ResourcesSound loyal 0 := by
  obtain ⟨node, found, rfl⟩ := node_of_located sound.addressed id k located
  by_cases cut : node.replica.unreachable = true
  · exact resources_sound_failed sound found (start_unreachable cluster k node found cut)
  · have started := start_started cluster k node found (by simpa using cut)
    generalize cluster.start k = result at started
    cases started with
    | refused error log => exact resources_sound_failed sound found (.refused error log)
    | running bus stopped registered =>
        have enlisted := sound.enlist k node bus located found stopped registered
        have published := (drifts_publish (cluster.enrolled k node bus) k).sound enlisted
        have running : ((cluster.enrolled k node bus).publish k).lifecycle k = .running := by
          rw [(drifts_publish (cluster.enrolled k node bus) k).lifecycle enlisted k]
          exact (lifecycle_set_node k k _).trans (if_pos rfl)
        obtain ⟨later, there, runs⟩ := running_of_lifecycle k running
        exact published.settle k later there runs

theorem dated_start (dated : ∀ j, cluster.Dated j) (k : Incarnation) (node : Node) (found : cluster.nodes[k]? = some node) :
    ∀ j, (cluster.start k).1.Dated j := by
  have known := dated k node found
  by_cases cut : node.replica.unreachable = true
  · have failed := start_unreachable cluster k node found cut
    generalize cluster.start k = result at failed
    cases failed with
    | refused error log => exact dated
    | retried error log bus stopped registered => exact dated_set_node _ k (node.retried k) dated known
  · have started := start_started cluster k node found (by simpa using cut)
    generalize cluster.start k = result at started
    cases started with
    | refused error log => exact dated
    | running bus stopped registered =>
        have enrolled : ∀ j, (cluster.enrolled k node bus).Dated j := dated_set_node _ k (node.enlisted k _ _) dated known
        have follows := (follows_publish (cluster.enrolled k node bus) k).trans (follows_recompute _ k)
        exact fun j => follows.dated j (enrolled j)

theorem drifts_withdraw (cluster : Cluster) (k : Incarnation) (owner : NodeId) :
    Drifts loyal cluster ((cluster.mutate k (.remove owner)).1.amend k (·.withdrawn (cluster.mutate k (.remove owner)).2)) :=
  (drifts_mutate cluster k (.remove owner)).trans (drifts_amend _ k _ fun node _ => node.abides_withdrawn _)

theorem ResourcesSound.rest (sound : cluster.ResourcesSound loyal debt) (k : Incarnation)
    (stopping : cluster.lifecycle k = .stopping) :
    (cluster.endStop k).ResourcesSound loyal debt := by
  cases found : cluster.nodes[k]? with
  | none =>
      rw [endStop, modify, amend_missing cluster k _ found]
      exact sound
  | some node =>
      rw [lifecycle_found k node found] at stopping
      have resting : node.state ≠ .running := by simp [stopping]
      have registryMatches := sound.registryMatches k node found
      rw [endStop, modify, amend_found cluster k _ node found]
      have rested := sound.replace k node (node.clear.setState .stopped) found rfl
        (iff_of_false (by decide : Lifecycle.stopped ≠ .running) resting) rfl (Nat.le_succ _)
        (registryMatches.rest resting) fun _ => rfl
      exact rested.furnish cluster.bus cluster.hub _ sound.trackedOnce fun _ _ => rfl

theorem resources_sound_stop (sound : cluster.ResourcesSound loyal 0) (hubSound : cluster.frame.HubSoundIf loyal)
    (id : NodeId) (k : Incarnation)
    (located : cluster.current[id]? = some k) : (cluster.stop k).ResourcesSound loyal 0 := by
  obtain ⟨node, found, rfl⟩ := node_of_located sound.addressed id k located
  have standing := cluster.standing_of_found k node found
  cases hubSound.settled node.id k node.standing located standing with
  | inl stopped =>
      rw [stop_stopped cluster k node found stopped]
      exact sound
  | inr running =>
      obtain ⟨held, holding, _⟩ := hubSound.holding node.id k node.standing located standing running
      obtain ⟨log, stopped⟩ := stop_running cluster k node held found running holding
      have dismissed := sound.dismiss k node .stopping held log cluster.current located found running holding (by decide)
        (fun _ _ there => there) (fun _ _ there _ => there) (fun _ _ => by decide)
      have withdraws : Drifts loyal (cluster.dismissal k (node.setState .stopping) held log) _ :=
        drifts_withdraw _ k node.id
      rw [stopped]
      refine (withdraws.sound dismissed).rest k ?_
      rw [withdraws.lifecycle dismissed k]
      exact (lifecycle_set_node k k _).trans (if_pos rfl)

theorem dated_end_stop (dated : ∀ j, cluster.Dated j) (k : Incarnation) : ∀ j, (cluster.endStop k).Dated j := by
  cases found : cluster.nodes[k]? with
  | none =>
      rw [endStop, modify, amend_missing cluster k _ found]
      exact dated
  | some node =>
      rw [endStop, modify, amend_found cluster k _ node found]
      refine dated_set_node cluster k (node.clear.setState .stopped) dated ?_
      change (UInt64.ofNat (node.draws + 1)).toNat ≤ node.draws + 1
      rw [UInt64.toNat_ofNat']
      exact Nat.mod_le _ _

theorem dated_stop (dated : ∀ j, cluster.Dated j) (hubSound : cluster.frame.HubSoundIf loyal) (id : NodeId) (k : Incarnation)
    (located : cluster.current[id]? = some k) : ∀ j, (cluster.stop k).Dated j := by
  obtain ⟨node, found, named⟩ := node_of_located hubSound.toAddressed id k located
  have standing := cluster.standing_of_found k node found
  cases hubSound.settled id k node.standing located standing with
  | inl stopped =>
      rw [stop_stopped cluster k node found stopped]
      exact dated
  | inr running =>
      obtain ⟨held, holding, _⟩ := hubSound.holding id k node.standing located standing running
      obtain ⟨log, stopped⟩ := stop_running cluster k node held found running holding
      have dismissed : ∀ j, (cluster.dismissal k (node.setState .stopping) held log).Dated j :=
        dated_set_node _ k ((node.setState .stopping).dismissed held) dated (dated k node found)
      have withdraws : Drifts loyal (cluster.dismissal k (node.setState .stopping) held log) _ :=
        drifts_withdraw _ k node.id
      rw [stopped]
      exact dated_end_stop (withdraws.dated dismissed) k

def NodeOperation.steers : NodeOperation → Bool
  | .start => true
  | .stop => true
  | _ => false

def Operation.steers : Operation → Bool
  | .startAll => true
  | .stopAll => true
  | .node _ operation => operation.steers
  | _ => false

-- What interferes with the handlers on the bus, or with who is a member, in place of the bridges.
def NodeOperation.meddles : NodeOperation → Bool
  | .squat => true
  | .unregister => true
  | _ => false

def Operation.meddles : Operation → Bool
  | .leave _ => true
  | .node _ operation => operation.meddles
  | _ => false

theorem drifts_discard (hubSound : cluster.frame.HubSoundIf loyal) (id : NodeId) (k : Incarnation)
    (located : cluster.current[id]? = some k) :
    Drifts loyal cluster ({ cluster with current := cluster.current.erase id }.discard Service.granted k) := by
  obtain ⟨node, found, named⟩ := node_of_located hubSound.toAddressed id k located
  have standing := cluster.standing_of_found k node found
  cases hubSound.settled id k node.standing located standing with
  | inl stopped =>
      rw [discard_stopped { cluster with current := cluster.current.erase id } k node found stopped]
      exact .forget cluster id k node located found stopped .refl
  | inr running =>
      obtain ⟨held, holding, _⟩ := hubSound.holding id k node.standing located standing running
      obtain ⟨log, discarded⟩ := discard_running { cluster with current := cluster.current.erase id } k node held found
        running holding
      rw [discarded]
      exact .discard cluster id k node held log located found named running holding .refl

theorem drifts_crash (hubSound : cluster.frame.HubSoundIf loyal) (id : NodeId) : Drifts loyal cluster (cluster.crash id) := by
  rw [Cluster.crash]
  cases located : cluster.current[id]? with
  | none => exact drifts_leave cluster id fun _ => located
  | some k =>
      refine (drifts_discard hubSound id k located).trans (drifts_leave _ id fun _ => ?_)
      rw [current_discard]
      exact ExtTreeMap.getElem?_erase_self

theorem drifts_add_node (cluster : Cluster) (id : NodeId) : Drifts loyal cluster (cluster.addNode id).1 := by
  have joined : Drifts loyal cluster (cluster.join id) := drifts_join cluster id
  rw [addNode]
  dsimp only
  split
  · exact joined
  · split
    · exact joined
    · rename_i absent
      exact .create _ id (ExtTreeMap.getElem?_eq_none absent) joined

theorem drifts_modify_replica (cluster : Cluster) (k : Incarnation) (change : Replica → Replica) :
    Drifts loyal cluster (cluster.modifyReplica k change) := by
  rw [modifyReplica, modify]
  exact drifts_amend cluster k _ fun _ _ => ⟨rfl, rfl, rfl, rfl, Nat.le_refl _, fun dated => dated, fun _ => rfl⟩

theorem drifts_step_node (k : Incarnation) (node : Node) (found : cluster.nodes[k]? = some node) (operation : NodeOperation)
    (free : operation.steers = false) (kept : loyal → operation.meddles = false) :
    Drifts loyal cluster (cluster.stepNode k node operation).1 := by
  cases operation with
  | start => cases free
  | stop => cases free
  | createGroup group => exact drifts_change_groups cluster k _ (create_group_listeners group)
  | dropGroup group => exact drifts_change_groups cluster k _ (drop_group_listeners group)
  | put group key =>
      rw [stepNode]
      split
      · exact .refl
      · rename_i registry cached
        have listeners := (Registry.alike_put node.registry registry group key cached).1
        exact .node cluster k node _ found (node.retains_set_registry registry listeners).abides .refl
  | setRejecting on =>
      exact .node cluster k node _ found (node.retains_set_registry { node.registry with rejecting := on } rfl).abides .refl
  | send event mode => exact drifts_send cluster k event mode
  | invalidate event mode => exact drifts_invalidate cluster k event mode
  | receive event => exact drifts_receive cluster k event
  | publish => exact drifts_publish cluster k
  | storeChanged => exact drifts_store_changed cluster k
  | membershipChanged members => exact drifts_membership_changed _ cluster k
  | setStoreUnreachable on => exact drifts_modify_replica cluster k fun replica => { replica with unreachable := on }
  | rejectKey key =>
      exact drifts_modify_replica cluster k fun replica => { replica with rejected := replica.rejected.insert key }
  | write mutation => exact drifts_mutate cluster k mutation
  | squat => exact .wire cluster (.register cluster.channel node.id k) (fun keeps => by cases kept keeps) .refl
  | unregister => exact .wire cluster (.unregister cluster.channel node.id) (fun keeps => by cases kept keeps) .refl

theorem drifts_step (hubSound : cluster.frame.HubSoundIf loyal) (operation : Operation) (free : operation.steers = false)
    (kept : loyal → operation.meddles = false) : Drifts loyal cluster (cluster.step operation).1 := by
  cases operation with
  | addNode id =>
      rw [step_add_node]
      exact drifts_add_node cluster id
  | crash id => exact drifts_crash hubSound id
  | startAll => cases free
  | stopAll => cases free
  | join id => exact drifts_join cluster id
  | leave id => exact drifts_leave cluster id fun keeps => by cases kept keeps
  | notify members => exact drifts_notify cluster _
  | setMembershipUnreachable id on => exact .hub cluster _ rfl .refl
  | appoint id => exact .hub cluster _ rfl .refl
  | putRaw channel key value => exact drifts_put_raw cluster channel key value
  | control control => exact drifts_control cluster control
  | node id operation =>
      rw [Cluster.step]
      split
      · exact .refl
      · rename_i k node found
        exact drifts_step_node k node ((cluster.find_eq_some_iff id k node).mp found).2 operation free kept

-- What holds of every cluster between two operations.
structure Upheld (loyal : Prop) (cluster : Cluster) : Prop where
  sound : cluster.ResourcesSound loyal 0
  hubSound : cluster.frame.HubSoundIf loyal
  dated : ∀ k, cluster.Dated k

namespace Upheld

theorem start (upheld : cluster.Upheld loyal) (id : NodeId) (k : Incarnation) (located : cluster.current[id]? = some k) :
    (cluster.start k).1.Upheld loyal ∧ (cluster.start k).1.current = cluster.current := by
  have hubSound := hub_sound_start upheld.hubSound id k located
  obtain ⟨node, found, _⟩ := node_of_located upheld.sound.addressed id k located
  exact ⟨⟨resources_sound_start upheld.sound id k located, hubSound.1, dated_start upheld.dated k node found⟩, hubSound.2⟩

theorem stop (upheld : cluster.Upheld loyal) (id : NodeId) (k : Incarnation) (located : cluster.current[id]? = some k) :
    (cluster.stop k).Upheld loyal ∧ (cluster.stop k).current = cluster.current := by
  have hubSound := hub_sound_stop upheld.hubSound id k located
  have dated := dated_stop upheld.dated upheld.hubSound id k located
  exact ⟨⟨resources_sound_stop upheld.sound upheld.hubSound id k located, hubSound.1, dated⟩, hubSound.2⟩

theorem steer (upheld : cluster.Upheld loyal) (operation : Operation) (steers : operation.steers = true) :
    (cluster.step operation).1.Upheld loyal := by
  cases operation with
  | startAll =>
      exact start_all_keeps (fun _ id k upheld located => upheld.start id k located) cluster.incarnations cluster upheld
        cluster.located_of_incarnation
  | stopAll =>
      exact stop_all_keeps (fun _ id k upheld located => upheld.stop id k located) cluster.incarnations cluster upheld
        cluster.located_of_incarnation
  | node id operation =>
      rw [Cluster.step]
      split
      · exact upheld
      · rename_i k node found
        have located := ((cluster.find_eq_some_iff id k node).mp found).1
        cases operation with
        | start => exact (upheld.start id k located).1
        | stop => exact (upheld.stop id k located).1
        | _ => cases steers
  | _ => cases steers

theorem step (upheld : cluster.Upheld loyal) (operation : Operation) (kept : loyal → operation.meddles = false) :
    (cluster.step operation).1.Upheld loyal := by
  cases steers : operation.steers with
  | true => exact upheld.steer operation steers
  | false =>
      have drifts := drifts_step upheld.hubSound operation steers kept
      refine ⟨drifts.sound upheld.sound, ?_, drifts.dated upheld.dated⟩
      refine hub_sound_step upheld.hubSound operation fun keeps => ?_
      cases operation with
      | leave id => cases kept keeps
      | _ => rfl

theorem run (upheld : cluster.Upheld loyal) (operations : List Operation)
    (kept : loyal → ∀ operation ∈ operations, operation.meddles = false) : (cluster.run operations).Upheld loyal := by
  induction operations generalizing cluster with
  | nil => exact upheld
  | cons operation operations ih =>
      refine ih (upheld.step operation fun keeps => kept keeps operation (List.mem_cons_self ..)) ?_
      exact fun keeps later member => kept keeps later (List.mem_cons_of_mem operation member)

end Upheld

theorem resources_sound_initial (config : Config) (timeout : Nat) : (initial config timeout).ResourcesSound loyal 0 := by
  have nobody := initial_nodes config timeout
  have synced := synced_initial config timeout
  refine ⟨Bus.tracked_once_initial timeout, synced.allLinked.addressed, ?_, ?_, ?_, ?_, ?_, ?_⟩
  · exact fun k node found => absurd found (by simp [nobody])
  · exact fun k node found => absurd found (by simp [nobody])
  · exact fun k node found => absurd found (by simp [nobody])
  · intro _ channel name k
    have vacant : ((initial config timeout).bus.handlersOn channel)[name]? = none := by
      simp [initial, Bus.handlersOn]
    rw [vacant]
    refine iff_of_false (by simp) ?_
    rintro ⟨_, located, _⟩
    exact initial_current config timeout name k located
  · intro channel number k present
    simp [initial, Store.listenersOf] at present
  · exact fun capacity => synced.attentive capacity

theorem upheld_run (loyal : Prop) (config : Config) (timeout : Nat) (operations : List Operation)
    (kept : loyal → ∀ operation ∈ operations, operation.meddles = false) :
    ((initial config timeout).run operations).Upheld loyal := by
  have synced := synced_initial config timeout
  exact Upheld.run ⟨resources_sound_initial config timeout, hub_sound_initial config timeout, synced.dated⟩ operations kept

end Cluster

end Coherence
