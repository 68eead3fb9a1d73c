import Coherence.Proofs.Circles
import Coherence.Proofs.Syncing

set_option autoImplicit false

namespace Coherence

open Std

namespace Frame

-- Whoever listens to the membership runs and holds the handle for it; whoever is loyal and runs listens.
structure HubSound (frame : Frame) (loyal : NodeId → Prop) : Prop extends frame.Addressed where
  settled : frame.Settled
  holding : frame.Every fun id _ standing => standing.state = .running →
    ∃ held, standing.held = some held ∧ held.hub.node = id
  listed : ∀ handle k, frame.hub.Lists handle k → frame.current[handle.node]? = some k ∧
    ∃ standing held, frame.nodes[k]? = some standing ∧ standing.state = .running ∧ standing.held = some held ∧
      held.hub = handle
  listening : frame.Every fun id k standing => loyal id → standing.state = .running →
    ∃ held, standing.held = some held ∧ frame.hub.Lists held.hub k

-- Either all of them only leave by crashing, or nothing is known of any.
abbrev HubSoundIf (frame : Frame) (loyal : Prop) : Prop := frame.HubSound fun _ => loyal

variable {frame : Frame} {loyal : NodeId → Prop}

theorem HubSoundIf.present {always : Prop} (hubSound : frame.HubSoundIf always) (keeps : always) :
    frame.Every fun _ k standing => standing.state = .running →
      ∃ held, standing.held = some held ∧ frame.hub.Lists held.hub k :=
  hubSound.listening.imp fun _ _ _ listening => listening keeps

namespace HubSound

theorem handle_unique (hubSound : frame.HubSound loyal) (handle other : Hub.Handle) (k : Incarnation)
    (lists : frame.hub.Lists handle k) (also : frame.hub.Lists other k) : handle = other := by
  obtain ⟨_, standing, held, found, _, holding, rfl⟩ := hubSound.listed handle k lists
  obtain ⟨_, same, again, there, _, given, rfl⟩ := hubSound.listed other k also
  rw [found, Option.some.injEq] at there
  rw [there, given, Option.some.injEq] at holding
  rw [holding]

theorem furnish (hubSound : frame.HubSound loyal) (bus : Bus Incarnation) (hub : Hub Incarnation)
    (listeners : ExtTreeMap Channel (Listeners Incarnation)) (circles : hub.circles = frame.hub.circles) :
    { frame with bus, hub, listeners }.HubSound loyal := by
  have same (handle : Hub.Handle) (k : Incarnation) : hub.Lists handle k ↔ frame.hub.Lists handle k := by
    rw [Hub.Lists, circles]
    rfl
  refine ⟨hubSound.toAddressed.furnish hub bus listeners, hubSound.settled, hubSound.holding, ?_, ?_⟩
  · exact fun handle k lists => hubSound.listed handle k ((same handle k).mp lists)
  · intro id k standing located found keeps running
    obtain ⟨held, holding, lists⟩ := hubSound.listening id k standing located found keeps running
    exact ⟨held, holding, (same held.hub k).mpr lists⟩

theorem replace (hubSound : frame.HubSound loyal) (k : Incarnation) (old fresh : Standing)
    (found : frame.nodes[k]? = some old) (named : fresh.id = old.id) (state : fresh.state = old.state)
    (held : fresh.held = old.held) : (frame.place k fresh).HubSound loyal := by
  refine ⟨hubSound.toAddressed.place k old fresh found named, ?_, ?_, ?_, ?_⟩
  · exact hubSound.settled.replace k old fresh found fun _ settled => by rwa [state]
  · exact hubSound.holding.replace k old fresh found fun _ holding => by rwa [state, held]
  · intro handle j lists
    obtain ⟨located, standing, given, there, running, holding, same⟩ := hubSound.listed handle j lists
    refine ⟨located, ?_⟩
    rw [nodes_place]
    by_cases own : k = j
    · subst own
      rw [found, Option.some.injEq] at there
      subst there
      exact ⟨fresh, given, if_pos rfl, state.trans running, held.trans holding, same⟩
    · exact ⟨standing, given, (if_neg own).trans there, running, holding, same⟩
  · exact hubSound.listening.replace k old fresh found fun _ listening => by rwa [state, held]

theorem enlist (hubSound : frame.HubSound loyal) (id : NodeId) (k : Incarnation) (old fresh : Standing) (held : Held)
    (bus : Bus Incarnation) (listeners : ExtTreeMap Channel (Listeners Incarnation))
    (located : frame.current[id]? = some k) (found : frame.nodes[k]? = some old) (stopped : old.state = .stopped)
    (named : fresh.id = old.id) (running : fresh.state = .running) (holding : fresh.held = some held)
    (given : held.hub = (frame.hub.subscribe id k).2) :
    ({ frame with bus, listeners, hub := (frame.hub.subscribe id k).1 }.place k fresh).HubSound loyal := by
  have handle : held.hub.node = id := by rw [given, Hub.handle_node_subscribe]
  refine ⟨?_, ?_, ?_, ?_, ?_⟩
  · exact (hubSound.toAddressed.furnish _ bus listeners).place k old fresh found named
  · exact hubSound.settled.place k fresh (fun _ _ _ _ _ settled => settled) fun _ _ => .inr running
  · refine hubSound.holding.place k fresh (fun _ _ _ _ _ holding => holding) fun other there _ => ⟨held, holding, ?_⟩
    rw [handle, hubSound.name_unique other id k there located]
  · intro other j lists
    cases frame.hub.lists_of_subscribe id k j other lists with
    | inl own =>
        obtain ⟨same, rfl⟩ := own
        rw [← given] at same
        subst same
        refine ⟨handle ▸ located, fresh, held, ?_, running, holding, rfl⟩
        rw [nodes_place, if_pos rfl]
    | inr before =>
        obtain ⟨place, standing, theirs, there, runs, holds, same⟩ := hubSound.listed other j before
        have apart : k ≠ j := by
          rintro rfl
          rw [found, Option.some.injEq] at there
          subst there
          cases stopped.symm.trans runs
        refine ⟨place, standing, theirs, ?_, runs, holds, same⟩
        rw [nodes_place, if_neg apart]
        exact there
  · refine hubSound.listening.place k fresh ?_ ?_
    · intro other j standing there different listening keeps runs
      obtain ⟨theirs, holds, lists⟩ := listening keeps runs
      refine ⟨theirs, holds, (frame.hub.lists_subscribe_other id k j theirs.hub ?_).mpr lists⟩
      rintro rfl
      exact different (Option.some.inj ((hubSound.listed theirs.hub j lists).1.symm.trans located))
    · intro other there _ _
      refine ⟨held, holding, ?_⟩
      rw [given]
      exact frame.hub.lists_subscribed id k

theorem dismiss (hubSound : frame.HubSound loyal) (id : NodeId) (k : Incarnation) (old fresh : Standing) (held : Held)
    (bus : Bus Incarnation) (listeners : ExtTreeMap Channel (Listeners Incarnation))
    (current : ExtTreeMap NodeId Incarnation) (located : frame.current[id]? = some k)
    (found : frame.nodes[k]? = some old) (running : old.state = .running) (holding : old.held = some held)
    (named : fresh.id = old.id)
    (fewer : ∀ (other : NodeId) (j : Incarnation), current[other]? = some j → frame.current[other]? = some j)
    (others : ∀ (other : NodeId) (j : Incarnation), frame.current[other]? = some j → j ≠ k → current[other]? = some j)
    (gone : ∀ other : NodeId, current[other]? = some k → fresh.state = .stopped) :
    ({ frame with bus, listeners, current, hub := frame.hub.release held.hub }.place k fresh).HubSound loyal := by
  have resting (other : NodeId) (there : current[other]? = some k) : fresh.state ≠ .running := by
    rw [gone other there]
    decide
  have placed := hubSound.toAddressed.place k old fresh found named
  have handle : held.hub.node = id := by
    obtain ⟨same, holds, node⟩ := hubSound.holding id k old located found running
    rw [holding, Option.some.injEq] at holds
    rw [holds, node]
  refine ⟨⟨placed.numbered, fun other j there => placed.located other j (fewer other j there)⟩, ?_, ?_, ?_, ?_⟩
  · exact (hubSound.settled.restrict current fewer).place k fresh (fun _ _ _ _ _ settled => settled) fun other there =>
      .inl (gone other there)
  · exact (hubSound.holding.restrict current fewer).place k fresh (fun _ _ _ _ _ holding => holding) fun other there runs =>
      absurd runs (resting other there)
  · intro other j lists
    obtain ⟨before, different⟩ := (frame.hub.lists_release held.hub other j).mp lists
    obtain ⟨place, standing, theirs, there, runs, holds, same⟩ := hubSound.listed other j before
    have apart : k ≠ j := by
      rintro rfl
      rw [found, Option.some.injEq] at there
      subst there
      rw [holding, Option.some.injEq] at holds
      subst holds
      exact different same.symm
    refine ⟨others other.node j place (Ne.symm apart), standing, theirs, ?_, runs, holds, same⟩
    rw [nodes_place, if_neg apart]
    exact there
  · refine (hubSound.listening.restrict current fewer).place k fresh ?_ fun other there _ runs =>
      absurd runs (resting other there)
    intro other j standing there different listening keeps runs
    obtain ⟨theirs, holds, lists⟩ := listening keeps runs
    refine ⟨theirs, holds, (frame.hub.lists_release held.hub theirs.hub j).mpr ⟨lists, ?_⟩⟩
    intro same
    have place := (hubSound.listed theirs.hub j lists).1
    rw [same, handle, located, Option.some.injEq] at place
    exact different place.symm

theorem forget (hubSound : frame.HubSound loyal) (id : NodeId) (k : Incarnation) (old : Standing)
    (located : frame.current[id]? = some k) (found : frame.nodes[k]? = some old) (stopped : old.state = .stopped) :
    { frame with current := frame.current.erase id }.HubSound loyal := by
  refine ⟨hubSound.toAddressed.forget id, Every.forget hubSound.settled id, hubSound.holding.forget id, ?_, ?_⟩
  · intro handle j lists
    obtain ⟨place, standing, held, there, running, holding, same⟩ := hubSound.listed handle j lists
    have different : id ≠ handle.node := by
      rintro rfl
      rw [located, Option.some.injEq] at place
      subst place
      rw [found, Option.some.injEq] at there
      subst there
      cases stopped.symm.trans running
    exact ⟨(found_erase_other _ id handle.node different).trans place, standing, held, there, running, holding, same⟩
  · exact hubSound.listening.forget id

theorem create (hubSound : frame.HubSound loyal) (id : NodeId) (absent : frame.current[id]? = none) :
    (frame.added id (Node.create id).standing).HubSound loyal := by
  have resting : (Node.create id).standing.state ≠ .running := (by decide : Lifecycle.stopped ≠ Lifecycle.running)
  refine ⟨hubSound.toAddressed.create id _ rfl, ?_, ?_, ?_, ?_⟩
  · exact Every.create hubSound.settled hubSound.toAddressed id _ (.inl rfl)
  · exact hubSound.holding.create hubSound.toAddressed id _ fun running => absurd running resting
  · intro handle j lists
    obtain ⟨place, standing, held, there, running, holding, same⟩ := hubSound.listed handle j lists
    have different : id ≠ handle.node := by
      rintro rfl
      cases absent.symm.trans place
    refine ⟨(found_insert_other _ id handle.node _ different).trans place, standing, held, ?_, running, holding, same⟩
    rw [added, nodes_place, if_neg (Ne.symm (hubSound.fresh_not_current handle.node j place))]
    exact there
  · exact hubSound.listening.create hubSound.toAddressed id _ fun _ running => absurd running resting

theorem listening_leave (hubSound : frame.HubSound loyal) (id other : NodeId) (hub : Hub Incarnation) (k : Incarnation)
    (standing : Standing) (left : frame.hub.leave? id = some hub) (located : frame.current[other]? = some k)
    (found : frame.nodes[k]? = some standing) (keeps : loyal other) (running : standing.state = .running)
    (different : id ≠ other) : ∃ held, standing.held = some held ∧ hub.Lists held.hub k := by
  obtain ⟨held, holding, there⟩ := hubSound.listening other k standing located found keeps running
  obtain ⟨given, same, node⟩ := hubSound.holding other k standing located found running
  rw [holding, Option.some.injEq] at same
  exact ⟨held, holding,
    (frame.hub.lists_leave hub id left held.hub k).mpr ⟨there, fun own => different (own.trans (same ▸ node))⟩⟩

theorem leave (hubSound : frame.HubSound loyal) (id : NodeId) (hub : Hub Incarnation)
    (left : frame.hub.leave? id = some hub) (unnamed : loyal id → frame.current[id]? = none) :
    { frame with hub }.HubSound loyal := by
  have lists := frame.hub.lists_leave hub id left
  refine ⟨hubSound.toAddressed.furnish hub _ _, hubSound.settled, hubSound.holding, ?_, ?_⟩
  · exact fun handle k there => hubSound.listed handle k ((lists handle k).mp there).1
  · intro other k standing located found keeps running
    refine hubSound.listening_leave id other hub k standing left located found keeps running ?_
    rintro rfl
    cases (unnamed keeps).symm.trans located

-- A node whose name goes as it leaves takes its listener along, even if its bridge runs on.
theorem detach (hubSound : frame.HubSound loyal) (id : NodeId) (hub : Hub Incarnation)
    (left : frame.hub.leave? id = some hub) :
    { frame with current := frame.current.erase id, hub }.HubSound loyal := by
  have lists := frame.hub.lists_leave hub id left
  refine ⟨(hubSound.toAddressed.forget id).furnish hub _ _, Every.forget hubSound.settled id, hubSound.holding.forget id,
    ?_, ?_⟩
  · intro handle k there
    obtain ⟨before, different⟩ := (lists handle k).mp there
    obtain ⟨place, holder⟩ := hubSound.listed handle k before
    exact ⟨(found_erase_other _ id handle.node different).trans place, holder⟩
  · intro other k standing located found keeps running
    obtain ⟨different, place⟩ := located_of_erased id other k located
    exact hubSound.listening_leave id other hub k standing left place found keeps running different

end HubSound

end Frame

namespace Cluster

variable {cluster : Cluster} {loyal : NodeId → Prop}

theorem node_of_located (addressed : cluster.frame.Addressed) (id : NodeId) (k : Incarnation)
    (located : cluster.current[id]? = some k) : ∃ node, cluster.nodes[k]? = some node ∧ node.id = id := by
  obtain ⟨standing, found, named⟩ := addressed.located id k located
  obtain ⟨node, here, rfl⟩ := cluster.node_of_standing k standing found
  exact ⟨node, here, named⟩

theorem hub_sound_replace (hubSound : cluster.frame.HubSound loyal) (k : Incarnation) (node fresh : Node)
    (found : cluster.nodes[k]? = some node) (named : fresh.id = node.id) (state : fresh.state = node.state)
    (held : fresh.held = node.held) : (cluster.setNode k fresh).frame.HubSound loyal := by
  rw [frame_set_node]
  exact hubSound.replace k node.standing fresh.standing (cluster.standing_of_found k node found) named state held

theorem hub_sound_follow {before after : Cluster} (hubSound : before.frame.HubSound loyal)
    (follows : Follows before after) : after.frame.HubSound loyal := by
  rw [follows.frame]
  exact hubSound

theorem hub_sound_adjust {before after : Cluster} (hubSound : before.frame.HubSound loyal)
    (adjusted : Adjusted before after) : after.frame.HubSound loyal := by
  induction adjusted with
  | refl => exact hubSound
  | wire after bus handlers _ ih => exact ih.furnish bus after.hub after.store.listeners rfl
  | node after k node fresh found alike _ ih => exact hub_sound_replace ih k node fresh found alike.id alike.state alike.held
  | note after k log _ ih => exact ih

theorem hub_sound_start (hubSound : cluster.frame.HubSound loyal) (id : NodeId) (k : Incarnation)
    (located : cluster.current[id]? = some k) :
    (cluster.start k).1.frame.HubSound loyal ∧ (cluster.start k).1.current = cluster.current := by
  obtain ⟨node, found, rfl⟩ := node_of_located hubSound.toAddressed id k located
  have standing := cluster.standing_of_found k node found
  by_cases cut : node.replica.unreachable = true
  · have failed := start_unreachable cluster k node found cut
    generalize cluster.start k = result at failed
    cases failed with
    | refused error log => exact ⟨hubSound, rfl⟩
    | retried error log bus _ _ =>
        have wired : { cluster with bus := bus.without cluster.channel node.id, log }.frame.HubSound loyal :=
          hubSound.furnish _ cluster.hub cluster.store.listeners rfl
        exact ⟨hub_sound_replace wired k node _ found rfl rfl rfl, rfl⟩
  · have started := start_started cluster k node found (by simpa using cut)
    generalize cluster.start k = result at started
    cases started with
    | refused error log => exact ⟨hubSound, rfl⟩
    | running bus stopped registered =>
        have frame := ((follows_publish (cluster.enrolled k node bus) k).trans (follows_recompute _ k)).frame
        refine ⟨?_, congrArg Frame.current frame⟩
        rw [frame, frame_enrolled]
        exact hubSound.enlist node.id k node.standing _ _ bus _ located standing stopped rfl rfl rfl rfl

theorem hub_sound_stop (hubSound : cluster.frame.HubSound loyal) (id : NodeId) (k : Incarnation)
    (located : cluster.current[id]? = some k) :
    (cluster.stop k).frame.HubSound loyal ∧ (cluster.stop k).current = cluster.current := by
  obtain ⟨node, found, _⟩ := node_of_located hubSound.toAddressed id k located
  have standing := cluster.standing_of_found k node found
  cases hubSound.settled id k node.standing located standing with
  | inl stopped =>
      rw [stop_stopped cluster k node found stopped]
      exact ⟨hubSound, rfl⟩
  | inr running =>
      obtain ⟨held, holding, _⟩ := hubSound.holding id k node.standing located standing running
      have frame := frame_stop cluster k node held found running holding
      rw [frame_dismissal] at frame
      refine ⟨?_, congrArg Frame.current frame⟩
      rw [frame]
      exact hubSound.dismiss id k node.standing _ held _ _ cluster.frame.current located standing running holding rfl
        (fun _ _ there => there) (fun _ _ there _ => there) fun _ _ => rfl

theorem hub_sound_discard (hubSound : cluster.frame.HubSound loyal) (id : NodeId) (k : Incarnation)
    (located : cluster.current[id]? = some k) :
    ({ cluster with current := cluster.current.erase id }.discard Service.granted k).frame.HubSound loyal := by
  obtain ⟨node, found, _⟩ := node_of_located hubSound.toAddressed id k located
  have standing := cluster.standing_of_found k node found
  cases hubSound.settled id k node.standing located standing with
  | inl stopped =>
      rw [discard_stopped { cluster with current := cluster.current.erase id } k node found stopped]
      exact hubSound.forget id k node.standing located standing stopped
  | inr running =>
      obtain ⟨held, holding, _⟩ := hubSound.holding id k node.standing located standing running
      obtain ⟨log, discarded⟩ := discard_running { cluster with current := cluster.current.erase id } k node held found
        running holding
      rw [discarded, frame_dismissal]
      refine hubSound.dismiss id k node.standing _ held _ _ (cluster.current.erase id) located standing running holding rfl
        (fun other j there => (Frame.located_of_erased id other j there).2) ?_ ?_
      · intro other j there different
        exact (found_erase_other _ id other (Frame.name_apart id other k j located there different)).trans there
      · exact fun other there => absurd there (hubSound.gone id other k located)

theorem hub_sound_notify (hubSound : cluster.frame.HubSound loyal) (view : View) :
    (cluster.notifyMembership view).frame.HubSound loyal :=
  hub_sound_follow hubSound (follows_notify cluster view)

theorem hub_sound_leave (hubSound : cluster.frame.HubSound loyal) (id : NodeId)
    (unnamed : loyal id → cluster.current[id]? = none) : (cluster.leave id).frame.HubSound loyal := by
  rw [Cluster.leave]
  cases left : cluster.hub.leave? id with
  | none => exact hubSound
  | some hub =>
      have without : { cluster with hub }.frame.HubSound loyal := hubSound.leave id hub left unnamed
      exact hub_sound_notify without hub.view

theorem hub_sound_crash (hubSound : cluster.frame.HubSound loyal) (id : NodeId) :
    (cluster.crash id).frame.HubSound loyal := by
  rw [Cluster.crash]
  cases located : cluster.current[id]? with
  | none => exact hub_sound_leave hubSound id fun _ => located
  | some k =>
      refine hub_sound_leave (hub_sound_discard hubSound id k located) id fun _ => ?_
      rw [current_discard]
      exact ExtTreeMap.getElem?_erase_self

theorem hub_sound_join (hubSound : cluster.frame.HubSound loyal) (id : NodeId) :
    (cluster.join id).frame.HubSound loyal := by
  have joined : { cluster with hub := cluster.hub.join id }.frame.HubSound loyal :=
    hubSound.furnish cluster.bus (cluster.hub.join id) cluster.store.listeners rfl
  exact hub_sound_notify joined _

theorem hub_sound_add_node (hubSound : cluster.frame.HubSound loyal) (id : NodeId) :
    (cluster.addNode id).1.frame.HubSound loyal := by
  have joined := hub_sound_join hubSound id
  rw [addNode]
  dsimp only
  split
  · exact joined
  · split
    · exact joined
    · rename_i absent
      change ((cluster.join id).added id).frame.HubSound loyal
      rw [frame_added]
      exact joined.create id (ExtTreeMap.getElem?_eq_none absent)

theorem hub_sound_change_groups (hubSound : cluster.frame.HubSound loyal) (k : Incarnation)
    (change : Registry Incarnation → Option (Registry Incarnation)) :
    (cluster.changeGroups k change).frame.HubSound loyal := by
  rw [changeGroups]
  split
  · exact hubSound
  · rename_i node found
    split
    · exact hubSound
    · rename_i registry changed
      exact hub_sound_follow (hub_sound_replace hubSound k node (node.setRegistry registry) found rfl rfl rfl)
        (follows_foldl groupsChanged follows_groups_changed _ _)

theorem hub_sound_modify_replica (hubSound : cluster.frame.HubSound loyal) (k : Incarnation) (node : Node)
    (found : cluster.nodes[k]? = some node) (change : Replica → Replica) :
    (cluster.modifyReplica k change).frame.HubSound loyal := by
  rw [modifyReplica, modify, amend_found cluster k _ node found]
  exact hub_sound_replace hubSound k node _ found rfl rfl rfl

theorem hub_sound_step_node (hubSound : cluster.frame.HubSound loyal) (id : NodeId) (k : Incarnation) (node : Node)
    (located : cluster.current[id]? = some k) (found : cluster.nodes[k]? = some node) (operation : NodeOperation) :
    (cluster.stepNode k node operation).1.frame.HubSound loyal := by
  have kept (fresh : Node) (named : fresh.id = node.id) (state : fresh.state = node.state) (held : fresh.held = node.held) :=
    hub_sound_replace hubSound k node fresh found named state held
  cases operation with
  | start => exact (hub_sound_start hubSound id k located).1
  | stop => exact (hub_sound_stop hubSound id k located).1
  | createGroup group => exact hub_sound_change_groups hubSound k _
  | dropGroup group => exact hub_sound_change_groups hubSound k _
  | put group key =>
      rw [stepNode]
      split
      · exact hubSound
      · exact kept _ rfl rfl rfl
  | setRejecting on => exact kept _ rfl rfl rfl
  | send event mode => exact hub_sound_adjust hubSound (adjusted_send cluster k event mode)
  | invalidate event mode => exact hub_sound_adjust hubSound (adjusted_invalidate cluster k event mode)
  | receive event => exact hub_sound_adjust hubSound (adjusted_receive cluster k event)
  | publish => exact hub_sound_follow hubSound (follows_publish cluster k)
  | storeChanged => exact hub_sound_follow hubSound (follows_store_changed cluster k)
  | membershipChanged members => exact hub_sound_follow hubSound (follows_membership_changed _ cluster k)
  | setStoreUnreachable on => exact hub_sound_modify_replica hubSound k node found _
  | rejectKey key => exact hub_sound_modify_replica hubSound k node found _
  | write mutation => exact hub_sound_follow hubSound (follows_mutate cluster k mutation)
  | squat => exact hubSound.furnish _ cluster.hub cluster.store.listeners rfl
  | unregister => exact hubSound.furnish _ cluster.hub cluster.store.listeners rfl

def Operation.removesMember : Operation → Bool
  | .leave _ => true
  | _ => false

theorem subscribed_names_step (hubSound : cluster.frame.HubSound loyal) (operation : Operation)
    (kept : ∀ id, loyal id → operation ≠ .leave id) : (cluster.step operation).1.frame.HubSound loyal := by
  cases operation with
  | addNode id =>
      rw [step_add_node]
      exact hub_sound_add_node hubSound id
  | crash id => exact hub_sound_crash hubSound id
  | startAll =>
      refine start_all_keeps (P := fun cluster => cluster.frame.HubSound loyal) ?_ cluster.incarnations cluster hubSound
        cluster.located_of_incarnation
      exact fun _ id k hubSound located => hub_sound_start hubSound id k located
  | stopAll =>
      refine stop_all_keeps (P := fun cluster => cluster.frame.HubSound loyal) ?_ cluster.incarnations cluster hubSound
        cluster.located_of_incarnation
      exact fun _ id k hubSound located => hub_sound_stop hubSound id k located
  | join id => exact hub_sound_join hubSound id
  | leave id => exact hub_sound_leave hubSound id fun keeps => absurd rfl (kept id keeps)
  | notify members => exact hub_sound_notify hubSound _
  | setMembershipUnreachable id on => exact hubSound.furnish cluster.bus _ cluster.store.listeners rfl
  | appoint id => exact hubSound.furnish cluster.bus _ cluster.store.listeners rfl
  | putRaw channel key value => exact hub_sound_follow hubSound (follows_put_raw cluster channel key value)
  | control control => exact hub_sound_adjust hubSound (adjusted_control cluster control)
  | node id operation =>
      rw [Cluster.step]
      split
      · exact hubSound
      · rename_i k node found
        obtain ⟨located, here⟩ := (cluster.find_eq_some_iff id k node).mp found
        exact hub_sound_step_node hubSound id k node located here operation

theorem hub_sound_initial (config : Config) (timeout : Nat) : (initial config timeout).frame.HubSound loyal := by
  have nobody := initial_current config timeout
  refine ⟨⟨(synced_initial config timeout).allLinked.numbered, fun id k located => (nobody id k located).elim⟩,
    fun id k _ located => (nobody id k located).elim, fun id k _ located => (nobody id k located).elim, ?_,
    fun id k _ located => (nobody id k located).elim⟩
  rintro handle k ⟨circle, found, _⟩
  rw [show (initial config timeout).frame.hub.circles[handle.node]? = none from ExtTreeMap.getElem?_empty] at found
  cases found

theorem hub_sound_step {always : Prop} (hubSound : cluster.frame.HubSoundIf always) (operation : Operation)
    (kept : always → operation.removesMember = false) : (cluster.step operation).1.frame.HubSoundIf always := by
  refine subscribed_names_step hubSound operation fun id keeps left => ?_
  have stays := kept keeps
  rw [left] at stays
  cases stays

theorem hub_sound_run {always : Prop} (hubSound : cluster.frame.HubSoundIf always) (operations : List Operation)
    (kept : always → ∀ operation ∈ operations, operation.removesMember = false) :
    (cluster.run operations).frame.HubSoundIf always := by
  induction operations generalizing cluster with
  | nil => exact hubSound
  | cons operation operations ih =>
      refine ih (hub_sound_step hubSound operation fun keeps => kept keeps operation (List.mem_cons_self ..)) ?_
      exact fun keeps later member => kept keeps later (List.mem_cons_of_mem operation member)

end Cluster

end Coherence
