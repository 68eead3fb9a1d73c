import Coherence.Proofs.Announcing

set_option autoImplicit false

namespace Coherence

open Std

-- What is in the store under a node's name once it has announced these groups.
def Announcement.entry (id : NodeId) (groups : List Group) : Option (Option Bytes) :=
  if groups = [] then none else some (some (Announcement.encode ⟨id, ExtTreeSet.ofList groups⟩))

def Standing.offer (standing : Standing) : Option (List Group) :=
  if standing.state = .running then some standing.registry.groupNames else none

namespace Standing

theorem offer_running (standing : Standing) (running : standing.state = .running) :
    standing.offer = some standing.registry.groupNames := if_pos running

theorem offer_resting (standing : Standing) (resting : standing.state ≠ .running) : standing.offer = none :=
  if_neg resting

end Standing

namespace Frame

def offers? (frame : Frame) (id : NodeId) : Option (List Group) :=
  (frame.current[id]?.bind (frame.nodes[·]?)).bind Standing.offer

variable {frame : Frame}

theorem offers_located (id : NodeId) (k : Incarnation) (standing : Standing) (located : frame.current[id]? = some k)
    (found : frame.nodes[k]? = some standing) : frame.offers? id = standing.offer := by
  rw [offers?, located, Option.bind_some, found, Option.bind_some]

theorem offers_unnamed (id : NodeId) (absent : frame.current[id]? = none) : frame.offers? id = none := by
  rw [offers?, absent]
  rfl

theorem offers_congr (first second : Frame) (id : NodeId) (current : second.current[id]? = first.current[id]?)
    (nodes : ∀ k, first.current[id]? = some k → second.nodes[k]? = first.nodes[k]?) :
    second.offers? id = first.offers? id := by
  rw [offers?, offers?, current]
  cases located : first.current[id]? with
  | none => rfl
  | some k => rw [Option.bind_some, Option.bind_some, nodes k located]

theorem offers_place_other (addressed : frame.Addressed) (id other : NodeId) (k : Incarnation) (fresh : Standing)
    (located : frame.current[id]? = some k) (different : id ≠ other) :
    (frame.place k fresh).offers? other = frame.offers? other := by
  refine offers_congr frame (frame.place k fresh) other rfl fun j there => ?_
  rw [nodes_place, if_neg]
  rintro rfl
  exact different (addressed.name_unique id other k located there)

theorem offers_place_own (id : NodeId) (k : Incarnation) (fresh : Standing) (located : frame.current[id]? = some k) :
    (frame.place k fresh).offers? id = fresh.offer := by
  refine offers_located id k fresh located ?_
  rw [nodes_place, if_pos rfl]

theorem offers_replace (k : Incarnation) (old fresh : Standing) (found : frame.nodes[k]? = some old)
    (same : fresh.offer = old.offer) (id : NodeId) : (frame.place k fresh).offers? id = frame.offers? id := by
  by_cases own : frame.current[id]? = some k
  · rw [offers_place_own id k fresh own, offers_located id k old own found, same]
  · refine offers_congr frame (frame.place k fresh) id rfl fun j there => ?_
    rw [nodes_place, if_neg]
    rintro rfl
    exact own there

-- What is left of a frame when a name and whoever it stood for are given up.
def Loses (before : Frame) (id : NodeId) (k : Incarnation) (after : Frame) : Prop :=
  after.current = before.current.erase id ∧ ∀ j, k ≠ j → after.nodes[j]? = before.nodes[j]?

theorem Loses.every {id : NodeId} {k : Incarnation} {after : Frame} {P : NodeId → Incarnation → Standing → Prop}
    (loses : frame.Loses id k after) (addressed : frame.Addressed) (located : frame.current[id]? = some k)
    (every : frame.Every P) : after.Every P := by
  intro other j standing there found
  rw [loses.1] at there
  obtain ⟨different, place⟩ := located_of_erased id other j there
  rw [loses.2 j] at found
  · exact every other j standing place found
  · rintro rfl
    exact different (addressed.name_unique id other k located place)

theorem offers_other (addressed : frame.Addressed) (id : NodeId) (k : Incarnation) (located : frame.current[id]? = some k)
    (after : Frame) (loses : frame.Loses id k after) (other : NodeId) (different : id ≠ other) :
    after.offers? other = frame.offers? other := by
  refine offers_congr frame after other ?_ fun j there => loses.2 j ?_
  · rw [loses.1]
    exact found_erase_other _ id other different
  · rintro rfl
    exact different (addressed.name_unique id other k located there)

theorem offers_of_forgotten (addressed : frame.Addressed) (id : NodeId) (k : Incarnation)
    (located : frame.current[id]? = some k) (after : Frame) (loses : frame.Loses id k after) (other : NodeId)
    (groups : List Group) (offered : after.offers? other = some groups) : frame.offers? other = some groups := by
  by_cases same : id = other
  · subst same
    rw [offers_unnamed id (by rw [loses.1, ExtTreeMap.getElem?_erase_self])] at offered
    cases offered
  · rw [← offered]
    exact (offers_other addressed id k located after loses other same).symm

theorem offers_added (addressed : frame.Addressed) (id : NodeId) (fresh : Standing) (resting : fresh.state ≠ .running)
    (other : NodeId) (groups : List Group) (offered : (frame.added id fresh).offers? other = some groups) :
    frame.offers? other = some groups := by
  by_cases same : id = other
  · subst same
    rw [offers_located id frame.nodes.size fresh, fresh.offer_resting resting] at offered
    · cases offered
    · exact ExtTreeMap.getElem?_insert_self
    · rw [added, nodes_place, if_pos rfl]
  · rw [← offered]
    symm
    refine offers_congr frame (frame.added id fresh) other (found_insert_other _ id other _ same) fun j there => ?_
    rw [added, nodes_place, if_neg (Ne.symm (addressed.fresh_not_current other j there))]

theorem offers_eq_some (id : NodeId) (groups : List Group) (offered : frame.offers? id = some groups) :
    ∃ k standing, frame.current[id]? = some k ∧ frame.nodes[k]? = some standing ∧ standing.state = .running ∧
      standing.registry.groupNames = groups := by
  rw [offers?, Option.bind_eq_some_iff] at offered
  obtain ⟨standing, reached, offers⟩ := offered
  obtain ⟨k, located, found⟩ := Option.bind_eq_some_iff.mp reached
  rw [Standing.offer] at offers
  split at offers
  · rename_i running
    exact ⟨k, standing, located, found, running, Option.some.inj offers⟩
  · cases offers

theorem runs_iff_offers (id : NodeId) : frame.Runs id ↔ ∃ groups, frame.offers? id = some groups := by
  constructor
  · rintro ⟨k, standing, located, found, running⟩
    exact ⟨_, (offers_located id k standing located found).trans (standing.offer_running running)⟩
  · rintro ⟨groups, offered⟩
    obtain ⟨k, standing, located, found, running, _⟩ := offers_eq_some id groups offered
    exact ⟨k, standing, located, found, running⟩

end Frame

namespace Cluster

structure Unfailing (cluster : Cluster) : Prop extends cluster.Synced where
  lawful : cluster.frame.Every fun _ _ standing => standing.rejected = ∅

-- The view is the one that others were told meanwhile.
inductive Fate (told : Option View) (before after : Cluster) (id : NodeId) (groups : List Group) : Prop
  | announced (exact : after.entries[id]? = Announcement.entry id groups)
  | kept (offered : before.frame.offers? id = some groups) (same : after.entries[id]? = before.entries[id]?)
  | swept (offered : before.frame.offers? id = some groups) (view : View) (known : told = some view)
      (missing : view.contains id = false) (gone : after.entries[id]? = none)

structure Maintains (told : Option View) (before after : Cluster) : Prop where
  unfailing : after.Unfailing
  fate : ∀ id groups, after.frame.offers? id = some groups → Fate told before after id groups

variable {cluster : Cluster} {told : Option View}

theorem Maintains.trans {first second third : Cluster} (earlier : Maintains told first second)
    (later : Maintains none second third) : Maintains told first third := by
  refine ⟨later.unfailing, fun id groups offered => ?_⟩
  cases later.fate id groups offered with
  | announced exact => exact .announced exact
  | swept _ view known => cases known
  | kept before same =>
      cases earlier.fate id groups before with
      | announced exact => exact .announced (same.trans exact)
      | kept first unchanged => exact .kept first (same.trans unchanged)
      | swept first view known missing gone => exact .swept first view known missing (same.trans gone)

theorem Maintains.after {before middle after : Cluster} (maintains : Maintains told middle after)
    (entries : middle.entries = before.entries)
    (offers : ∀ id groups, middle.frame.offers? id = some groups → before.frame.offers? id = some groups) :
    Maintains told before after := by
  refine ⟨maintains.unfailing, fun id groups offered => ?_⟩
  cases maintains.fate id groups offered with
  | announced exact => exact .announced exact
  | kept offering same => exact .kept (offers id groups offering) (by rw [same, entries])
  | swept offering view known missing gone => exact .swept (offers id groups offering) view known missing gone

theorem Unfailing.still {before after : Cluster} (unfailing : after.Unfailing) (entries : after.entries = before.entries)
    (offers : ∀ id groups, after.frame.offers? id = some groups → before.frame.offers? id = some groups) :
    Maintains told before after :=
  ⟨unfailing, fun id groups offered => .kept (offers id groups offered) (by rw [entries])⟩

theorem Unfailing.refl (unfailing : cluster.Unfailing) : Maintains told cluster cluster :=
  unfailing.still rfl fun _ _ offered => offered

theorem Unfailing.alone {before after : Cluster} (unfailing : after.Unfailing) (id : NodeId)
    (others : ∀ other, id ≠ other → after.frame.offers? other = before.frame.offers? other)
    (elsewhere : ∀ other, id ≠ other → after.entries[other]? = before.entries[other]?)
    (own : ∀ groups, after.frame.offers? id = some groups → after.entries[id]? = Announcement.entry id groups) :
    Maintains told before after := by
  refine ⟨unfailing, fun other groups offered => ?_⟩
  by_cases same : id = other
  · subst same
    exact .announced (own groups offered)
  · exact .kept (others other same ▸ offered) (elsewhere other same)

theorem Unfailing.forward {before after : Cluster} (unfailing : before.Unfailing) (follows : Follows before after) :
    after.Unfailing :=
  ⟨unfailing.toSynced.follow follows, follows.frame ▸ unfailing.lawful⟩

theorem Unfailing.follow {before after : Cluster} (unfailing : before.Unfailing) (follows : Follows before after)
    (entries : after.entries = before.entries) : Maintains told before after := by
  refine (unfailing.forward follows).still entries fun id groups offered => ?_
  rwa [follows.frame] at offered

theorem Unfailing.sweep {before after : Cluster} (unfailing : before.Unfailing) (follows : Follows before after)
    (view : View) (swept : Swept view before after) : Maintains (some view) before after := by
  refine ⟨unfailing.forward follows, fun id groups offered => ?_⟩
  rw [follows.frame] at offered
  cases swept id with
  | inl same => exact .kept offered same
  | inr gone => exact .swept offered view rfl gone.1 gone.2

theorem Unfailing.furnish (unfailing : cluster.Unfailing) (bus : Bus Incarnation) (hub : Hub Incarnation)
    (log : List (Incarnation × LogEntry)) : Maintains told cluster { cluster with bus, hub, log } :=
  Unfailing.still ⟨unfailing.toSynced.furnish bus hub log, unfailing.lawful⟩ rfl fun _ _ offered => offered

theorem offers_alike (cluster : Cluster) (k : Incarnation) (node fresh : Node) (found : cluster.nodes[k]? = some node)
    (alike : node.Alike fresh) (id : NodeId) :
    (cluster.setNode k fresh).frame.offers? id = cluster.frame.offers? id := by
  rw [frame_set_node]
  refine Frame.offers_replace k node.standing fresh.standing (cluster.standing_of_found k node found) ?_ id
  rw [Standing.offer, Standing.offer, show fresh.standing.state = node.standing.state from alike.state,
    show fresh.standing.registry.groupNames = node.standing.registry.groupNames from alike.groups]

theorem Unfailing.renew (unfailing : cluster.Unfailing) (k : Incarnation) (node fresh : Node)
    (found : cluster.nodes[k]? = some node) (alike : node.Alike fresh) :
    Maintains told cluster (cluster.setNode k fresh) := by
  have standing := cluster.standing_of_found k node found
  refine Unfailing.still ⟨unfailing.toSynced.retain k node fresh found alike.toRetains, ?_⟩ rfl fun id groups offered => ?_
  · rw [frame_set_node]
    exact unfailing.lawful.replace k node.standing _ standing fun _ lawful => alike.rejected.trans lawful
  · rwa [offers_alike cluster k node fresh found alike] at offered

theorem Unfailing.adjust {before after : Cluster} (unfailing : before.Unfailing) (adjusted : Adjusted before after) :
    Maintains none before after := by
  induction adjusted with
  | refl => exact unfailing.refl
  | wire after bus handlers _ ih => exact ih.trans (ih.unfailing.furnish bus after.hub after.log)
  | node after k node fresh found alike _ ih => exact ih.trans (ih.unfailing.renew k node fresh found alike)
  | note after k log _ ih => exact ih.trans (ih.unfailing.furnish after.bus after.hub _)

theorem entry_running (node : Node) (id : NodeId) (named : node.id = id) :
    node.standing.entry = Announcement.entry id node.registry.groupNames := by
  rw [Standing.entry_eq, Announcement.entry, ← named]
  rfl

theorem publish_running (cluster : Cluster) (id : NodeId) (k : Incarnation) (node : Node)
    (allLinked : cluster.frame.AllLinked)
    (lawful : cluster.frame.Every fun _ _ standing => standing.rejected = ∅) (located : cluster.current[id]? = some k)
    (found : cluster.nodes[k]? = some node) (running : node.state = .running) :
    (cluster.publish k).entries[id]? = Announcement.entry id node.registry.groupNames ∧
      ∀ other, id ≠ other → (cluster.publish k).entries[other]? = cluster.entries[other]? := by
  have standing := cluster.standing_of_found k node found
  have named : node.id = id := allLinked.id_of_located id k node.standing located standing
  rw [entries_publish cluster k node found running (allLinked.linked id k node.standing located standing).reachable
    (lawful id k node.standing located standing)]
  constructor
  · rw [← entry_running node id named, ← named]
    exact node.announcing_entry cluster.entries
  · intro other different
    refine Mutation.apply_other node.announcing cluster.entries other ?_
    rw [node.announcing_key, named]
    exact different

theorem maintains_announce (before middle after : Cluster) (id : NodeId) (k : Incarnation) (node : Node)
    (allLinked : middle.frame.AllLinked) (lawful : middle.frame.Every fun _ _ standing => standing.rejected = ∅)
    (located : middle.current[id]? = some k) (found : middle.nodes[k]? = some node) (running : node.state = .running)
    (entries : middle.entries = before.entries)
    (others : ∀ other, id ≠ other → middle.frame.offers? other = before.frame.offers? other)
    (follows : Follows (middle.publish k) after) (written : after.entries = (middle.publish k).entries)
    (synced : after.Synced) :
    Maintains told before after ∧ ∀ groups, after.frame.offers? id = some groups →
      after.entries[id]? = Announcement.entry id groups := by
  have frame := ((follows_publish middle k).trans follows).frame
  obtain ⟨own, elsewhere⟩ := publish_running middle id k node allLinked lawful located found running
  have exact (groups : List Group) (offered : after.frame.offers? id = some groups) :
      after.entries[id]? = Announcement.entry id groups := by
    rw [frame, Frame.offers_located id k node.standing located (middle.standing_of_found k node found),
      node.standing.offer_running running, Option.some.injEq] at offered
    rw [written, own, ← offered]
    rfl
  refine ⟨Unfailing.alone ⟨synced, frame ▸ lawful⟩ id ?_ ?_ exact, exact⟩
  · intro other different
    rw [frame]
    exact others other different
  · intro other different
    rw [written, elsewhere other different, entries]

theorem Unfailing.publish (unfailing : cluster.Unfailing) (id : NodeId) (k : Incarnation)
    (located : cluster.current[id]? = some k) :
    Maintains none cluster (cluster.publish k) ∧ ∀ groups, (cluster.publish k).frame.offers? id = some groups →
      (cluster.publish k).entries[id]? = Announcement.entry id groups := by
  obtain ⟨node, found, _, _⟩ := unfailing.node_of_located id k located
  by_cases running : node.state = .running
  · exact maintains_announce cluster cluster _ id k node unfailing.allLinked unfailing.lawful located found running rfl
      (fun _ _ => rfl) (.refl _) rfl (unfailing.toSynced.follow (follows_publish cluster k))
  · rw [publish_idle cluster k node found running]
    refine ⟨unfailing.refl, fun groups offered => ?_⟩
    rw [Frame.offers_located id k node.standing located (cluster.standing_of_found k node found),
      node.standing.offer_resting running] at offered
    cases offered

theorem Unfailing.start (unfailing : cluster.Unfailing) (id : NodeId) (k : Incarnation)
    (located : cluster.current[id]? = some k) : Maintains none cluster (cluster.start k).1 := by
  obtain ⟨node, found, _, linked⟩ := unfailing.node_of_located id k located
  have standing := cluster.standing_of_found k node found
  have synced := unfailing.toSynced.start id k located
  have started := start_started cluster k node found linked.reachable
  generalize cluster.start k = result at started synced
  cases started with
  | refused error log => exact unfailing.furnish cluster.bus cluster.hub log
  | running bus stopped registered =>
      have reads := follows_recompute ((cluster.enrolled k node bus).publish k) k
      have frame := ((follows_publish (cluster.enrolled k node bus) k).trans reads).frame
      have here : (cluster.enrolled k node bus).nodes[k]? = some _ := (nodes_set_node _ k k _).trans (if_pos rfl)
      refine (maintains_announce cluster (cluster.enrolled k node bus) _ id k _ (frame ▸ synced.allLinked) ?_ located here rfl
        rfl ?_ reads (entries_recompute _ k) synced).1
      · rw [frame_enrolled]
        exact (unfailing.lawful.furnish _ _ _).replace k node.standing _ standing fun _ lawful => lawful
      · intro other different
        rw [frame_enrolled]
        exact Frame.offers_place_other (unfailing.allLinked.addressed.furnish _ _ _) id other k _ located different

theorem Unfailing.stop (unfailing : cluster.Unfailing) (id : NodeId) (k : Incarnation)
    (located : cluster.current[id]? = some k) : Maintains none cluster (cluster.stop k) := by
  obtain ⟨node, found, named, linked⟩ := unfailing.node_of_located id k located
  have standing := cluster.standing_of_found k node found
  cases unfailing.settled id k node.standing located standing with
  | inl stopped =>
      rw [stop_stopped cluster k node found stopped]
      exact unfailing.refl
  | inr running =>
      obtain ⟨held, holding, _⟩ := linked.enrolled running
      have frame := frame_stop cluster k node held found running holding
      have entries := entries_stop cluster k node held found running holding linked.reachable
        (unfailing.lawful id k node.standing located standing)
      rw [frame_dismissal] at frame
      refine Unfailing.alone ⟨unfailing.toSynced.stop id k located, ?_⟩ id ?_ ?_ ?_
      · rw [frame]
        exact (unfailing.lawful.furnish _ _ _).replace k node.standing _ standing fun _ lawful => lawful
      · intro other different
        rw [frame]
        exact Frame.offers_place_other (unfailing.allLinked.addressed.furnish _ _ _) id other k _ located different
      · intro other different
        rw [entries, named]
        exact found_erase_other _ id other different
      · intro groups offered
        rw [frame, Frame.offers_place_own id k _ located,
          Standing.offer_resting _ (show Lifecycle.stopped ≠ .running by decide)] at offered
        cases offered

theorem Unfailing.notify (unfailing : cluster.Unfailing) (hub : Hub Incarnation) (view : View) :
    Maintains (some view) cluster ({ cluster with hub }.notifyMembership view) := by
  have furnished : { cluster with hub }.Unfailing :=
    ⟨unfailing.toSynced.furnish cluster.bus hub cluster.log, unfailing.lawful⟩
  have told := furnished.sweep (follows_notify { cluster with hub } view) view (swept_notify { cluster with hub } view)
  exact told.after rfl fun _ _ offered => offered

theorem Unfailing.join (unfailing : cluster.Unfailing) (id : NodeId) :
    Maintains (some (cluster.join id).hub.view) cluster (cluster.join id) := by
  rw [Cluster.join, members_notify]
  exact unfailing.notify _ _

theorem Unfailing.leave (unfailing : cluster.Unfailing) (id : NodeId) :
    Maintains (some (cluster.leave id).hub.view) cluster (cluster.leave id) := by
  rw [Cluster.leave]
  split
  · exact unfailing.refl
  · rw [members_notify]
    exact unfailing.notify _ _

theorem Synced.loses (synced : cluster.Synced) (id : NodeId) (k : Incarnation) (located : cluster.current[id]? = some k) :
    cluster.frame.Loses id k ({ cluster with current := cluster.current.erase id }.discard Service.granted k).frame := by
  obtain ⟨node, found, _, linked⟩ := synced.node_of_located id k located
  refine ⟨current_discard _ k, fun j different => ?_⟩
  cases synced.settled id k node.standing located (cluster.standing_of_found k node found) with
  | inl stopped =>
      rw [discard_stopped { cluster with current := cluster.current.erase id } k node found stopped]
      rfl
  | inr running =>
      obtain ⟨held, holding, _⟩ := linked.enrolled running
      obtain ⟨log, dismissed⟩ := discard_running { cluster with current := cluster.current.erase id } k node held found
        running holding
      rw [dismissed, frame_dismissal, Frame.nodes_place, if_neg different]
      rfl

theorem Unfailing.discard (unfailing : cluster.Unfailing) (id : NodeId) (k : Incarnation)
    (located : cluster.current[id]? = some k) (lost : Cluster)
    (discarded : lost = { cluster with current := cluster.current.erase id }.discard Service.granted k) :
    lost.Unfailing ∧ ∀ other groups, lost.frame.offers? other = some groups →
      cluster.frame.offers? other = some groups := by
  have addressed := unfailing.allLinked.addressed
  have loses := unfailing.toSynced.loses id k located
  rw [← discarded] at loses
  refine ⟨⟨discarded ▸ unfailing.toSynced.discard id k located, ?_⟩, ?_⟩
  · exact loses.every addressed located unfailing.lawful
  · exact Frame.offers_of_forgotten addressed id k located lost.frame loses

theorem Unfailing.crash (unfailing : cluster.Unfailing) (id : NodeId) :
    Maintains (some (cluster.crash id).hub.view) cluster (cluster.crash id) := by
  rw [Cluster.crash]
  cases located : cluster.current[id]? with
  | none => exact unfailing.leave id
  | some k =>
      obtain ⟨lost, fewer⟩ := unfailing.discard id k located _ rfl
      exact (lost.leave id).after (discard_keeps _ k).2.2 fewer

theorem Unfailing.add (unfailing : cluster.Unfailing) (id : NodeId) : Maintains none cluster (cluster.added id) := by
  have resting : (Node.create id).standing.state ≠ .running := (by decide : Lifecycle.stopped ≠ Lifecycle.running)
  refine Unfailing.still ⟨unfailing.toSynced.add id, ?_⟩ rfl ?_
  · rw [frame_added]
    exact unfailing.lawful.create unfailing.allLinked.addressed id _ rfl
  · rw [frame_added]
    exact Frame.offers_added unfailing.allLinked.addressed id _ resting

theorem Unfailing.add_node (unfailing : cluster.Unfailing) (id : NodeId) :
    Maintains (some (cluster.addNode id).1.hub.view) cluster (cluster.addNode id).1 := by
  have joined := unfailing.join id
  rw [addNode]
  dsimp only
  split
  · exact joined
  · split
    · exact joined
    · exact joined.trans (joined.unfailing.add id)

theorem Unfailing.change_groups (unfailing : cluster.Unfailing) (id : NodeId) (k : Incarnation)
    (located : cluster.current[id]? = some k) (change : Registry Incarnation → Option (Registry Incarnation))
    (listeners : ∀ registry changed, change registry = some changed → changed.listeners = registry.listeners) :
    Maintains none cluster (cluster.changeGroups k change) := by
  obtain ⟨node, found, _, linked⟩ := unfailing.node_of_located id k located
  have standing := cluster.standing_of_found k node found
  rw [changeGroups, found]
  dsimp only
  cases changed : change node.registry with
  | none => exact unfailing.refl
  | some registry =>
      dsimp only
      have retains := node.retains_set_registry registry (listeners _ _ changed)
      have synced := unfailing.toSynced.retain k node _ found retains
      have lawful : (cluster.setNode k (node.setRegistry registry)).frame.Every
          fun _ _ standing => standing.rejected = ∅ := by
        rw [frame_set_node]
        exact unfailing.lawful.replace k node.standing _ standing fun _ lawful => lawful
      have here : (cluster.setNode k (node.setRegistry registry)).nodes[k]? = some (node.setRegistry registry) :=
        (nodes_set_node _ k k _).trans (if_pos rfl)
      have audience : registry.audience = node.registry.audience := by
        rw [Registry.audience, listeners _ _ changed]
        rfl
      have others (other : NodeId) (different : id ≠ other) :
          (cluster.setNode k (node.setRegistry registry)).frame.offers? other = cluster.frame.offers? other := by
        rw [frame_set_node]
        exact Frame.offers_place_other unfailing.allLinked.addressed id other k _ located different
      by_cases running : node.state = .running
      · rw [audience, show node.registry.audience = [k] from linked.audience_running running, List.foldl_cons,
          List.foldl_nil, groups_changed_running _ k _ here running]
        exact (maintains_announce cluster _ _ id k _ synced.allLinked lawful located here running rfl others (.refl _) rfl
          (synced.follow (follows_publish _ k))).1
      · rw [audience, show node.registry.audience = [] from linked.audience_idle running, List.foldl_nil]
        refine Unfailing.alone ⟨synced, lawful⟩ id others (fun _ _ => rfl) fun groups offered => ?_
        rw [frame_set_node, Frame.offers_place_own id k _ located,
          Standing.offer_resting (node.setRegistry registry).standing running] at offered
        cases offered

theorem Unfailing.start_all (unfailing : cluster.Unfailing) :
    Maintains none cluster (cluster.startAll cluster.incarnations).1 := by
  refine start_all_keeps ?_ cluster.incarnations cluster unfailing.refl cluster.located_of_incarnation
  intro middle id k maintains located
  exact ⟨maintains.trans (maintains.unfailing.start id k located), maintains.unfailing.current_start id k located⟩

theorem Unfailing.stop_all (unfailing : cluster.Unfailing) :
    Maintains none cluster (cluster.incarnations.foldl Cluster.stop cluster) := by
  refine stop_all_keeps ?_ cluster.incarnations cluster unfailing.refl cluster.located_of_incarnation
  intro middle id k maintains located
  exact ⟨maintains.trans (maintains.unfailing.stop id k located), maintains.unfailing.current_stop id k located⟩

-- The membership that an operation makes known, be it true or only alleged.
def told? (cluster : Cluster) : Operation → Option View
  | .addNode id => some (cluster.step (.addNode id)).1.hub.view
  | .crash id => some (cluster.step (.crash id)).1.hub.view
  | .join id => some (cluster.step (.join id)).1.hub.view
  | .leave id => some (cluster.step (.leave id)).1.hub.view
  | .notify members => some (View.ofList members)
  | .node _ (.membershipChanged members) => some (View.ofList members)
  | _ => none

def NodeOperation.isFaultless : NodeOperation → Bool
  | .rejectKey _ | .write _ => false
  | .setStoreUnreachable on => !on
  | _ => true

def Operation.isFaultless : Operation → Bool
  | .putRaw .. => false
  | .node _ operation => operation.isFaultless
  | _ => true

theorem Unfailing.step_node (unfailing : cluster.Unfailing) (id : NodeId) (k : Incarnation) (node : Node)
    (located : cluster.current[id]? = some k) (found : cluster.nodes[k]? = some node) (operation : NodeOperation)
    (faultless : operation.isFaultless = true) :
    Maintains (cluster.told? (.node id operation)) cluster (cluster.stepNode k node operation).1 := by
  cases operation with
  | start => exact unfailing.start id k located
  | stop => exact unfailing.stop id k located
  | createGroup group => exact unfailing.change_groups id k located _ (create_group_listeners group)
  | dropGroup group => exact unfailing.change_groups id k located _ (drop_group_listeners group)
  | put group key =>
      rw [stepNode]
      split
      · exact unfailing.refl
      · rename_i registry cached
        have kept := Registry.alike_put node.registry registry group key cached
        exact unfailing.renew k node _ found (node.alike_set_registry registry kept.1 kept.2)
  | setRejecting on => exact unfailing.renew k node _ found (node.alike_set_registry _ rfl rfl)
  | send event mode => exact unfailing.adjust (adjusted_send cluster k event mode)
  | invalidate event mode => exact unfailing.adjust (adjusted_invalidate cluster k event mode)
  | receive event => exact unfailing.adjust (adjusted_receive cluster k event)
  | publish => exact (unfailing.publish id k located).1
  | storeChanged => exact unfailing.follow (follows_store_changed cluster k) (entries_store_changed cluster k)
  | membershipChanged members =>
      refine unfailing.sweep (follows_membership_changed _ cluster k) _ ?_
      rw [membershipChanged]
      split
      · exact swept_sweep cluster k _
      · exact .of_eq rfl
  | setStoreUnreachable on =>
      cases on with
      | true => cases faultless
      | false =>
          rw [stepNode, modifyReplica, modify, amend_found cluster k _ node found]
          have alike : node.Alike { node with replica := { node.replica with unreachable := false } } :=
            ⟨⟨rfl, rfl, rfl, rfl, rfl, rfl, fun _ => rfl⟩, rfl, rfl⟩
          exact unfailing.adjust (.note _ k _ (.node cluster k node _ found alike .refl))
  | squat => exact unfailing.furnish _ cluster.hub cluster.log
  | unregister => exact unfailing.furnish _ cluster.hub cluster.log
  | rejectKey _ => cases faultless
  | write _ => cases faultless

theorem Unfailing.step (unfailing : cluster.Unfailing) (operation : Operation)
    (faultless : operation.isFaultless = true) :
    Maintains (cluster.told? operation) cluster (cluster.step operation).1 := by
  cases operation with
  | addNode id =>
      rw [told?, step_add_node]
      exact unfailing.add_node id
  | crash id => exact unfailing.crash id
  | startAll => exact unfailing.start_all
  | stopAll => exact unfailing.stop_all
  | join id => exact unfailing.join id
  | leave id => exact unfailing.leave id
  | notify members => exact unfailing.notify cluster.hub _
  | setMembershipUnreachable id on => exact unfailing.furnish cluster.bus (cluster.hub.setUnreachable id on) cluster.log
  | appoint id => exact unfailing.furnish cluster.bus (cluster.hub.appoint id) cluster.log
  | control control => exact unfailing.adjust (adjusted_control cluster control)
  | node id operation =>
      rw [Cluster.step]
      cases found : cluster.find? id with
      | none => exact unfailing.refl
      | some place =>
          obtain ⟨k, node⟩ := place
          obtain ⟨located, here⟩ := (cluster.find_eq_some_iff id k node).mp found
          exact unfailing.step_node id k node located here operation faultless
  | putRaw _ _ _ => cases faultless

end Cluster

end Coherence
