import Coherence.Proofs.AnnouncementCodec
import Coherence.Proofs.Convergence
import Coherence.Proofs.Launching
import Coherence.Cluster.Report

set_option autoImplicit false

namespace Coherence

open Std

namespace Hub

variable {ℓ : Type}

theorem release_keeps (hub : Hub ℓ) (handle : Handle) :
    (hub.release handle).unreachable = hub.unreachable ∧ (hub.release handle).appointed = hub.appointed := by
  rw [release]
  split
  · split <;> exact ⟨rfl, rfl⟩
  · exact ⟨rfl, rfl⟩

theorem leave_member (hub : Hub ℓ) (id : NodeId) (member : id ∈ hub.members) (unappointed : hub.appointed = none) :
    ∃ after, hub.leave? id = some after ∧ after.members = hub.members.erase id ∧ after.unreachable = hub.unreachable ∧
      after.appointed = none := by
  refine ⟨_, if_pos member, rfl, rfl, ?_⟩
  dsimp only
  rw [unappointed]
  rfl

end Hub

theorem elected_lowest (config : Config) (hub : Hub Incarnation) (id : NodeId) (lowest : hub.members.min? = some id)
    (reachable : hub.unreachable = ∅) (unappointed : hub.appointed = none) : Elected config hub hub.view id := by
  rw [Elected]
  cases config.election with
  | lowestNodeId => exact lowest
  | membershipService =>
      refine ⟨?_, ?_⟩
      · rw [Hub.primary?, unappointed, Option.none_or, View.primary?, ← ExtTreeSet.min?_eq_head?_toList]
        exact lowest
      · rw [reachable]
        exact ExtTreeSet.not_mem_empty

-- The groups of all the others whose names are fit for keys of the store.
def heard (present : List NodeId) (groups : NodeId → List Group) (id : NodeId) : ExtTreeSet Group :=
  ExtTreeSet.ofList ((present.filter fun other => other ≠ id && (NodeId.ofKey? other).isSome).flatMap groups)

theorem mem_heard {present : List NodeId} {groups : NodeId → List Group} {id : NodeId} {group : Group} :
    group ∈ heard present groups id ↔
      ∃ other ∈ present, other ≠ id ∧ (NodeId.ofKey? other).isSome = true ∧ group ∈ groups other := by
  simp only [heard, ExtTreeSet.mem_ofList, List.contains_iff_mem, List.mem_flatMap, List.mem_filter, Bool.and_eq_true,
    decide_eq_true_eq, and_assoc]

def NodeReport.summary (report : NodeReport) : NodeId × Lifecycle × List Group × List Group :=
  (report.id, report.state, report.groups, report.bridged)

def census (present : List NodeId) (groups : NodeId → List Group) :
    List (NodeId × Lifecycle × List Group × List Group) :=
  (ExtTreeSet.ofList present).toList.map fun id => (id, .running, groups id, (heard present groups id).toList)

theorem Announcement.mem_entry (id : NodeId) (groups : List Group) (group : Group) :
    (∃ bytes announcement, entry id groups = some (some bytes) ∧ decode id bytes = .ok announcement ∧
      group ∈ announcement.groups) ↔ (NodeId.ofKey? id).isSome = true ∧ group ∈ groups := by
  have member : group ∈ ExtTreeSet.ofList groups ↔ group ∈ groups := by
    rw [ExtTreeSet.mem_ofList, List.contains_iff_mem]
  constructor
  · rintro ⟨bytes, announcement, announced, decoded, present⟩
    rw [entry] at announced
    split at announced
    · cases announced
    · cases announced
      cases accepted : NodeId.ofKey? id with
      | none =>
          rw [decode_encode_invalid _ id accepted] at decoded
          cases decoded
      | some node =>
          rw [decode_encode id _ (NodeId.ofKey?_eq_some_iff.mp accepted).1] at decoded
          cases decoded
          exact ⟨rfl, member.mp present⟩
  · rintro ⟨accepted, present⟩
    obtain ⟨node, named⟩ := Option.isSome_iff_exists.mp accepted
    refine ⟨_, ⟨id, ExtTreeSet.ofList groups⟩, if_neg (List.ne_nil_of_mem present), ?_, member.mpr present⟩
    exact decode_encode id _ (NodeId.ofKey?_eq_some_iff.mp named).1

theorem keys_eq_to_list {β : Type} (map : ExtTreeMap String β) (set : ExtTreeSet String)
    (same : ∀ key, key ∈ map ↔ key ∈ set) : map.keys = set.toList := by
  refine eq_of_ordered id map.ordered_keys set.ordered_toList fun key => ?_
  rw [ExtTreeMap.mem_keys, ExtTreeSet.mem_toList, same]

namespace Cluster

-- All who are present run and have read what the others announce, and nothing is left of anyone else.
structure Steady (present : List NodeId) (groups : NodeId → List Group) (cluster : Cluster) : Prop where
  orderly : cluster.Orderly
  named : ∀ id, id ∈ cluster.current ↔ id ∈ present
  offered : ∀ id ∈ present, cluster.frame.offers? id = some (groups id)
  clean : present ≠ [] → ∀ key, key ∈ cluster.entries → key ∈ present
  agrees : ∀ (id : NodeId) k, cluster.current[id]? = some k → cluster.Agrees k

variable {base cluster : Cluster} {present : List NodeId} {groups : NodeId → List Group} {count : Nat}

namespace Steady

theorem entry (steady : cluster.Steady present groups) (id : NodeId) (member : id ∈ present) :
    cluster.entries[id]? = Announcement.entry id (groups id) := by
  obtain ⟨k, standing, located, found, running, owns⟩ := Frame.offers_eq_some id _ (steady.offered id member)
  rw [steady.orderly.announced id k standing located found running, Standing.entry_eq, owns,
    steady.orderly.allLinked.id_of_located id k standing located found]
  rfl

theorem bridged (steady : cluster.Steady present groups) (id : NodeId)
    (others : ∀ key, key ∈ cluster.entries → key ≠ id → key ∈ present) :
    bridged id cluster.entries = heard present groups id := by
  refine ExtTreeSet.ext_mem fun group => ?_
  rw [mem_bridged, mem_heard]
  constructor
  · rintro ⟨key, bytes, announcement, different, found, decoded, announced⟩
    have known : key ∈ present := by
      refine others key ?_ different
      rw [ExtTreeMap.mem_iff_isSome_getElem?, found]
      rfl
    rw [steady.entry key known] at found
    exact ⟨key, known, different, (Announcement.mem_entry key _ group).mp ⟨bytes, announcement, found, decoded, announced⟩⟩
  · rintro ⟨key, known, different, told⟩
    obtain ⟨bytes, announcement, found, decoded, announced⟩ := (Announcement.mem_entry key _ group).mpr told
    exact ⟨key, bytes, announcement, different, (steady.entry key known).trans found, decoded, announced⟩

theorem found (steady : cluster.Steady present groups) (id : NodeId) (k : Incarnation)
    (located : cluster.current[id]? = some k) :
    ∃ node, cluster.nodes[k]? = some node ∧ node.id = id ∧ node.state = .running ∧
      node.registry.groupNames = groups id ∧ node.snapshot.groups = heard present groups id := by
  have member : id ∈ present := (steady.named id).mp ((cluster.mem_current_iff id).mpr ⟨k, located⟩)
  obtain ⟨j, standing, place, there, running, owns⟩ := Frame.offers_eq_some id _ (steady.offered id member)
  rw [frame_current, located, Option.some.injEq] at place
  subst place
  obtain ⟨node, found, rfl⟩ := cluster.node_of_standing k standing there
  have called : node.id = id := steady.orderly.allLinked.id_of_located id k node.standing located there
  refine ⟨node, found, called, running, owns, ?_⟩
  rw [steady.agrees id k located node found (node.is_running_iff.mpr running), called,
    steady.bridged id fun key there _ => steady.clean (List.ne_nil_of_mem member) key there]

theorem owners (steady : cluster.Steady present groups) (members : ∀ id, id ∈ cluster.hub.members ↔ id ∈ present)
    (someone : present ≠ []) (key : String) (there : key ∈ cluster.entries) : key ∈ cluster.hub.members :=
  (members key).mpr (steady.clean someone key there)

theorem report (steady : cluster.Steady present groups) :
    cluster.report.map NodeReport.summary = census present groups := by
  let line (id : NodeId) : NodeId × Lifecycle × List Group × List Group :=
    (id, .running, groups id, (heard present groups id).toList)
  have each (pair : NodeId × Incarnation) (listed : pair ∈ cluster.current.toList) :
      (cluster.nodes[pair.2]?.map (pair.2, ·)).map (fun member => (NodeReport.ofNode member.2).summary) =
        some (line pair.1) := by
    obtain ⟨node, found, named, running, owns, knows⟩ :=
      steady.found pair.1 pair.2 (ExtTreeMap.mem_toList_iff_getElem?_eq_some.mp listed)
    rw [found]
    simp only [Option.map_some, NodeReport.ofNode, NodeReport.summary, named, running, owns, knows, line]
  have names : cluster.current.keys = (ExtTreeSet.ofList present).toList := by
    refine keys_eq_to_list _ _ fun id => ?_
    rw [steady.named, ExtTreeSet.mem_ofList, List.contains_iff_mem]
  calc cluster.report.map NodeReport.summary
      = cluster.current.toList.filterMap fun pair =>
          (cluster.nodes[pair.2]?.map (pair.2, ·)).map fun member => (NodeReport.ofNode member.2).summary := by
        rw [Cluster.report, Cluster.members, List.map_map, List.map_filterMap]
        rfl
    _ = cluster.current.toList.map fun pair => line pair.1 := by
        rw [List.filterMap_congr each, ← List.filterMap_eq_map]
        rfl
    _ = cluster.current.keys.map line := by
        rw [← ExtTreeMap.map_fst_toList_eq_keys, List.map_map]
        rfl
    _ = census present groups := by
        rw [names]
        rfl

end Steady

theorem Rising.steady (rising : Rising base groups count [] cluster) (named : ∀ id, id ∈ base.current ↔ id ∈ present)
    (vacant : ∀ key, key ∉ base.entries) : cluster.Steady present groups := by
  have known (id : NodeId) : id ∈ cluster.current ↔ id ∈ present := by
    rw [rising.current, named]
  refine ⟨rising.proceeds.orderly, known, fun id member => ?_, fun _ key there => ?_, rising.upToDate.agrees⟩
  · obtain ⟨k, located⟩ := (cluster.mem_current_iff id).mp ((known id).mpr member)
    exact rising.risen id k located List.not_mem_nil
  · by_cases runs : cluster.frame.Runs key
    · obtain ⟨k, _, located, _⟩ := runs
      exact (known key).mp ((cluster.mem_current_iff key).mpr ⟨k, located⟩)
    · exact absurd (rising.proceeds.leaves key there runs).1 (vacant key)

theorem hub_discard (cluster : Cluster) (k : Incarnation) :
    (cluster.discard Service.granted k).hub = cluster.hub ∨
      ∃ handle, (cluster.discard Service.granted k).hub = cluster.hub.release handle := by
  rw [Cluster.discard]
  split
  · exact .inl rfl
  · split
    · exact .inl rfl
    · obtain ⟨log, unregistered⟩ := unregister_granted (cluster.note k [.droppedWhileActive]) k _ .dropUnregisterFailed
      rw [unregistered, release]
      split
      · exact .inl rfl
      · split
        · exact .inl rfl
        · exact .inr ⟨_, rfl⟩

-- A cluster that has just lost a node, before and after the others are told.
structure Departure (id : NodeId) (most : Nat) (cluster left after : Cluster) : Prop where
  told : after = left.notifyMembership left.hub.view
  orderly : after.Orderly
  leaves : ∀ key, key ∈ after.entries → ¬ after.frame.Runs key → key ∈ cluster.entries
  synced : left.Synced
  hubSound : left.frame.HubSoundIf True
  once : left.frame.audience.Nodup
  upToDate : ∃ limit, left.UpToDate limit most
  entries : left.entries = cluster.entries
  current : left.current = cluster.current.erase id
  members : left.hub.members = cluster.hub.members.erase id
  reachable : left.hub.unreachable = ∅
  unappointed : left.hub.appointed = none
  offers : ∀ other, id ≠ other → left.frame.offers? other = cluster.frame.offers? other

theorem Rising.crash (rising : Rising base groups count [] cluster) (id : NodeId) (k : Incarnation)
    (located : cluster.current[id]? = some k) : ∃ left, Departure id (2 * count) cluster left (cluster.crash id) := by
  have orderly := rising.proceeds.orderly
  have crashed : cluster.crash id =
      ({ cluster with current := cluster.current.erase id }.discard Service.granted k).leave id := by
    rw [Cluster.crash, located]
  have sound := (drifts_crash rising.upheld.hubSound id).sound rising.upheld.sound
  have loses := orderly.toSynced.loses id k located
  have synced := orderly.toSynced.discard id k located
  have upToDate := rising.upToDate.discard orderly.toSynced id k located
  have hubSound := hub_sound_discard rising.upheld.hubSound id k located
  obtain ⟨current, members, entries⟩ := discard_keeps { cluster with current := cluster.current.erase id } k
  have hub := hub_discard { cluster with current := cluster.current.erase id } k
  generalize { cluster with current := cluster.current.erase id }.discard Service.granted k = lost at *
  have settings : lost.hub.unreachable = ∅ ∧ lost.hub.appointed = none := by
    rcases hub with same | ⟨handle, released⟩
    · rw [same]
      exact ⟨rising.reachable, rising.unappointed⟩
    · rw [released, (Hub.release_keeps _ handle).1, (Hub.release_keeps _ handle).2]
      exact ⟨rising.reachable, rising.unappointed⟩
  have member : id ∈ lost.hub.members := by
    rw [members]
    exact orderly.ordered.joined id k located
  obtain ⟨hub, leaves, rest, reachable, unappointed⟩ := lost.hub.leave_member id member settings.2
  have notified : cluster.crash id = { lost with hub }.notifyMembership hub.view := by
    rw [crashed, Cluster.leave, leaves]
  have once : lost.frame.audience.Nodup := by
    have told := sound.audience_nodup
    rwa [notified, (follows_notify { lost with hub } hub.view).frame] at told
  have unnamed : lost.frame.current[id]? = none := by
    rw [frame_current, current]
    exact ExtTreeMap.getElem?_erase_self
  exact ⟨{ lost with hub },
    { told := notified
      orderly := (orderly.crash id).1
      leaves := fun key there resting => ((orderly.crash id).2 key there resting).1
      synced := synced.furnish lost.bus hub lost.log
      hubSound := hubSound.leave id hub leaves fun _ => unnamed
      once
      upToDate := ⟨count, upToDate.furnish lost.bus hub lost.log⟩
      entries
      current
      members := rest.trans (members ▸ rfl)
      reachable := reachable.trans settings.1
      unappointed
      offers := Frame.offers_other orderly.allLinked.addressed id k located lost.frame loses }⟩

-- The same without a loss: the bridge of the node that goes is held by someone else.
theorem Rising.detach (rising : Rising base groups count [] cluster) (id : NodeId) (k : Incarnation)
    (located : cluster.current[id]? = some k) :
    ∃ hub, Departure id (2 * count) cluster { cluster with current := cluster.current.erase id, hub }
      (cluster.detach id) := by
  have orderly := rising.proceeds.orderly
  have member : id ∈ cluster.hub.members := orderly.ordered.joined id k located
  obtain ⟨hub, leaves, rest, reachable, unappointed⟩ := cluster.hub.leave_member id member rising.unappointed
  have proceeds := (orderly.forget id).leave id ExtTreeMap.getElem?_erase_self
  have notified : cluster.detach id =
      { cluster with current := cluster.current.erase id, hub }.notifyMembership hub.view := by
    rw [Cluster.detach, Cluster.leave, show Hub.leave? _ id = some hub from leaves]
  have loses : cluster.frame.Loses id k { cluster with current := cluster.current.erase id, hub }.frame :=
    ⟨rfl, fun _ _ => rfl⟩
  exact ⟨hub,
    { told := notified
      orderly := proceeds.orderly
      leaves := fun key there resting => (proceeds.leaves key there resting).1
      synced := (orderly.toSynced.forget id).furnish cluster.bus hub cluster.log
      hubSound := rising.upheld.hubSound.detach id hub leaves
      once := rising.upheld.sound.audience_nodup
      upToDate := ⟨count, (rising.upToDate.forget id).furnish cluster.bus hub cluster.log⟩
      entries := rfl
      current := rfl
      members := rest
      reachable := reachable.trans rising.reachable
      unappointed
      offers := Frame.offers_other orderly.allLinked.addressed id k located _ loses }⟩

namespace Departure

variable {id : NodeId} {most : Nat} {left after : Cluster}

theorem frame (departure : Departure id most cluster left after) : after.frame = left.frame := by
  rw [departure.told]
  exact (follows_notify left left.hub.view).frame

theorem drawsAtMost (departure : Departure id most cluster left after)
    (owned : ∀ key, key ∈ cluster.entries → key ∈ cluster.hub.members) : DrawsAtMost 1 left after := by
  have few : (left.hub.view.deadOwners left.entries.keys).length ≤ 1 := by
    have once := nodup_of_ordered (fun owner => owner) (pairwise_dead_owners left.hub.view left)
    suffices only : left.hub.view.deadOwners left.entries.keys ⊆ [id] from (once.subperm only).length_le
    intro key dead
    obtain ⟨there, gone⟩ := (mem_dead_owners left.hub.view left key).mp dead
    change key ∉ left.hub.members at gone
    rw [departure.entries] at there
    rw [departure.members, ExtTreeSet.mem_erase] at gone
    rw [List.mem_singleton]
    by_contra different
    exact gone ⟨fun same => different (Std.compare_eq_iff_eq.mp same).symm, owned key there⟩
  rw [departure.told]
  exact fun k => Nat.le_trans (draws_at_most_notify departure.hubSound departure.once left.hub.view k)
    (Nat.add_le_add_left few _)

theorem up_to_date_after (departure : Departure id most cluster left after)
    (owned : ∀ key, key ∈ cluster.entries → key ∈ cluster.hub.members) (capacity : most + 1 < UInt64.size) :
    ∃ limit, after.UpToDate limit (most + 1) := by
  obtain ⟨limit, upToDate⟩ := departure.upToDate
  exact ⟨limit, upToDate.follow departure.synced (departure.told ▸ follows_notify left left.hub.view)
    (departure.drawsAtMost owned) capacity⟩

theorem clean (departure : Departure id most cluster left after) (lowest : NodeId)
    (chosen : left.hub.members.min? = some lowest) (runs : left.frame.Runs lowest) (key : String)
    (there : key ∈ after.entries) : key ∈ left.hub.members := by
  have ordered : left.frame.Ordered := departure.frame ▸ departure.orderly.ordered
  obtain ⟨k, standing, located, found, running⟩ := runs
  have named := departure.synced.allLinked.id_of_located lowest k standing located found
  obtain ⟨held, _, lists⟩ := departure.hubSound.present trivial lowest k standing located found running
  have elected := elected_lowest left.config left.hub lowest chosen departure.reachable departure.unappointed
  rw [departure.told] at there
  exact notify_cleans departure.hubSound left.hub.view k standing ((Hub.mem_audience k).mpr ⟨held.hub, lists⟩) found running
    (named ▸ elected) (departure.synced.allLinked.linked lowest k standing located found).reachable
    (ordered.lawful lowest k standing located found) key there

theorem steady (departure : Departure id most cluster left after) (steady : cluster.Steady present groups)
    (members : ∀ id, id ∈ cluster.hub.members ↔ id ∈ present) (member : id ∈ present)
    (capacity : most + 1 < UInt64.size) : after.Steady (present.filter (· ≠ id)) groups := by
  have mem_rest (other : NodeId) : other ∈ present.filter (· ≠ id) ↔ other ∈ present ∧ id ≠ other := by
    rw [List.mem_filter, decide_eq_true_eq, ne_comm]
  have remaining (other : NodeId) : other ∈ left.hub.members ↔ other ∈ present.filter (· ≠ id) := by
    rw [departure.members, ExtTreeSet.mem_erase, mem_rest, members, and_comm]
    exact and_congr_right fun _ => not_congr Std.compare_eq_iff_eq
  have offered (other : NodeId) (stays : other ∈ present.filter (· ≠ id)) :
      left.frame.offers? other = some (groups other) := by
    obtain ⟨here, different⟩ := (mem_rest other).mp stays
    rw [departure.offers other different]
    exact steady.offered other here
  refine ⟨departure.orderly, fun other => ?_, ?_, fun someone key there => ?_, ?_⟩
  · rw [← frame_current, departure.frame, frame_current, departure.current, ExtTreeMap.mem_erase, mem_rest, steady.named,
      and_comm]
    exact and_congr_right fun _ => not_congr Std.compare_eq_iff_eq
  · rw [departure.frame]
    exact offered
  · rw [← remaining]
    obtain ⟨first, stays⟩ := List.exists_mem_of_ne_nil _ someone
    obtain ⟨lowest, chosen⟩ := Option.ne_none_iff_exists'.mp fun nobody : left.hub.members.min? = none =>
      ExtTreeSet.not_mem_empty (ExtTreeSet.min?_eq_none_iff.mp nobody ▸ (remaining first).mpr stays)
    refine departure.clean lowest chosen ?_ key there
    exact (Frame.runs_iff_offers lowest).mpr ⟨_, offered lowest ((remaining lowest).mp (ExtTreeSet.min?_mem chosen))⟩
  · obtain ⟨limit, upToDate⟩ := departure.up_to_date_after (steady.owners members (List.ne_nil_of_mem member)) capacity
    exact upToDate.agrees

theorem owned (departure : Departure id most cluster left after) (steady : cluster.Steady present groups)
    (rest : after.Steady (present.filter (· ≠ id)) groups) (member : id ∈ present) (key : String)
    (there : key ∈ after.entries) (different : key ≠ id) : key ∈ present.filter (· ≠ id) := by
  by_cases runs : after.frame.Runs key
  · obtain ⟨k, _, located, _⟩ := runs
    exact (rest.named key).mp ((after.mem_current_iff key).mpr ⟨k, located⟩)
  · have known := steady.clean (List.ne_nil_of_mem member) key (departure.leaves key there runs)
    exact List.mem_filter.mpr ⟨known, decide_eq_true different⟩

end Departure

-- A bridge that runs under a name, whether or not a node still has it: calls reach it, and it hears of the store.
structure Active (cluster : Cluster) (k : Incarnation) (id : NodeId) (known : ExtTreeSet Group) : Prop where
  runs : ∃ node, cluster.nodes[k]? = some node ∧ node.id = id ∧ node.state = .running ∧ node.snapshot.groups = known
  handled : (cluster.bus.handlersOn cluster.channel)[id]? = some k
  hears : cluster.frame.Hears k

theorem Steady.active {limit most : Nat} (steady : cluster.Steady present groups) (upToDate : cluster.UpToDate limit most)
    (id : NodeId) (k : Incarnation) (located : cluster.current[id]? = some k) :
    cluster.Active k id (heard present groups id) := by
  obtain ⟨node, found, named, running, _, knows⟩ := steady.found id k located
  have standing := cluster.standing_of_found k node found
  exact ⟨⟨node, found, named, running, knows⟩, steady.orderly.ordered.handled id k node.standing located standing running,
    upToDate.attentive.hears steady.orderly.allLinked id k node.standing located standing running⟩

theorem Departure.detached {id : NodeId} {most : Nat} {after : Cluster} {hub : Hub Incarnation}
    (departure : Departure id most cluster { cluster with current := cluster.current.erase id, hub } after)
    (steady : cluster.Steady present groups) (members : ∀ id, id ∈ cluster.hub.members ↔ id ∈ present)
    (member : id ∈ present) (capacity : most + 1 < UInt64.size) (k : Incarnation) (located : cluster.current[id]? = some k)
    (active : cluster.Active k id (heard present groups id)) :
    after.Active k id (heard (present.filter (· ≠ id)) groups id) := by
  obtain ⟨node, found, named, running, _⟩ := active.runs
  obtain ⟨limit, upToDate⟩ := departure.upToDate
  have rest := departure.steady steady members member capacity
  have follows : Follows { cluster with current := cluster.current.erase id, hub } after :=
    departure.told ▸ follows_notify _ hub.view
  have few : after.drawsOf k < UInt64.size := by
    have drawsAtMost := departure.drawsAtMost (steady.owners members (List.ne_nil_of_mem member)) k
    have drawn := upToDate.drawn k
    omega
  have agrees := follows.agrees k few active.hears (departure.synced.dated k) (steady.agrees id k located)
  have standing : after.frame.nodes[k]? = some node.standing := by
    rw [departure.frame]
    exact cluster.standing_of_found k node found
  obtain ⟨last, there, same⟩ := after.node_of_standing k node.standing standing
  have called : last.id = id := (congrArg Standing.id same).trans named
  have runs : last.state = .running := (congrArg Standing.state same).trans running
  refine ⟨⟨last, there, called, runs, ?_⟩, ?_, ?_⟩
  · rw [agrees last there (last.is_running_iff.mpr runs), called]
    exact rest.bridged id (departure.owned steady rest member)
  · have handled : (after.frame.bus.handlersOn after.frame.config.channel)[id]? = some k := by
      rw [departure.frame]
      exact active.handled
    exact handled
  · rw [departure.frame]
    exact active.hears

end Cluster

end Coherence
