import Coherence.Proofs.Offers
import Coherence.Proofs.DrawBounds
import Coherence.Proofs.Preparing

set_option autoImplicit false

namespace Coherence

open Std

theorem Hub.subscribe_keeps {ℓ : Type} (hub : Hub ℓ) (node : NodeId) (listener : ℓ) :
    (hub.subscribe node listener).1.members = hub.members ∧
      (hub.subscribe node listener).1.unreachable = hub.unreachable ∧
      (hub.subscribe node listener).1.appointed = hub.appointed := by
  rw [subscribe]
  split <;> exact ⟨rfl, rfl, rfl⟩

namespace Cluster

variable {base cluster : Cluster} {groups : NodeId → List Group} {count : Nat} {pending : List Incarnation}

theorem Adjusted.keeps {before after : Cluster} (adjusted : Adjusted before after) :
    after.config = before.config ∧ after.hub = before.hub ∧ ∀ id, after.frame.offers? id = before.frame.offers? id := by
  induction adjusted with
  | refl => exact ⟨rfl, rfl, fun _ => rfl⟩
  | wire after bus handlers _ ih => exact ih
  | note after k log _ ih => exact ih
  | node after k node fresh found alike _ ih =>
      obtain ⟨config, hub, offers⟩ := ih
      refine ⟨config, hub, fun id => ?_⟩
      rw [offers_alike after k node fresh found alike, offers]

-- Bridges are started one after the other; those that wait have the groups they will announce.
structure Rising (base : Cluster) (groups : NodeId → List Group) (count : Nat) (pending : List Incarnation)
    (cluster : Cluster) : Prop where
  proceeds : Proceeds base cluster
  upheld : cluster.Upheld True
  upToDate : cluster.UpToDate count (2 * count)
  config : cluster.config = base.config
  current : cluster.current = base.current
  members : cluster.hub.members = base.hub.members
  reachable : cluster.hub.unreachable = ∅
  unappointed : cluster.hub.appointed = none
  risen : ∀ (id : NodeId) k, cluster.frame.current[id]? = some k → k ∉ pending →
    cluster.frame.offers? id = some (groups id)
  waiting : ∀ (id : NodeId) k, cluster.frame.current[id]? = some k → k ∈ pending →
    ∃ standing, cluster.frame.nodes[k]? = some standing ∧ standing.state = .stopped ∧
      standing.registry.groupNames = groups id

theorem register_resting (upheld : cluster.Upheld True) (k : Incarnation) (node : Node)
    (located : cluster.current[node.id]? = some k) (found : cluster.nodes[k]? = some node) (stopped : node.state = .stopped) :
    ∃ bus, cluster.bus.register cluster.channel node.id k = .ok bus := by
  have vacant : cluster.bus.isRegistered cluster.channel node.id = false := by
    rw [Bus.isRegistered, ← Bool.not_eq_true, ExtTreeMap.contains_iff_mem, ExtTreeMap.mem_iff_isSome_getElem?,
      Option.isSome_iff_exists]
    rintro ⟨j, handles⟩
    obtain ⟨_, place, other, there, running⟩ := (upheld.sound.answering trivial _ _ _).mp handles
    rw [located, Option.some.injEq] at place
    subst place
    rw [found, Option.some.injEq] at there
    subst there
    cases stopped.symm.trans running
  exact ⟨_, if_neg (by rw [vacant]; decide)⟩

namespace Rising

theorem start {k : Incarnation} (rising : Rising base groups count (k :: pending) cluster) (fresh : k ∉ pending)
    (id : NodeId) (located : cluster.current[id]? = some k) (capacity : 2 * (count + 1) < UInt64.size) :
    (cluster.start k).2 = .ok () ∧ Rising base groups (count + 1) pending (cluster.start k).1 := by
  have orderly := rising.proceeds.orderly
  obtain ⟨standing, there, stopped, owns⟩ := rising.waiting id k located (List.mem_cons_self ..)
  obtain ⟨node, found, rfl⟩ := cluster.node_of_standing k standing there
  have named : node.id = id := orderly.allLinked.id_of_located id k node.standing located there
  subst named
  have reachable := (orderly.allLinked.linked node.id k node.standing located there).reachable
  have answered : cluster.hub.currentMembers node.id cluster.channel = .ok cluster.hub.members := by
    rw [Hub.currentMembers, rising.reachable, if_neg ExtTreeSet.not_mem_empty]
  obtain ⟨bus, registered⟩ := register_resting rising.upheld k node located found stopped
  have started := start_granted cluster k node cluster.hub.members bus found stopped reachable answered registered
  have proceeds := rising.proceeds.trans (orderly.start node.id k located)
  have upheld := (rising.upheld.start node.id k located).1
  have upToDate := rising.upToDate.start orderly.toSynced rising.upheld.sound k node bus located found stopped registered
    (by omega) capacity
  have frame := ((follows_publish (cluster.enrolled k node bus) k).trans (follows_recompute _ k)).frame
  rw [frame_enrolled] at frame
  obtain ⟨members, unreachable, appointed⟩ := cluster.hub.subscribe_keeps node.id k
  rw [started] at proceeds upheld ⊢
  have hub : (((cluster.enrolled k node bus).publish k).recompute k).hub = (cluster.hub.subscribe node.id k).1 :=
    congrArg Frame.hub frame
  refine ⟨rfl, proceeds, upheld, upToDate, ?_, ?_, ?_, ?_, ?_, ?_, ?_⟩
  · exact (congrArg Frame.config frame).trans rising.config
  · exact (congrArg Frame.current frame).trans rising.current
  · rw [hub, members, rising.members]
  · rw [hub, unreachable, rising.reachable]
  · rw [hub, appointed, rising.unappointed]
  · intro other j place risen
    rw [frame] at place ⊢
    by_cases same : node.id = other
    · subst same
      rw [Frame.offers_place_own node.id k _ located, Standing.offer_running _ rfl]
      exact congrArg some owns
    · rw [Frame.offers_place_other (orderly.allLinked.addressed.furnish _ _ _) node.id other k _ located same]
      refine rising.risen other j place fun member => ?_
      cases List.mem_cons.mp member with
      | inl first =>
          subst first
          exact same (orderly.allLinked.addressed.name_unique node.id other j located place)
      | inr rest => exact risen rest
  · intro other j place waits
    have different : k ≠ j := by
      rintro rfl
      exact fresh waits
    rw [frame] at place ⊢
    rw [Frame.nodes_place, if_neg different]
    exact rising.waiting other j place (List.mem_cons_of_mem k waits)

theorem start_all (pending : List Incarnation) (rising : Rising base groups count pending cluster)
    (once : pending.Nodup) (located : ∀ k ∈ pending, ∃ id : NodeId, cluster.current[id]? = some k)
    (capacity : 2 * (count + pending.length) < UInt64.size) :
    (cluster.startAll pending).2 = .ok () ∧
      Rising base groups (count + pending.length) [] (cluster.startAll pending).1 := by
  induction pending generalizing cluster count with
  | nil => exact ⟨rfl, rising⟩
  | cons k pending ih =>
      rw [List.length_cons] at capacity
      obtain ⟨id, here⟩ := located k (List.mem_cons_self ..)
      obtain ⟨granted, onward⟩ := rising.start (List.nodup_cons.mp once).1 id here (by omega)
      rw [startAll]
      generalize cluster.start k = result at granted onward
      obtain ⟨after, outcome⟩ := result
      subst granted
      rw [List.length_cons, show count + (pending.length + 1) = count + 1 + pending.length by omega] at *
      refine ih onward (List.nodup_cons.mp once).2 (fun j member => ?_) capacity
      rw [onward.current, ← rising.current]
      exact located j (List.mem_cons_of_mem k member)

theorem adjust {after : Cluster} (rising : Rising base groups count [] cluster) (adjusted : Adjusted cluster after)
    (upheld : after.Upheld True) : Rising base groups count [] after := by
  obtain ⟨config, hub, offers⟩ := adjusted.keeps
  refine ⟨rising.proceeds.trans (rising.proceeds.orderly.adjust adjusted), upheld, rising.upToDate.adjust adjusted, ?_, ?_,
    ?_, ?_, ?_, ?_, fun _ _ _ waits => absurd waits List.not_mem_nil⟩
  · rw [config, rising.config]
  · rw [adjusted.current, rising.current]
  · rw [hub, rising.members]
  · rw [hub, rising.reachable]
  · rw [hub, rising.unappointed]
  · intro id k located risen
    rw [frame_current, adjusted.current] at located
    rw [offers]
    exact rising.risen id k located risen

end Rising

theorem incarnations_nodup (addressed : cluster.frame.Addressed) : cluster.incarnations.Nodup := by
  refine List.Pairwise.map _ ?_ (List.Pairwise.imp_of_mem ?_ cluster.current.distinct_keys_toList)
    (R := fun a b : NodeId × Incarnation => a.2 ≠ b.2)
  · exact fun _ _ different => different
  · rintro ⟨first, k⟩ ⟨second, other⟩ here there different same
    dsimp only at same
    subst same
    refine different (Std.compare_eq_iff_eq.mpr ?_)
    exact addressed.name_unique first second k (ExtTreeMap.mem_toList_iff_getElem?_eq_some.mp here)
      (ExtTreeMap.mem_toList_iff_getElem?_eq_some.mp there)

theorem incarnations_length (cluster : Cluster) : cluster.incarnations.length = cluster.current.keys.length := by
  rw [incarnations, List.length_map, ← ExtTreeMap.map_fst_toList_eq_keys, List.length_map]

theorem Unstarted.rising {settings : Config} {known : NodeId → Prop} {owns : NodeId → Group → Prop}
    (unstarted : base.Unstarted settings known owns) (orderly : base.Orderly) (upheld : base.Upheld True)
    (cached : base.frame.Every fun id _ standing => standing.registry.groupNames = groups id) :
    Rising base groups 0 base.incarnations base := by
  have idle (id : NodeId) (k : Incarnation) (standing : Standing) (located : base.frame.current[id]? = some k)
      (found : base.frame.nodes[k]? = some standing) : standing.state ≠ .running := by
    rw [(unstarted.resting id k standing located found).1]
    decide
  have nobody : base.frame.subscribers = {} := by
    rw [Frame.subscribers, show base.frame.listeners = ∅ from congrArg Store.listeners unstarted.store]
    rfl
  have upToDate : base.UpToDate 0 (2 * 0) := by
    refine ⟨⟨?_, ?_, ?_⟩, fun k => Nat.le_of_eq (unstarted.unread k), fun id k located node found running => ?_⟩
    · exact fun id k standing located found running => absurd running (idle id k standing located found)
    · rw [nobody]
      exact fun number member => absurd member ExtTreeMap.not_mem_empty
    · rw [nobody]
      decide
    · exact absurd (node.is_running_iff.mp running) (idle id k node.standing located (base.standing_of_found k node found))
  refine ⟨orderly.refl, upheld, upToDate, rfl, rfl, rfl, unstarted.reachable, unstarted.unappointed, ?_, ?_⟩
  · intro id k located outside
    refine absurd ?_ outside
    exact List.mem_map.mpr ⟨(id, k), ExtTreeMap.mem_toList_iff_getElem?_eq_some.mpr located, rfl⟩
  · intro id k located _
    obtain ⟨standing, found, _⟩ := unstarted.addressed.located id k located
    exact ⟨standing, found, (unstarted.resting id k standing located found).1, cached id k standing located found⟩

end Cluster

end Coherence
