import Coherence.Proofs.Agreement
import Coherence.Proofs.AnnouncementCodec
import Coherence.Proofs.Announcing

set_option autoImplicit false

namespace Coherence

open Std

namespace Cluster

theorem bus_deliver (cluster : Cluster) (arrived : List (Delivery Incarnation)) :
    (cluster.deliver arrived).bus = cluster.bus := by
  induction arrived generalizing cluster with
  | nil => rfl
  | cons delivery arrived ih =>
      rw [deliver_cons]
      exact (ih _).trans (bus_amend cluster delivery.handler _)

theorem Orderly.covers {cluster : Cluster} (orderly : cluster.Orderly) (capacity : cluster.draws < UInt64.size)
    (id name : NodeId) (k j : Incarnation) (node other : Node) (found : cluster.find? id = some (k, node))
    (running : node.isRunning = true) (there : cluster.find? name = some (j, other)) (runs : other.isRunning = true)
    (different : id ≠ name) (accepted : NodeId.ofKey? name = some name) :
    ∀ group ∈ other.registry.cache, node.snapshot.contains group = true := by
  intro group member
  obtain ⟨located, here⟩ := (cluster.find_eq_some_iff id k node).mp found
  obtain ⟨place, present⟩ := (cluster.find_eq_some_iff name j other).mp there
  have standing := cluster.standing_of_found j other present
  have named : node.id = id := orderly.allLinked.id_of_located id k _ located (cluster.standing_of_found k node here)
  have called : other.id = name := orderly.allLinked.id_of_located name j _ place standing
  have announced := orderly.announced name j other.standing place standing (other.is_running_iff.mp runs)
  have groups : group ∈ other.registry.groupNames := ExtTreeMap.mem_keys.mpr member
  rw [Snapshot.contains, ExtTreeSet.contains_iff_mem, orderly.agrees capacity id k located node here running, mem_bridged]
  -- The entry that announces the group is the other node's own.
  refine ⟨name, Announcement.encode ⟨name, ExtTreeSet.ofList other.registry.groupNames⟩,
    ⟨name, ExtTreeSet.ofList other.registry.groupNames⟩, ?_, ?_, ?_, ?_⟩
  · exact named ▸ different.symm
  · rw [announced, Standing.entry_eq, ← called]
    exact if_neg (List.ne_nil_of_mem groups)
  · exact Announcement.decode_encode name _ (NodeId.ofKey?_eq_some_iff.mp accepted).1
  · exact ExtTreeSet.mem_ofList.mpr (List.contains_iff_mem.mpr groups)

theorem send_suppressed (cluster : Cluster) (k : Incarnation) (node : Node) (event : Event) (mode : Mode)
    (found : cluster.nodes[k]? = some node) (nothing : node.snapshot.gate event = none) :
    cluster.send k event mode = (cluster.setNode k (node.count .broadcastsSuppressed), .suppressed) := by
  rw [send, found]
  dsimp only
  rw [nothing]

theorem send_wanted (cluster : Cluster) (k : Incarnation) (node : Node) (event wanted : Event) (mode : Mode)
    (found : cluster.nodes[k]? = some node) (passed : node.snapshot.gate event = some wanted) :
    ∃ last log outcome, outcome ≠ .suppressed ∧
      ({ cluster with bus := (cluster.bus.broadcast node.id cluster.channel wanted mode).1 }.deliver
        (cluster.bus.broadcast node.id cluster.channel wanted mode).2.1).nodes[k]? = some last ∧
      cluster.send k event mode =
        ((({ cluster with bus := (cluster.bus.broadcast node.id cluster.channel wanted mode).1 }.deliver
          (cluster.bus.broadcast node.id cluster.channel wanted mode).2.1).setNode k
            { last with relay := (last.relay.conclude wanted
              (cluster.bus.broadcast node.id cluster.channel wanted mode).2.2).1 }).note k log, outcome) := by
  rw [send, found]
  dsimp only
  rw [passed]
  dsimp only
  generalize cluster.bus.broadcast node.id cluster.channel wanted mode = traffic
  obtain ⟨last, there⟩ := (adjusted_deliver { cluster with bus := traffic.1 } traffic.2.1).found k node found
  refine ⟨last, (last.relay.conclude wanted traffic.2.2).2.2, (last.relay.conclude wanted traffic.2.2).2.1, ?_, there, ?_⟩
  · cases traffic.2.2 with
    | error fault => exact (by decide : Outcome.failed ≠ Outcome.suppressed)
    | ok => exact (by decide : Outcome.sent ≠ Outcome.suppressed)
  · rw [there]

/-- Another running node loses by the event that is sent just what it would lose by the whole one. -/
theorem gating_loses_nothing (cluster : Cluster) (attained : cluster.Attained) (capacity : cluster.draws < UInt64.size)
    (id name : NodeId) (k j : Incarnation) (node other : Node) (found : cluster.find? id = some (k, node))
    (running : node.isRunning = true) (there : cluster.find? name = some (j, other)) (runs : other.isRunning = true)
    (different : id ≠ name) (accepted : NodeId.ofKey? name = some name) (event : Event) (mode : Mode) :
    (cluster.send k event mode).2 = .suppressed ∧ (cluster.send k event mode).1.bus.sent = cluster.bus.sent ∧
        other.registry.cache = (other.registry.evict event).cache ∨
      ∃ wanted targets, (cluster.send k event mode).2 ≠ .suppressed ∧
        (cluster.send k event mode).1.bus.sent =
          cluster.bus.sent ++ [⟨id, cluster.channel, wanted, mode, targets⟩] ∧
        name ∈ targets ∧ (other.registry.evict wanted).cache = (other.registry.evict event).cache := by
  have orderly := attained.orderly
  have covers := orderly.covers capacity id name k j node other found running there runs different accepted
  obtain ⟨located, here⟩ := (cluster.find_eq_some_iff id k node).mp found
  obtain ⟨place, present⟩ := (cluster.find_eq_some_iff name j other).mp there
  have named : node.id = id := orderly.allLinked.id_of_located id k _ located (cluster.standing_of_found k node here)
  cases passed : node.snapshot.gate event with
  | none =>
      rw [send_suppressed cluster k node event mode here passed]
      exact .inl ⟨rfl, rfl, (Snapshot.evict_suppressed covers passed).symm⟩
  | some wanted =>
      obtain ⟨last, log, outcome, sent, _, after⟩ := send_wanted cluster k node event wanted mode here passed
      have handled := orderly.ordered.handled name j other.standing place (cluster.standing_of_found j other present)
        (other.is_running_iff.mp runs)
      rw [after]
      refine .inr ⟨wanted, (cluster.bus.targets cluster.channel node.id).map (·.1), sent, ?_, ?_,
        Snapshot.evict_wanted covers wanted passed⟩
      · change (Cluster.deliver _ _).bus.sent = _
        rw [bus_deliver, ← named]
        exact congrArg Bus.Setting.sent (cluster.bus.setting_broadcast node.id cluster.channel wanted mode)
      · refine List.mem_map.mpr ⟨(name, j), (cluster.bus.mem_targets _ _ name j).mpr ⟨handled, ?_⟩, rfl⟩
        exact named ▸ different.symm

/-- A node with two groups, of which the other one caches only the first. -/
def narrowing : List Operation :=
  [.addNode "a", .addNode "b", .startAll, .node "a" (.createGroup "g"), .node "a" (.createGroup "h"),
    .node "b" (.createGroup "g"), .node "b" (.put "g" "x"), .node "b" (.put "g" "y")]

theorem narrowing_loses_nothing : ∃ k node j other,
    ((initial {} 5000).run narrowing).find? "a" = some (k, node) ∧
    ((initial {} 5000).run narrowing).find? "b" = some (j, other) ∧ other.registry.cache.holds "g" "x" = true ∧
    ∃ wanted targets, (((initial {} 5000).run narrowing).send k (.batch [⟨"h", ["x"]⟩, ⟨"g", ["x"]⟩]) .sync).1.bus.sent =
        ((initial {} 5000).run narrowing).bus.sent ++
          [⟨"a", ((initial {} 5000).run narrowing).channel, wanted, .sync, targets⟩] ∧
      "b" ∈ targets ∧
      (other.registry.evict wanted).cache = (other.registry.evict (.batch [⟨"h", ["x"]⟩, ⟨"g", ["x"]⟩])).cache := by
  have attained : ((initial {} 5000).run narrowing).Attained := ⟨{}, 5000, narrowing, by decide, rfl⟩
  have seen : (((initial {} 5000).run narrowing).find? "a").any (fun found => found.2.isRunning) = true := by
    decide +kernel
  have cached : (((initial {} 5000).run narrowing).find? "b").any (fun found =>
      found.2.isRunning && found.2.registry.cache.holds "g" "x") = true := by
    decide +kernel
  obtain ⟨⟨k, node⟩, found, running⟩ := (Option.any_eq_true _ _).mp seen
  obtain ⟨⟨j, other⟩, there, facts⟩ := (Option.any_eq_true _ _).mp cached
  rw [Bool.and_eq_true] at facts
  refine ⟨k, node, j, other, found, there, facts.2, ?_⟩
  rcases gating_loses_nothing _ attained (by decide +kernel) "a" "b" k j node other found running there facts.1
    (by decide) (by decide) (.batch [⟨"h", ["x"]⟩, ⟨"g", ["x"]⟩]) .sync with ⟨_, _, unchanged⟩ | ⟨wanted, targets, passed⟩
  · have lost : (other.registry.evict (.batch [⟨"h", ["x"]⟩, ⟨"g", ["x"]⟩])).cache.holds "g" "x" = false := by
      rw [Registry.evict, Cache.holds_evict]
      rfl
    rw [← unchanged, facts.2] at lost
    cases lost
  · exact ⟨wanted, targets, passed.2⟩

end Cluster

end Coherence
