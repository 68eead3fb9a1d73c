import Coherence.Proofs.Agreement
import Coherence.Proofs.AnnouncementCodec
import Coherence.Proofs.Entries
import Coherence.Proofs.ResourceInvariant

set_option autoImplicit false

namespace Coherence

open Std

namespace Recomputation

variable {entries : Entries} {key : String} {bytes : Bytes} {announcement : Announcement}

theorem readings_erase {α : Type} (own : NodeId) (aspect : Reading → Option α)
    (present : entries[key]? = some (some bytes)) (decoded : Announcement.decode key bytes = .ok announcement)
    (silent : aspect (.announced announcement) = none) :
    (readings own entries).filterMap aspect = (readings own (entries.erase key)).filterMap aspect := by
  have swapped : (entries.erase key).toList.filter (·.1 ≠ own) =
      (entries.toList.filter (·.1 ≠ own)).filter (·.1 ≠ key) := by
    rw [to_list_erase, List.filter_filter, List.filter_filter]
    exact List.filter_congr fun entry _ => Bool.and_comm ..
  rw [readings, readings, swapped, List.filterMap_map, List.filterMap_map]
  refine Eq.symm (List.filterMap_filter.trans (List.filterMap_congr fun entry member => ?_))
  by_cases here : entry.1 = key
  · obtain ⟨name, value⟩ := entry
    dsimp only at here
    subst here
    have found := ExtTreeMap.mem_toList_iff_getElem?_eq_some.mp (List.mem_of_mem_filter member)
    rw [present, Option.some.injEq] at found
    subst found
    simp [Reading.ofEntry, decoded, silent]
  · simp [here]

theorem groups_erase (own : NodeId) (generation : UInt64) (other : key ≠ own)
    (present : entries[key]? = some (some bytes)) (decoded : Announcement.decode key bytes = .ok announcement)
    (group : Group) : group ∈ (ofEntries own entries generation).snapshot.groups ↔
      group ∈ (ofEntries own (entries.erase key) generation).snapshot.groups ∨ group ∈ announcement.groups := by
  change group ∈ bridged own entries ↔ group ∈ bridged own (entries.erase key) ∨ _
  rw [mem_bridged, mem_bridged]
  constructor
  · rintro ⟨name, value, read, foreign, found, understood, member⟩
    by_cases same : key = name
    · subst same
      rw [present, Option.some.injEq, Option.some.injEq] at found
      subst found
      rw [decoded, Except.ok.injEq] at understood
      exact .inr (understood ▸ member)
    · exact .inl ⟨name, value, read, foreign, (found_erase_other entries key name same).trans found, understood, member⟩
  · rintro (⟨name, value, read, foreign, found, understood, member⟩ | member)
    · have different : key ≠ name := by
        rintro rfl
        rw [ExtTreeMap.getElem?_erase_self] at found
        cases found
      exact ⟨name, value, read, foreign, (found_erase_other entries key name different).symm.trans found, understood,
        member⟩
    · exact ⟨key, bytes, announcement, other, present, decoded, member⟩

end Recomputation

namespace Cluster

theorem entries_start (cluster after : Cluster) (k : Incarnation) (node : Node) (found : cluster.nodes[k]? = some node)
    (started : cluster.start k = (after, .ok ())) (permitted : node.id ∉ node.replica.rejected) :
    after.entries = node.announcing.apply cluster.entries := by
  by_cases cut : node.replica.unreachable = true
  · have failed := start_unreachable cluster k node found cut
    rw [started] at failed
    cases failed
  · have reachable : node.replica.unreachable = false := by simpa using cut
    have result := start_started cluster k node found reachable
    rw [started] at result
    cases result with
    | running bus stopped registered =>
        have here := (nodes_enrolled cluster k k node bus).trans (if_pos rfl)
        have entries := entries_publish_permitted (cluster.enrolled k node bus) k _ here rfl
        rw [entries_recompute]
        apply entries
        simp [Replica.permit, Replica.reach, Node.enlisted, Node.setRegistry, reachable, permitted]

/-- What a bridge announces as it starts is read by every other node, if its name is fit for a key. -/
theorem announcement_legible (cluster after : Cluster) (k : Incarnation) (node : Node)
    (found : cluster.nodes[k]? = some node) (started : cluster.start k = (after, .ok ()))
    (occupied : node.registry.groupNames ≠ []) (permitted : node.id ∉ node.replica.rejected)
    (fit : NodeId.ofKey? node.id = some node.id) (own : NodeId) (other : own ≠ node.id) (generation : UInt64) :
    let announcement : Announcement := ⟨node.id, ExtTreeSet.ofList node.registry.groupNames⟩
    let reading := Recomputation.ofEntries own after.entries generation
    let without := Recomputation.ofEntries own (after.entries.erase node.id) generation
    after.entries[node.id]? = some (some announcement.encode) ∧
    Announcement.decode node.id announcement.encode = .ok announcement ∧
    (∀ group, group ∈ reading.snapshot.groups ↔ group ∈ without.snapshot.groups ∨ group ∈ node.registry.groupNames) ∧
    reading.malformed = without.malformed ∧ reading.absent = without.absent := by
  intro announcement reading without
  have present : after.entries[node.id]? = some (some announcement.encode) := by
    rw [entries_start cluster after k node found started permitted, node.announcing_entry, Standing.entry_eq]
    exact if_neg occupied
  have decoded : Announcement.decode node.id announcement.encode = .ok announcement :=
    Announcement.decode_encode node.id _ (NodeId.ofKey?_eq_some_iff.mp fit).1
  refine ⟨present, decoded, fun group => ?_, Recomputation.readings_erase own Reading.error? present decoded rfl,
    Recomputation.readings_erase own Reading.absent? present decoded rfl⟩
  rw [Recomputation.groups_erase own generation (Ne.symm other) present decoded, ExtTreeSet.mem_ofList,
    List.contains_iff_mem]

/-- One node runs and finds an entry that it cannot read; another one has a group and is about to start. -/
def arrival (name : NodeId) : Cluster :=
  (initial {} 5000).run [.addNode "a", .addNode name, .node "a" .start, .putRaw "cache-invalidation" "c" (some [0]),
    .node name (.createGroup "g")]

theorem spaced_announcement_legible : ∃ node after,
    (arrival "b c").nodes[1]? = some node ∧ node.registry.groupNames = ["g"] ∧
    (arrival "b c").start 1 = (after, .ok ()) ∧
    let reading := Recomputation.ofEntries "a" after.entries 3
    let without := Recomputation.ofEntries "a" (after.entries.erase "b c") 3
    (∀ group, group ∈ reading.snapshot.groups ↔ group ∈ without.snapshot.groups ∨ group ∈ ["g"]) ∧
    reading.malformed = without.malformed := by
  have seen : ((arrival "b c").nodes[1]?.any fun node => node.id = "b c" ∧ node.registry.groupNames = ["g"] ∧
      node.id ∉ node.replica.rejected) = true := by
    decide +kernel
  obtain ⟨node, found, facts⟩ := (Option.any_eq_true _ _).mp seen
  obtain ⟨named, groups, permitted⟩ := of_decide_eq_true facts
  have started : ((arrival "b c").start 1).2 = .ok () := by decide +kernel
  have legible := announcement_legible (arrival "b c") _ 1 node found (Prod.ext rfl started)
    (by rw [groups]; decide) permitted (by rw [named]; decide) "a" (by rw [named]; decide) 3
  rw [named, groups] at legible
  exact ⟨node, _, found, groups, Prod.ext rfl started, legible.2.2.1, legible.2.2.2.1⟩

-- With a name that is not fit for a key the bridge starts all the same and writes its entry, but nobody can use it.
theorem padded_announcement_unread :
    let (after, result) := (arrival " b").start 1
    let reading := Recomputation.ofEntries "a" after.entries 3
    result = .ok () ∧ after.entries.keys = [" b", "c"] ∧ reading.snapshot.groups.toList = [] ∧
    reading.malformed = [.malformed " b" .invalidKey, .malformed "c" .unreadable] := by
  decide +kernel

end Cluster

end Coherence
