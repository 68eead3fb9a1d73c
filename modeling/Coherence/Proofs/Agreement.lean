import Coherence.Proofs.Syncing

set_option autoImplicit false

namespace Coherence

open Std

theorem mem_bridged (own : NodeId) (entries : Entries) (group : Group) :
    group ∈ bridged own entries ↔ ∃ key bytes announcement, key ≠ own ∧ entries[key]? = some (some bytes) ∧
      Announcement.decode key bytes = .ok announcement ∧ group ∈ announcement.groups := by
  rw [bridged, ExtTreeSet.mem_ofList, List.contains_iff_mem, List.mem_flatMap]
  constructor
  · rintro ⟨reading, member, announced⟩
    obtain ⟨⟨key, value⟩, entry, rfl⟩ := List.mem_map.mp member
    rw [List.mem_filter, ExtTreeMap.mem_toList_iff_getElem?_eq_some, decide_eq_true_eq] at entry
    cases value with
    | none => cases announced
    | some bytes =>
        rw [Reading.ofEntry] at announced
        cases decoded : Announcement.decode key bytes with
        | error error =>
            rw [decoded] at announced
            cases announced
        | ok announcement =>
            rw [decoded] at announced
            exact ⟨key, bytes, announcement, entry.2, entry.1, decoded, ExtTreeSet.mem_toList.mp announced⟩
  · rintro ⟨key, bytes, announcement, other, present, decoded, member⟩
    refine ⟨.announced announcement, List.mem_map.mpr ⟨(key, some bytes), ?_, ?_⟩, ExtTreeSet.mem_toList.mpr member⟩
    · rw [List.mem_filter, ExtTreeMap.mem_toList_iff_getElem?_eq_some, decide_eq_true_eq]
      exact ⟨present, other⟩
    · rw [Reading.ofEntry, decoded]

namespace Cluster

/-- A running node knows exactly the groups that others announce, until its 64-bit reading numbers are used up. -/
theorem snapshot_agreement (config : Config) (timeout : Nat) (operations : List Operation)
    (connected : ∀ operation ∈ operations, operation.cutsStore = false)
    (capacity : ((initial config timeout).run operations).draws < UInt64.size) (id : NodeId) (k : Incarnation) (node : Node)
    (found : ((initial config timeout).run operations).find? id = some (k, node)) (running : node.isRunning = true)
    (group : Group) :
    group ∈ node.snapshot.groups ↔ ∃ key bytes announcement, key ≠ id ∧
      ((initial config timeout).run operations).entries[key]? = some (some bytes) ∧
      Announcement.decode key bytes = .ok announcement ∧ group ∈ announcement.groups := by
  have synced := (synced_initial config timeout).run operations connected
  generalize (initial config timeout).run operations = cluster at *
  obtain ⟨located, here⟩ := (cluster.find_eq_some_iff id k node).mp found
  have named : node.id = id := synced.allLinked.id_of_located id k _ located (cluster.standing_of_found k node here)
  rw [synced.agrees capacity id k located node here running, named]
  exact mem_bridged id cluster.entries group

/-- A second node takes two groups and can announce only the first, beside an absent value and an unreadable entry. -/
def exchange : List Operation :=
  [.addNode "a", .addNode "b", .node "a" .start, .putRaw "cache-invalidation" "c" none,
    .putRaw "cache-invalidation" "d" (some [0]), .node "b" .start, .node "b" (.createGroup "g"),
    .node "b" (.rejectKey "b"), .node "b" (.createGroup "h")]

theorem exchange_agrees : ∃ k node, ((initial {} 5000).run exchange).find? "a" = some (k, node) ∧
    node.isRunning = true ∧ "g" ∈ node.snapshot.groups ∧ "h" ∉ node.snapshot.groups ∧
    ∀ group, group ∈ node.snapshot.groups ↔ ∃ key bytes announcement, key ≠ "a" ∧
      ((initial {} 5000).run exchange).entries[key]? = some (some bytes) ∧
      Announcement.decode key bytes = .ok announcement ∧ group ∈ announcement.groups := by
  have seen : (((initial {} 5000).run exchange).find? "a").any (fun found => found.2.isRunning &&
      found.2.snapshot.contains "g" && !found.2.snapshot.contains "h") = true := by
    decide +kernel
  obtain ⟨⟨k, node⟩, found, facts⟩ := (Option.any_eq_true _ _).mp seen
  simp only [Bool.and_eq_true, Bool.not_eq_true', Snapshot.contains] at facts
  obtain ⟨⟨running, first⟩, second⟩ := facts
  refine ⟨k, node, found, running, ExtTreeSet.contains_iff_mem.mp first, ?_, ?_⟩
  · rw [← ExtTreeSet.contains_iff_mem, second]
    decide
  · exact snapshot_agreement {} 5000 exchange (by decide) (by decide +kernel) "a" k node found running

end Cluster

end Coherence
