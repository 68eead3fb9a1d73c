import Coherence.Proofs.Cleanup

set_option autoImplicit false

namespace Coherence

open Std

def Standing.booking (standing : Standing) (owner : NodeId) : Counter :=
  if owner ∈ standing.rejected then .pruneFailures else .prunedAnnouncements

theorem Standing.books_pruned_iff (standing : Standing) (owner : NodeId) :
    standing.booking owner = .prunedAnnouncements ↔ owner ∉ standing.rejected := by
  simp [booking]

theorem Standing.books_failure_iff (standing : Standing) (owner : NodeId) :
    standing.booking owner = .pruneFailures ↔ owner ∈ standing.rejected := by
  simp [booking]

namespace Node

theorem rejected_standing (node : Node) : node.standing.rejected = node.replica.rejected := rfl

theorem permit_reachable (node : Node) (key : String) (reachable : node.replica.unreachable = false) :
    node.replica.permit key = if key ∈ node.replica.rejected then .error (.rejected ("write to " ++ key)) else .ok () := by
  simp [Replica.permit, Replica.reach, reachable]

theorem get_swept (node earlier : Node) (owner : NodeId) (reachable : earlier.replica.unreachable = false)
    (counter : Counter) :
    (swept owner node (earlier.replica.permit owner)).1.counters.get counter =
      if earlier.standing.booking owner = counter then node.counters.get counter + 1 else node.counters.get counter := by
  rw [earlier.permit_reachable owner reachable, Standing.booking]
  change _ = if (if owner ∈ earlier.replica.rejected then _ else _) = counter then _ else _
  by_cases rejected : owner ∈ earlier.replica.rejected
  · rw [if_pos rejected, if_pos rejected]
    exact node.counters.get_bump .pruneFailures counter
  · rw [if_neg rejected, if_neg rejected]
    exact node.counters.get_bump .prunedAnnouncements counter

end Node

namespace Cluster

def counted? (cluster : Cluster) (counter : Counter) (k : Incarnation) : Option UInt64 :=
  cluster.nodes[k]?.map (·.counters.get counter)

theorem result_mutate (cluster : Cluster) (k : Incarnation) (node : Node) (mutation : Mutation)
    (found : cluster.nodes[k]? = some node) : (cluster.mutate k mutation).2 = node.replica.permit mutation.key := by
  have mutated := mutate_mutated cluster k node mutation found
  generalize cluster.mutate k mutation = result at mutated
  cases mutated with
  | refused fault why => exact why.symm
  | unchanged permitted entries => exact permitted.symm
  | told store permitted entries listeners => exact permitted.symm

section Counting

variable (counter : Counter) (reading : counter ≠ .recomputations) (skipped : counter ≠ .malformedAnnouncements)

include reading skipped

theorem unread_counter : Unread (·.counters.get counter) := by
  refine ⟨fun _ => rfl, fun node generation entries => ?_⟩
  change ((node.counters.add .malformedAnnouncements _).bump .recomputations).get counter = _
  rw [Counters.get_bump, if_neg (Ne.symm reading), Counters.get_add, if_neg (Ne.symm skipped)]

variable (standing : Standing) (reachable : standing.unreachable = false)

include reachable

theorem counted_sweep_owner (cluster : Cluster) (k : Incarnation) (found : cluster.frame.nodes[k]? = some standing)
    (owner : NodeId) :
    (sweepOwner k cluster owner).counted? counter k =
      (cluster.counted? counter k).map fun count => if standing.booking owner = counter then count + 1 else count := by
  obtain ⟨node, here, rfl⟩ := cluster.node_of_standing k standing found
  have written : (cluster.mutate k (.remove owner)).1.counted? counter k = cluster.counted? counter k :=
    (aspect_mutate (unread_counter counter reading skipped) cluster k k (.remove owner)).trans (if_pos rfl)
  rw [← written, sweepOwner, counted?, counted?]
  dsimp only
  rw [aspect_amend, if_pos rfl, result_mutate cluster k node (.remove owner) here, Option.map_map]
  congr 1
  funext later
  exact later.get_swept node owner reachable counter

-- Each attempt is booked once, whatever the listeners do in between.
theorem counted_sweep_owners (owners : List NodeId) (cluster : Cluster) (k : Incarnation)
    (found : cluster.frame.nodes[k]? = some standing) :
    (owners.foldl (sweepOwner k) cluster).counted? counter k =
      (cluster.counted? counter k).map (· + UInt64.ofNat (owners.countP (standing.booking · = counter))) := by
  induction owners generalizing cluster with
  | nil => simp
  | cons owner owners ih =>
      have frame := (follows_sweep_owner k cluster owner).frame
      rw [List.foldl_cons, ih (sweepOwner k cluster owner) (frame ▸ found),
        counted_sweep_owner counter reading skipped standing reachable cluster k found, Option.map_map, List.countP_cons]
      congr 1
      funext count
      by_cases booked : standing.booking owner = counter
      · simp [booked, UInt64.ofNat_add, UInt64.add_assoc, UInt64.add_comm]
      · simp [booked]

end Counting

section Erasing

variable (standing : Standing) (reachable : standing.unreachable = false)

include reachable

theorem entries_sweep_owner (cluster : Cluster) (k : Incarnation) (found : cluster.frame.nodes[k]? = some standing)
    (owner key : NodeId) :
    (sweepOwner k cluster owner).entries[key]? =
      if key = owner ∧ key ∉ standing.rejected then none else cluster.entries[key]? := by
  obtain ⟨node, here, rfl⟩ := cluster.node_of_standing k standing found
  have permit := node.permit_reachable owner reachable
  rw [sweepOwner, entries_amend, entries_mutate cluster k node (.remove owner) here, Mutation.key]
  change _ = if key = owner ∧ key ∉ node.replica.rejected then none else cluster.entries[key]?
  by_cases rejected : owner ∈ node.replica.rejected
  · rw [permit, if_pos rejected, if_neg fun gone => gone.2 (gone.1 ▸ rejected)]
  · rw [permit, if_neg rejected]
    by_cases same : key = owner
    · subst same
      rw [if_pos ⟨rfl, rejected⟩]
      exact ExtTreeMap.getElem?_erase_self
    · rw [if_neg fun gone => same gone.1]
      exact Mutation.apply_other (.remove owner) cluster.entries key (Ne.symm same)

theorem entries_sweep_owners (owners : List NodeId) (cluster : Cluster) (k : Incarnation)
    (found : cluster.frame.nodes[k]? = some standing) (key : NodeId) :
    (owners.foldl (sweepOwner k) cluster).entries[key]? =
      if key ∈ owners ∧ key ∉ standing.rejected then none else cluster.entries[key]? := by
  induction owners generalizing cluster with
  | nil => simp
  | cons owner owners ih =>
      have frame := (follows_sweep_owner k cluster owner).frame
      rw [List.foldl_cons, ih (sweepOwner k cluster owner) (frame ▸ found),
        entries_sweep_owner standing reachable cluster k found]
      by_cases rejected : key ∈ standing.rejected
      · simp [rejected]
      · by_cases later : key ∈ owners
        · simp [rejected, later]
        · simp [rejected, later]

end Erasing

-- What it takes to clean up: to run, to be the one who has to, and to be able to read the store.
structure Sweeps (cluster : Cluster) (view : View) (node : Node) : Prop where
  running : node.isRunning = true
  primary : cluster.isPrimary node view = .ok true
  reachable : node.replica.unreachable = false

section Sweeping

variable {cluster : Cluster} {view : View} {k : Incarnation} {node : Node} (found : cluster.nodes[k]? = some node)

include found

theorem leads_found_iff :
    cluster.frame.Leads view k ↔ node.isRunning = true ∧ cluster.isPrimary node view = .ok true := by
  have standing := cluster.standing_of_found k node found
  rw [is_primary_iff, node.is_running_iff]
  constructor
  · rintro ⟨_, there, running, elected⟩
    rw [standing, Option.some.injEq] at there
    subst there
    exact ⟨running, elected⟩
  · rintro ⟨running, elected⟩
    exact ⟨node.standing, standing, running, elected⟩

theorem membership_changed_sweeping (sweeps : cluster.Sweeps view node) :
    membershipChanged view cluster k = (view.deadOwners cluster.entries.keys).foldl (sweepOwner k) cluster := by
  have leads := (leads_found_iff found).mpr ⟨sweeps.running, sweeps.primary⟩
  rw [membership_changed_leading view cluster k node found leads, if_neg (by simp [sweeps.reachable])]

theorem entries_sweeping (sweeps : cluster.Sweeps view node) (key : NodeId) :
    (membershipChanged view cluster k).entries[key]? =
      if key ∈ view.members ∨ key ∈ node.replica.rejected then cluster.entries[key]? else none := by
  rw [membership_changed_sweeping found sweeps, entries_sweep_owners node.standing sweeps.reachable _ cluster k
    (cluster.standing_of_found k node found)]
  simp only [mem_dead_owners, node.rejected_standing]
  by_cases member : key ∈ view.members
  · simp [member]
  · by_cases rejected : key ∈ node.replica.rejected
    · simp [rejected]
    · simp [member, rejected]

theorem counted_sweeping (sweeps : cluster.Sweeps view node) (counter : Counter) (reading : counter ≠ .recomputations)
    (skipped : counter ≠ .malformedAnnouncements) :
    (membershipChanged view cluster k).counted? counter k =
      some (node.counters.get counter + UInt64.ofNat (cluster.entries.keys.countP fun key =>
        key ∉ view.members ∧ node.standing.booking key = counter)) := by
  rw [membership_changed_sweeping found sweeps, counted_sweep_owners counter reading skipped node.standing
    sweeps.reachable _ cluster k (cluster.standing_of_found k node found), counted?, found, View.deadOwners,
    List.countP_filter, Option.map_some, Option.map_some]
  congr 3
  apply List.countP_congr
  intro key _
  simp [View.contains, ← ExtTreeSet.contains_iff_mem, and_comm]

theorem removed_sweeping (sweeps : cluster.Sweeps view node) :
    cluster.entries.keys.countP (· ∉ (membershipChanged view cluster k).entries) =
      cluster.entries.keys.countP fun key => key ∉ view.members ∧ node.standing.booking key = .prunedAnnouncements := by
  apply List.countP_congr
  intro key present
  have there := ExtTreeMap.mem_iff_isSome_getElem?.mp (ExtTreeMap.mem_keys.mp present)
  rw [decide_eq_true_iff, decide_eq_true_iff, ExtTreeMap.mem_iff_isSome_getElem?, entries_sweeping found sweeps,
    node.standing.books_pruned_iff, node.rejected_standing]
  by_cases member : key ∈ view.members
  · simp [member, there]
  · by_cases rejected : key ∈ node.replica.rejected
    · simp [rejected, there]
    · simp [member, rejected]

theorem membership_changed_unable (unable : ¬ cluster.Sweeps view node) :
    ∃ log, membershipChanged view cluster k = { cluster with log } := by
  by_cases leads : cluster.frame.Leads view k
  · obtain ⟨running, primary⟩ := (leads_found_iff found).mp leads
    have cut : node.replica.unreachable = true := by
      rw [← Bool.not_eq_false]
      exact fun reachable => unable ⟨running, primary, reachable⟩
    rw [membership_changed_leading view cluster k node found leads, if_pos cut]
    exact ⟨_, rfl⟩
  · exact membership_changed_idle view cluster k leads

end Sweeping

/-- A leader's sweep leaves the entries of the view and those it may not remove, and counts the others and the latter. -/
theorem pruning_sweep (cluster : Cluster) (view : View) (k : Incarnation) (node : Node)
    (found : cluster.nodes[k]? = some node) :
    let after := membershipChanged view cluster k
    (cluster.isPrimary node view = .ok true ↔ Elected cluster.config cluster.hub view node.id) ∧
      (cluster.Sweeps view node →
        (∀ key, after.entries[key]? =
          if key ∈ view.members ∨ key ∈ node.replica.rejected then cluster.entries[key]? else none) ∧
        ∃ last, after.nodes[k]? = some last ∧
          last.counters.prunedAnnouncements =
            node.counters.prunedAnnouncements + UInt64.ofNat (cluster.entries.keys.countP (· ∉ after.entries)) ∧
          last.counters.pruneFailures =
            node.counters.pruneFailures + UInt64.ofNat (cluster.entries.keys.countP fun key =>
              key ∉ view.members ∧ key ∈ node.replica.rejected)) ∧
      (cluster.config.election = .lowestNodeId → after.entries[node.id]? = cluster.entries[node.id]?) ∧
      (¬ cluster.Sweeps view node → ∃ log, after = { cluster with log }) := by
  intro after
  refine ⟨is_primary_iff cluster node view, fun sweeps => ⟨entries_sweeping found sweeps, ?_⟩, ?_,
    membership_changed_unable found⟩
  · have frame : after.frame = cluster.frame := (follows_membership_changed view cluster k).frame
    have standing : after.frame.nodes[k]? = some node.standing := frame ▸ cluster.standing_of_found k node found
    obtain ⟨last, there, _⟩ := after.node_of_standing k node.standing standing
    have pruned := counted_sweeping found sweeps .prunedAnnouncements (by decide) (by decide)
    have failed := counted_sweeping found sweeps .pruneFailures (by decide) (by decide)
    rw [← removed_sweeping found sweeps] at pruned
    rw [counted?, there, Option.map_some, Option.some.injEq] at pruned failed
    refine ⟨last, there, pruned, failed.trans ?_⟩
    congr 2
    apply List.countP_congr
    intro key _
    rw [decide_eq_true_iff, decide_eq_true_iff, node.standing.books_failure_iff, node.rejected_standing]
  · intro lowest
    by_cases sweeps : cluster.Sweeps view node
    · have elected := (is_primary_iff cluster node view).mp sweeps.primary
      rw [Elected, lowest] at elected
      rw [entries_sweeping found sweeps, if_pos (.inl (ExtTreeSet.min?_mem elected))]
    · obtain ⟨log, same⟩ := membership_changed_unable found sweeps
      rw [show after = { cluster with log } from same]
      rfl

-- Two nodes announce a group each, others have left odd keys, and the first node may not write one of them.
def rubble : List Operation :=
  [.addNode "a", .addNode "b", .startAll, .node "a" (.createGroup "g"), .node "b" (.createGroup "h"),
    .putRaw "cache-invalidation" "" none, .putRaw "cache-invalidation" " a" (some [0]),
    .putRaw "cache-invalidation" "d" (some [0]), .putRaw "cache-invalidation" "z" none, .node "a" (.rejectKey "d")]

theorem rubble_swept :
    let before := (initial {} 5000).run rubble
    let view := View.ofList ["a", "z"]
    let after := membershipChanged view before 0
    ∃ node last, before.nodes[0]? = some node ∧ after.nodes[0]? = some last ∧ before.Sweeps view node ∧
      after.entries[""]? = none ∧ after.entries[" a"]? = none ∧ after.entries["d"]? = some (some [0]) ∧
      after.entries["a"]? = before.entries["a"]? ∧
      last.counters.prunedAnnouncements = node.counters.prunedAnnouncements + 3 ∧
      last.counters.pruneFailures = node.counters.pruneFailures + 1 := by
  intro before view after
  have seen : before.nodes[0]?.any (fun node => node.isRunning && !node.replica.unreachable && node.id == "a" &&
      node.replica.rejected.toList == ["d"]) = true := by decide +kernel
  obtain ⟨node, found, facts⟩ := (Option.any_eq_true _ _).mp seen
  simp only [Bool.and_eq_true, Bool.not_eq_true', beq_iff_eq] at facts
  obtain ⟨⟨⟨running, reachable⟩, named⟩, rejected⟩ := facts
  obtain ⟨_, sweeping, own, _⟩ := pruning_sweep before view 0 node found
  have primary : before.isPrimary node view = .ok true := by
    rw [isPrimary, show before.config.election = .lowestNodeId by decide +kernel, named]
    exact congrArg Except.ok (by decide +kernel)
  have sweeps : before.Sweeps view node := ⟨running, primary, reachable⟩
  have refused (key : String) : key ∈ node.replica.rejected ↔ key = "d" := by
    rw [← ExtTreeSet.mem_toList, rejected, List.mem_singleton]
  obtain ⟨entries, last, there, pruned, failed⟩ := sweeping sweeps
  refine ⟨node, last, found, there, sweeps, ?_, ?_, ?_, named ▸ own (by decide +kernel), ?_, ?_⟩
  · rw [entries, if_neg (by rw [refused]; decide +kernel)]
  · rw [entries, if_neg (by rw [refused]; decide +kernel)]
  · rw [entries, if_pos (.inr ((refused "d").mpr rfl))]
    decide +kernel
  · rw [pruned, show before.entries.keys.countP (· ∉ after.entries) = 3 by decide +kernel]
    rfl
  · simp only [refused] at failed
    rw [failed, show (before.entries.keys.countP fun key => key ∉ view.members ∧ key = "d") = 1 by decide +kernel]
    rfl

end Cluster

end Coherence
