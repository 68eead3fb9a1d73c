import Coherence.Proofs.Agreement
import Coherence.Proofs.Pruning

set_option autoImplicit false

namespace Coherence

open Std

namespace Cluster

theorem mem_swept_owners (k : Incarnation) (owners : List NodeId) (cluster : Cluster) (standing : Standing)
    (found : cluster.frame.nodes[k]? = some standing) (reachable : standing.unreachable = false)
    (lawful : standing.rejected = ∅) (key : String) (present : key ∈ (owners.foldl (sweepOwner k) cluster).entries) :
    key ∈ cluster.entries ∧ key ∉ owners := by
  rw [ExtTreeMap.mem_iff_isSome_getElem?, entries_sweep_owners standing reachable owners cluster k found] at present
  by_cases swept : key ∈ owners
  · simp [swept, lawful] at present
  · rw [if_neg fun gone => swept gone.1, ← ExtTreeMap.mem_iff_isSome_getElem?] at present
    exact ⟨present, swept⟩

variable {cluster : Cluster} {loyal : Prop}

theorem notify_cleans (hubSound : cluster.frame.HubSoundIf loyal) (view : View) (k : Incarnation) (standing : Standing)
    (told : k ∈ cluster.hub.audience) (found : cluster.frame.nodes[k]? = some standing)
    (running : standing.state = .running) (elected : Elected cluster.config cluster.hub view standing.id)
    (reachable : standing.unreachable = false) (lawful : standing.rejected = ∅) (key : String)
    (present : key ∈ (cluster.notifyMembership view).entries) : key ∈ view.members := by
  have leads : cluster.frame.Leads view k := ⟨standing, found, running, elected⟩
  obtain ⟨before, after, notified⟩ := notify_leading hubSound view k told leads
  obtain ⟨node, here, rfl⟩ := cluster.node_of_standing k standing found
  have connected : ¬ node.replica.unreachable = true := fun cut => Bool.noConfusion (reachable.symm.trans cut)
  rw [notified, membership_changed_leading view { cluster with log := before } k node here leads,
    if_neg connected] at present
  obtain ⟨left, alive⟩ := mem_swept_owners k _ { cluster with log := before } node.standing found reachable lawful key
    present
  by_contra dead
  exact alive ((mem_dead_owners view cluster key).mpr ⟨left, dead⟩)

theorem crash_leaves (hubSound : cluster.frame.HubSoundIf loyal) (id : NodeId) :
    ∃ orphaned : Cluster, cluster.crash id = orphaned.leave id ∧ orphaned.frame.HubSoundIf loyal ∧
      orphaned.current[id]? = none ∧ orphaned.hub.members = cluster.hub.members ∧ orphaned.entries = cluster.entries := by
  rw [Cluster.crash]
  cases located : cluster.current[id]? with
  | none => exact ⟨cluster, rfl, hubSound, located, rfl, rfl⟩
  | some k =>
      obtain ⟨current, members, entries⟩ := discard_keeps { cluster with current := cluster.current.erase id } k
      refine ⟨_, rfl, hub_sound_discard hubSound id k located, ?_, members, entries⟩
      rw [current]
      exact ExtTreeMap.getElem?_erase_self

theorem crash_notifies (hubSound : cluster.frame.HubSoundIf loyal) (id : NodeId) (member : id ∈ cluster.hub.members) :
    ∃ left : Cluster, cluster.crash id = left.notifyMembership left.hub.view ∧ left.frame.HubSoundIf loyal ∧
      left.hub.members = cluster.hub.members.erase id ∧ left.entries = cluster.entries := by
  obtain ⟨orphaned, crashed, loyally, unnamed, members, entries⟩ := crash_leaves hubSound id
  obtain ⟨hub, leaves, rest⟩ : ∃ hub, orphaned.hub.leave? id = some hub ∧
      hub.members = orphaned.hub.members.erase id := ⟨_, if_pos (members ▸ member), rfl⟩
  refine ⟨{ orphaned with hub }, ?_, loyally.leave id hub leaves fun _ => unnamed, members ▸ rest, entries⟩
  rw [crashed, Cluster.leave, leaves]

/-- If the one to clean up may write everything, a crash leaves just the others' entries, and all know exactly those. -/
theorem crash_convergence (config : Config) (timeout : Nat) (operations : List Operation)
    (connected : ∀ operation ∈ operations, operation.cutsStore = false)
    (loyal : ∀ operation ∈ operations, operation.removesMember = false) (id : NodeId)
    (member : id ∈ ((initial config timeout).run operations).hub.members) (after : Cluster)
    (crashed : (((initial config timeout).run operations).step (.crash id)).1 = after)
    (primary : NodeId) (k : Incarnation) (leader : Node) (elected : Elected after.config after.hub after.hub.view primary)
    (found : after.find? primary = some (k, leader)) (running : leader.isRunning = true)
    (lawful : leader.replica.rejected = ∅) :
    (∀ key, key ∈ after.hub.members ↔ key ∈ ((initial config timeout).run operations).hub.members ∧ key ≠ id) ∧
    (∀ key, key ∈ after.entries → key ∈ after.hub.members) ∧
    (∀ key, key ∈ after.hub.members → after.entries[key]? = ((initial config timeout).run operations).entries[key]?) ∧
    after.entries[id]? = none ∧
    (after.draws < UInt64.size → ∀ survivor j node, after.find? survivor = some (j, node) → node.isRunning = true →
      ∀ group, group ∈ node.snapshot.groups ↔ ∃ key bytes announcement, key ≠ survivor ∧ key ∈ after.hub.members ∧
        after.entries[key]? = some (some bytes) ∧ Announcement.decode key bytes = .ok announcement ∧
        group ∈ announcement.groups) := by
  have hubSound := hub_sound_run (hub_sound_initial config timeout) operations fun _ : True => loyal
  have synced := ((synced_initial config timeout).run operations connected).crash id
  change Cluster.crash _ id = after at crashed
  rw [crashed] at synced
  generalize (initial config timeout).run operations = before at *
  obtain ⟨left, notified, steady, members, entries⟩ := crash_notifies hubSound id member
  rw [crashed] at notified
  have follows := follows_notify left left.hub.view
  have swept := swept_notify left left.hub.view
  rw [← notified] at follows swept
  have hub : after.hub = left.hub := congrArg Frame.hub follows.frame
  have remaining (key : NodeId) : key ∈ after.hub.members ↔ key ∈ before.hub.members ∧ key ≠ id := by
    rw [hub, members, ExtTreeSet.mem_erase, and_comm]
    exact and_congr_right fun _ => not_congr (Std.compare_eq_iff_eq.trans eq_comm)
  -- Whoever is elected was told: while members leave only by crashing, all who run are.
  have clean (key : NodeId) (present : key ∈ after.entries) : key ∈ after.hub.members := by
    obtain ⟨located, here⟩ := (after.find_eq_some_iff primary k leader).mp found
    have standing := after.standing_of_found k leader here
    have named : leader.id = primary := synced.allLinked.id_of_located primary k _ located standing
    have reachable := (synced.allLinked.linked primary k _ located standing).reachable
    have runs := leader.is_running_iff.mp running
    rw [show after.current = left.current from congrArg Frame.current follows.frame] at located
    rw [follows.frame] at standing
    obtain ⟨held, holding, lists⟩ := steady.present trivial primary k _ located standing runs
    have told : k ∈ left.hub.audience := (Hub.mem_audience k).mpr ⟨held.hub, lists⟩
    rw [hub, show after.config = left.config from congrArg Frame.config follows.frame, ← named] at elected
    rw [notified] at present
    rw [hub]
    exact notify_cleans steady left.hub.view k leader.standing told standing runs elected reachable lawful key present
  refine ⟨remaining, clean, ?_, ?_, ?_⟩
  · intro key survives
    rw [← entries]
    exact swept.kept key (by simpa [View.contains, Hub.view, ← hub] using survives)
  · refine ExtTreeMap.getElem?_eq_none fun present => ?_
    exact ((remaining id).mp (clean id present)).2 rfl
  · intro capacity survivor j node there runs group
    obtain ⟨located, here⟩ := (after.find_eq_some_iff survivor j node).mp there
    have named : node.id = survivor :=
      synced.allLinked.id_of_located survivor j _ located (after.standing_of_found j node here)
    rw [synced.agrees capacity survivor j located node here runs, named, mem_bridged]
    constructor
    · rintro ⟨key, bytes, announcement, other, present, decoded, announced⟩
      have survives : key ∈ after.hub.members :=
        clean key (ExtTreeMap.mem_iff_isSome_getElem?.mpr (by rw [present]; rfl))
      exact ⟨key, bytes, announcement, other, survives, present, decoded, announced⟩
    · rintro ⟨key, bytes, announcement, other, _, present, decoded, announced⟩
      exact ⟨key, bytes, announcement, other, present, decoded, announced⟩

/-- Three nodes, the first of them appointed; the last may not remove an entry, and one is of nobody. -/
def outage : List Operation :=
  [.appoint (some "a"), .addNode "a", .addNode "b", .addNode "c", .startAll, .node "b" (.createGroup "g"),
    .node "c" (.createGroup "h"), .node "c" (.rejectKey "b"), .putRaw "cache-invalidation" "e" none]

theorem outage_converges :
    let after := (((initial { election := .membershipService } 5000).run outage).step (.crash "b")).1
    after.entries.keys = ["c"] ∧ (∀ key, key ∈ after.entries → key ∈ after.hub.members) ∧ after.entries["b"]? = none ∧
    ∃ k node, after.find? "a" = some (k, node) ∧ node.isRunning = true ∧ node.snapshot.groups.toList = ["h"] ∧
      ∀ group, group ∈ node.snapshot.groups ↔ ∃ key bytes announcement, key ≠ "a" ∧ key ∈ after.hub.members ∧
        after.entries[key]? = some (some bytes) ∧ Announcement.decode key bytes = .ok announcement ∧
        group ∈ announcement.groups := by
  intro after
  have seen : (after.find? "a").any (fun found => found.2.isRunning && found.2.replica.rejected.isEmpty &&
      found.2.snapshot.groups.toList == ["h"]) = true := by
    decide +kernel
  obtain ⟨⟨k, node⟩, found, facts⟩ := (Option.any_eq_true _ _).mp seen
  simp only [Bool.and_eq_true, beq_iff_eq, ExtTreeSet.isEmpty_iff] at facts
  obtain ⟨⟨running, lawful⟩, groups⟩ := facts
  have elected : Elected after.config after.hub after.hub.view "a" := by
    rw [Elected, show after.config.election = .membershipService by decide +kernel]
    decide +kernel
  obtain ⟨_, clean, _, gone, agree⟩ := crash_convergence { election := .membershipService } 5000 outage (by decide)
    (by decide) "b" (by decide +kernel) after rfl "a" k node elected found running lawful
  exact ⟨by decide +kernel, clean, gone, k, node, found, running, groups,
    agree (by decide +kernel) "a" k node found running⟩

end Cluster

end Coherence
