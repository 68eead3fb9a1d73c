import Coherence.Proofs.Cleanup
import Coherence.Proofs.ResourceSteps

set_option autoImplicit false

namespace Coherence

open Std

theorem Node.draws_published (node : Node) (result : Except Fault Unit) : (node.published result).1.draws = node.draws := by
  cases result <;> rfl

theorem Node.draws_swept (owner : NodeId) (node : Node) (result : Except Fault Unit) :
    (node.swept owner result).1.draws = node.draws := by
  cases result <;> rfl

namespace Cluster

def DrawsAtMost (most : Nat) (before after : Cluster) : Prop := ∀ k, after.drawsOf k ≤ before.drawsOf k + most

variable {cluster : Cluster} {loyal : Prop} {debt : Nat}

theorem DrawsAtMost.trans {few more : Nat} {first second third : Cluster} (earlier : DrawsAtMost few first second)
    (later : DrawsAtMost more second third) : DrawsAtMost (few + more) first third := by
  intro k
  have last := later k
  have middle := earlier k
  omega

theorem DrawsAtMost.of_eq {most : Nat} {before after : Cluster} (same : ∀ k, after.drawsOf k = before.drawsOf k) :
    DrawsAtMost most before after := by
  intro k
  rw [same]
  exact Nat.le_add_right _ _

theorem draws_of_amend (cluster : Cluster) (k : Incarnation) (change : Node → Node × Log)
    (same : ∀ node, (change node).1.draws = node.draws) (j : Incarnation) :
    (cluster.amend k change).drawsOf j = cluster.drawsOf j := by
  rw [drawsOf, drawsOf, nodes_amend]
  split
  · cases cluster.nodes[j]? with
    | none => rfl
    | some node => exact same node
  · rfl

theorem draws_of_recompute (cluster : Cluster) (k j : Incarnation) :
    (cluster.recompute k).drawsOf j ≤ cluster.drawsOf j + if k = j then 1 else 0 := by
  rw [recompute, drawsOf, drawsOf, nodes_amend]
  split
  · cases cluster.nodes[j]? with
    | none => exact Nat.zero_le _
    | some node =>
        dsimp only [Option.map_some, Option.getD_some]
        split <;> exact Nat.le_refl _
  · exact Nat.le_refl _

theorem draws_of_store_changed (cluster : Cluster) (k j : Incarnation) :
    (cluster.storeChanged k).drawsOf j ≤ cluster.drawsOf j + if k = j then 1 else 0 := by
  rw [storeChanged]
  split
  · exact cluster.draws_of_recompute k j
  · exact Nat.le_add_right _ _

theorem draws_of_tell (audience : List Incarnation) (cluster : Cluster) (j : Incarnation) :
    (audience.foldl storeChanged cluster).drawsOf j ≤ cluster.drawsOf j + audience.count j := by
  induction audience generalizing cluster with
  | nil => exact Nat.le_refl _
  | cons k audience ih =>
      have here := cluster.draws_of_store_changed k j
      have later := ih (cluster.storeChanged k)
      rw [List.foldl_cons, List.count_cons]
      simp only [beq_iff_eq]
      omega

theorem draws_at_most_recompute (cluster : Cluster) (k : Incarnation) : DrawsAtMost 1 cluster (cluster.recompute k) := by
  intro j
  refine Nat.le_trans (cluster.draws_of_recompute k j) (Nat.add_le_add_left ?_ _)
  split <;> decide

-- Whoever listens to the store does so once, so that it reads once when something is written.
theorem draws_at_most_mutate (cluster : Cluster) (once : cluster.frame.audience.Nodup) (k : Incarnation)
    (mutation : Mutation) :
    DrawsAtMost 1 cluster (cluster.mutate k mutation).1 := by
  cases found : cluster.nodes[k]? with
  | none =>
      rw [mutate_missing cluster k mutation found]
      exact .of_eq fun _ => rfl
  | some node =>
      have tried (store : Store Incarnation) (j : Incarnation) :
          ({ cluster with store }.setNode k { node with replica := node.replica.tried mutation }).drawsOf j =
            cluster.drawsOf j := by
        rw [draws_of_set_node]
        split
        · rename_i same
          exact same ▸ (draws_of_found cluster k node found).symm
        · rfl
      have mutated := mutate_mutated cluster k node mutation found
      generalize cluster.mutate k mutation = result at mutated
      cases mutated with
      | refused fault why => exact .of_eq (tried cluster.store)
      | unchanged permitted entries => exact .of_eq (tried cluster.store)
      | told store permitted entries listeners =>
          intro j
          have told := draws_of_tell cluster.frame.audience
            ({ cluster with store }.setNode k { node with replica := node.replica.tried mutation }) j
          rw [tried] at told
          exact Nat.le_trans told (Nat.add_le_add_left (List.nodup_iff_count_le_one.mp once j) _)

theorem draws_at_most_publish (cluster : Cluster) (once : cluster.frame.audience.Nodup) (k : Incarnation) :
    DrawsAtMost 1 cluster (cluster.publish k) := by
  rw [publish]
  split
  · exact .of_eq fun _ => rfl
  · split
    · rename_i node _ _
      have counted : DrawsAtMost 0 (cluster.mutate k node.announcing).1 _ := .of_eq (draws_of_amend _ k _ fun other =>
        other.draws_published (cluster.mutate k node.announcing).2)
      exact (draws_at_most_mutate cluster once k node.announcing).trans counted
    · exact .of_eq fun _ => rfl

theorem draws_at_most_sweep_owners (k : Incarnation) (owners : List NodeId) (cluster : Cluster)
    (once : cluster.frame.audience.Nodup) : DrawsAtMost owners.length cluster (owners.foldl (sweepOwner k) cluster) := by
  induction owners generalizing cluster with
  | nil => exact .of_eq fun _ => rfl
  | cons owner owners ih =>
      have here : DrawsAtMost 1 cluster (sweepOwner k cluster owner) := by
        have counted : DrawsAtMost 0 (cluster.mutate k (.remove owner)).1 _ := .of_eq (draws_of_amend _ k _ fun other =>
          other.draws_swept owner (cluster.mutate k (.remove owner)).2)
        exact (draws_at_most_mutate cluster once k (.remove owner)).trans counted
      have later := ih (sweepOwner k cluster owner) ((follows_sweep_owner k cluster owner).frame ▸ once)
      rw [List.foldl_cons, List.length_cons, Nat.add_comm]
      exact here.trans later

theorem ResourcesSound.audience_nodup (sound : cluster.ResourcesSound loyal debt) : cluster.frame.audience.Nodup := by
  apply cluster.frame.subscribers.to_list_nodup
  intro first second k here there
  obtain ⟨node, held, _, found, holding, place⟩ := sound.heard cluster.channel first k here
  obtain ⟨also, given, _, again, holds, elsewhere⟩ := sound.heard cluster.channel second k there
  rw [found, Option.some.injEq] at again
  rw [← again, holding, Option.some.injEq] at holds
  rw [← holds, place] at elsewhere
  exact congrArg Store.Handle.id elsewhere

theorem draws_at_most_notify (hubSound : cluster.frame.HubSoundIf loyal) (once : cluster.frame.audience.Nodup) (view : View) :
    DrawsAtMost (view.deadOwners cluster.entries.keys).length cluster (cluster.notifyMembership view) := by
  by_cases led : ∃ k, k ∈ cluster.hub.audience ∧ cluster.frame.Leads view k
  · obtain ⟨k, told, leads⟩ := led
    obtain ⟨standing, found, _⟩ := id leads
    obtain ⟨node, here, rfl⟩ := cluster.node_of_standing k standing found
    obtain ⟨before, after, notified⟩ := notify_leading hubSound view k told leads
    have swept : DrawsAtMost (view.deadOwners cluster.entries.keys).length { cluster with log := before }
        (membershipChanged view { cluster with log := before } k) := by
      rw [membership_changed_leading view { cluster with log := before } k node here leads]
      split
      · exact .of_eq fun _ => rfl
      · exact draws_at_most_sweep_owners k _ { cluster with log := before } once
    rw [notified]
    exact swept
  · obtain ⟨log, quiet⟩ := notify_idle view cluster.hub.audience cluster fun k told leads => led ⟨k, told, leads⟩
    rw [notifyMembership, quiet]
    exact .of_eq fun _ => rfl

-- Everyone who runs listens to the store and has read it since it last changed.
structure UpToDate (limit most : Nat) (cluster : Cluster) : Prop where
  attentive : cluster.frame.Attentive limit
  drawn : ∀ k, cluster.drawsOf k ≤ most
  agrees : ∀ (id : NodeId) (k : Incarnation), cluster.current[id]? = some k → cluster.Agrees k

namespace UpToDate

variable {limit most : Nat}

theorem follow {before after : Cluster} {more : Nat} (upToDate : before.UpToDate limit most) (synced : before.Synced)
    (follows : Follows before after) (drawsAtMost : DrawsAtMost more before after) (capacity : most + more < UInt64.size) :
    after.UpToDate limit (most + more) := by
  have drawn (k : Incarnation) : after.drawsOf k ≤ most + more :=
    Nat.le_trans (drawsAtMost k) (Nat.add_le_add_right (upToDate.drawn k) more)
  refine ⟨follows.frame ▸ upToDate.attentive, drawn, ?_⟩
  intro id k located node found running
  have there : before.current[id]? = some k := by
    rw [← frame_current, ← follows.frame]
    exact located
  have standing : before.frame.nodes[k]? = some node.standing := by
    rw [← follows.frame]
    exact after.standing_of_found k node found
  have hears := upToDate.attentive.hears synced.allLinked id k _ there standing (node.is_running_iff.mp running)
  exact follows.agrees k (Nat.lt_of_le_of_lt (drawn k) capacity) hears (synced.dated k) (upToDate.agrees id k there) node
    found running

theorem start (upToDate : cluster.UpToDate limit most) (synced : cluster.Synced) (sound : cluster.ResourcesSound loyal 0)
    (k : Incarnation) (node : Node) (bus : Bus Incarnation) (located : cluster.current[node.id]? = some k)
    (found : cluster.nodes[k]? = some node) (stopped : node.state = .stopped)
    (registered : cluster.bus.register cluster.channel node.id k = .ok bus) (room : limit + 1 < UInt64.size)
    (capacity : most + 2 < UInt64.size) :
    (((cluster.enrolled k node bus).publish k).recompute k).UpToDate (limit + 1) (most + 2) := by
  have enlisted := sound.enlist k node bus located found stopped registered
  have reads := follows_recompute ((cluster.enrolled k node bus).publish k) k
  have both := (follows_publish (cluster.enrolled k node bus) k).trans reads
  have frame := both.frame
  have attentive : (cluster.enrolled k node bus).frame.Attentive (limit + 1) := by
    rw [frame_enrolled]
    exact upToDate.attentive.enlist k _ _ _ _ rfl rfl room
  have allLinked : (cluster.enrolled k node bus).frame.AllLinked := by
    have after := (synced.enroll k node bus found stopped).allLinked
    rwa [frame] at after
  have dated : ∀ j, (cluster.enrolled k node bus).Dated j :=
    dated_set_node _ k _ synced.dated (synced.dated k node found)
  have unread (j : Incarnation) : (cluster.enrolled k node bus).drawsOf j = cluster.drawsOf j := by
    rw [drawsOf, drawsOf, nodes_enrolled]
    split
    · rename_i same
      rw [← same, found]
      rfl
    · rfl
  have drawn (j : Incarnation) : (((cluster.enrolled k node bus).publish k).recompute k).drawsOf j ≤ most + 2 := by
    have drawsAtMost := (draws_at_most_publish _ enlisted.audience_nodup k).trans (draws_at_most_recompute _ k) j
    have before := upToDate.drawn j
    rw [unread] at drawsAtMost
    omega
  refine ⟨frame ▸ attentive, drawn, ?_⟩
  intro id j there last here running
  have small := Nat.lt_of_le_of_lt (drawn j) capacity
  rw [← frame_current, frame] at there
  have seen : (cluster.enrolled k node bus).frame.nodes[j]? = some last.standing := by
    rw [← frame]
    exact standing_of_found _ j last here
  have hears := attentive.hears allLinked id j last.standing there seen (last.is_running_iff.mp running)
  by_cases same : k = j
  · subst same
    have told := follows_publish (cluster.enrolled k node bus) k
    exact recompute_agrees _ k small (told.frame ▸ hears) (told.dated k (dated k)) last here running
  · have agreed := enrolled_agrees cluster k j node bus same (upToDate.agrees id j there)
    exact both.agrees j small hears (dated j) agreed last here running

theorem furnish (upToDate : cluster.UpToDate limit most) (bus : Bus Incarnation) (hub : Hub Incarnation)
    (log : List (Incarnation × LogEntry)) : { cluster with bus, hub, log }.UpToDate limit most :=
  ⟨⟨upToDate.attentive.listening, upToDate.attentive.earlier, upToDate.attentive.few⟩, upToDate.drawn, upToDate.agrees⟩

theorem renew (upToDate : cluster.UpToDate limit most) (k : Incarnation) (node fresh : Node)
    (found : cluster.nodes[k]? = some node) (retains : node.Retains fresh) :
    (cluster.setNode k fresh).UpToDate limit most := by
  refine ⟨?_, fun j => ?_, fun id j located other there running => ?_⟩
  · rw [frame_set_node]
    exact upToDate.attentive.place k node.standing _ (cluster.standing_of_found k node found) fun _ _ running =>
      ⟨retains.state.symm.trans running, retains.held⟩
  · rw [draws_of_set_node]
    split
    · rw [retains.draws, ← draws_of_found cluster k node found]
      exact upToDate.drawn k
    · exact upToDate.drawn j
  · rw [nodes_set_node] at there
    split at there
    · rename_i same
      subst same
      cases there
      rw [retains.snapshot, retains.id]
      refine upToDate.agrees id k located node found (node.is_running_iff.mpr ?_)
      exact retains.state ▸ fresh.is_running_iff.mp running
    · exact upToDate.agrees id j located other there running

theorem adjust {before after : Cluster} (upToDate : before.UpToDate limit most) (adjusted : Adjusted before after) :
    after.UpToDate limit most := by
  induction adjusted with
  | refl => exact upToDate
  | wire after bus handlers _ ih => exact ih.furnish bus after.hub after.log
  | node after k node fresh found alike _ ih => exact ih.renew k node fresh found alike.toRetains
  | note after k log _ ih => exact ih.furnish after.bus after.hub _

theorem forget (upToDate : cluster.UpToDate limit most) (id : NodeId) :
    { cluster with current := cluster.current.erase id }.UpToDate limit most :=
  ⟨upToDate.attentive.forget id, upToDate.drawn, fun other j there =>
    upToDate.agrees other j (Frame.located_of_erased id other j there).2⟩

theorem discard (upToDate : cluster.UpToDate limit most) (synced : cluster.Synced) (id : NodeId) (k : Incarnation)
    (located : cluster.current[id]? = some k) :
    ({ cluster with current := cluster.current.erase id }.discard Service.granted k).UpToDate limit most := by
  obtain ⟨node, found, _, linked⟩ := synced.node_of_located id k located
  have standing := cluster.standing_of_found k node found
  have gone (other : NodeId) := synced.allLinked.addressed.gone id other k located
  cases synced.settled id k node.standing located standing with
  | inl stopped =>
      rw [discard_stopped { cluster with current := cluster.current.erase id } k node found stopped]
      exact upToDate.forget id
  | inr running =>
      obtain ⟨held, holding, _⟩ := linked.enrolled running
      obtain ⟨log, discarded⟩ := discard_running { cluster with current := cluster.current.erase id } k node held found
        running holding
      rw [discarded]
      refine ⟨?_, fun j => ?_, fun other j there => ?_⟩
      · rw [frame_dismissal]
        have listens := upToDate.attentive.listens id k node.standing held located standing running holding
        exact (upToDate.attentive.forget id).dismiss k _ held _ _ listens fun other there => absurd there (gone other)
      · rw [dismissal, draws_of_set_node]
        split
        · exact draws_of_found cluster k node found ▸ upToDate.drawn k
        · exact upToDate.drawn j
      · have different : k ≠ j := by
          rintro rfl
          exact gone other there
        refine agrees_congr cluster _ j ?_ rfl (upToDate.agrees other j (Frame.located_of_erased id other j there).2)
        rw [dismissal, nodes_set_node, if_neg different]

end UpToDate

end Cluster

end Coherence
