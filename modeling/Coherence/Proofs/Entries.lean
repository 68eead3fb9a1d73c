import Coherence.Proofs.Following

set_option autoImplicit false

namespace Coherence

open Std

def Standing.entry (standing : Standing) : Option (Option Bytes) :=
  match standing.registry.groupNames with
  | [] => none
  | groups => some (some (Announcement.encode ⟨standing.id, ExtTreeSet.ofList groups⟩))

theorem Standing.entry_eq (standing : Standing) :
    standing.entry =
      if standing.registry.groupNames = [] then none
      else some (some (Announcement.encode ⟨standing.id, ExtTreeSet.ofList standing.registry.groupNames⟩)) := by
  rw [entry]
  cases standing.registry.groupNames with
  | nil => rfl
  | cons group groups => rfl

namespace Node

variable (node : Node)

theorem announcing_key : node.announcing.key = node.id := by
  rw [announcing]
  split <;> rfl

theorem announcing_entry (entries : Entries) : (node.announcing.apply entries)[node.id]? = node.standing.entry := by
  rw [announcing, Standing.entry, show node.standing.registry = node.registry from rfl]
  cases node.registry.groupNames with
  | nil => exact ExtTreeMap.getElem?_erase_self
  | cons group groups => exact ExtTreeMap.getElem?_insert_self

end Node

namespace Cluster

theorem entries_store_changed (cluster : Cluster) (k : Incarnation) :
    (cluster.storeChanged k).entries = cluster.entries := by
  rw [storeChanged]
  split
  · exact entries_recompute cluster k
  · rfl

theorem entries_tell (audience : List Incarnation) (cluster : Cluster) :
    (audience.foldl storeChanged cluster).entries = cluster.entries := by
  induction audience generalizing cluster with
  | nil => rfl
  | cons k audience ih => rw [List.foldl_cons, ih, entries_store_changed]

theorem entries_mutate (cluster : Cluster) (k : Incarnation) (node : Node) (mutation : Mutation)
    (found : cluster.nodes[k]? = some node) :
    (cluster.mutate k mutation).1.entries =
      match node.replica.permit mutation.key with
      | .error _ => cluster.entries
      | .ok () => mutation.apply cluster.entries := by
  have mutated := mutate_mutated cluster k node mutation found
  generalize cluster.mutate k mutation = result at mutated
  cases mutated with
  | refused fault why =>
      rw [why]
      rfl
  | unchanged permitted entries =>
      rw [permitted]
      exact entries
  | told store permitted entries listeners =>
      rw [permitted, entries_tell]
      exact entries

theorem entries_mutate_lawful (cluster : Cluster) (k : Incarnation) (node : Node) (mutation : Mutation)
    (found : cluster.nodes[k]? = some node) (reachable : node.replica.unreachable = false)
    (lawful : node.replica.rejected = ∅) :
    (cluster.mutate k mutation).1.entries = mutation.apply cluster.entries := by
  have permitted : node.replica.permit mutation.key = .ok () := by
    simp [Replica.permit, Replica.reach, reachable, lawful]
  rw [entries_mutate cluster k node mutation found, permitted]

theorem entries_publish_permitted (cluster : Cluster) (k : Incarnation) (node : Node)
    (found : cluster.nodes[k]? = some node) (running : node.state = .running)
    (permitted : node.replica.permit node.id = .ok ()) :
    (cluster.publish k).entries = node.announcing.apply cluster.entries := by
  have runs : node.isRunning = true := by
    rw [Node.isRunning, running]
    rfl
  rw [publish, found]
  simp only [runs, if_true]
  rw [entries_amend, entries_mutate cluster k node _ found, node.announcing_key, permitted]

theorem entries_publish (cluster : Cluster) (k : Incarnation) (node : Node) (found : cluster.nodes[k]? = some node)
    (running : node.state = .running) (reachable : node.replica.unreachable = false)
    (lawful : node.replica.rejected = ∅) : (cluster.publish k).entries = node.announcing.apply cluster.entries := by
  apply entries_publish_permitted cluster k node found running
  simp [Replica.permit, Replica.reach, reachable, lawful]

theorem publish_idle (cluster : Cluster) (k : Incarnation) (node : Node) (found : cluster.nodes[k]? = some node)
    (idle : node.state ≠ .running) : cluster.publish k = cluster := by
  rw [publish, found]
  simp [Node.isRunning, Lifecycle.acceptsCallbacks, idle]

def Swept (view : View) (before after : Cluster) : Prop :=
  ∀ key : String, after.entries[key]? = before.entries[key]? ∨ view.contains key = false ∧ after.entries[key]? = none

namespace Swept

variable {view : View} {first second third : Cluster}

theorem of_eq (same : second.entries = first.entries) : Swept view first second := fun _ => .inl (same ▸ rfl)

theorem trans (earlier : Swept view first second) (later : Swept view second third) : Swept view first third := by
  intro key
  cases later key with
  | inr gone => exact .inr gone
  | inl kept =>
      rw [kept]
      exact earlier key

theorem foldl {α : Type} (f : Cluster → α → Cluster) (xs : List α)
    (swept : ∀ cluster, ∀ a ∈ xs, Swept view cluster (f cluster a)) (cluster : Cluster) :
    Swept view cluster (xs.foldl f cluster) := by
  induction xs generalizing cluster with
  | nil => exact .of_eq rfl
  | cons a xs ih =>
      exact (swept cluster a (List.mem_cons_self ..)).trans
        (ih (fun cluster b member => swept cluster b (List.mem_cons_of_mem a member)) (f cluster a))

theorem kept (swept : Swept view first second) (key : String) (member : view.contains key = true) :
    second.entries[key]? = first.entries[key]? := by
  cases swept key with
  | inl same => exact same
  | inr gone =>
      rw [member] at gone
      cases gone.1

theorem mem (swept : Swept view first second) (key : String) (present : key ∈ second.entries) : key ∈ first.entries := by
  rw [ExtTreeMap.mem_iff_isSome_getElem?] at present ⊢
  cases swept key with
  | inl same => exact same ▸ present
  | inr gone =>
      rw [gone.2] at present
      cases present

end Swept

theorem swept_sweep_owner (view : View) (k : Incarnation) (cluster : Cluster) (owner : NodeId)
    (dead : view.contains owner = false) : Swept view cluster (sweepOwner k cluster owner) := by
  intro key
  rw [sweepOwner, entries_amend]
  cases found : cluster.nodes[k]? with
  | none =>
      rw [mutate_missing cluster k _ found]
      exact .inl rfl
  | some node =>
      rw [entries_mutate cluster k node (.remove owner) found]
      cases node.replica.permit (Mutation.remove owner).key with
      | error fault => exact .inl rfl
      | ok =>
          by_cases same : owner = key
          · subst same
            exact .inr ⟨dead, ExtTreeMap.getElem?_erase_self⟩
          · exact .inl (Mutation.apply_other (.remove owner) cluster.entries key same)

theorem swept_sweep (cluster : Cluster) (k : Incarnation) (view : View) : Swept view cluster (cluster.sweep k view) := by
  rw [sweep]
  split
  · exact .of_eq rfl
  · split
    · exact .of_eq rfl
    · exact .of_eq rfl
    · split
      · exact .of_eq rfl
      · refine Swept.foldl (sweepOwner k) _ ?_ cluster
        intro cluster owner member
        have dead := (List.mem_filter.mp member).2
        exact swept_sweep_owner view k cluster owner (by simpa using dead)

theorem swept_notify (cluster : Cluster) (view : View) : Swept view cluster (cluster.notifyMembership view) := by
  refine Swept.foldl (membershipChanged view) _ ?_ cluster
  intro cluster k _
  rw [membershipChanged]
  split
  · exact swept_sweep cluster k view
  · exact .of_eq rfl

end Cluster

end Coherence
