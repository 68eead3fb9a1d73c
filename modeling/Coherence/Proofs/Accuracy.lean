import Coherence.Proofs.Announcing

set_option autoImplicit false

namespace Coherence

open Std

namespace Cluster

def runs (cluster : Cluster) (id : NodeId) : Bool := (cluster.find? id).any (·.2.isRunning)

theorem runs_iff (cluster : Cluster) (id : NodeId) : cluster.runs id = true ↔ cluster.frame.Runs id := by
  rw [runs, Option.any_eq_true]
  constructor
  · rintro ⟨⟨k, node⟩, found, running⟩
    obtain ⟨located, here⟩ := (cluster.find_eq_some_iff id k node).mp found
    exact cluster.runs_of_found id k node located here (node.is_running_iff.mp running)
  · rintro ⟨k, standing, located, found, running⟩
    obtain ⟨node, here, rfl⟩ := cluster.node_of_standing k standing found
    exact ⟨(k, node), (cluster.find_eq_some_iff id k node).mpr ⟨located, here⟩, node.is_running_iff.mpr running⟩

-- The node ran until it crashed, and has not run since.
def Abandoned (start : Cluster) (operations : List Operation) (id : NodeId) : Prop :=
  ∃ before after, operations = before ++ .crash id :: after ∧ (start.run before).runs id = true ∧
    ∀ later, later <+: after → (start.run (before ++ .crash id :: later)).runs id = false

variable {start : Cluster} {operations : List Operation}

theorem Abandoned.more {id : NodeId} (abandoned : Abandoned start operations id) (operation : Operation)
    (resting : (start.run (operations ++ [operation])).runs id = false) :
    Abandoned start (operations ++ [operation]) id := by
  obtain ⟨before, after, rfl, ran, rested⟩ := abandoned
  refine ⟨before, after ++ [operation], by simp, ran, fun later within => ?_⟩
  cases List.prefix_concat_iff.mp within with
  | inl whole =>
      rw [whole]
      simpa using resting
  | inr earlier => exact rested later earlier

theorem abandoned_now (id : NodeId) (ran : (start.run operations).runs id = true)
    (resting : (start.run (operations ++ [.crash id])).runs id = false) :
    Abandoned start (operations ++ [.crash id]) id := by
  refine ⟨operations, [], rfl, ran, fun later within => ?_⟩
  rw [List.prefix_nil.mp within]
  exact resting

structure Accounted (start : Cluster) (operations : List Operation) : Prop where
  orderly : (start.run operations).Orderly
  left : ∀ key, key ∈ (start.run operations).entries → (start.run operations).runs key = false →
    Abandoned start operations key

theorem Accounted.more (accounted : Accounted start operations) (operation : Operation)
    (ordinary : operation.isOrdinary = true) : Accounted start (operations ++ [operation]) := by
  have step := accounted.orderly.step operation ordinary
  have after : start.run (operations ++ [operation]) = ((start.run operations).step operation).1 :=
    start.run_append operations [operation]
  rw [← after] at step
  refine ⟨step.1, fun key present resting => ?_⟩
  have rests : ¬ (start.run (operations ++ [operation])).frame.Runs key := by
    rw [← runs_iff, resting]
    decide
  obtain ⟨before, crashed⟩ := step.2 key present rests
  -- Only a crash turns the entry of a running node into one that is left behind.
  cases ran : (start.run operations).runs key with
  | false => exact (accounted.left key before ran).more operation resting
  | true =>
      have now : operation = .crash key := crashed.resolve_right fun rested => rested ((runs_iff _ key).mp ran)
      subst now
      exact abandoned_now key ran resting

theorem Accounted.append (accounted : Accounted start operations) (later : List Operation)
    (ordinary : ∀ operation ∈ later, operation.isOrdinary = true) : Accounted start (operations ++ later) := by
  induction later generalizing operations with
  | nil => rwa [List.append_nil]
  | cons operation later ih =>
      rw [List.append_cons]
      refine ih (accounted.more operation (ordinary operation (List.mem_cons_self ..))) fun other member => ?_
      exact ordinary other (List.mem_cons_of_mem operation member)

/-- Each running node's entry names exactly its groups, and any other entry is of a node that crashed since it ran. -/
theorem announcement_accuracy (config : Config) (timeout : Nat) (operations : List Operation)
    (ordinary : ∀ operation ∈ operations, operation.isOrdinary = true) :
    (∀ id k node, ((initial config timeout).run operations).find? id = some (k, node) → node.isRunning = true →
      ((initial config timeout).run operations).entries[id]? =
        if node.registry.groupNames = [] then none
        else some (some (Announcement.encode ⟨id, ExtTreeSet.ofList node.registry.groupNames⟩))) ∧
    ∀ key, key ∈ ((initial config timeout).run operations).entries →
      ((initial config timeout).run operations).runs key = false →
      Abandoned (initial config timeout) operations key := by
  have empty : Accounted (initial config timeout) [] := by
    refine ⟨orderly_initial config timeout, fun key present _ => ?_⟩
    exact absurd present (by simp [run, initial, entries, Store.entries])
  have accounted := empty.append operations ordinary
  rw [List.nil_append] at accounted
  refine ⟨?_, accounted.left⟩
  intro id k node found running
  have orderly := accounted.orderly
  obtain ⟨located, here⟩ := (find_eq_some_iff _ id k node).mp found
  have standing := standing_of_found _ k node here
  have named : node.id = id := orderly.allLinked.id_of_located id k node.standing located standing
  rw [orderly.announced id k node.standing located standing (node.is_running_iff.mp running), Standing.entry_eq, ← named]
  rfl

/-- One of two nodes crashes, is added again and not started, while nobody sweeps. -/
def desertion : List Operation :=
  [.appoint (some "c"), .addNode "a", .addNode "b", .startAll, .node "a" (.createGroup "g"),
    .node "b" (.createGroup "h"), .crash "b", .addNode "b", .control .flush]

theorem desertion_accounted :
    (∃ k node, ((initial { election := .membershipService } 5000).run desertion).find? "a" = some (k, node) ∧
      node.isRunning = true ∧ ((initial { election := .membershipService } 5000).run desertion).entries["a"]? =
        some (some (Announcement.encode ⟨"a", ExtTreeSet.ofList ["g"]⟩))) ∧
    "b" ∈ ((initial { election := .membershipService } 5000).run desertion).entries ∧
    Abandoned (initial { election := .membershipService } 5000) desertion "b" := by
  obtain ⟨accurate, left⟩ := announcement_accuracy { election := .membershipService } 5000 desertion (by decide)
  have seen : (((initial { election := .membershipService } 5000).run desertion).find? "a").any (fun found =>
      found.2.isRunning && found.2.registry.groupNames == ["g"]) = true := by
    decide +kernel
  have present : "b" ∈ ((initial { election := .membershipService } 5000).run desertion).entries := by decide +kernel
  obtain ⟨⟨k, node⟩, found, facts⟩ := (Option.any_eq_true _ _).mp seen
  rw [Bool.and_eq_true, beq_iff_eq] at facts
  refine ⟨⟨k, node, found, facts.1, ?_⟩, present, left "b" present (by decide +kernel)⟩
  rw [accurate "a" k node found facts.1, facts.2]
  rfl

end Cluster

end Coherence
