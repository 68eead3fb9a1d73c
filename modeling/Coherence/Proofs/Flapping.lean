import Coherence.Proofs.Accuracy
import Coherence.Proofs.Offers
import Coherence.Proofs.HubListeners

set_option autoImplicit false

namespace Coherence

open Std

-- Whoever runs under the name is still on the list of those who hear of the membership.
def Frame.Attends (frame : Frame) (id : NodeId) : Prop :=
  ∃ k standing held, frame.current[id]? = some k ∧ frame.nodes[k]? = some standing ∧ standing.held = some held ∧
    frame.hub.Lists held.hub k

namespace Cluster

def offers? (cluster : Cluster) (id : NodeId) : Option (List Group) :=
  (cluster.find? id).bind fun found => if found.2.isRunning then some found.2.registry.groupNames else none

theorem offers_eq (cluster : Cluster) (id : NodeId) : cluster.offers? id = cluster.frame.offers? id := by
  rw [offers?, find?, Frame.offers?, frame_current]
  cases cluster.current[id]? with
  | none => rfl
  | some k =>
      dsimp only
      rw [Option.bind_some, frame_nodes]
      cases cluster.nodes[k]? with
      | none => rfl
      | some node =>
          rw [Option.map_some, Option.map_some, Option.bind_some, Option.bind_some, Standing.offer]
          simp only [node.is_running_iff]
          rfl

variable {start : Cluster} {operations : List Operation}

theorem prefix_more {P : List Operation → Prop} {after : List Operation} (operation : Operation)
    (held : ∀ later, later <+: after → P later) (now : P (after ++ [operation])) (later : List Operation)
    (within : later <+: after ++ [operation]) : P later := by
  cases List.prefix_concat_iff.mp within with
  | inl whole => exact whole ▸ now
  | inr earlier => exact held later earlier

-- A membership without the node was made known and its entry removed; since then it has run on with the same groups.
structure Oversight (start : Cluster) (before : List Operation) (operation : Operation) (after : List Operation)
    (id : NodeId) : Prop where
  announced : id ∈ (start.run before).entries
  unseen : ∃ view, (start.run before).told? operation = some view ∧ view.contains id = false
  unasked : .node id .publish ∉ after
  since : ∀ later, later <+: after → id ∉ (start.run (before ++ operation :: later)).entries ∧
    (start.run (before ++ operation :: later)).offers? id = (start.run before).offers? id

def Overlooked (start : Cluster) (operations : List Operation) (id : NodeId) : Prop :=
  ∃ before operation after, operations = before ++ operation :: after ∧ Oversight start before operation after id

-- The hub took the node for one that had left while it ran, and it has been running ever since.
def Departed (start : Cluster) (operations : List Operation) (id : NodeId) : Prop :=
  ∃ before after, operations = before ++ .leave id :: after ∧ id ∈ (start.run before).hub.members ∧
    (start.run before).runs id = true ∧
    ∀ later, later <+: after → (start.run (before ++ .leave id :: later)).runs id = true

theorem Overlooked.more {id : NodeId} (overlooked : Overlooked start operations id) (operation : Operation)
    (unasked : operation ≠ .node id .publish) (missing : id ∉ (start.run (operations ++ [operation])).entries)
    (steady : (start.run (operations ++ [operation])).offers? id = (start.run operations).offers? id) :
    Overlooked start (operations ++ [operation]) id := by
  obtain ⟨before, sweeping, after, rfl, oversight⟩ := overlooked
  refine ⟨before, sweeping, after ++ [operation], by simp, oversight.announced, oversight.unseen, ?_, ?_⟩
  · simpa [oversight.unasked] using Ne.symm unasked
  · refine prefix_more operation oversight.since ?_
    have same := (oversight.since after (List.prefix_refl after)).2
    simp only [List.append_assoc, List.cons_append] at missing steady
    exact ⟨missing, steady.trans same⟩

theorem overlooked_now (operation : Operation) (id : NodeId) (view : View)
    (announced : id ∈ (start.run operations).entries) (told : (start.run operations).told? operation = some view)
    (unseen : view.contains id = false) (missing : id ∉ (start.run (operations ++ [operation])).entries)
    (steady : (start.run (operations ++ [operation])).offers? id = (start.run operations).offers? id) :
    Overlooked start (operations ++ [operation]) id := by
  refine ⟨operations, operation, [], rfl, announced, ⟨view, told, unseen⟩, List.not_mem_nil, fun later within => ?_⟩
  rw [List.prefix_nil.mp within]
  exact ⟨missing, steady⟩

theorem Departed.more {id : NodeId} (departed : Departed start operations id) (operation : Operation)
    (runs : (start.run (operations ++ [operation])).runs id = true) : Departed start (operations ++ [operation]) id := by
  obtain ⟨before, after, rfl, member, ran, since⟩ := departed
  refine ⟨before, after ++ [operation], by simp, member, ran, prefix_more operation since ?_⟩
  simpa using runs

theorem departed_now (id : NodeId) (member : id ∈ (start.run operations).hub.members)
    (ran : (start.run operations).runs id = true) (runs : (start.run (operations ++ [.leave id])).runs id = true) :
    Departed start (operations ++ [.leave id]) id := by
  refine ⟨operations, [], rfl, member, ran, fun later within => ?_⟩
  rw [List.prefix_nil.mp within]
  exact runs

theorem Unfailing.step_publish {cluster : Cluster} (unfailing : cluster.Unfailing) (id : NodeId) (groups : List Group)
    (offered : (cluster.step (.node id .publish)).1.offers? id = some groups) :
    (cluster.step (.node id .publish)).1.entries[id]? = Announcement.entry id groups := by
  rw [offers_eq] at offered
  rw [Cluster.step] at offered ⊢
  cases found : cluster.find? id with
  | none =>
      rw [found] at offered
      rw [← offers_eq, offers?, found] at offered
      cases offered
  | some place =>
      obtain ⟨k, node⟩ := place
      rw [found] at offered
      exact (unfailing.publish id k ((cluster.find_eq_some_iff id k node).mp found).1).2 groups offered

theorem attends_step {cluster : Cluster} (hubSound : cluster.frame.HubSoundIf False) (operation : Operation) (id : NodeId)
    (attends : cluster.frame.Runs id → cluster.frame.Attends id) (stays : operation ≠ .leave id)
    (runs : (cluster.step operation).1.frame.Runs id) : (cluster.step operation).1.frame.Attends id := by
  have subscribedNames : cluster.frame.HubSound fun other => other = id := by
    refine ⟨hubSound.toAddressed, hubSound.settled, hubSound.holding, hubSound.listed, ?_⟩
    rintro _ k standing located found rfl running
    obtain ⟨j, same, held, there, here, holding, lists⟩ := attends ⟨k, standing, located, found, running⟩
    rw [located, Option.some.injEq] at there
    subst there
    rw [found, Option.some.injEq] at here
    subst here
    exact ⟨held, holding, lists⟩
  have after := subscribed_names_step subscribedNames operation fun other same left => stays (same ▸ left)
  obtain ⟨k, standing, located, found, running⟩ := runs
  obtain ⟨held, holding, lists⟩ := after.listening id k standing located found rfl running
  exact ⟨k, standing, held, located, found, holding, lists⟩

theorem runs_leave (cluster : Cluster) (id other : NodeId) :
    (cluster.leave id).frame.Runs other ↔ cluster.frame.Runs other := by
  rw [Cluster.leave]
  split
  · exact Iff.rfl
  · rw [(follows_notify _ _).frame]
    exact Iff.rfl

structure Observed (start : Cluster) (operations : List Operation) : Prop where
  unfailing : (start.run operations).Unfailing
  hubSound : (start.run operations).frame.HubSoundIf False
  entry : ∀ id groups, (start.run operations).offers? id = some groups →
    (start.run operations).entries[id]? = Announcement.entry id groups ∨ Overlooked start operations id
  attends : ∀ id, (start.run operations).frame.Runs id →
    (start.run operations).frame.Attends id ∨ Departed start operations id

namespace Observed

theorem missing_of_overlooked {id : NodeId} (overlooked : Overlooked start operations id) :
    id ∉ (start.run operations).entries := by
  obtain ⟨before, operation, after, rfl, oversight⟩ := overlooked
  exact (oversight.since after (List.prefix_refl after)).1

theorem entry_more (observed : Observed start operations) (operation : Operation)
    (faultless : operation.isFaultless = true) (id : NodeId) (groups : List Group)
    (offered : (start.run (operations ++ [operation])).offers? id = some groups) :
    (start.run (operations ++ [operation])).entries[id]? = Announcement.entry id groups ∨
      Overlooked start (operations ++ [operation]) id := by
  have after : start.run (operations ++ [operation]) = ((start.run operations).step operation).1 :=
    start.run_append operations [operation]
  by_cases asked : operation = .node id .publish
  · rw [after, asked] at offered ⊢
    exact .inl (observed.unfailing.step_publish id groups offered)
  · have fate := (observed.unfailing.step operation faultless).fate id groups (by rw [← after, ← offers_eq, offered])
    rw [← after] at fate
    cases fate with
    | announced exact => exact .inl exact
    | kept before same =>
        rw [← offers_eq] at before
        cases observed.entry id groups before with
        | inl exact => exact .inl (same.trans exact)
        | inr overlooked =>
            refine .inr (overlooked.more operation asked ?_ (offered.trans before.symm))
            rw [ExtTreeMap.mem_iff_isSome_getElem?, same, ← ExtTreeMap.mem_iff_isSome_getElem?]
            exact missing_of_overlooked overlooked
    | swept before view told missing gone =>
        rw [← offers_eq] at before
        have absent : id ∉ (start.run (operations ++ [operation])).entries := by
          rw [ExtTreeMap.mem_iff_isSome_getElem?, gone]
          decide
        cases observed.entry id groups before with
        | inr overlooked => exact .inr (overlooked.more operation asked absent (offered.trans before.symm))
        | inl exact =>
            -- With no groups there was nothing to remove.
            by_cases nothing : groups = []
            · exact .inl (by rw [gone, Announcement.entry, if_pos nothing])
            · refine .inr (overlooked_now operation id view ?_ told missing absent (offered.trans before.symm))
              rw [ExtTreeMap.mem_iff_isSome_getElem?, exact, Announcement.entry, if_neg nothing]
              rfl

theorem attends_more (observed : Observed start operations) (operation : Operation) (id : NodeId)
    (runs : (start.run (operations ++ [operation])).frame.Runs id) :
    (start.run (operations ++ [operation])).frame.Attends id ∨ Departed start (operations ++ [operation]) id := by
  have after : start.run (operations ++ [operation]) = ((start.run operations).step operation).1 :=
    start.run_append operations [operation]
  have now := (runs_iff _ id).mpr runs
  by_cases departed : Departed start operations id
  · exact .inr (departed.more operation now)
  · have attends (ran : (start.run operations).frame.Runs id) := (observed.attends id ran).resolve_right departed
    by_cases left : operation = .leave id
    · subst left
      rw [after] at runs
      have ran := ((start.run operations).runs_leave id id).mp runs
      by_cases member : id ∈ (start.run operations).hub.members
      · exact .inr (departed_now id member ((runs_iff _ id).mpr ran) now)
      · -- The hub does not know the node, so that there is nobody to leave.
        have same : ((start.run operations).step (.leave id)).1 = start.run operations := by
          rw [step, Cluster.leave, Hub.leave?, if_neg member]
        rw [after, same]
        exact .inl (attends ran)
    · rw [after] at runs ⊢
      exact .inl (attends_step observed.hubSound operation id attends left runs)

theorem more (observed : Observed start operations) (operation : Operation) (faultless : operation.isFaultless = true) :
    Observed start (operations ++ [operation]) := by
  have after : start.run (operations ++ [operation]) = ((start.run operations).step operation).1 :=
    start.run_append operations [operation]
  refine ⟨?_, ?_, observed.entry_more operation faultless, observed.attends_more operation⟩
  · rw [after]
    exact (observed.unfailing.step operation faultless).unfailing
  · rw [after]
    exact hub_sound_step observed.hubSound operation False.elim

theorem append (observed : Observed start operations) (later : List Operation)
    (faultless : ∀ operation ∈ later, operation.isFaultless = true) : Observed start (operations ++ later) := by
  induction later generalizing operations with
  | nil => rwa [List.append_nil]
  | cons operation later ih =>
      rw [List.append_cons]
      refine ih (observed.more operation (faultless operation (List.mem_cons_self ..))) fun other member => ?_
      exact faultless other (List.mem_cons_of_mem operation member)

end Observed

theorem observed_initial (config : Config) (timeout : Nat) (operations : List Operation)
    (faultless : ∀ operation ∈ operations, operation.isFaultless = true) : Observed (initial config timeout) operations := by
  have nobody := initial_current config timeout
  have unfailing : (initial config timeout).Unfailing :=
    ⟨synced_initial config timeout, fun id k _ located => (nobody id k located).elim⟩
  have empty : Observed (initial config timeout) [] := by
    refine ⟨unfailing, hub_sound_initial config timeout, ?_, ?_⟩
    · intro id groups offered
      obtain ⟨k, _, located, _⟩ := (Frame.runs_iff_offers id).mpr ⟨groups, (offers_eq _ id).symm.trans offered⟩
      exact (nobody id k located).elim
    · rintro id ⟨k, _, located, _⟩
      exact (nobody id k located).elim
  exact empty.append operations faultless

/-- Each running node's entry names exactly its groups, but for one that a membership without the node removed. -/
theorem announced_across_flaps (config : Config) (timeout : Nat) (operations : List Operation)
    (faultless : ∀ operation ∈ operations, operation.isFaultless = true) (id : NodeId) (k : Incarnation) (node : Node)
    (found : ((initial config timeout).run operations).find? id = some (k, node)) (running : node.isRunning = true) :
    (((initial config timeout).run operations).entries[id]? =
        (if node.registry.groupNames = [] then none
        else some (some (Announcement.encode ⟨id, ExtTreeSet.ofList node.registry.groupNames⟩))) ∨
      Overlooked (initial config timeout) operations id) ∧
    (k ∈ ((initial config timeout).run operations).hub.audience ∨ Departed (initial config timeout) operations id) := by
  have observed := observed_initial config timeout operations faultless
  obtain ⟨located, here⟩ := (find_eq_some_iff _ id k node).mp found
  have standing := standing_of_found _ k node here
  constructor
  · refine observed.entry id node.registry.groupNames ?_
    rw [offers?, found, Option.bind_some, if_pos running]
  · refine (observed.attends id ⟨k, node.standing, located, standing, node.is_running_iff.mp running⟩).imp_left ?_
    rintro ⟨j, _, held, there, _, _, lists⟩
    have same : j = k := Option.some.inj (there.symm.trans located)
    exact (Hub.mem_audience k).mpr ⟨held.hub, same ▸ lists⟩

/-- A node leaves and joins again while it runs. -/
def flap : List Operation :=
  [.addNode "a", .addNode "b", .startAll, .node "a" (.createGroup "g"), .node "b" (.createGroup "g"), .leave "b", .join "b"]

theorem flap_outcome :
    ∃ k node, ((initial {} 5000).run flap).find? "b" = some (k, node) ∧ node.isRunning = true ∧
      node.registry.groupNames = ["g"] ∧ k ∉ ((initial {} 5000).run flap).hub.audience := by
  have seen : (((initial {} 5000).run flap).find? "b").any (fun found => found.2.isRunning &&
      found.2.registry.groupNames == ["g"] && decide (found.1 ∉ ((initial {} 5000).run flap).hub.audience)) = true := by
    decide +kernel
  obtain ⟨⟨k, node⟩, found, facts⟩ := (Option.any_eq_true _ _).mp seen
  rw [Bool.and_eq_true, Bool.and_eq_true, beq_iff_eq, decide_eq_true_eq] at facts
  exact ⟨k, node, found, facts.1.1, facts.1.2, facts.2⟩

theorem flap_overlooked : Overlooked (initial {} 5000) flap "b" ∧ Departed (initial {} 5000) flap "b" := by
  obtain ⟨k, node, found, running, groups, unheard⟩ := flap_outcome
  obtain ⟨entry, listens⟩ := announced_across_flaps {} 5000 flap (by decide) "b" k node found running
  refine ⟨entry.resolve_left ?_, listens.resolve_left unheard⟩
  rw [groups, show ((initial {} 5000).run flap).entries["b"]? = none by decide +kernel]
  decide

theorem live_member_unannounced :
    ∃ k node, ((initial {} 5000).run flap).find? "b" = some (k, node) ∧ node.isRunning = true ∧
      node.registry.groupNames = ["g"] ∧ "b" ∈ ((initial {} 5000).run flap).hub.members ∧
      NodeId.ofKey? "b" = some "b" ∧ "b" ∉ ((initial {} 5000).run flap).entries ∧
      k ∉ ((initial {} 5000).run flap).hub.audience := by
  obtain ⟨k, node, found, running, groups, unheard⟩ := flap_outcome
  exact ⟨k, node, found, running, groups, by decide +kernel, by decide +kernel, by decide +kernel, unheard⟩

end Cluster

end Coherence
