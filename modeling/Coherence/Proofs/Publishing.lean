import Coherence.Proofs.Pruning
import Coherence.Proofs.ResourceSteps

set_option autoImplicit false

namespace Coherence

open Std

theorem groups_install (snapshot next : Snapshot) (same : next.groups = snapshot.groups) :
    (snapshot.install next).groups = snapshot.groups := by
  rw [Snapshot.install]
  split
  · rfl
  · exact same

namespace Node

variable (node : Node)

def mayAnnounce : Bool := node.replica.unreachable = false ∧ node.id ∉ node.replica.rejected

theorem permit_announcing : node.mayAnnounce = true ↔ node.replica.permit node.id = .ok () := by
  rw [mayAnnounce, Replica.permit, Replica.reach]
  by_cases cut : node.replica.unreachable = true
  · simp [cut]
  · by_cases barred : node.id ∈ node.replica.rejected
    · simp [cut, barred]
    · simp [cut, barred]

theorem issued_announcing :
    node.announcing.issued = if node.registry.groupNames = [] then .remove node.id else .set node.id := by
  rw [announcing]
  split
  · rename_i empty
    rw [if_pos empty]
    rfl
  · rename_i occupied
    rw [if_neg occupied]
    rfl

def announcingCounter : Counter := if node.mayAnnounce then .publishes else .publishFailures

theorem get_published (later : Node) (counter : Counter) :
    (later.published (node.replica.permit node.id)).1.counters.get counter =
      if node.announcingCounter = counter then later.counters.get counter + 1 else later.counters.get counter := by
  have may := node.permit_announcing
  rw [announcingCounter]
  cases permit : node.replica.permit node.id with
  | ok =>
      rw [may.mpr permit]
      exact later.counters.get_bump .publishes counter
  | error fault =>
      have barred : node.mayAnnounce = false := by
        rw [permit] at may
        simpa using may
      rw [barred]
      exact later.counters.get_bump .publishFailures counter

variable {node} {fresh : Node} (alike : fresh.standing = node.standing)

include alike

theorem announcing_alike : fresh.announcing = node.announcing := by
  rw [announcing, announcing, show fresh.id = node.id from congrArg Standing.id alike,
    show fresh.registry = node.registry from congrArg Standing.registry alike]

theorem running_alike : fresh.isRunning = node.isRunning := by
  rw [isRunning, isRunning, show fresh.state = node.state from congrArg Standing.state alike]

theorem may_announce_alike : fresh.mayAnnounce = node.mayAnnounce := by
  rw [mayAnnounce, mayAnnounce, show fresh.id = node.id from congrArg Standing.id alike,
    show fresh.replica.unreachable = node.replica.unreachable from congrArg Standing.unreachable alike,
    show fresh.replica.rejected = node.replica.rejected from congrArg Standing.rejected alike]

end Node

namespace Cluster

theorem store_tell (audience : List Incarnation) (cluster : Cluster) :
    (audience.foldl storeChanged cluster).store = cluster.store := by
  induction audience generalizing cluster with
  | nil => rfl
  | cons k audience ih =>
      rw [List.foldl_cons, ih, storeChanged]
      split
      · exact store_amend cluster k _
      · rfl

section Announcing

variable (cluster : Cluster) (k : Incarnation) (node : Node)

def announced : Cluster :=
  { cluster with store := cluster.store.mutate cluster.channel node.announcing }.setNode k
    { node with replica := node.replica.tried node.announcing }

def informed : List Incarnation :=
  if node.announcing.effective cluster.entries then cluster.frame.audience else []

variable (found : cluster.nodes[k]? = some node) (running : node.isRunning = true)

include found running

theorem publish_eq : cluster.publish k =
    (cluster.mutate k node.announcing).1.amend k (·.published (node.replica.permit node.id)) := by
  rw [publish, found, ← node.announcing_key, ← result_mutate cluster k node node.announcing found]
  exact if_pos running

theorem publish_granted (may : node.mayAnnounce = true) : cluster.publish k =
    ((cluster.informed node).foldl storeChanged (cluster.announced k node)).amend k (·.published (.ok ())) := by
  have permitted := node.permit_announcing.mp may
  have written : cluster.mutate k node.announcing =
      ((cluster.informed node).foldl storeChanged (cluster.announced k node), .ok ()) := by
    rw [← node.announcing_key] at permitted
    rw [mutate, found]
    dsimp only
    rw [write, Replica.write_permitted _ _ _ _ permitted]
    rfl
  rw [publish_eq cluster k node found running, written, permitted]

theorem publish_refused (barred : node.mayAnnounce = false) : ∃ fault, cluster.publish k =
    (cluster.setNode k { node with replica := node.replica.tried node.announcing }).amend k
      (·.published (.error fault)) := by
  cases permit : node.replica.permit node.id with
  | ok =>
      rw [node.permit_announcing.mpr permit] at barred
      cases barred
  | error fault =>
      have written : cluster.mutate k node.announcing =
          (cluster.setNode k { node with replica := node.replica.tried node.announcing }, .error fault) := by
        rw [← node.announcing_key] at permit
        rw [mutate, found]
        dsimp only
        rw [write, Replica.write_refused _ _ _ _ fault permit]
      exact ⟨fault, by rw [publish_eq cluster k node found running, written, permit]⟩

theorem store_publish : (cluster.publish k).store =
    if node.mayAnnounce then cluster.store.mutate cluster.channel node.announcing else cluster.store := by
  split
  · rename_i may
    rw [publish_granted cluster k node found running may, store_amend, store_tell]
    rfl
  · rename_i barred
    obtain ⟨fault, refused⟩ := publish_refused cluster k node found running (by simpa using barred)
    rw [refused, store_amend]
    rfl

theorem entries_publish_other (channel : Channel) (key : String) (other : ¬ (channel = cluster.channel ∧ key = node.id)) :
    ((cluster.publish k).store.entries channel)[key]? = (cluster.store.entries channel)[key]? := by
  rw [store_publish cluster k node found running]
  split
  · rw [Store.entries_mutate]
    split
    · rename_i here
      refine Mutation.apply_other node.announcing _ key fun same => other ⟨here.symm, ?_⟩
      rw [← same, node.announcing_key]
    · rfl
  · rfl

theorem issued_publish (j : Incarnation) : (cluster.publish k).issued? j =
    if k = j then some (node.replica.issued ++ [node.announcing.issued]) else cluster.issued? j := by
  have unread : Unread (·.replica.issued) := ⟨fun _ => rfl, fun _ _ _ => rfl⟩
  have kept (node : Node) (result : Except Fault Unit) : (node.published result).1.replica = node.replica := by
    cases result <;> rfl
  rw [publish_eq cluster k node found running, issued?, aspect_amend]
  simp only [kept, ite_self]
  rw [aspect_mutate unread, issued?]
  by_cases same : k = j
  · subst same
    rw [if_pos rfl, if_pos rfl, found]
    rfl
  · rw [if_neg same, if_neg same]

theorem counted_publish (counter : Counter) (reading : counter ≠ .recomputations)
    (skipped : counter ≠ .malformedAnnouncements) (j : Incarnation) : (cluster.publish k).counted? counter j =
      if k = j ∧ node.announcingCounter = counter then (cluster.counted? counter j).map (· + 1)
      else cluster.counted? counter j := by
  have written : (cluster.mutate k node.announcing).1.counted? counter j = cluster.counted? counter j := by
    refine (aspect_mutate (unread_counter counter reading skipped) cluster k j node.announcing).trans ?_
    exact ite_self _
  rw [publish_eq cluster k node found running, counted?, aspect_amend, ← written]
  by_cases own : k = j
  · rw [if_pos own, counted?]
    simp only [node.get_published, own, true_and]
    split
    · rw [Option.map_map]
      rfl
    · rfl
  · rw [if_neg own, if_neg fun both => own both.1, counted?]

end Announcing

def groups? (cluster : Cluster) (k : Incarnation) : Option (ExtTreeSet Group) :=
  cluster.nodes[k]?.map (·.snapshot.groups)

-- If the node could read the store, it would learn nothing new.
def Current (cluster : Cluster) (k : Incarnation) : Prop :=
  ∀ node, cluster.nodes[k]? = some node → node.isRunning = true → node.replica.unreachable = false →
    node.snapshot.groups = bridged node.id cluster.entries

theorem current_congr (first second : Cluster) (k : Incarnation) (frame : second.frame = first.frame)
    (entries : second.entries = first.entries) (groups : second.groups? k = first.groups? k) (current : first.Current k) :
    second.Current k := by
  intro node found running reachable
  obtain ⟨old, here, alike⟩ := first.node_of_standing k node.standing (frame ▸ second.standing_of_found k node found)
  rw [groups?, groups?, found, here, Option.map_some, Option.map_some, Option.some.injEq] at groups
  have named : old.id = node.id := congrArg Standing.id alike
  have ran : old.isRunning = true := (Node.running_alike alike).trans running
  have reached : old.replica.unreachable = false := (congrArg Standing.unreachable alike).trans reachable
  rw [groups, entries, ← named]
  exact current old here ran reached

theorem groups_store_changed (cluster : Cluster) (k j : Incarnation) (current : k = j → cluster.Current j) :
    (cluster.storeChanged k).groups? j = cluster.groups? j := by
  rw [storeChanged]
  split
  · rename_i running
    rw [groups?, groups?, recompute, aspect_amend]
    split
    · rename_i same
      subst same
      cases found : cluster.nodes[k]? with
      | none => rfl
      | some node =>
          rw [Option.map_some, Option.map_some, Option.some.injEq]
          rw [isRunning, found, Option.any_some] at running
          by_cases cut : node.replica.unreachable = true
          · have unread : node.drawGeneration.replica.read cluster.store cluster.channel =
                .error (.unreachable ("store replica on " ++ node.replica.node)) := by
              simp [Replica.read, Replica.reach, Node.drawGeneration, cut, Except.map]
            simp only [unread]
            rfl
          · have reachable : node.replica.unreachable = false := by simpa using cut
            have read : node.drawGeneration.replica.read cluster.store cluster.channel = .ok cluster.entries :=
              read_reachable cluster node reachable
            simp only [read]
            rw [adopted_snapshot]
            exact groups_install _ _ (current rfl node found running reachable).symm
    · rfl
  · rfl

theorem groups_tell (audience : List Incarnation) (cluster : Cluster) (j : Incarnation)
    (current : j ∈ audience → cluster.Current j) :
    (audience.foldl storeChanged cluster).groups? j = cluster.groups? j := by
  induction audience generalizing cluster with
  | nil => rfl
  | cons k audience ih =>
      have here : k = j → cluster.Current j := fun same => current (same ▸ List.mem_cons_self ..)
      have groups := groups_store_changed cluster k j here
      rw [List.foldl_cons, ih (cluster.storeChanged k), groups]
      intro member
      exact current_congr cluster _ j (follows_store_changed cluster k).frame (entries_store_changed cluster k) groups
        (current (List.mem_cons_of_mem k member))

section Written

variable (cluster : Cluster) (k j : Incarnation) (node : Node)

theorem entries_announced : (cluster.announced k node).entries = node.announcing.apply cluster.entries :=
  (cluster.store.entries_mutate cluster.channel cluster.channel node.announcing).trans (if_pos rfl)

variable (found : cluster.nodes[k]? = some node)

include found

theorem frame_announced : (cluster.announced k node).frame = cluster.frame := by
  have listeners := cluster.store.listeners_mutate cluster.channel node.announcing
  have replaced := frame_replace { cluster with store := cluster.store.mutate cluster.channel node.announcing } k node
    { node with replica := node.replica.tried node.announcing } found rfl
  exact replaced.trans (frame_store cluster _ listeners)

theorem groups_announced : (cluster.announced k node).groups? j = cluster.groups? j := by
  rw [groups?, groups?, announced, nodes_set_node]
  split
  · rename_i same
    rw [← same, found]
    rfl
  · rfl

theorem groups_publish (running : node.isRunning = true) (may : node.mayAnnounce = true) : (cluster.publish k).groups? j =
    ((cluster.informed node).foldl storeChanged (cluster.announced k node)).groups? j := by
  rw [publish_granted cluster k node found running may, groups?, aspect_amend, groups?]
  split <;> rfl

end Written

-- Those who would hear of another announcement have nothing to learn from it.
structure Announced (cluster : Cluster) (k : Incarnation) (attentive : Incarnation → Prop) (node : Node) : Prop where
  found : cluster.nodes[k]? = some node
  running : node.isRunning = true
  may : node.mayAnnounce = true
  settled : node.announcing.apply cluster.entries = cluster.entries
  current : ∀ j, attentive j → j ∈ cluster.informed node → cluster.Current j

theorem publish_agrees (cluster : Cluster) (k j : Incarnation) (node : Node) (found : cluster.nodes[k]? = some node)
    (running : node.isRunning = true) (may : node.mayAnnounce = true) (member : j ∈ cluster.informed node)
    (hears : cluster.frame.Hears j) (dated : cluster.Dated j) (capacity : (cluster.publish k).drawsOf j < UInt64.size) :
    (cluster.publish k).Agrees j := by
  rw [publish_granted cluster k node found running may] at capacity ⊢
  have tried := follows_replace { cluster with store := cluster.store.mutate cluster.channel node.announcing } k node
    { node with replica := node.replica.tried node.announcing } found rfl rfl rfl
  have read := follows_foldl storeChanged follows_store_changed (cluster.informed node) (cluster.announced k node)
  have counts := follows_published ((cluster.informed node).foldl storeChanged (cluster.announced k node)) k (.ok ())
  have known : (cluster.announced k node).Dated j := tried.dated j dated
  have hearing : (cluster.announced k node).frame.Hears j := frame_announced cluster k node found ▸ hears
  have few := Nat.lt_of_le_of_lt (counts.aged j) capacity
  have told := tell_agrees (cluster.informed node) (cluster.announced k node) j member few hearing known
  exact counts.agrees j capacity (read.frame ▸ hearing) (read.dated j known) told

theorem announced_publish (cluster : Cluster) (k : Incarnation) (node : Node) (found : cluster.nodes[k]? = some node)
    (running : node.isRunning = true) (may : node.mayAnnounce = true) (dated : ∀ j, cluster.Dated j) :
    ∃ last, (cluster.publish k).Announced k (fun j => (cluster.publish k).drawsOf j < UInt64.size) last := by
  have frame := (follows_publish cluster k).frame
  have entries : (cluster.publish k).entries = node.announcing.apply cluster.entries :=
    entries_publish_permitted cluster k node found (node.is_running_iff.mp running) (node.permit_announcing.mp may)
  obtain ⟨last, there, alike⟩ := (cluster.publish k).node_of_standing k node.standing
    (frame ▸ cluster.standing_of_found k node found)
  refine ⟨last, there, ?_, ?_, ?_, ?_⟩
  · rw [Node.running_alike alike, running]
  · rw [Node.may_announce_alike alike, may]
  · rw [Node.announcing_alike alike, entries, Mutation.apply_apply]
  · rw [informed, Node.announcing_alike alike, entries, frame]
    intro j capacity member
    split at member
    · rename_i effective
      intro other here runs reachable
      have told : j ∈ cluster.informed node := by
        rwa [informed, if_pos (node.announcing.effective_apply cluster.entries effective)]
      have hears : cluster.frame.Hears j :=
        ⟨member, other.standing, frame ▸ (cluster.publish k).standing_of_found j other here, reachable⟩
      exact publish_agrees cluster k j node found running may told hears (dated j) capacity other here runs
    · cases member

namespace Announced

variable {cluster : Cluster} {k : Incarnation} {attentive : Incarnation → Prop} {node : Node}

theorem store_again (announced : cluster.Announced k attentive node) : (cluster.publish k).store = cluster.store := by
  rw [store_publish cluster k node announced.found announced.running, if_pos announced.may]
  exact cluster.store.mutate_settled cluster.channel node.announcing announced.settled

theorem groups_again (announced : cluster.Announced k attentive node) (j : Incarnation) (attends : attentive j) :
    (cluster.publish k).groups? j = cluster.groups? j := by
  obtain ⟨found, running, may, settled, current⟩ := announced
  have written := groups_announced cluster k j node found
  have unchanged : (cluster.announced k node).entries = cluster.entries := (entries_announced cluster k node).trans settled
  rw [groups_publish cluster k j node found running may, groups_tell, written]
  intro member
  exact current_congr cluster _ j (frame_announced cluster k node found) unchanged written (current j attends member)

theorem publish (announced : cluster.Announced k attentive node) :
    ∃ last, (cluster.publish k).Announced k attentive last := by
  have frame := (follows_publish cluster k).frame
  have entries : (cluster.publish k).entries = cluster.entries := by
    rw [Cluster.entries, announced.store_again, channel,
      show (cluster.publish k).config = cluster.config from congrArg Frame.config frame]
    rfl
  obtain ⟨last, there, alike⟩ := (cluster.publish k).node_of_standing k node.standing
    (frame ▸ cluster.standing_of_found k node announced.found)
  refine ⟨last, there, ?_, ?_, ?_, ?_⟩
  · rw [Node.running_alike alike, announced.running]
  · rw [Node.may_announce_alike alike, announced.may]
  · rw [Node.announcing_alike alike, entries, announced.settled]
  · rw [informed, Node.announcing_alike alike, entries, frame]
    intro j attends member
    exact current_congr cluster _ j frame entries (announced.groups_again j attends) (announced.current j attends member)

theorem again (announced : cluster.Announced k attentive node) (n : Nat) :
    ((List.replicate n k).foldl Cluster.publish cluster).store = cluster.store ∧ ∀ j, attentive j →
      ((List.replicate n k).foldl Cluster.publish cluster).groups? j = cluster.groups? j := by
  induction n generalizing cluster node with
  | zero => exact ⟨rfl, fun _ _ => rfl⟩
  | succ n ih =>
      obtain ⟨last, still⟩ := announced.publish
      obtain ⟨store, groups⟩ := ih still
      rw [List.replicate_succ, List.foldl_cons]
      exact ⟨store.trans announced.store_again, fun j attends => (groups j attends).trans (announced.groups_again j attends)⟩

end Announced

theorem snapshot_refused (cluster : Cluster) (k j : Incarnation) (node : Node) (found : cluster.nodes[k]? = some node)
    (running : node.isRunning = true) (barred : node.mayAnnounce = false) :
    (cluster.publish k).nodes[j]?.map (·.snapshot) = cluster.nodes[j]?.map (·.snapshot) := by
  obtain ⟨fault, refused⟩ := publish_refused cluster k node found running barred
  rw [refused, aspect_amend, nodes_set_node]
  by_cases same : k = j
  · subst same
    rw [if_pos rfl, if_pos rfl, found]
    rfl
  · rw [if_neg same, if_neg same]

/-- A running node that publishes touches only its own entry, counts one attempt, and repeating it changes nothing. -/
theorem publish_settles_own_entry (config : Config) (timeout : Nat) (operations : List Operation) (k : Incarnation)
    (node : Node) (found : ((initial config timeout).run operations).nodes[k]? = some node)
    (running : node.isRunning = true) :
    let before := (initial config timeout).run operations
    let after := before.publish k
    (∀ (channel : Channel) (key : String), ¬ (channel = before.channel ∧ key = node.id) →
      (after.store.entries channel)[key]? = (before.store.entries channel)[key]?) ∧
    (∀ j, after.issued? j =
      if k = j then some (node.replica.issued ++ [if node.registry.groupNames = [] then .remove node.id else .set node.id])
      else before.issued? j) ∧
    (∀ counter, counter ≠ .recomputations → counter ≠ .malformedAnnouncements → ∀ j, after.counted? counter j =
      if k = j ∧ node.announcingCounter = counter then (before.counted? counter j).map (· + 1)
      else before.counted? counter j) ∧
    (node.mayAnnounce = true →
      after.entries[node.id]? = (if node.registry.groupNames = [] then none
        else some (some (Announcement.encode ⟨node.id, ExtTreeSet.ofList node.registry.groupNames⟩))) ∧
      ∀ n, ((List.replicate n k).foldl publish after).store = after.store ∧
        ∀ j, after.drawsOf j < UInt64.size →
          ((List.replicate n k).foldl publish after).groups? j = after.groups? j) ∧
    (node.mayAnnounce = false → after.store = before.store ∧
      ∀ j : Incarnation, after.nodes[j]?.map Node.snapshot = before.nodes[j]?.map Node.snapshot) := by
  intro before after
  have upheld : before.Upheld False := upheld_run False config timeout operations fun wrong => wrong.elim
  refine ⟨?_, ?_, ?_, ?_, ?_⟩
  · exact fun channel key other => entries_publish_other before k node found running channel key other
  · rw [← node.issued_announcing]
    exact issued_publish before k node found running
  · exact counted_publish before k node found running
  · intro may
    obtain ⟨last, announced⟩ := announced_publish before k node found running may upheld.dated
    refine ⟨?_, announced.again⟩
    rw [entries_publish_permitted before k node found (node.is_running_iff.mp running) (node.permit_announcing.mp may),
      node.announcing_entry, Standing.entry_eq]
    rfl
  · intro barred
    refine ⟨?_, fun j => snapshot_refused before k j node found running barred⟩
    rw [store_publish before k node found running, if_neg (by simp [barred])]

/-- Someone else writes over the entry of a node with a group, which another node listens for. -/
def usurpation : List Operation :=
  [.addNode "a", .addNode "b", .startAll, .node "a" (.createGroup "g"), .putRaw "cache-invalidation" "a" none]

/-- In addition, the node cannot write its entry any more. -/
def exclusion : List Operation := usurpation ++ [.node "a" (.rejectKey "a")]

theorem usurped_entry_restored :
    (∃ node, ((initial {} 5000).run usurpation).nodes[0]? = some node ∧ node.isRunning = true ∧ node.mayAnnounce = true ∧
      (((initial {} 5000).run usurpation).publish 0).entries["a"]? =
        some (some (Announcement.encode ⟨"a", ExtTreeSet.ofList ["g"]⟩)) ∧
      ∀ n, (((List.replicate n 0).foldl publish (((initial {} 5000).run usurpation).publish 0)).groups? 1).any
        (·.contains "g") = true) ∧
    ∃ node, ((initial {} 5000).run exclusion).nodes[0]? = some node ∧ node.isRunning = true ∧ node.mayAnnounce = false ∧
      (((initial {} 5000).run exclusion).publish 0).store = ((initial {} 5000).run exclusion).store := by
  have able : ((initial {} 5000).run usurpation).nodes[0]?.any (fun node => node.isRunning && node.mayAnnounce &&
      node.id == "a" && node.registry.groupNames == ["g"]) = true := by
    decide +kernel
  have unable : ((initial {} 5000).run exclusion).nodes[0]?.any (fun node => node.isRunning && !node.mayAnnounce) = true := by
    decide +kernel
  constructor
  · obtain ⟨node, found, facts⟩ := (Option.any_eq_true _ _).mp able
    simp only [Bool.and_eq_true, beq_iff_eq] at facts
    obtain ⟨⟨⟨running, may⟩, named⟩, groups⟩ := facts
    obtain ⟨_, _, _, settles, _⟩ := publish_settles_own_entry {} 5000 usurpation 0 node found running
    obtain ⟨entry, again⟩ := settles may
    rw [named, groups] at entry
    refine ⟨node, found, running, may, entry, fun n => ?_⟩
    rw [(again n).2 1 (by decide +kernel)]
    decide +kernel
  · obtain ⟨node, found, facts⟩ := (Option.any_eq_true _ _).mp unable
    simp only [Bool.and_eq_true, Bool.not_eq_true'] at facts
    obtain ⟨_, _, _, _, fails⟩ := publish_settles_own_entry {} 5000 exclusion 0 node found facts.1
    exact ⟨node, found, facts.1, facts.2, (fails facts.2).1⟩

end Cluster

end Coherence
