import Coherence.Proofs.Entries
import Coherence.Proofs.HubListeners

set_option autoImplicit false

namespace Coherence

open Std

-- Who is to clean up: the lowest of the view, or whom the membership service names.
def Elected (config : Config) (hub : Hub Incarnation) (view : View) (id : NodeId) : Prop :=
  match config.election with
  | .lowestNodeId => view.members.min? = some id
  | .membershipService => hub.primary? = some id ∧ id ∉ hub.unreachable

theorem elected_unique (config : Config) (hub : Hub Incarnation) (view : View) (first second : NodeId)
    (one : Elected config hub view first) (other : Elected config hub view second) : first = second := by
  rw [Elected] at one other
  cases mode : config.election with
  | lowestNodeId =>
      rw [mode] at one other
      exact Option.some.inj (one.symm.trans other)
  | membershipService =>
      rw [mode] at one other
      exact Option.some.inj (one.1.symm.trans other.1)

namespace Frame

def Leads (frame : Frame) (view : View) (k : Incarnation) : Prop :=
  ∃ standing : Standing, frame.nodes[k]? = some standing ∧ standing.state = .running ∧
    Elected frame.config frame.hub view standing.id

variable {frame : Frame} {loyal : Prop}

theorem HubSoundIf.located_of_audience (hubSound : frame.HubSoundIf loyal) (k : Incarnation)
    (told : k ∈ frame.hub.audience) : ∃ id standing, frame.current[id]? = some k ∧ frame.nodes[k]? = some standing ∧
      standing.id = id ∧ standing.state = .running := by
  obtain ⟨handle, lists⟩ := (Hub.mem_audience k).mp told
  obtain ⟨located, standing, _, found, running, _, _⟩ := hubSound.listed handle k lists
  exact ⟨handle.node, standing, located, found, hubSound.id_of_located _ k standing located found, running⟩

theorem HubSoundIf.leader_unique (hubSound : frame.HubSoundIf loyal) (view : View) (k j : Incarnation)
    (told : k ∈ frame.hub.audience) (also : j ∈ frame.hub.audience) (leads : frame.Leads view k)
    (rivals : frame.Leads view j) : k = j := by
  obtain ⟨id, standing, located, found, rfl, _⟩ := hubSound.located_of_audience k told
  obtain ⟨name, other, place, there, rfl, _⟩ := hubSound.located_of_audience j also
  obtain ⟨_, same, _, elected⟩ := leads
  obtain ⟨_, alike, _, chosen⟩ := rivals
  rw [found, Option.some.injEq] at same
  rw [there, Option.some.injEq] at alike
  rw [← same] at elected
  rw [← alike] at chosen
  rw [elected_unique _ _ view _ _ elected chosen, place, Option.some.injEq] at located
  exact located.symm

end Frame

namespace Cluster

section Aspects

variable {α : Type} (aspect : Node → α)

theorem aspect_amend (cluster : Cluster) (k j : Incarnation) (change : Node → Node × Log) :
    (cluster.amend k change).nodes[j]?.map aspect =
      if k = j then cluster.nodes[j]?.map fun node => aspect (change node).1 else cluster.nodes[j]?.map aspect := by
  rw [nodes_amend]
  by_cases same : k = j
  · simp [same, Function.comp_def]
  · simp [same]

structure Unread : Prop where
  draw : ∀ node : Node, aspect node.drawGeneration = aspect node
  adopt : ∀ (node : Node) (generation : UInt64) (entries : Entries), aspect (node.adopt generation entries).1 = aspect node

variable {aspect} (unread : Unread aspect)

include unread

theorem aspect_store_changed (cluster : Cluster) (k j : Incarnation) :
    (cluster.storeChanged k).nodes[j]?.map aspect = cluster.nodes[j]?.map aspect := by
  rw [storeChanged]
  split
  · rw [recompute, aspect_amend]
    by_cases same : k = j
    · rw [if_pos same]
      congr 1
      funext node
      dsimp only
      split
      · exact unread.draw node
      · exact (unread.adopt _ _ _).trans (unread.draw node)
    · rw [if_neg same]
  · rfl

theorem aspect_tell (audience : List Incarnation) (cluster : Cluster) (j : Incarnation) :
    (audience.foldl storeChanged cluster).nodes[j]?.map aspect = cluster.nodes[j]?.map aspect := by
  induction audience generalizing cluster with
  | nil => rfl
  | cons k audience ih => rw [List.foldl_cons, ih, aspect_store_changed unread]

theorem aspect_mutate (cluster : Cluster) (k j : Incarnation) (mutation : Mutation) :
    (cluster.mutate k mutation).1.nodes[j]?.map aspect =
      if k = j then cluster.nodes[j]?.map fun node => aspect { node with replica := node.replica.tried mutation }
      else cluster.nodes[j]?.map aspect := by
  have tried (before : Cluster) (node : Node) (found : cluster.nodes[k]? = some node)
      (same : before.nodes = cluster.nodes) :
      (before.setNode k { node with replica := node.replica.tried mutation }).nodes[j]?.map aspect =
        if k = j then cluster.nodes[j]?.map fun node => aspect { node with replica := node.replica.tried mutation }
        else cluster.nodes[j]?.map aspect := by
    rw [nodes_set_node, same]
    by_cases own : k = j
    · subst own
      simp [found]
    · simp [own]
  cases found : cluster.nodes[k]? with
  | none =>
      rw [mutate_missing cluster k mutation found]
      by_cases own : k = j
      · subst own
        simp [found]
      · rw [if_neg own]
  | some node =>
      have mutated := mutate_mutated cluster k node mutation found
      generalize cluster.mutate k mutation = result at mutated
      cases mutated with
      | refused fault why => exact tried cluster node found rfl
      | unchanged permitted entries => exact tried cluster node found rfl
      | told store permitted entries listeners =>
          rw [aspect_tell unread]
          exact tried { cluster with store } node found rfl

end Aspects

def issued? (cluster : Cluster) (k : Incarnation) : Option (List Issued) := cluster.nodes[k]?.map (·.replica.issued)

theorem issued_sweep_owner (k j : Incarnation) (cluster : Cluster) (owner : NodeId) :
    (sweepOwner k cluster owner).issued? j =
      if k = j then (cluster.issued? j).map (· ++ [.remove owner]) else cluster.issued? j := by
  have unread : Unread (·.replica.issued) := ⟨fun _ => rfl, fun _ _ _ => rfl⟩
  have kept (node : Node) (result : Except Fault Unit) : (Node.swept owner node result).1.replica = node.replica := by
    cases result <;> rfl
  rw [sweepOwner, issued?, aspect_amend]
  simp only [kept, ite_self]
  rw [aspect_mutate unread, issued?, Option.map_map]
  rfl

theorem issued_sweep_owners (k j : Incarnation) (owners : List NodeId) (cluster : Cluster) :
    (owners.foldl (sweepOwner k) cluster).issued? j =
      if k = j then (cluster.issued? j).map (· ++ owners.map .remove) else cluster.issued? j := by
  induction owners generalizing cluster with
  | nil => simp
  | cons owner owners ih =>
      rw [List.foldl_cons, ih, issued_sweep_owner]
      by_cases same : k = j
      · simp [same, Function.comp_def]
      · simp [same]

theorem is_primary_iff (cluster : Cluster) (node : Node) (view : View) :
    cluster.isPrimary node view = .ok true ↔ Elected cluster.config cluster.hub view node.id := by
  rw [isPrimary, Elected]
  cases cluster.config.election with
  | lowestNodeId =>
      dsimp only
      rw [View.isPrimary, View.primary?, ← ExtTreeSet.min?_eq_head?_toList, Except.ok.injEq]
      exact decide_eq_true_iff
  | membershipService =>
      dsimp only
      rw [Hub.isPrimary, Hub.currentMembers]
      split
      · rename_i cut
        simp [Except.map, cut]
      · rename_i reached
        simp [Except.map, reached]

theorem membership_changed_idle (view : View) (cluster : Cluster) (k : Incarnation)
    (idle : ¬ cluster.frame.Leads view k) : ∃ log, membershipChanged view cluster k = { cluster with log } := by
  rw [membershipChanged]
  split
  · rename_i running
    rw [sweep]
    cases found : cluster.nodes[k]? with
    | none => exact ⟨cluster.log, rfl⟩
    | some node =>
        dsimp only
        cases primary : cluster.isPrimary node view with
        | error fault => exact ⟨_, rfl⟩
        | ok elected =>
            cases elected with
            | false => exact ⟨cluster.log, rfl⟩
            | true =>
                rw [isRunning, found, Option.any_some] at running
                exact absurd ⟨node.standing, cluster.standing_of_found k node found, node.is_running_iff.mp running,
                  (is_primary_iff cluster node view).mp primary⟩ idle
  · exact ⟨cluster.log, rfl⟩

theorem membership_changed_leading (view : View) (cluster : Cluster) (k : Incarnation) (node : Node)
    (found : cluster.nodes[k]? = some node) (leads : cluster.frame.Leads view k) :
    membershipChanged view cluster k =
      if node.replica.unreachable then
        cluster.note k [.sweepReadFailed (.unreachable ("store replica on " ++ node.replica.node))]
      else (view.deadOwners cluster.entries.keys).foldl (sweepOwner k) cluster := by
  obtain ⟨standing, there, running, elected⟩ := leads
  rw [cluster.standing_of_found k node found, Option.some.injEq] at there
  subst there
  have runs : cluster.isRunning k = true := by
    rw [isRunning, found, Option.any_some]
    exact node.is_running_iff.mpr running
  have primary := (is_primary_iff cluster node view).mpr elected
  rw [membershipChanged, if_pos runs, sweep, found]
  simp only [primary]
  by_cases cut : node.replica.unreachable = true
  · simp [Replica.read, Replica.reach, cut, Except.map]
  · rw [read_reachable cluster node (by simpa using cut), if_neg cut]

theorem notify_idle (view : View) (ks : List Incarnation) (cluster : Cluster)
    (idle : ∀ k ∈ ks, ¬ cluster.frame.Leads view k) :
    ∃ log, ks.foldl (membershipChanged view) cluster = { cluster with log } := by
  induction ks generalizing cluster with
  | nil => exact ⟨cluster.log, rfl⟩
  | cons k ks ih =>
      obtain ⟨log, quiet⟩ := membership_changed_idle view cluster k (idle k (List.mem_cons_self ..))
      obtain ⟨more, still⟩ := ih { cluster with log } fun j member => idle j (List.mem_cons_of_mem k member)
      exact ⟨more, by rw [List.foldl_cons, quiet, still]⟩

variable {cluster : Cluster} {loyal : Prop}

-- The leader is told once, and finds the store as it was before.
theorem notify_leading (hubSound : cluster.frame.HubSoundIf loyal) (view : View) (k : Incarnation)
    (told : k ∈ cluster.hub.audience) (leads : cluster.frame.Leads view k) :
    ∃ before after, cluster.notifyMembership view =
      { membershipChanged view { cluster with log := before } k with log := after } := by
  have once : cluster.hub.audience.Nodup := Hub.audience_nodup hubSound.handle_unique
  obtain ⟨earlier, later, split⟩ := List.append_of_mem told
  have idle (j : Incarnation) (member : j ∈ earlier ∨ j ∈ later) : ¬ cluster.frame.Leads view j := by
    intro rivals
    have among : j ∈ cluster.hub.audience := by
      rw [split]
      simp only [List.mem_append, List.mem_cons]
      tauto
    have same := hubSound.leader_unique view j k among told rivals leads
    subst same
    rw [split, List.nodup_append, List.nodup_cons] at once
    cases member with
    | inl first => exact once.2.2 j first j (List.mem_cons_self ..) rfl
    | inr rest => exact once.2.1.1 rest
  obtain ⟨before, quiet⟩ := notify_idle view earlier cluster fun j member => idle j (.inl member)
  have frame := (follows_membership_changed view { cluster with log := before } k).frame
  obtain ⟨after, still⟩ := notify_idle view later (membershipChanged view { cluster with log := before } k)
    fun j member => frame ▸ idle j (.inr member)
  refine ⟨before, after, ?_⟩
  rw [notifyMembership, split, List.foldl_append, quiet, List.foldl_cons, still]

theorem issued_leading (view : View) (cluster : Cluster) (k j : Incarnation) (node : Node)
    (found : cluster.nodes[k]? = some node) (leads : cluster.frame.Leads view k) :
    (membershipChanged view cluster k).issued? j =
      if k = j ∧ node.replica.unreachable = false then
        (cluster.issued? j).map (· ++ (view.deadOwners cluster.entries.keys).map .remove)
      else cluster.issued? j := by
  rw [membership_changed_leading view cluster k node found leads]
  by_cases cut : node.replica.unreachable = true
  · rw [if_pos cut, if_neg fun both => absurd cut (by simp [both.2])]
    rfl
  · rw [if_neg cut, issued_sweep_owners]
    simp [cut]

theorem issued_notify (hubSound : cluster.frame.HubSoundIf loyal) (view : View) (k : Incarnation) (node : Node)
    (found : cluster.nodes[k]? = some node) :
    (k ∈ cluster.hub.audience ∧ cluster.frame.Leads view k → node.replica.unreachable = false →
      (cluster.notifyMembership view).issued? k =
        (cluster.issued? k).map (· ++ (view.deadOwners cluster.entries.keys).map .remove)) ∧
    (¬ (k ∈ cluster.hub.audience ∧ cluster.frame.Leads view k) ∨ node.replica.unreachable = true →
      (cluster.notifyMembership view).issued? k = cluster.issued? k) := by
  constructor
  · rintro ⟨told, leads⟩ reachable
    obtain ⟨before, after, notified⟩ := notify_leading hubSound view k told leads
    rw [notified]
    exact (issued_leading view { cluster with log := before } k k node found leads).trans (if_pos ⟨rfl, reachable⟩)
  · intro spared
    by_cases led : ∃ leader, leader ∈ cluster.hub.audience ∧ cluster.frame.Leads view leader
    · obtain ⟨leader, told, leads⟩ := led
      obtain ⟨standing, there, _⟩ := id leads
      obtain ⟨other, present, rfl⟩ := cluster.node_of_standing leader standing there
      obtain ⟨before, after, notified⟩ := notify_leading hubSound view leader told leads
      rw [notified]
      refine (issued_leading view { cluster with log := before } leader k other present leads).trans (if_neg ?_)
      rintro ⟨rfl, reachable⟩
      rw [found, Option.some.injEq] at present
      subst present
      cases spared with
      | inl follower => exact follower ⟨told, leads⟩
      | inr cut => cases cut.symm.trans reachable
    · obtain ⟨log, quiet⟩ := notify_idle view cluster.hub.audience cluster fun j told leads => led ⟨j, told, leads⟩
      rw [notifyMembership, quiet]
      rfl

inductive MembershipEvent where
  | join (id : NodeId)
  | leave (id : NodeId)
  | notify (members : List NodeId)

namespace MembershipEvent

def operation : MembershipEvent → Operation
  | join id => .join id
  | leave id => .leave id
  | notify members => .notify members

-- Nobody hears of it if someone leaves who is no member.
def tells (cluster : Cluster) : MembershipEvent → Option (Hub Incarnation × View)
  | join id => some (cluster.hub.join id, (cluster.hub.join id).view)
  | leave id => (cluster.hub.leave? id).map fun hub => (hub, hub.view)
  | notify members => some (cluster.hub, View.ofList members)

variable {event : MembershipEvent} {hub : Hub Incarnation} {view : View}

theorem step_eq (told : event.tells cluster = some (hub, view)) :
    (cluster.step event.operation).1 = { cluster with hub }.notifyMembership view := by
  cases event with
  | join id =>
      cases told
      rfl
  | notify members =>
      cases told
      rfl
  | leave id =>
      obtain ⟨_, left, same⟩ := Option.map_eq_some_iff.mp told
      cases same
      rw [operation, step, Cluster.leave, left]

theorem hub_sound_told (before : cluster.frame.HubSoundIf loyal)
    (told : event.tells cluster = some (hub, view)) : { cluster with hub }.frame.HubSoundIf False := by
  have any : cluster.frame.HubSoundIf False :=
    ⟨before.toAddressed, before.settled, before.holding, before.listed, fun _ _ _ _ _ => False.elim⟩
  cases event with
  | join id =>
      cases told
      exact any.furnish cluster.bus _ cluster.store.listeners rfl
  | notify members =>
      cases told
      exact any
  | leave id =>
      obtain ⟨_, left, same⟩ := Option.map_eq_some_iff.mp told
      cases same
      exact any.leave id _ left False.elim

theorem lists_told (told : event.tells cluster = some (hub, view)) (handle : Hub.Handle) (k : Incarnation)
    (listed : cluster.hub.Lists handle k) (stays : event ≠ .leave handle.node) : hub.Lists handle k := by
  cases event with
  | join id =>
      cases told
      exact listed
  | notify members =>
      cases told
      exact listed
  | leave id =>
      obtain ⟨_, left, same⟩ := Option.map_eq_some_iff.mp told
      cases same
      refine (cluster.hub.lists_leave _ id left handle k).mpr ⟨listed, ?_⟩
      rintro rfl
      exact stays rfl

end MembershipEvent

-- A node of the cluster that runs, is elected, and is still told of changes of the membership.
def Leads (cluster : Cluster) (hub : Hub Incarnation) (view : View) (k : Incarnation) : Prop :=
  ∃ id node, cluster.find? id = some (k, node) ∧ node.isRunning = true ∧ Elected cluster.config hub view id ∧
    k ∈ hub.audience

theorem leads_iff (hub : Hub Incarnation) (view : View) (hubSound : { cluster with hub }.frame.HubSoundIf loyal)
    (k : Incarnation) : cluster.Leads hub view k ↔ k ∈ hub.audience ∧ { cluster with hub }.frame.Leads view k := by
  constructor
  · rintro ⟨id, node, found, running, elected, told⟩
    obtain ⟨located, here⟩ := (cluster.find_eq_some_iff id k node).mp found
    have standing := cluster.standing_of_found k node here
    have named := hubSound.id_of_located id k node.standing located standing
    exact ⟨told, node.standing, standing, node.is_running_iff.mp running, named ▸ elected⟩
  · rintro ⟨told, standing, found, running, elected⟩
    obtain ⟨id, other, located, there, named, _⟩ := hubSound.located_of_audience k told
    rw [found, Option.some.injEq] at there
    subst there
    obtain ⟨node, here, rfl⟩ := cluster.node_of_standing k standing found
    exact ⟨id, node, (cluster.find_eq_some_iff id k node).mpr ⟨located, here⟩, node.is_running_iff.mpr running,
      named ▸ elected, told⟩

theorem pairwise_dead_owners (view : View) (cluster : Cluster) :
    (view.deadOwners cluster.entries.keys).Pairwise fun first second => compare first second = .lt :=
  cluster.entries.ordered_keys.filter _

theorem mem_dead_owners (view : View) (cluster : Cluster) (key : NodeId) :
    key ∈ view.deadOwners cluster.entries.keys ↔ key ∈ cluster.entries ∧ key ∉ view.members := by
  rw [View.deadOwners, List.mem_filter, ExtTreeMap.mem_keys, Bool.not_eq_true', View.contains, ← Bool.not_eq_true,
    ExtTreeSet.contains_iff_mem]

/-- Of all who are told of a change of the membership at most one cleans up, and it tries each dead entry once. -/
theorem leader_only_cleanup (config : Config) (timeout : Nat) (operations : List Operation) (event : MembershipEvent)
    (hub : Hub Incarnation) (view : View)
    (told : event.tells ((initial config timeout).run operations) = some (hub, view)) :
    let before := (initial config timeout).run operations
    let after := (before.step event.operation).1
    (∀ k j, before.Leads hub view k → before.Leads hub view j → k = j) ∧
    (∀ k node, before.nodes[k]? = some node → ∃ last, after.nodes[k]? = some last ∧
      (before.Leads hub view k → node.replica.unreachable = false → ∃ owners : List NodeId,
        owners.Pairwise (fun first second => compare first second = .lt) ∧
        (∀ key, key ∈ owners ↔ key ∈ before.entries ∧ key ∉ view.members) ∧
        last.replica.issued = node.replica.issued ++ owners.map .remove) ∧
      (¬ before.Leads hub view k ∨ node.replica.unreachable = true → last.replica.issued = node.replica.issued)) ∧
    ((∀ operation ∈ operations, operation.removesMember = false) → ∀ id k node, before.find? id = some (k, node) →
      node.isRunning = true → event ≠ .leave id → k ∈ hub.audience) := by
  intro before after
  have hubSound := MembershipEvent.hub_sound_told
    (hub_sound_run (hub_sound_initial config timeout) operations False.elim) told
  have equal : after = { before with hub }.notifyMembership view := MembershipEvent.step_eq told
  refine ⟨?_, ?_, ?_⟩
  · intro k j leads rivals
    obtain ⟨heard, leads⟩ := (leads_iff hub view hubSound k).mp leads
    obtain ⟨also, rivals⟩ := (leads_iff hub view hubSound j).mp rivals
    exact hubSound.leader_unique view k j heard also leads rivals
  · intro k node found
    obtain ⟨leading, spared⟩ := issued_notify hubSound view k node found
    rw [← leads_iff hub view hubSound k, ← equal] at leading spared
    have recorded : before.issued? k = some node.replica.issued := by rw [issued?, found, Option.map_some]
    have frame : after.frame = { before with hub }.frame := equal ▸ (follows_notify { before with hub } view).frame
    have standing : after.frame.nodes[k]? = some node.standing := frame ▸ before.standing_of_found k node found
    obtain ⟨last, there, _⟩ := after.node_of_standing k node.standing standing
    rw [issued?, there, Option.map_some] at leading spared
    refine ⟨last, there, fun leads reachable => ?_, fun idle => ?_⟩
    · refine ⟨view.deadOwners before.entries.keys, pairwise_dead_owners view before, mem_dead_owners view before, ?_⟩
      exact Option.some.inj ((leading leads reachable).trans (congrArg _ recorded))
    · exact Option.some.inj ((spared idle).trans recorded)
  · intro loyal id k node found running stays
    have steady := hub_sound_run (hub_sound_initial config timeout) operations fun _ : True => loyal
    obtain ⟨located, here⟩ := (before.find_eq_some_iff id k node).mp found
    have standing := before.standing_of_found k node here
    have runs := node.is_running_iff.mp running
    obtain ⟨held, holding, own⟩ := steady.holding id k node.standing located standing runs
    obtain ⟨given, same, lists⟩ := steady.present trivial id k node.standing located standing runs
    rw [holding, Option.some.injEq] at same
    subst same
    exact (Hub.mem_audience k).mpr ⟨held.hub, MembershipEvent.lists_told told held.hub k lists (own ▸ stays)⟩

/-- The first of two nodes is appointed, and may not write one of the three entries that others left. -/
def litter : List Operation :=
  [.appoint (some "a"), .addNode "a", .addNode "b", .startAll, .node "b" (.createGroup "g"),
    .putRaw "cache-invalidation" "e" none, .putRaw "cache-invalidation" "c" none,
    .putRaw "cache-invalidation" "d" (some [0]), .node "a" (.rejectKey "d")]

theorem litter_cleaned_up :
    let before := (initial { election := .membershipService } 5000).run litter
    let after := (before.step (.notify ["c", "a"])).1
    ∃ k node last, before.find? "a" = some (k, node) ∧ node.isRunning = true ∧ after.nodes[k]? = some last ∧
      (∃ owners : List NodeId, owners.Pairwise (fun first second => compare first second = .lt) ∧
        (∀ key, key ∈ owners ↔ key ∈ before.entries ∧ key ∉ (View.ofList ["c", "a"]).members) ∧
        last.replica.issued = node.replica.issued ++ owners.map .remove) ∧
      last.replica.removals = ["a", "b", "d", "e"] := by
  intro before after
  obtain ⟨_, recorded, told⟩ :=
    leader_only_cleanup { election := .membershipService } 5000 litter (.notify ["c", "a"]) before.hub _ rfl
  have seen : (before.find? "a").any (fun found => found.2.isRunning && !found.2.replica.unreachable &&
      (after.nodes[found.1]?.map (·.replica.removals)) == some ["a", "b", "d", "e"]) = true := by
    decide +kernel
  obtain ⟨⟨k, node⟩, found, facts⟩ := (Option.any_eq_true _ _).mp seen
  simp only [Bool.and_eq_true, Bool.not_eq_true', beq_iff_eq] at facts
  obtain ⟨⟨running, reachable⟩, removed⟩ := facts
  have heard : k ∈ before.hub.audience := told (by decide) "a" k node found running (by simp)
  have elected : Elected before.config before.hub (View.ofList ["c", "a"]) "a" := by
    rw [Elected, show before.config.election = .membershipService by decide +kernel]
    decide +kernel
  have leads : before.Leads before.hub (View.ofList ["c", "a"]) k := ⟨"a", node, found, running, elected, heard⟩
  obtain ⟨last, there, cleaned, _⟩ := recorded k node ((before.find_eq_some_iff "a" k node).mp found).2
  refine ⟨k, node, last, found, running, there, cleaned leads reachable, ?_⟩
  exact Option.some.inj ((congrArg _ there).symm.trans removed)

end Cluster

end Coherence
