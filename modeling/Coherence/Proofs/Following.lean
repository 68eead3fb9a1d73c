import Coherence.Proofs.Frame
import Coherence.Proofs.Writing

set_option autoImplicit false

namespace Coherence

open Std

def bridged (own : NodeId) (entries : Entries) : ExtTreeSet Group :=
  ExtTreeSet.ofList ((Recomputation.readings own entries).flatMap Reading.groups)

theorem adopted_draws (node : Node) (generation : UInt64) (entries : Entries) :
    (node.adopt generation entries).1.draws = node.draws := rfl

theorem adopted_snapshot (node : Node) (generation : UInt64) (entries : Entries) :
    (node.adopt generation entries).1.snapshot = node.snapshot.install ⟨bridged node.id entries, generation⟩ := rfl

namespace Cluster

def drawsOf (cluster : Cluster) (k : Incarnation) : Nat := (cluster.nodes[k]?.map Node.draws).getD 0

-- No snapshot carries a number that its node has not drawn yet.
def Dated (cluster : Cluster) (k : Incarnation) : Prop :=
  ∀ node, cluster.nodes[k]? = some node → node.snapshot.generation.toNat ≤ node.draws

def Agrees (cluster : Cluster) (k : Incarnation) : Prop :=
  ∀ node, cluster.nodes[k]? = some node → node.isRunning = true →
    node.snapshot.groups = bridged node.id cluster.entries

-- Only bookkeeping changes, and whoever hears of changes agrees with the store as before, as long as its numbers last.
structure Follows (before after : Cluster) : Prop where
  frame : after.frame = before.frame
  aged : ∀ k, before.drawsOf k ≤ after.drawsOf k
  dated : ∀ k, before.Dated k → after.Dated k
  agrees : ∀ k, after.drawsOf k < UInt64.size → before.frame.Hears k → before.Dated k → before.Agrees k → after.Agrees k

theorem Follows.refl (cluster : Cluster) : Follows cluster cluster :=
  ⟨rfl, fun _ => Nat.le_refl _, fun _ dated => dated, fun _ _ _ _ agrees => agrees⟩

theorem Follows.trans {first second third : Cluster} (earlier : Follows first second) (later : Follows second third) :
    Follows first third where
  frame := later.frame.trans earlier.frame
  aged k := Nat.le_trans (earlier.aged k) (later.aged k)
  dated k dated := later.dated k (earlier.dated k dated)
  agrees k capacity hears dated agrees := by
    have middle : second.Agrees k := earlier.agrees k (Nat.lt_of_le_of_lt (later.aged k) capacity) hears dated agrees
    exact later.agrees k capacity (earlier.frame ▸ hears) (earlier.dated k dated) middle

theorem follows_foldl {α : Type} (f : Cluster → α → Cluster) (follows : ∀ cluster a, Follows cluster (f cluster a))
    (xs : List α) (cluster : Cluster) : Follows cluster (xs.foldl f cluster) := by
  induction xs generalizing cluster with
  | nil => exact .refl cluster
  | cons a xs ih => exact (follows cluster a).trans (ih (f cluster a))

theorem draws_of_found (cluster : Cluster) (k : Incarnation) (node : Node) (found : cluster.nodes[k]? = some node) :
    cluster.drawsOf k = node.draws := by
  simp [drawsOf, found]

theorem agrees_congr (first second : Cluster) (k : Incarnation) (node : second.nodes[k]? = first.nodes[k]?)
    (entries : second.entries = first.entries) (agrees : first.Agrees k) : second.Agrees k := by
  intro other found running
  rw [entries]
  exact agrees other (node ▸ found) running

theorem follows_amend (cluster : Cluster) (k : Incarnation) (change : Node → Node × Log)
    (alike : ∀ node, cluster.nodes[k]? = some node → (change node).1.standing = node.standing)
    (aged : ∀ node, cluster.nodes[k]? = some node → node.draws ≤ (change node).1.draws)
    (dated : ∀ node, cluster.nodes[k]? = some node → node.snapshot.generation.toNat ≤ node.draws →
      (change node).1.snapshot.generation.toNat ≤ (change node).1.draws)
    (agrees : ∀ node, cluster.nodes[k]? = some node → (change node).1.draws < UInt64.size →
      node.replica.unreachable = false → node.snapshot.generation.toNat ≤ node.draws →
      node.snapshot.groups = bridged node.id cluster.entries →
      (change node).1.snapshot.groups = bridged node.id cluster.entries) :
    Follows cluster (cluster.amend k change) := by
  have entries := entries_amend cluster k change
  refine ⟨frame_amend cluster k change alike, ?_, ?_, ?_⟩
  · intro j
    rw [drawsOf, drawsOf, nodes_amend]
    by_cases same : k = j
    · subst same
      cases found : cluster.nodes[k]? with
      | none => simp
      | some node => simpa using aged node found
    · simp [same]
  · intro j before node found
    rw [nodes_amend] at found
    by_cases same : k = j
    · subst same
      rw [if_pos rfl, Option.map_eq_some_iff] at found
      obtain ⟨old, here, rfl⟩ := found
      exact dated old here (before old here)
    · rw [if_neg same] at found
      exact before node found
  · intro j capacity hears datedBefore before
    by_cases same : k = j
    · subst same
      intro node found running
      rw [nodes_amend, if_pos rfl, Option.map_eq_some_iff] at found
      obtain ⟨old, here, rfl⟩ := found
      have standing := alike old here
      obtain ⟨_, known, read, reachable⟩ := hears
      have reached : old.replica.unreachable = false := by
        rw [frame_nodes, here, Option.map_some, Option.some.injEq] at read
        rw [← read] at reachable
        exact reachable
      have small : (change old).1.draws < UInt64.size := by
        rwa [drawsOf, nodes_amend, if_pos rfl, here] at capacity
      have sameId : (change old).1.id = old.id := congrArg Standing.id standing
      have sameState : (change old).1.state = old.state := congrArg Standing.state standing
      have runningBefore : old.isRunning = true := by
        rw [Node.isRunning, sameState] at running
        exact running
      rw [entries, sameId]
      exact agrees old here small reached (datedBefore old here) (before old here runningBefore)
    · refine agrees_congr cluster _ j ?_ entries before
      rw [nodes_amend, if_neg same]

theorem follows_note (cluster : Cluster) (k : Incarnation) (log : Log) : Follows cluster (cluster.note k log) :=
  ⟨rfl, fun _ => Nat.le_refl _, fun _ dated => dated, fun _ _ _ _ agrees => agrees⟩

theorem follows_count (cluster : Cluster) (k : Incarnation) (change : Node → Node × Log)
    (alike : ∀ node, (change node).1.standing = node.standing) (draws : ∀ node, (change node).1.draws = node.draws)
    (snapshot : ∀ node, (change node).1.snapshot = node.snapshot) : Follows cluster (cluster.amend k change) := by
  apply follows_amend
  · exact fun node _ => alike node
  · exact fun node _ => Nat.le_of_eq (draws node).symm
  · intro node _ dated
    rw [draws, snapshot]
    exact dated
  · intro node _ _ _ _ agrees
    rw [snapshot]
    exact agrees

theorem install_later (snapshot : Snapshot) (groups : ExtTreeSet Group) (draws : Nat)
    (dated : snapshot.generation.toNat ≤ draws) (capacity : draws + 1 < UInt64.size) :
    snapshot.install ⟨groups, UInt64.ofNat (draws + 1)⟩ = ⟨groups, UInt64.ofNat (draws + 1)⟩ := by
  have value : (UInt64.ofNat (draws + 1)).toNat = draws + 1 := UInt64.toNat_ofNat_of_lt' capacity
  have notEarlier : ¬ UInt64.ofNat (draws + 1) < snapshot.generation := by
    rw [UInt64.lt_iff_toNat_lt, value]
    omega
  rw [Snapshot.install, if_neg notEarlier]

theorem install_dated (snapshot : Snapshot) (groups : ExtTreeSet Group) (draws : Nat)
    (dated : snapshot.generation.toNat ≤ draws) :
    (snapshot.install ⟨groups, UInt64.ofNat (draws + 1)⟩).generation.toNat ≤ draws + 1 := by
  have bound : (UInt64.ofNat (draws + 1)).toNat ≤ draws + 1 := by
    rw [UInt64.toNat_ofNat']
    exact Nat.mod_le _ _
  rw [Snapshot.install]
  split
  · exact Nat.le_succ_of_le dated
  · exact bound

theorem read_reachable (cluster : Cluster) (node : Node) (reachable : node.replica.unreachable = false) :
    node.replica.read cluster.store cluster.channel = .ok cluster.entries := by
  simp [Replica.read, Replica.reach, reachable, Except.map, Cluster.entries]

theorem entries_recompute (cluster : Cluster) (k : Incarnation) : (cluster.recompute k).entries = cluster.entries :=
  entries_amend _ _ _

theorem follows_recompute (cluster : Cluster) (k : Incarnation) : Follows cluster (cluster.recompute k) := by
  apply follows_amend
  · intro node _
    dsimp only
    split <;> rfl
  · intro node _
    dsimp only
    split <;> exact Nat.le_succ _
  · intro node _ dated
    dsimp only
    split
    · exact Nat.le_succ_of_le dated
    · exact install_dated node.snapshot _ node.draws dated
  · intro node _ capacity reachable dated _
    have read : node.drawGeneration.replica.read cluster.store cluster.channel = .ok cluster.entries :=
      read_reachable cluster node reachable
    simp only [read] at capacity ⊢
    rw [adopted_draws] at capacity
    rw [adopted_snapshot]
    exact congrArg Snapshot.groups (install_later node.snapshot (bridged node.id cluster.entries) node.draws dated capacity)

theorem recompute_agrees (cluster : Cluster) (k : Incarnation) (capacity : (cluster.recompute k).drawsOf k < UInt64.size)
    (hears : cluster.frame.Hears k) (dated : cluster.Dated k) : (cluster.recompute k).Agrees k := by
  obtain ⟨_, standing, known, reachable⟩ := hears
  rw [frame_nodes, Option.map_eq_some_iff] at known
  obtain ⟨old, here, rfl⟩ := known
  have read : old.drawGeneration.replica.read cluster.store cluster.channel = .ok cluster.entries :=
    read_reachable cluster old reachable
  have after : (cluster.recompute k).nodes[k]? =
      some (old.drawGeneration.adopt old.drawGeneration.generation cluster.entries).1 := by
    rw [recompute, nodes_amend, if_pos rfl, here, Option.map_some]
    simp only [read]
  have small : old.draws + 1 < UInt64.size := by
    rw [draws_of_found _ _ _ after] at capacity
    exact capacity
  intro node found _
  rw [after, Option.some.injEq] at found
  subst found
  rw [entries_recompute, adopted_snapshot]
  exact congrArg Snapshot.groups
    (install_later old.snapshot (bridged old.id cluster.entries) old.draws (dated old here) small)

theorem follows_store_changed (cluster : Cluster) (k : Incarnation) : Follows cluster (cluster.storeChanged k) := by
  rw [storeChanged]
  split
  · exact follows_recompute cluster k
  · exact .refl cluster

theorem store_changed_agrees (cluster : Cluster) (k : Incarnation)
    (capacity : (cluster.storeChanged k).drawsOf k < UInt64.size) (hears : cluster.frame.Hears k) (dated : cluster.Dated k) :
    (cluster.storeChanged k).Agrees k := by
  by_cases running : cluster.isRunning k = true
  · rw [storeChanged, if_pos running] at capacity ⊢
    exact recompute_agrees cluster k capacity hears dated
  · rw [storeChanged, if_neg running]
    intro node found nodeRuns
    exact absurd (by simp [isRunning, found, nodeRuns]) running

theorem tell_agrees (audience : List Incarnation) (cluster : Cluster) (k : Incarnation) (member : k ∈ audience)
    (capacity : (audience.foldl storeChanged cluster).drawsOf k < UInt64.size) (hears : cluster.frame.Hears k)
    (dated : cluster.Dated k) : (audience.foldl storeChanged cluster).Agrees k := by
  induction audience generalizing cluster with
  | nil => cases member
  | cons first rest ih =>
      have here := follows_store_changed cluster first
      have later := follows_foldl storeChanged follows_store_changed rest (cluster.storeChanged first)
      have hearsLater : (cluster.storeChanged first).frame.Hears k := here.frame ▸ hears
      rw [List.foldl_cons] at capacity ⊢
      by_cases same : first = k
      · subst same
        -- Those who are told later only read, so the agreement reached here lasts.
        have small : (cluster.storeChanged first).drawsOf first < UInt64.size :=
          Nat.lt_of_le_of_lt (later.aged first) capacity
        exact later.agrees first capacity hearsLater (here.dated first dated)
          (store_changed_agrees cluster first small hears dated)
      · have inRest : k ∈ rest := (List.mem_cons.mp member).resolve_left (Ne.symm same)
        exact ih _ inRest capacity hearsLater (here.dated k dated)

theorem follows_replace (cluster : Cluster) (k : Incarnation) (node fresh : Node) (found : cluster.nodes[k]? = some node)
    (alike : fresh.standing = node.standing) (draws : fresh.draws = node.draws) (snapshot : fresh.snapshot = node.snapshot) :
    Follows cluster (cluster.setNode k fresh) := by
  have amended : cluster.amend k (fun _ => (fresh, [])) = cluster.setNode k fresh := by
    rw [amend_found cluster k _ node found]
    simp [note]
  have only (old : Node) (here : cluster.nodes[k]? = some old) : old = node :=
    Option.some.inj (here.symm.trans found)
  rw [← amended]
  apply follows_amend
  · intro old here
    rw [only old here]
    exact alike
  · intro old here
    rw [only old here]
    exact Nat.le_of_eq draws.symm
  · intro old here dated
    rw [only old here] at dated
    rw [draws, snapshot]
    exact dated
  · intro old here _ _ _ agrees
    rw [only old here] at agrees ⊢
    rw [snapshot]
    exact agrees

theorem follows_told (cluster changed : Cluster) (audience : List Incarnation) (frame : changed.frame = cluster.frame)
    (aged : ∀ k, cluster.drawsOf k ≤ changed.drawsOf k) (dated : ∀ k, cluster.Dated k → changed.Dated k)
    (everyone : ∀ k ∈ cluster.frame.audience, k ∈ audience) : Follows cluster (audience.foldl storeChanged changed) := by
  have told := follows_foldl storeChanged follows_store_changed audience changed
  refine ⟨told.frame.trans frame, ?_, ?_, ?_⟩
  · exact fun k => Nat.le_trans (aged k) (told.aged k)
  · exact fun k before => told.dated k (dated k before)
  · intro k capacity hears before _
    -- The entries may have changed: it is being told that makes k agree, not that it agreed before.
    exact tell_agrees audience changed k (everyone k hears.1) capacity (frame ▸ hears) (dated k before)

theorem frame_store (cluster : Cluster) (store : Store Incarnation) (listeners : store.listeners = cluster.store.listeners) :
    { cluster with store }.frame = cluster.frame := by
  simp [frame, listeners]

inductive Mutated (cluster : Cluster) (k : Incarnation) (node : Node) (mutation : Mutation) :
    Cluster × Except Fault Unit → Prop
  | refused (fault : Fault) (why : node.replica.permit mutation.key = .error fault) :
      Mutated cluster k node mutation
        (cluster.setNode k { node with replica := node.replica.tried mutation }, .error fault)
  | told (store : Store Incarnation) (permitted : node.replica.permit mutation.key = .ok ())
      (entries : store.entries cluster.channel = mutation.apply cluster.entries)
      (listeners : store.listeners = cluster.store.listeners) :
      Mutated cluster k node mutation
        (cluster.frame.audience.foldl storeChanged
          ({ cluster with store }.setNode k { node with replica := node.replica.tried mutation }), .ok ())
  | unchanged (permitted : node.replica.permit mutation.key = .ok ())
      (entries : cluster.entries = mutation.apply cluster.entries) :
      Mutated cluster k node mutation
        (cluster.setNode k { node with replica := node.replica.tried mutation }, .ok ())

theorem mutate_missing (cluster : Cluster) (k : Incarnation) (mutation : Mutation) (missing : cluster.nodes[k]? = none) :
    cluster.mutate k mutation = (cluster, .ok ()) := by
  rw [mutate, missing]

theorem mutate_mutated (cluster : Cluster) (k : Incarnation) (node : Node) (mutation : Mutation)
    (found : cluster.nodes[k]? = some node) : Mutated cluster k node mutation (cluster.mutate k mutation) := by
  rw [mutate, found]
  dsimp only
  rw [write]
  have wrote := node.replica.write_wrote cluster.store cluster.channel mutation
  generalize node.replica.write cluster.store cluster.channel mutation = result at wrote
  cases wrote with
  | refused fault why => exact .refused fault why
  | changed fresh permitted entries listeners => exact .told fresh permitted entries listeners
  | unchanged permitted entries => exact .unchanged permitted entries

theorem follows_mutate (cluster : Cluster) (k : Incarnation) (mutation : Mutation) :
    Follows cluster (cluster.mutate k mutation).1 := by
  cases found : cluster.nodes[k]? with
  | none =>
      rw [mutate_missing cluster k mutation found]
      exact .refl cluster
  | some node =>
      have tried := fun cluster' : Cluster => follows_replace cluster' k node
        { node with replica := node.replica.tried mutation }
      have mutated := mutate_mutated cluster k node mutation found
      generalize cluster.mutate k mutation = result at mutated
      cases mutated with
      | refused fault why => exact tried cluster found rfl rfl rfl
      | unchanged permitted entries => exact tried cluster found rfl rfl rfl
      | told store permitted entries listeners =>
          have rewritten := tried { cluster with store } found rfl rfl rfl
          exact follows_told cluster _ _ (rewritten.frame.trans (frame_store cluster store listeners)) rewritten.aged
            rewritten.dated fun _ member => member

theorem follows_put_raw (cluster : Cluster) (channel : Channel) (key : String) (value : Option Bytes) :
    Follows cluster (cluster.putRaw channel key value) := by
  have frame := frame_store cluster (cluster.store.put channel key value) rfl
  by_cases own : channel = cluster.channel
  · subst own
    exact follows_told cluster _ _ frame (fun _ => Nat.le_refl _) (fun _ dated => dated) fun _ member => member
  · -- Listeners of another channel read again as well, and find the same entries.
    have elsewhere : Follows cluster { cluster with store := cluster.store.put channel key value } := by
      refine ⟨frame, fun _ => Nat.le_refl _, fun _ dated => dated, ?_⟩
      intro k _ _ _ agrees
      have entries := cluster.store.entries_put_other channel cluster.channel key value own
      exact agrees_congr cluster _ k rfl entries agrees
    exact elsewhere.trans (follows_foldl storeChanged follows_store_changed _ _)

theorem follows_published (cluster : Cluster) (k : Incarnation) (result : Except Fault Unit) :
    Follows cluster (cluster.amend k (·.published result)) := by
  cases result with
  | error fault => exact follows_count cluster k _ (fun _ => rfl) (fun _ => rfl) (fun _ => rfl)
  | ok => exact follows_count cluster k _ (fun _ => rfl) (fun _ => rfl) (fun _ => rfl)

theorem follows_withdrawn (cluster : Cluster) (k : Incarnation) (result : Except Fault Unit) :
    Follows cluster (cluster.amend k (·.withdrawn result)) := by
  cases result with
  | error fault => exact follows_count cluster k _ (fun _ => rfl) (fun _ => rfl) (fun _ => rfl)
  | ok => exact follows_count cluster k _ (fun _ => rfl) (fun _ => rfl) (fun _ => rfl)

theorem follows_swept (cluster : Cluster) (k : Incarnation) (owner : NodeId) (result : Except Fault Unit) :
    Follows cluster (cluster.amend k (Node.swept owner · result)) := by
  cases result with
  | error fault => exact follows_count cluster k _ (fun _ => rfl) (fun _ => rfl) (fun _ => rfl)
  | ok => exact follows_count cluster k _ (fun _ => rfl) (fun _ => rfl) (fun _ => rfl)

theorem follows_publish (cluster : Cluster) (k : Incarnation) : Follows cluster (cluster.publish k) := by
  rw [publish]
  split
  · exact .refl cluster
  · split
    · exact (follows_mutate cluster k _).trans (follows_published _ k _)
    · exact .refl cluster

theorem follows_sweep_owner (k : Incarnation) (cluster : Cluster) (owner : NodeId) :
    Follows cluster (sweepOwner k cluster owner) :=
  (follows_mutate cluster k (.remove owner)).trans (follows_swept _ k owner _)

theorem follows_sweep (cluster : Cluster) (k : Incarnation) (view : View) : Follows cluster (cluster.sweep k view) := by
  rw [sweep]
  split
  · exact .refl cluster
  · split
    · exact follows_note cluster k _
    · exact .refl cluster
    · split
      · exact follows_note cluster k _
      · exact follows_foldl (sweepOwner k) (follows_sweep_owner k) _ cluster

theorem follows_membership_changed (view : View) (cluster : Cluster) (k : Incarnation) :
    Follows cluster (membershipChanged view cluster k) := by
  rw [membershipChanged]
  split
  · exact follows_sweep cluster k view
  · exact .refl cluster

theorem follows_notify (cluster : Cluster) (view : View) : Follows cluster (cluster.notifyMembership view) :=
  follows_foldl (membershipChanged view) (follows_membership_changed view) _ cluster

theorem follows_groups_changed (cluster : Cluster) (k : Incarnation) : Follows cluster (cluster.groupsChanged k) := by
  rw [groupsChanged]
  split
  · exact follows_publish cluster k
  · exact .refl cluster

end Cluster

end Coherence
