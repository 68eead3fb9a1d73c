import Mathlib.Data.UInt
import Coherence.Proofs.Conduct
import Coherence.Proofs.Gating

set_option autoImplicit false

namespace Coherence

open Std

-- What the counters of a bridge have to answer for.
inductive Deed where
  | call
  | outgoing
  | incoming
  | write
  | apply
  | stop
deriving DecidableEq

-- A write, an event on record and a number drawn are there before they are counted, so that counting sets them off.
def Counter.weight : Counter → Deed → UInt64
  | .broadcastsSent, .call => 1
  | .broadcastsSent, .outgoing => 1
  | .broadcastFailures, .call => 1
  | .broadcastFailures, .outgoing => 1
  | .broadcastsSuppressed, .outgoing => 1
  | .remoteEventsApplied, .incoming => 1
  | .remoteEventsApplied, .apply => -1
  | .remoteApplyFailures, .incoming => 1
  | .publishes, .write => -1
  | .publishFailures, .write => -1
  | .prunedAnnouncements, .write => -1
  | .pruneFailures, .write => -1
  | .recomputations, .stop => -1
  | _, _ => 0

def LogEntry.isFailedRead : LogEntry → Bool
  | .readFailed _ => true
  | _ => false

def Log.failedReads (log : Log) : Nat := log.countP LogEntry.isFailedRead

namespace Node

def balance (node : Node) (failed : Nat) : Deed → UInt64
  | .call => node.counters.broadcastsSent + node.counters.broadcastFailures
  | .outgoing => node.counters.broadcastsSent + node.counters.broadcastFailures + node.counters.broadcastsSuppressed
  | .incoming => node.counters.remoteEventsApplied + node.counters.remoteApplyFailures
  | .write => UInt64.ofNat node.replica.issued.length -
      (node.counters.publishes + node.counters.publishFailures + node.counters.prunedAnnouncements +
        node.counters.pruneFailures)
  | .apply => UInt64.ofNat node.registry.applied.length - node.counters.remoteEventsApplied
  | .stop => node.generation - node.counters.recomputations - UInt64.ofNat failed

-- A node goes on and logs something, and has done just these deeds.
def Posts (node : Node) (result : Node × Log) (deeds : List Deed) : Prop :=
  ∀ failed deed,
    result.1.balance (failed + Log.failedReads result.2) deed = node.balance failed deed + UInt64.ofNat (deeds.count deed)

section Posting

variable (node : Node)

theorem balance_count (counter : Counter) (failed : Nat) (deed : Deed) :
    (node.count counter).balance failed deed = node.balance failed deed + counter.weight deed := by
  cases counter <;> cases deed <;>
    simp only [balance, Counter.weight, count, Relay.count, counters, registry, generation, Counters.bump, Counters.add,
      UInt64.add_zero] <;>
    grind

theorem posts_nothing (fresh : Node) (log : Log) (counters : fresh.counters = node.counters)
    (issued : fresh.replica.issued = node.replica.issued) (applied : fresh.registry.applied = node.registry.applied)
    (draws : fresh.draws = node.draws) (silent : Log.failedReads log = 0) : node.Posts (fresh, log) [] := by
  intro failed deed
  rw [silent]
  cases deed <;> simp [balance, generation, counters, issued, applied, draws]

theorem posts_recomputed (entries : Entries) :
    node.Posts (node.drawGeneration.adopt node.drawGeneration.generation entries) [] := by
  intro failed deed
  have silent : Log.failedReads (node.drawGeneration.adopt node.drawGeneration.generation entries).2 = 0 := by
    rw [Log.failedReads, List.countP_eq_zero, adopt]
    simp [LogEntry.isFailedRead]
  rw [silent]
  cases deed <;> simp [balance, adopt, drawGeneration, counters, registry, generation, Counters.add, Counters.bump]

theorem posts_unread (fault : Fault) : node.Posts (node.drawGeneration, [.readFailed fault]) [] := by
  intro failed deed
  have logged : Log.failedReads [.readFailed fault] = 1 := rfl
  rw [logged]
  cases deed <;> simp [balance, drawGeneration, counters, registry, generation]
  grind

theorem posts_tried (mutation : Mutation) :
    node.Posts ({ node with replica := node.replica.tried mutation }, []) [.write] := by
  intro failed deed
  cases deed <;> simp [balance, Log.failedReads, Replica.tried, counters, registry, generation]
  grind

theorem posts_cleared : node.Posts (node.clear.setState .stopped, []) [.stop] := by
  intro failed deed
  cases deed <;> simp [balance, Log.failedReads, clear, setState, drawGeneration, counters, registry, generation]
  grind

theorem posts_counted (counter : Counter) (log : Log) (deeds : List Deed) (silent : Log.failedReads log = 0)
    (weight : ∀ deed, counter.weight deed = UInt64.ofNat (deeds.count deed)) :
    node.Posts (node.count counter, log) deeds := by
  intro failed deed
  rw [silent, Nat.add_zero, balance_count, weight]

def concluded (event : Event) (result : Except Fault Unit) (node : Node) : Node × Log :=
  let (relay, _, log) := node.relay.conclude event result
  ({ node with relay }, log)

theorem posts_concluded (event : Event) (result : Except Fault Unit) :
    node.Posts (node.concluded event result) [.call, .outgoing] := by
  cases result with
  | ok => exact node.posts_counted .broadcastsSent _ _ rfl fun deed => by cases deed <;> rfl
  | error fault => exact node.posts_counted .broadcastFailures _ _ rfl fun deed => by cases deed <;> rfl

theorem balance_recorded (registry : Registry Incarnation) (event : Event)
    (applied : registry.applied = node.registry.applied ++ [event]) (failed : Nat) (deed : Deed) :
    (node.setRegistry registry).balance failed deed =
      node.balance failed deed + UInt64.ofNat ([Deed.apply].count deed) := by
  have length : registry.applied.length = node.registry.applied.length + 1 := by
    rw [applied, List.length_append, List.length_singleton]
  cases deed <;> simp [balance, setRegistry, Node.registry, counters, generation]
  rw [length]
  simp [Node.registry]
  grind

theorem posts_received (event : Event) : node.Posts (node.receive event) [.incoming] := by
  rw [receive, Relay.receive, Registry.apply]
  by_cases rejecting : node.relay.registry.rejecting = true
  · rw [if_pos rejecting]
    exact node.posts_counted .remoteApplyFailures _ _ rfl fun deed => by cases deed <;> rfl
  · rw [if_neg rejecting]
    intro failed deed
    refine (balance_count (node.setRegistry _) .remoteEventsApplied failed deed).trans ?_
    rw [node.balance_recorded _ event rfl]
    cases deed <;> simp [Counter.weight]

-- One of the counters for writes goes up, which makes the write as good as none.
def Answers (result : Node × Log) : Prop :=
  ∃ counter ∈ [Counter.publishes, .publishFailures, .prunedAnnouncements, .pruneFailures],
    result.1 = node.count counter ∧ Log.failedReads result.2 = 0

theorem Answers.posts {node : Node} {result : Node × Log} (answers : node.Answers result) :
    result.1.Posts (node, []) [.write] := by
  obtain ⟨counter, answering, counted, _⟩ := answers
  intro failed deed
  have weight : counter.weight deed + UInt64.ofNat ([Deed.write].count deed) = 0 := by
    simp only [List.mem_cons, List.not_mem_nil, or_false] at answering
    rcases answering with rfl | rfl | rfl | rfl <;> cases deed <;> rfl
  rw [counted, balance_count, UInt64.add_assoc, weight, UInt64.add_zero]
  rfl

theorem answers_published (result : Except Fault Unit) : node.Answers (node.published result) := by
  cases result with
  | ok => exact ⟨.publishes, by simp, rfl, rfl⟩
  | error fault => exact ⟨.publishFailures, by simp, rfl, rfl⟩

theorem answers_withdrawn (result : Except Fault Unit) : node.Answers (node.withdrawn result) := by
  cases result with
  | ok => exact ⟨.publishes, by simp, rfl, rfl⟩
  | error fault => exact ⟨.publishFailures, by simp, rfl, rfl⟩

theorem answers_swept (owner : NodeId) (result : Except Fault Unit) : node.Answers (swept owner node result) := by
  cases result with
  | ok => exact ⟨.prunedAnnouncements, by simp, rfl, rfl⟩
  | error fault => exact ⟨.pruneFailures, by simp, rfl, rfl⟩

end Posting

end Node

def Deed.doneBy (deed : Deed) (ks : List Incarnation) : List (Incarnation × Deed) := ks.map (·, deed)

@[simp] theorem done_by_nobody (deed : Deed) : deed.doneBy [] = [] := rfl

theorem count_done_by (deed other : Deed) (ks : List Incarnation) (k : Incarnation) :
    (deed.doneBy ks).count (k, other) = if deed = other then ks.count k else 0 := by
  rw [Deed.doneBy]
  induction ks with
  | nil => simp
  | cons j ks ih =>
      rw [List.map_cons, List.count_cons, List.count_cons, ih]
      by_cases same : deed = other <;> simp [same]

theorem count_own (deeds : List Deed) (k j : Incarnation) (deed : Deed) :
    (deeds.map (k, ·)).count (j, deed) = if k = j then deeds.count deed else 0 := by
  induction deeds with
  | nil => simp
  | cons first deeds ih =>
      rw [List.map_cons, List.count_cons, List.count_cons, ih]
      by_cases same : k = j <;> simp [same]

namespace Cluster

def failedReads (cluster : Cluster) (k : Incarnation) : Nat :=
  Log.failedReads ((cluster.log.filter (·.1 = k)).map (·.2))

def balance (cluster : Cluster) (k : Incarnation) (deed : Deed) : UInt64 :=
  (cluster.nodes[k]?.getD (.create "")).balance (cluster.failedReads k) deed

theorem failed_reads_note (cluster : Cluster) (k j : Incarnation) (log : Log) :
    (cluster.note k log).failedReads j = cluster.failedReads j + if k = j then Log.failedReads log else 0 := by
  have noted : ((log.map (k, ·)).filter (·.1 = j)).map (·.2) = if k = j then log else [] := by
    by_cases same : k = j <;> simp [List.filter_map, same, Function.comp_def]
  rw [failedReads, note, List.filter_append, List.map_append, noted, Log.failedReads, List.countP_append]
  split <;> rfl

theorem balance_amend (cluster : Cluster) (k j : Incarnation) (change : Node → Node × Log) (node : Node)
    (found : cluster.nodes[k]? = some node) (deed : Deed) :
    (cluster.amend k change).balance j deed =
      if k = j then (change node).1.balance (cluster.failedReads k + Log.failedReads (change node).2) deed
      else cluster.balance j deed := by
  rw [amend_found cluster k change node found, balance, failed_reads_note]
  change (((cluster.setNode k (change node).1).nodes[j]?).getD _).balance (cluster.failedReads j + _) deed = _
  rw [nodes_set_node]
  by_cases same : k = j
  · simp [same]
  · simp [same, balance]

def Hosts (cluster : Cluster) (k : Incarnation) : Prop := ∃ node, cluster.nodes[k]? = some node

structure Idles (before after : Cluster) : Prop where
  hosts : ∀ k, before.Hosts k → after.Hosts k
  sent : after.bus.sent = before.bus.sent
  onWay : after.bus.onWay = before.bus.onWay
  handlers : ∀ (channel : Channel) (name : NodeId) (k : Incarnation), (after.bus.handlersOn channel)[name]? = some k →
    (before.bus.handlersOn channel)[name]? = some k ∨ after.Hosts k

theorem Idles.trans {first second third : Cluster} (earlier : Idles first second) (later : Idles second third) :
    Idles first third where
  hosts k hosted := later.hosts k (earlier.hosts k hosted)
  sent := later.sent.trans earlier.sent
  onWay := later.onWay.trans earlier.onWay
  handlers channel name k found := by
    cases later.handlers channel name k found with
    | inr hosted => exact .inr hosted
    | inl before => exact (earlier.handlers channel name k before).imp_right (later.hosts k)

theorem idles_wire {before after : Cluster} (hosts : ∀ k, before.Hosts k → after.Hosts k) (bus : after.bus = before.bus) :
    Idles before after :=
  ⟨hosts, congrArg Bus.sent bus, congrArg Bus.onWay bus, fun _ _ _ found => .inl (bus ▸ found)⟩

theorem idles_amend (cluster : Cluster) (k : Incarnation) (change : Node → Node × Log) :
    Idles cluster (cluster.amend k change) := by
  refine idles_wire ?_ (bus_amend cluster k change)
  rintro j ⟨node, found⟩
  rw [Hosts, nodes_amend, found]
  split
  · exact ⟨_, rfl⟩
  · exact ⟨node, rfl⟩

def Tallies (before after : Cluster) (deeds : List (Incarnation × Deed)) : Prop :=
  ∀ k deed, after.balance k deed = before.balance k deed + UInt64.ofNat (deeds.count (k, deed))

theorem Tallies.trans {first second third : Cluster} {here there : List (Incarnation × Deed)}
    (earlier : Tallies first second here) (later : Tallies second third there) : Tallies first third (here ++ there) := by
  intro k deed
  rw [later, earlier, List.count_append, UInt64.ofNat_add, UInt64.add_assoc]

structure Records (before after : Cluster) (deeds : List (Incarnation × Deed)) : Prop extends Idles before after where
  tallies : Tallies before after deeds

theorem records_wire {before after : Cluster} (nodes : after.nodes = before.nodes) (log : after.log = before.log)
    (bus : after.bus = before.bus) : Records before after [] := by
  refine ⟨idles_wire (fun k hosted => by rwa [Hosts, nodes]) bus, fun k deed => ?_⟩
  rw [balance, balance, failedReads, failedReads, nodes, log]
  exact (UInt64.add_zero _).symm

theorem Records.refl (cluster : Cluster) : Records cluster cluster [] := records_wire rfl rfl rfl

theorem Records.trans {first second third : Cluster} {here there : List (Incarnation × Deed)}
    (earlier : Records first second here) (later : Records second third there) : Records first third (here ++ there) :=
  ⟨earlier.toIdles.trans later.toIdles, earlier.tallies.trans later.tallies⟩

theorem records_foldl {α : Type} (f : Cluster → α → Cluster) (quiet : ∀ cluster a, Records cluster (f cluster a) [])
    (xs : List α) (cluster : Cluster) : Records cluster (xs.foldl f cluster) [] := by
  induction xs generalizing cluster with
  | nil => exact .refl cluster
  | cons a xs ih => exact (quiet cluster a).trans (ih (f cluster a))

theorem records_amend (cluster : Cluster) (k : Incarnation) (change : Node → Node × Log) (deeds : List Deed) (node : Node)
    (found : cluster.nodes[k]? = some node) (posts : node.Posts (change node) deeds) :
    Records cluster (cluster.amend k change) (deeds.map (k, ·)) := by
  refine ⟨idles_amend cluster k change, fun j deed => ?_⟩
  rw [balance_amend cluster k j change node found, count_own]
  by_cases same : k = j
  · subst same
    rw [if_pos rfl, if_pos rfl, posts, balance, found]
    rfl
  · rw [if_neg same, if_neg same]
    exact (UInt64.add_zero _).symm

theorem records_amend_quiet (cluster : Cluster) (k : Incarnation) (change : Node → Node × Log)
    (posts : ∀ node, cluster.nodes[k]? = some node → node.Posts (change node) []) :
    Records cluster (cluster.amend k change) [] := by
  cases found : cluster.nodes[k]? with
  | none =>
      rw [amend_missing cluster k change found]
      exact .refl cluster
  | some node => exact records_amend cluster k change [] node found (posts node found)

theorem records_modify (cluster : Cluster) (k : Incarnation) (change : Node → Node)
    (posts : ∀ node : Node, node.Posts (change node, []) []) : Records cluster (cluster.modify k change) [] :=
  records_amend_quiet cluster k _ fun node _ => posts node

theorem set_node_amend (cluster : Cluster) (k : Incarnation) (node fresh : Node) (found : cluster.nodes[k]? = some node) :
    cluster.setNode k fresh = cluster.amend k fun _ => (fresh, []) := by
  rw [amend_found cluster k _ node found]
  simp [note]

theorem records_set_node (cluster : Cluster) (k : Incarnation) (node fresh : Node) (deeds : List Deed)
    (found : cluster.nodes[k]? = some node) (posts : node.Posts (fresh, []) deeds) :
    Records cluster (cluster.setNode k fresh) (deeds.map (k, ·)) := by
  rw [set_node_amend cluster k node fresh found]
  exact records_amend cluster k _ deeds node found posts

theorem records_set_state (cluster : Cluster) (k : Incarnation) (node : Node) (state : Lifecycle)
    (found : cluster.nodes[k]? = some node) : Records cluster (cluster.setNode k (node.setState state)) [] :=
  records_set_node cluster k node _ [] found (node.posts_nothing _ [] rfl rfl rfl rfl rfl)

theorem records_set_registry (cluster : Cluster) (k : Incarnation) (node : Node) (registry : Registry Incarnation)
    (found : cluster.nodes[k]? = some node) (applied : registry.applied = node.registry.applied) :
    Records cluster (cluster.setNode k (node.setRegistry registry)) [] :=
  records_set_node cluster k node _ [] found (node.posts_nothing _ [] rfl rfl applied rfl rfl)

theorem records_note (cluster : Cluster) (k : Incarnation) (log : Log) (silent : Log.failedReads log = 0) :
    Records cluster (cluster.note k log) [] := by
  refine ⟨idles_wire (fun _ hosted => hosted) rfl, fun j deed => ?_⟩
  rw [balance, failed_reads_note, silent, ite_self]
  exact (UInt64.add_zero _).symm

section Announcing

theorem records_recompute (cluster : Cluster) (k : Incarnation) : Records cluster (cluster.recompute k) [] := by
  apply records_amend_quiet
  intro node _
  dsimp only
  split
  · exact node.posts_unread _
  · exact node.posts_recomputed _

theorem records_store_changed (cluster : Cluster) (k : Incarnation) : Records cluster (cluster.storeChanged k) [] := by
  rw [storeChanged]
  split
  · exact records_recompute cluster k
  · exact .refl cluster

theorem records_mutate (cluster : Cluster) (k : Incarnation) (node : Node) (mutation : Mutation)
    (found : cluster.nodes[k]? = some node) : Records cluster (cluster.mutate k mutation).1 [(k, .write)] := by
  have tried (store : Store Incarnation) : Records cluster
      ({ cluster with store }.setNode k { node with replica := node.replica.tried mutation }) [(k, .write)] :=
    (records_wire rfl rfl rfl : Records cluster { cluster with store } []).trans
      (records_set_node { cluster with store } k node _ [.write] found (node.posts_tried mutation))
  have mutated := mutate_mutated cluster k node mutation found
  generalize cluster.mutate k mutation = result at mutated
  cases mutated with
  | refused fault why => exact tried cluster.store
  | unchanged permitted entries => exact tried cluster.store
  | told store permitted entries listeners =>
      exact (tried store).trans (records_foldl storeChanged records_store_changed _ _)

-- What was done is set off, if going back would be doing it.
theorem Records.settle {before written : Cluster} {k : Incarnation} {deeds : List Deed}
    (wrote : Records before written (deeds.map (k, ·))) (change : Node → Node × Log) (node : Node)
    (found : written.nodes[k]? = some node) (posts : (change node).1.Posts (node, []) deeds)
    (silent : Log.failedReads (change node).2 = 0) : Records before (written.amend k change) [] := by
  refine ⟨wrote.toIdles.trans (idles_amend written k change), fun j deed => ?_⟩
  have done := wrote.tallies j deed
  rw [count_own] at done
  rw [balance_amend written k j change node found, silent, List.count_nil]
  by_cases same : k = j
  · subst same
    have undone := posts (written.failedReads k) deed
    rw [balance, found, if_pos rfl] at done
    rw [if_pos rfl]
    exact (UInt64.add_left_inj _).mp (undone.symm.trans (done.trans (congrArg (· + _) (UInt64.add_zero _).symm)))
  · rw [if_neg same] at done ⊢
    exact done

theorem records_answered (cluster : Cluster) (k : Incarnation) (mutation : Mutation) (change : Node → Node × Log)
    (answers : ∀ node : Node, node.Answers (change node)) :
    Records cluster ((cluster.mutate k mutation).1.amend k change) [] := by
  cases found : cluster.nodes[k]? with
  | none =>
      rw [mutate_missing cluster k mutation found, amend_missing cluster k change found]
      exact .refl cluster
  | some node =>
      have wrote : Records cluster _ ([Deed.write].map (k, ·)) := records_mutate cluster k node mutation found
      obtain ⟨last, there⟩ := wrote.hosts k ⟨node, found⟩
      obtain ⟨_, _, _, silent⟩ := answers last
      exact wrote.settle change last there (answers last).posts silent

theorem records_publish (cluster : Cluster) (k : Incarnation) : Records cluster (cluster.publish k) [] := by
  rw [publish]
  split
  · exact .refl cluster
  · split
    · exact records_answered cluster k _ _ fun node => node.answers_published _
    · exact .refl cluster

theorem records_sweep_owner (k : Incarnation) (cluster : Cluster) (owner : NodeId) :
    Records cluster (sweepOwner k cluster owner) [] :=
  records_answered cluster k (.remove owner) _ fun node => node.answers_swept owner _

theorem records_withdraw (cluster : Cluster) (k : Incarnation) (owner : NodeId) :
    Records cluster
      ((cluster.mutate k (.remove owner)).1.amend k (·.withdrawn (cluster.mutate k (.remove owner)).2)) [] :=
  records_answered cluster k (.remove owner) _ fun node => node.answers_withdrawn _

theorem records_sweep (cluster : Cluster) (k : Incarnation) (view : View) : Records cluster (cluster.sweep k view) [] := by
  rw [sweep]
  split
  · exact .refl cluster
  · split
    · exact records_note cluster k _ rfl
    · exact .refl cluster
    · split
      · exact records_note cluster k _ rfl
      · exact records_foldl (sweepOwner k) (records_sweep_owner k) _ cluster

theorem records_membership_changed (view : View) (cluster : Cluster) (k : Incarnation) :
    Records cluster (membershipChanged view cluster k) [] := by
  rw [membershipChanged]
  split
  · exact records_sweep cluster k view
  · exact .refl cluster

theorem records_notify (cluster : Cluster) (view : View) : Records cluster (cluster.notifyMembership view) [] :=
  records_foldl (membershipChanged view) (records_membership_changed view) _ cluster

theorem records_join (cluster : Cluster) (id : NodeId) : Records cluster (cluster.join id) [] :=
  (records_wire rfl rfl rfl : Records cluster { cluster with hub := cluster.hub.join id } []).trans (records_notify _ _)

theorem records_leave (cluster : Cluster) (id : NodeId) : Records cluster (cluster.leave id) [] := by
  rw [Cluster.leave]
  split
  · exact .refl cluster
  · rename_i hub _
    exact (records_wire rfl rfl rfl : Records cluster { cluster with hub } []).trans (records_notify _ _)

theorem records_put_raw (cluster : Cluster) (channel : Channel) (key : String) (value : Option Bytes) :
    Records cluster (cluster.putRaw channel key value) [] :=
  (records_wire rfl rfl rfl : Records cluster { cluster with store := cluster.store.put channel key value } []).trans
    (records_foldl storeChanged records_store_changed _ _)

theorem records_groups_changed (cluster : Cluster) (k : Incarnation) : Records cluster (cluster.groupsChanged k) [] := by
  rw [groupsChanged]
  split
  · exact records_publish cluster k
  · exact .refl cluster

theorem records_change_groups (cluster : Cluster) (k : Incarnation)
    (change : Registry Incarnation → Option (Registry Incarnation))
    (applied : ∀ registry changed, change registry = some changed → changed.applied = registry.applied) :
    Records cluster (cluster.changeGroups k change) [] := by
  rw [changeGroups]
  split
  · exact .refl cluster
  · rename_i node found
    split
    · exact .refl cluster
    · rename_i registry changed
      exact (records_set_registry cluster k node registry found (applied _ _ changed)).trans
        (records_foldl groupsChanged records_groups_changed _ _)

end Announcing

section Enrolment

theorem records_register (cluster : Cluster) (k : Incarnation) (node : Node) (name : NodeId) (bus : Bus Incarnation)
    (found : cluster.nodes[k]? = some node) (registered : cluster.bus.register cluster.channel name k = .ok bus) :
    Records cluster { cluster with bus } [] := by
  obtain ⟨handlers, rewired⟩ := Bus.registered_eq cluster.bus bus cluster.channel name k registered
  refine ⟨⟨fun _ hosted => hosted, ?_, ?_, fun channel other j there => ?_⟩, fun _ _ => (UInt64.add_zero _).symm⟩
  · rw [rewired]
  · rw [rewired]
    rfl
  · cases (Bus.found_registered cluster.bus bus _ channel name other k j registered).mp there with
    | inl fresh => exact .inr (fresh.2.2 ▸ ⟨node, found⟩)
    | inr before => exact .inl before

theorem records_without (cluster : Cluster) (name : NodeId) :
    Records cluster { cluster with bus := cluster.bus.without cluster.channel name } [] :=
  ⟨⟨fun _ hosted => hosted, rfl, rfl,
    fun channel other k there => .inl ((Bus.found_without cluster.bus _ channel name other k).mp there).1⟩,
    fun _ _ => (UInt64.add_zero _).symm⟩

theorem records_unregister (cluster : Cluster) (k : Incarnation) (name : NodeId) (complaint : Fault → LogEntry)
    (silent : ∀ fault, (complaint fault).isFailedRead = false) :
    Records cluster (cluster.unregister Service.granted k name complaint) [] := by
  rw [unregister, Service.attempt, if_neg (by simp [Service.granted]), Bus.unregister]
  by_cases registered : cluster.bus.isRegistered cluster.channel name = true
  · rw [if_pos registered]
    exact records_without cluster name
  · rw [if_neg registered]
    refine records_note cluster k _ ?_
    simp [Log.failedReads, silent]

theorem records_subscribe (cluster : Cluster) (refused : Service → Bool) (k : Incarnation) (node : Node)
    (found : cluster.nodes[k]? = some node) : Records cluster (cluster.subscribe refused k node).1 [] := by
  have settled (registry : Registry Incarnation) (store : Store Incarnation) (hub : Hub Incarnation)
      (applied : registry.applied = node.registry.applied) :
      Records cluster ({ cluster with store, hub }.setNode k (node.setRegistry registry)) [] :=
    (records_wire rfl rfl rfl : Records cluster { cluster with store, hub } []).trans
      (records_set_registry { cluster with store, hub } k node registry found applied)
  rw [subscribe]
  split
  · exact .refl cluster
  · rename_i registry inRegistry subscribed
    have applied : registry.applied = node.registry.applied := by
      rw [Service.attempt] at subscribed
      split at subscribed
      · cases subscribed
      · cases subscribed
        rfl
    dsimp only
    split
    · exact settled _ cluster.store cluster.hub applied
    · rename_i store inStore _
      split
      · exact settled _ (store.release inStore) cluster.hub applied
      · exact settled _ store _ applied

theorem records_enroll (cluster : Cluster) (k : Incarnation) (node : Node) (found : cluster.nodes[k]? = some node) :
    Records cluster (cluster.enroll Service.granted k node).1 [] := by
  rw [enroll, Service.attempt, if_neg (by simp [Service.granted])]
  cases registered : cluster.bus.register cluster.channel node.id k with
  | error fault => exact .refl cluster
  | ok bus =>
      have subscribed := (records_register cluster k node node.id bus found registered).trans
        (records_subscribe { cluster with bus } Service.granted k node found)
      dsimp only
      generalize ({ cluster with bus } : Cluster).subscribe Service.granted k node = result at subscribed
      obtain ⟨after, result⟩ := result
      cases result with
      | ok held => exact subscribed
      | error error => exact subscribed.trans (records_unregister after k node.id .rollbackFailed fun _ => rfl)

theorem records_start_failed (cluster : Cluster) (k : Incarnation) (error : Error) :
    Records cluster (cluster.startFailed k error) [] :=
  (records_note cluster k [.startupFailed error] rfl).trans
    (records_modify _ k (·.setState .stopped) fun node => node.posts_nothing _ [] rfl rfl rfl rfl rfl)

theorem records_admission (cluster : Cluster) (k : Incarnation) (node : Node) (found : cluster.nodes[k]? = some node) :
    Records cluster (cluster.admission Service.granted k node).1 [] := by
  have enrolled := records_enroll cluster k node found
  rw [admission]
  split
  · exact records_start_failed cluster k _
  · generalize cluster.enroll Service.granted k node = result at enrolled
    obtain ⟨after, result⟩ := result
    cases result with
    | error error => exact enrolled.trans (records_start_failed after k error)
    | ok held => exact enrolled.trans (records_modify after k _ fun node => node.posts_nothing _ [] rfl rfl rfl rfl rfl)

theorem records_start (cluster : Cluster) (k : Incarnation) : Records cluster (cluster.start k).1 [] := by
  rw [start]
  cases found : cluster.nodes[k]? with
  | none => exact .refl cluster
  | some node =>
      dsimp only
      rw [beginStart]
      by_cases may : node.state.canBecome .starting = true
      · have begun := records_set_state cluster k node .starting found
        have admitted := records_admission (cluster.setNode k (node.setState .starting)) k (node.setState .starting)
          ((nodes_set_node cluster k k _).trans (if_pos rfl))
        rw [if_pos may]
        dsimp only
        generalize Cluster.admission _ Service.granted k _ = result at admitted
        obtain ⟨after, result⟩ := result
        cases result with
        | error error => exact begun.trans admitted
        | ok => exact begun.trans (admitted.trans ((records_publish after k).trans (records_recompute _ k)))
      · rw [if_neg may]
        exact .refl cluster

theorem records_release (cluster : Cluster) (k : Incarnation) : Records cluster (cluster.release k) [] := by
  rw [release]
  split
  · exact .refl cluster
  · rename_i node found
    split
    · exact .refl cluster
    · rename_i held _
      have left : Records cluster
          { cluster with store := cluster.store.release held.store, hub := cluster.hub.release held.hub } [] :=
        records_wire rfl rfl rfl
      exact left.trans (records_set_node _ k node _ [] found (node.posts_nothing _ [] rfl rfl rfl rfl rfl))

theorem records_end_stop (cluster : Cluster) (k : Incarnation) (node : Node) (found : cluster.nodes[k]? = some node) :
    Records cluster (cluster.endStop k) [(k, .stop)] := by
  rw [endStop, modify]
  exact records_amend cluster k _ [.stop] node found node.posts_cleared

theorem records_stop (cluster : Cluster) (k : Incarnation) (node : Node) (found : cluster.nodes[k]? = some node)
    (active : node.state ≠ .stopped) : Records cluster (cluster.stop k) [(k, .stop)] := by
  rw [stop, found]
  dsimp only
  rw [if_neg active]
  have begun := (records_set_state cluster k node .stopping found).trans
    ((records_unregister _ k node.id .unregisterFailed fun _ => rfl).trans (records_release _ k))
  have withdrawn := begun.trans (records_withdraw _ k node.id)
  obtain ⟨last, there⟩ := withdrawn.hosts k ⟨node, found⟩
  exact withdrawn.trans (records_end_stop _ k last there)

theorem records_discard (cluster : Cluster) (k : Incarnation) :
    Records cluster (cluster.discard Service.granted k) [] := by
  rw [discard]
  split
  · exact .refl cluster
  · split
    · exact .refl cluster
    · exact (records_note cluster k _ rfl).trans
        ((records_unregister _ k _ .dropUnregisterFailed fun _ => rfl).trans (records_release _ k))

theorem records_crash (cluster : Cluster) (id : NodeId) : Records cluster (cluster.crash id) [] := by
  rw [Cluster.crash]
  split
  · exact records_leave cluster id
  · have gone : Records cluster { cluster with current := cluster.current.erase id } [] := records_wire rfl rfl rfl
    exact gone.trans ((records_discard _ _).trans (records_leave _ id))

theorem records_added (cluster : Cluster) (id : NodeId) (fresh : cluster.nodes[cluster.nodes.size]? = none) :
    Records cluster (cluster.added id) [] := by
  refine ⟨idles_wire (fun k hosted => ?_) rfl, fun k deed => ?_⟩
  · obtain ⟨node, found⟩ := hosted
    change ∃ node, (cluster.setNode cluster.nodes.size (.create id)).nodes[k]? = some node
    rw [nodes_set_node]
    split
    · exact ⟨_, rfl⟩
    · exact ⟨node, found⟩
  · rw [balance, List.count_nil]
    change (((cluster.setNode cluster.nodes.size (.create id)).nodes[k]?).getD _).balance (cluster.failedReads k) deed = _
    rw [nodes_set_node]
    split
    · rename_i same
      rw [balance, ← same, fresh]
      refine Eq.trans ?_ (UInt64.add_zero _).symm
      cases deed <;> rfl
    · exact (UInt64.add_zero _).symm

theorem records_add_node (cluster : Cluster) (id : NodeId)
    (fresh : (cluster.join id).nodes[(cluster.join id).nodes.size]? = none) : Records cluster (cluster.addNode id).1 [] := by
  have joined := records_join cluster id
  rw [addNode]
  dsimp only
  split
  · exact joined
  · split
    · exact joined
    · exact joined.trans (records_added (cluster.join id) id fresh)

end Enrolment

section Receiving

theorem records_receive (cluster : Cluster) (k : Incarnation) (event : Event) (hosted : cluster.Hosts k) :
    Records cluster (cluster.receive k event) [(k, .incoming)] := by
  obtain ⟨node, found⟩ := hosted
  exact records_amend cluster k _ [.incoming] node found (node.posts_received event)

theorem records_deliver (cluster : Cluster) (arrived : List (Delivery Incarnation))
    (hosted : ∀ delivery ∈ arrived, cluster.Hosts delivery.handler) :
    Records cluster (cluster.deliver arrived) (Deed.incoming.doneBy (arrived.map (·.handler))) := by
  induction arrived generalizing cluster with
  | nil => exact .refl cluster
  | cons delivery arrived ih =>
      have first := records_receive cluster delivery.handler delivery.event (hosted delivery (List.mem_cons_self ..))
      rw [deliver_cons]
      refine first.trans (ih (cluster.receive delivery.handler delivery.event) fun later member => ?_)
      exact first.hosts _ (hosted later (List.mem_cons_of_mem delivery member))

end Receiving

end Cluster

end Coherence
