import Coherence.Proofs.Locking
import Coherence.Proofs.Recomputing
import Coherence.Proofs.Syncing

set_option autoImplicit false

namespace Coherence

open Std

namespace Cluster

structure Untouched (k : Incarnation) (before after : Cluster) : Prop where
  node : after.nodes[k]? = before.nodes[k]?
  entries : after.entries = before.entries

variable {first second third : Cluster} {k : Incarnation}

theorem Untouched.refl (cluster : Cluster) : Untouched k cluster cluster := ⟨rfl, rfl⟩

theorem Untouched.trans (earlier : Untouched k first second) (later : Untouched k second third) :
    Untouched k first third :=
  ⟨later.node.trans earlier.node, later.entries.trans earlier.entries⟩

theorem Replaced.untouched {j : Incarnation} {fresh : Node} (replaced : first.Replaced j fresh second) (other : j ≠ k) :
    Untouched k first second :=
  ⟨(replaced.found k).trans (if_neg other), replaced.entries⟩

theorem untouched_discards (lost : List Incarnation) (refused : Incarnation → Service → Bool) (cluster : Cluster)
    (spared : k ∉ lost) :
    Untouched k cluster (lost.foldl (fun cluster j => cluster.discard (refused j) j) cluster) ∧
      (lost.foldl (fun cluster j => cluster.discard (refused j) j) cluster).current = cluster.current := by
  induction lost generalizing cluster with
  | nil => exact ⟨.refl cluster, rfl⟩
  | cons j lost ih =>
      obtain ⟨other, others⟩ := not_or.mp (mt List.mem_cons.mpr spared)
      obtain ⟨untouched, current⟩ := ih (cluster.discard (refused j) j) others
      cases here : cluster.nodes[j]? with
      | none =>
          have gone : cluster.discard (refused j) j = cluster := by rw [discard, here]
          rw [gone] at untouched current
          rw [List.foldl_cons, gone]
          exact ⟨untouched, current⟩
      | some node =>
          have replaced := cluster.replaced_discard (refused j) j node here
          exact ⟨(replaced.untouched (Ne.symm other)).trans untouched, current.trans replaced.current⟩

end Cluster

namespace Interleaving

def Writing.isOwn : Writing → Bool
  | .announcing | .withdrawing => true
  | .sweeping _ => false

-- Requests and actions that neither touch a node from outside nor refuse its own writes.
def Request.spares (own : NodeId) : Request → Bool
  | .putRaw key _ => key ≠ own
  | .drop id => id ≠ own
  | _ => true

namespace Bench

def permits (bench : Bench) (k : Incarnation) (own : NodeId) : Action → Bool
  | .install id => id ≠ own
  | .work j (.write mutation why) =>
      mutation.key ≠ own || j = k && why.isOwn && !bench.refused k (.ofMutation mutation)
  | _ => true

def spares (bench : Bench) (k : Incarnation) (own : NodeId) : Move → Bool
  | .arrive _ request => request.spares own
  | .go id => (bench.next? (.go id)).all (bench.permits k own)

-- A node that stays, whose store can be reached and accepts what it writes.
structure Hosted (bench : Bench) (k : Incarnation) (own : NodeId) (node : Node) : Prop where
  counted : bench.Counted
  named : ∀ id : NodeId, bench.cluster.current[id]? = some k → id = own
  undoomed : k ∉ bench.doomed
  here : bench.cluster.nodes[k]? = some node
  id : node.id = own
  reachable : node.replica.unreachable = false
  lawful : node.replica.rejected = ∅

-- A node comes to run only when let in; while it runs, its listeners stay and are about to hear of every change.
structure Fares (bench : Bench) (move : Move) (k : Incarnation) (own : NodeId) (node last : Node) : Prop where
  id : last.id = node.id
  unreachable : last.replica.unreachable = node.replica.unreachable
  rejected : last.replica.rejected = node.replica.rejected
  running : last.state = .running →
    node.state = .running ∧ last.registry.listeners = node.registry.listeners ∧
      (last.registry.groupNames = node.registry.groupNames ∨
        ∀ j ∈ node.registry.audience, (bench.move move).Plans (.work j .groupsChanged)) ∨
    bench.next? move = some (.work k .admission) ∧ k ∈ last.registry.audience
  stopping : bench.next? move = some (.work k .stop) → last.state ≠ .running
  entry : (bench.move move).cluster.entries[own]? = bench.cluster.entries[own]? ∨
    ∃ j mutation why, bench.next? move = some (.work j (.write mutation why)) ∧ mutation.key = own

structure Began (bench next : Bench) (agenda : List Action) (k : Incarnation) (own : NodeId) (node last : Node) : Prop where
  here : next.cluster.nodes[k]? = some last
  current : ∀ id : NodeId, next.cluster.current[id]? = some k → bench.cluster.current[id]? = some k
  entry : next.cluster.entries[own]? = bench.cluster.entries[own]?
  undoomed : k ∉ next.doomed
  registry : ∃ registry, last = node.setRegistry registry ∧ registry.listeners = node.registry.listeners ∧
    (registry.groupNames = node.registry.groupNames ∨ ∀ i ∈ registry.audience, .work i .groupsChanged ∈ agenda)

variable {bench : Bench} {k : Incarnation} {own : NodeId} {node : Node}

theorem fares_same (move : Move) (unstopped : bench.next? move ≠ some (.work k .stop))
    (entries : (bench.move move).cluster.entries[own]? = bench.cluster.entries[own]?) : Fares bench move k own node node :=
  ⟨rfl, rfl, rfl, fun running => .inl ⟨running, rfl, .inl rfl⟩, fun stops => absurd stops unstopped, .inl entries⟩

theorem untouched_bury (bench : Bench) (spared : k ∉ bench.doomed) :
    bench.cluster.Untouched k bench.bury.cluster ∧ bench.bury.cluster.current = bench.cluster.current ∧
      k ∉ bench.bury.doomed := by
  obtain ⟨lost, doomed, buried, kept⟩ := bury_discards bench
  obtain ⟨untouched, current⟩ := Cluster.untouched_discards lost bench.refused bench.cluster (kept k spared).1
  rw [buried]
  exact ⟨untouched, current, (kept k spared).2⟩

theorem untouched_lose (bench : Bench) (id : NodeId) (j : Incarnation) (spared : k ∉ bench.doomed) (other : j ≠ k) :
    bench.cluster.Untouched k (bench.lose id j).cluster ∧
      (bench.lose id j).cluster.current = bench.cluster.current.erase id ∧ k ∉ (bench.lose id j).doomed := by
  have remaining : k ∉ bench.doomed ++ [j] := by simp [spared, Ne.symm other]
  obtain ⟨untouched, current, kept⟩ := untouched_bury
    { bench with
      cluster := { bench.cluster with current := bench.cluster.current.erase id }
      doomed := bench.doomed ++ [j] } remaining
  exact ⟨⟨untouched.node, untouched.entries⟩, current, kept⟩

theorem doomed_delivering (agendas : List (List Action)) (bench : Bench) :
    (bench.delivering agendas).doomed = bench.doomed := by
  induction agendas generalizing bench with
  | nil => rfl
  | cons agenda agendas ih => exact ih (bench.spawn { agenda })

theorem doomed_perform (bench : Bench) (id : Nat) (request : Option Nat) (action : Action)
    (settled : ∀ name, action ≠ .install name) : (bench.perform id request action).1.doomed = bench.doomed := by
  cases action with
  | acquire lock =>
      rw [perform_acquire, acquire]
      split <;> rfl
  | release lock =>
      rw [perform, release]
      split <;> rfl
  | pass k service =>
      rw [perform_pass, pass]
      split <;> rfl
  | work k work =>
      rw [perform]
      split
      · rfl
      · obtain ⟨cluster, agendas, delivers, _⟩ := bench.delivers_act k _ work
        dsimp only
        rw [delivers, doomed_delivering]
        rfl
  | tellCircle circle view => rfl
  | install name => exact absurd rfl (settled name)
  | answer reply => cases request <;> rfl
  | sleep => rfl

theorem Taken.cluster {id : Nat} {action : Action} {task : Task} {agenda : List Action} {after : Bench}
    {more : Option (List Action)} (taken : bench.Taken id action task agenda after more) :
    (bench.go id).cluster = ((bench.front id).perform id task.request action).1.cluster := by
  rw [taken.performed, taken.went]

theorem Taken.doomed {id : Nat} {action : Action} {task : Task} {agenda : List Action} {after : Bench}
    {more : Option (List Action)} (taken : bench.Taken id action task agenda after more) :
    (bench.go id).doomed = ((bench.front id).perform id task.request action).1.doomed := by
  rw [taken.performed, taken.went]

namespace Hosted

theorem follow {move : Move} {last : Node} (hosted : bench.Hosted k own node) (fares : Fares bench move k own node last)
    (here : (bench.move move).cluster.nodes[k]? = some last) (undoomed : k ∉ (bench.move move).doomed)
    (current : ∀ id : NodeId, (bench.move move).cluster.current[id]? = some k → bench.cluster.current[id]? = some k) :
    (bench.move move).Hosted k own last where
  counted := counted_move hosted.counted move
  named id located := hosted.named id (current id located)
  undoomed := undoomed
  here := here
  id := fares.id.trans hosted.id
  reachable := fares.unreachable.trans hosted.reachable
  lawful := fares.rejected.trans hosted.lawful

theorem front (hosted : bench.Hosted k own node) (id : Nat) : (bench.front id).Hosted k own node :=
  ⟨hosted.counted, hosted.named, hosted.undoomed, hosted.here, hosted.id, hosted.reachable, hosted.lawful⟩

theorem apart (hosted : bench.Hosted k own node) : bench.cluster.nodes.size ≠ k := by
  refine Nat.ne_of_gt (hosted.counted k ?_)
  rw [ExtTreeMap.mem_iff_isSome_getElem?, hosted.here]
  rfl

theorem install (hosted : bench.Hosted k own node) (name : NodeId) (other : name ≠ own) :
    bench.cluster.Untouched k (bench.install name).1.cluster ∧
      (∀ id : NodeId, (bench.install name).1.cluster.current[id]? = some k → bench.cluster.current[id]? = some k) ∧
      k ∉ (bench.install name).1.doomed := by
  have apart := hosted.apart
  rw [Bench.install]
  split
  · exact ⟨.refl _, fun _ located => located, hosted.undoomed⟩
  · dsimp only
    split
    · rename_i old located
      have different : old ≠ k := by
        rintro rfl
        exact other (hosted.named name located)
      obtain ⟨untouched, current, undoomed⟩ := bench.untouched_lose name old hosted.undoomed different
      refine ⟨⟨?_, untouched.entries⟩, fun id found => ?_, undoomed⟩
      · change ((bench.lose name old).cluster.setNode bench.cluster.nodes.size (.create name)).nodes[k]? = _
        rw [Cluster.nodes_set_node, if_neg apart]
        exact untouched.node
      · change ((bench.lose name old).cluster.current.insert name bench.cluster.nodes.size)[id]? = some k at found
        rw [current, ExtTreeMap.getElem?_insert] at found
        split at found
        · exact absurd (Option.some.inj found) apart
        · rw [ExtTreeMap.getElem?_erase] at found
          split at found
          · cases found
          · exact found
    · refine ⟨⟨?_, rfl⟩, fun id found => ?_, hosted.undoomed⟩
      · change (bench.cluster.setNode bench.cluster.nodes.size (.create name)).nodes[k]? = _
        rw [Cluster.nodes_set_node, if_neg apart]
      · change (bench.cluster.current.insert name bench.cluster.nodes.size)[id]? = some k at found
        rw [ExtTreeMap.getElem?_insert] at found
        split at found
        · exact absurd (Option.some.inj found) apart
        · exact found

theorem act (hosted : bench.Hosted k own node) (j : Incarnation) (theirs : Node) (work : Work)
    (there : bench.cluster.nodes[j]? = some theirs) :
    ∃ last, (bench.act j theirs work).1.cluster.nodes[k]? = some last ∧
      (bench.act j theirs work).1.cluster.current = bench.cluster.current ∧
      (j ≠ k ∧ last = node ∨ j = k ∧ Turned k node last work) ∧
      ((bench.act j theirs work).1.cluster.entries[own]? = bench.cluster.entries[own]? ∨
        ∃ mutation why, work = .write mutation why ∧ mutation.key = own) := by
  -- Whatever the work is, one node became another.
  have changed (fresh : Node) (nodes : (bench.act j theirs work).1.cluster.nodes = bench.cluster.nodes.insert j fresh)
      (turned : Turned j theirs fresh work) :
      ∃ last, (bench.act j theirs work).1.cluster.nodes[k]? = some last ∧
        (j ≠ k ∧ last = node ∨ j = k ∧ Turned k node last work) := by
    rw [nodes]
    by_cases mine : j = k
    · subst mine
      obtain rfl : node = theirs := Option.some.inj (hosted.here.symm.trans there)
      exact ⟨fresh, ExtTreeMap.getElem?_insert_self, .inr ⟨rfl, turned⟩⟩
    · exact ⟨node, (found_insert_other _ j k fresh mine).trans hosted.here, .inl ⟨mine, rfl⟩⟩
  by_cases written : ∃ mutation why, work = .write mutation why
  · obtain ⟨mutation, why, rfl⟩ := written
    obtain ⟨fresh, same, nodes, current, entries⟩ := bench.written_act j theirs there mutation why
    obtain ⟨last, here, outcome⟩ := changed fresh nodes (.of_gist same (by simp))
    refine ⟨last, here, current, outcome, ?_⟩
    by_cases key : mutation.key = own
    · exact .inr ⟨mutation, why, rfl, key⟩
    · refine .inl ?_
      rcases entries with applied | ⟨same, _⟩
      · rw [applied]
        exact mutation.apply_other bench.cluster.entries own key
      · rw [same]
  · obtain ⟨fresh, replaced, turned⟩ := bench.replaced_act j theirs there work fun mutation why same =>
      written ⟨mutation, why, same⟩
    obtain ⟨last, here, outcome⟩ := changed fresh replaced.nodes turned
    exact ⟨last, here, replaced.current, outcome, .inl (replaced.entries ▸ rfl)⟩

variable {id : Nat} {action : Action} {task : Task} {agenda : List Action} {after : Bench} {more : Option (List Action)}

theorem still (hosted : bench.Hosted k own node) (next : bench.next? (.go id) = some action)
    (cluster : (bench.move (.go id)).cluster = bench.cluster) (doomed : (bench.move (.go id)).doomed = bench.doomed)
    (unstopped : action ≠ .work k .stop) :
    ∃ last, (bench.move (.go id)).Hosted k own last ∧ Fares bench (.go id) k own node last := by
  have fares : Fares bench (.go id) k own node node := by
    refine fares_same (.go id) ?_ (cluster ▸ rfl)
    rw [next]
    exact fun stops => unstopped (Option.some.inj stops)
  refine ⟨node, hosted.follow fares (cluster ▸ hosted.here) (doomed ▸ hosted.undoomed) ?_, fares⟩
  rw [cluster]
  exact fun _ located => located

theorem taken_install {name : NodeId} (hosted : bench.Hosted k own node)
    (next : bench.next? (.go id) = some (.install name)) (taken : bench.Taken id (.install name) task agenda after more)
    (other : name ≠ own) : ∃ last, (bench.move (.go id)).Hosted k own last ∧ Fares bench (.go id) k own node last := by
  obtain ⟨untouched, current, undoomed⟩ := (hosted.front id).install name other
  have cluster : (bench.move (.go id)).cluster = ((bench.front id).install name).1.cluster := taken.cluster
  have doomed : (bench.move (.go id)).doomed = ((bench.front id).install name).1.doomed := taken.doomed
  have fares : Fares bench (.go id) k own node node := by
    refine fares_same (.go id) (by simp [next]) ?_
    rw [cluster]
    exact congrArg (fun entries : Entries => entries[own]?) untouched.entries
  refine ⟨node, hosted.follow fares ?_ (doomed ▸ undoomed) ?_, fares⟩
  · rw [cluster]
    exact untouched.node.trans hosted.here
  · rw [cluster]
    exact current

theorem taken_work {j : Incarnation} {work : Work} {theirs : Node} (hosted : bench.Hosted k own node)
    (next : bench.next? (.go id) = some (.work j work)) (taken : bench.Taken id (.work j work) task agenda after more)
    (there : bench.cluster.nodes[j]? = some theirs) :
    ∃ last, (bench.move (.go id)).Hosted k own last ∧ Fares bench (.go id) k own node last := by
  have cluster : (bench.move (.go id)).cluster = ((bench.front id).act j theirs work).1.cluster :=
    taken.cluster.trans (performed_work (bench.front id) id task.request j theirs work there ▸ rfl)
  have doomed : (bench.move (.go id)).doomed = bench.doomed :=
    taken.doomed.trans (doomed_perform _ _ _ _ (by simp))
  obtain ⟨last, here, current, outcome, entry⟩ := (hosted.front id).act j theirs work there
  have entries : (bench.move (.go id)).cluster.entries[own]? = bench.cluster.entries[own]? ∨
      ∃ j mutation why, bench.next? (.go id) = some (.work j (.write mutation why)) ∧ mutation.key = own := by
    rw [cluster, next]
    rcases entry with same | ⟨mutation, why, rfl, key⟩
    · exact .inl same
    · exact .inr ⟨j, mutation, why, rfl, key⟩
  have fares : Fares bench (.go id) k own node last := by
    rcases outcome with ⟨other, rfl⟩ | ⟨rfl, turned⟩
    · refine ⟨rfl, rfl, rfl, fun running => .inl ⟨running, rfl, .inl rfl⟩, fun stops => ?_, entries⟩
      cases next.symm.trans stops
      exact absurd rfl other
    · refine ⟨turned.id, turned.unreachable, turned.rejected, fun running => ?_, fun stops => ?_, entries⟩
      · rcases turned.running running with ⟨ran, listeners, groups⟩ | ⟨rfl, listed⟩
        · exact .inl ⟨ran, listeners, .inl groups⟩
        · exact .inr ⟨next, listed⟩
      · cases next.symm.trans stops
        exact turned.stopping rfl
  refine ⟨last, hosted.follow fares (cluster ▸ here) (doomed ▸ hosted.undoomed) ?_, fares⟩
  rw [cluster, current]
  exact fun _ located => located

theorem taken (hosted : bench.Hosted k own node) (next : bench.next? (.go id) = some action)
    (taken : bench.Taken id action task agenda after more) (other : ∀ name, action = .install name → name ≠ own) :
    ∃ last, (bench.move (.go id)).Hosted k own last ∧ Fares bench (.go id) k own node last := by
  have cluster : (bench.move (.go id)).cluster = _ := taken.cluster
  have doomed : (bench.move (.go id)).doomed = _ := taken.doomed
  cases action with
  | install name => exact hosted.taken_install next taken (other name rfl)
  | work j work =>
      cases there : bench.cluster.nodes[j]? with
      | none =>
          have performed : (bench.front id).perform id task.request (.work j work) = (bench.front id, some []) := by
            rw [perform, show (bench.front id).cluster.nodes[j]? = none from there]
          rw [performed] at cluster doomed
          refine hosted.still next cluster doomed ?_
          rintro ⟨⟩
          cases hosted.here.symm.trans there
      | some theirs => exact hosted.taken_work next taken there
  | _ =>
      refine hosted.still next ?_ ?_ (by simp)
      · exact cluster.trans (cluster_perform _ _ _ _ (by simp) (by simp))
      · exact doomed.trans (doomed_perform _ _ _ _ (by simp))

theorem rests (hosted : bench.Hosted k own node) (rests : bench.next? (.go id) = none) :
    ∃ last, (bench.move (.go id)).Hosted k own last ∧ Fares bench (.go id) k own node last := by
  have kept : bench.cluster.Untouched k (bench.go id).cluster ∧ (bench.go id).cluster.current = bench.cluster.current ∧
      k ∉ (bench.go id).doomed := by
    rcases go_rests rests with same | ⟨_, same⟩ | ⟨task, _, _, same⟩
    · rw [same]
      exact ⟨.refl _, rfl, hosted.undoomed⟩
    · rw [same]
      exact ⟨.refl _, rfl, hosted.undoomed⟩
    · rw [same]
      exact untouched_bury { bench with ready := bench.ready.erase id, tasks := bench.tasks.erase id } hosted.undoomed
  obtain ⟨untouched, current, undoomed⟩ := kept
  have fares : Fares bench (.go id) k own node node := by
    refine fares_same (.go id) ?_ ?_
    · simp [rests]
    · exact congrArg (fun entries : Entries => entries[own]?) untouched.entries
  refine ⟨node, hosted.follow fares (untouched.node.trans hosted.here) undoomed fun other located => ?_, fares⟩
  exact current ▸ located

theorem began_same (hosted : bench.Hosted k own node) {next : Bench} (agenda : List Action)
    (untouched : bench.cluster.Untouched k next.cluster)
    (current : ∀ id : NodeId, next.cluster.current[id]? = some k → bench.cluster.current[id]? = some k)
    (undoomed : k ∉ next.doomed) : Began bench next agenda k own node node where
  here := untouched.node.trans hosted.here
  current := current
  entry := untouched.entries ▸ rfl
  undoomed := undoomed
  registry := ⟨node.registry, rfl, rfl, .inl rfl⟩

theorem began_quiet (hosted : bench.Hosted k own node) {next : Bench} (agenda : List Action)
    (cluster : next.cluster = bench.cluster) (doomed : next.doomed = bench.doomed) :
    Began bench next agenda k own node node :=
  hosted.began_same agenda (cluster ▸ .refl _) (cluster ▸ fun _ located => located) (doomed ▸ hosted.undoomed)

theorem began_renewed (hosted : bench.Hosted k own node) (j : Incarnation) (theirs : Node)
    (there : bench.cluster.nodes[j]? = some theirs) (registry : Registry Incarnation)
    (listeners : registry.listeners = theirs.registry.listeners) (agenda : List Action)
    (told : registry.groupNames = theirs.registry.groupNames ∨
      ∀ i ∈ registry.audience, .work i .groupsChanged ∈ agenda) :
    ∃ last, Began bench (bench.withCluster (bench.cluster.setNode j (theirs.setRegistry registry))) agenda k own node
      last := by
  have replaced := Cluster.Replaced.set bench.cluster j (theirs.setRegistry registry)
  by_cases mine : j = k
  · subst mine
    obtain rfl : node = theirs := Option.some.inj (hosted.here.symm.trans there)
    refine ⟨_, (replaced.found j).trans (if_pos rfl), fun _ located => located, rfl, hosted.undoomed, ?_⟩
    exact ⟨registry, rfl, listeners, told⟩
  · exact ⟨node, hosted.began_same agenda (replaced.untouched mine) (fun _ located => located) hosted.undoomed⟩

theorem began_changed (hosted : bench.Hosted k own node) (j : Incarnation) (theirs : Node)
    (there : bench.cluster.nodes[j]? = some theirs) (registry : Option (Registry Incarnation))
    (listeners : ∀ fresh, registry = some fresh → fresh.listeners = theirs.registry.listeners) :
    ∃ last, Began bench (bench.changeGroups j theirs registry).1 (bench.changeGroups j theirs registry).2 k own node
      last := by
  cases registry with
  | none => exact ⟨node, hosted.began_quiet _ rfl rfl⟩
  | some registry =>
      refine hosted.began_renewed j theirs there registry (listeners registry rfl) _ (.inr fun i member => ?_)
      exact List.mem_append_left _ (List.mem_map_of_mem member)

theorem begin_node (hosted : bench.Hosted k own node) (j : Incarnation) (theirs : Node) (request : NodeRequest)
    (there : bench.cluster.nodes[j]? = some theirs) :
    ∃ last, Began bench (bench.beginNode j theirs request).1 (bench.beginNode j theirs request).2 k own node last := by
  cases request with
  | unpark service =>
      refine ⟨node, hosted.began_quiet _ ?_ ?_⟩
      · change (bench.unpark (j, service)).1.cluster = bench.cluster
        rw [unpark]
        split <;> rfl
      · change (bench.unpark (j, service)).1.doomed = bench.doomed
        rw [unpark]
        split <;> rfl
  | createGroup group =>
      exact hosted.began_changed j theirs there _ fun fresh => Cluster.create_group_listeners group theirs.registry fresh
  | dropGroup group =>
      exact hosted.began_changed j theirs there _ fun fresh => Cluster.drop_group_listeners group theirs.registry fresh
  | put group key =>
      rw [beginNode]
      cases cached : theirs.registry.put? group key with
      | none => exact ⟨node, hosted.began_quiet _ rfl rfl⟩
      | some registry =>
          obtain ⟨listeners, groups⟩ := Registry.alike_put theirs.registry registry group key cached
          exact hosted.began_renewed j theirs there registry listeners _ (.inl groups)
  | invalidate event mode =>
      exact hosted.began_renewed j theirs there (theirs.registry.evict event) rfl _
        (.inl (Cache.keys_evict theirs.registry.cache event))
  | _ => exact ⟨node, hosted.began_quiet _ rfl rfl⟩

theorem begin (hosted : bench.Hosted k own node) (request : Request) (spared : request.spares own = true) :
    ∃ last, Began bench (bench.begin request).1 (bench.begin request).2.2 k own node last := by
  cases request with
  | addNode id | join id | appoint id =>
      exact ⟨node, hosted.began_same _ ⟨rfl, rfl⟩ (fun _ located => located) hosted.undoomed⟩
  | putRaw key value =>
      refine ⟨node, hosted.here, fun _ located => located, ?_, hosted.undoomed, node.registry, rfl, rfl, .inl rfl⟩
      have other : key ≠ own := of_decide_eq_true spared
      change ((bench.cluster.store.put bench.cluster.channel key value).entries bench.cluster.channel)[own]? = _
      rw [Store.entries_put, found_insert_other _ key own value other]
      rfl
  | leave id =>
      rw [Bench.begin]
      split
      · exact ⟨node, hosted.began_quiet _ rfl rfl⟩
      · exact ⟨node, hosted.began_same _ ⟨rfl, rfl⟩ (fun _ located => located) hosted.undoomed⟩
  | drop id =>
      rw [Bench.begin]
      split
      · exact ⟨node, hosted.began_quiet _ rfl rfl⟩
      · rename_i j located
        have other : j ≠ k := by
          rintro rfl
          exact of_decide_eq_true spared (hosted.named id located)
        obtain ⟨untouched, current, undoomed⟩ := bench.untouched_lose id j hosted.undoomed other
        refine ⟨node, hosted.began_same _ untouched (fun name found => ?_) undoomed⟩
        rw [current, ExtTreeMap.getElem?_erase] at found
        split at found
        · cases found
        · exact found
  | node id request =>
      rw [Bench.begin]
      split
      · exact ⟨node, hosted.began_quiet _ rfl rfl⟩
      · rename_i j theirs found
        exact hosted.begin_node j theirs request ((bench.cluster.find_eq_some_iff id j theirs).mp found).2

theorem arrive (hosted : bench.Hosted k own node) (numbered : bench.Numbered) (index : Nat) (request : Request)
    (spared : request.spares own = true) :
    ∃ last, (bench.move (.arrive index request)).Hosted k own last ∧
      Fares bench (.arrive index request) k own node last := by
  have quiet : { bench with answered := ∅ }.Hosted k own node :=
    ⟨hosted.counted, hosted.named, hosted.undoomed, hosted.here, hosted.id, hosted.reachable, hosted.lawful⟩
  obtain ⟨last, began⟩ := quiet.begin request spared
  obtain ⟨registry, rfl, listeners, told⟩ := began.registry
  have fares : Fares bench (.arrive index request) k own node (node.setRegistry registry) := by
    refine ⟨rfl, rfl, rfl, fun running => .inl ⟨running, listeners, ?_⟩, by simp [next?], .inl began.entry⟩
    refine told.imp_right fun planned j member => ?_
    refine (arrive_plans numbered index request _).mpr (.inr (planned j ?_))
    rw [Registry.audience, listeners]
    exact member
  exact ⟨_, hosted.follow fares began.here began.undoomed began.current, fares⟩

theorem move (hosted : bench.Hosted k own node) (numbered : bench.Numbered) (move : Move)
    (spared : bench.spares k own move = true) :
    ∃ last, (bench.move move).Hosted k own last ∧ Fares bench move k own node last := by
  cases move with
  | arrive index request => exact hosted.arrive numbered index request spared
  | go id =>
      rw [spares] at spared
      cases next : bench.next? (.go id) with
      | none => exact hosted.rests next
      | some action =>
          rw [next] at spared
          obtain ⟨task, agenda, after, more, taken⟩ := go_taken next
          refine hosted.taken next taken fun name installs => ?_
          rw [installs] at spared
          exact of_decide_eq_true spared

end Hosted

end Bench

end Interleaving

end Coherence
