import Coherence.Proofs.Following
import Coherence.Proofs.Scheduling

set_option autoImplicit false

namespace Coherence

open Std

namespace Cluster

structure Recalls (before after : Cluster) : Prop where
  size : after.nodes.size = before.nodes.size
  memory : ∀ k : Incarnation, after.nodes[k]?.map Node.memory = before.nodes[k]?.map Node.memory

namespace Recalls

variable {first second third : Cluster}

theorem of_nodes (same : second.nodes = first.nodes) : Recalls first second := by
  refine ⟨?_, fun k => ?_⟩ <;> rw [same]

theorem refl (cluster : Cluster) : Recalls cluster cluster := .of_nodes rfl

theorem trans (earlier : Recalls first second) (later : Recalls second third) : Recalls first third :=
  ⟨later.size.trans earlier.size, fun k => (later.memory k).trans (earlier.memory k)⟩

theorem of_insert {k : Incarnation} {node fresh : Node} (here : first.nodes[k]? = some node)
    (nodes : second.nodes = first.nodes.insert k fresh) (same : fresh.memory = node.memory) : Recalls first second := by
  refine ⟨?_, fun j => ?_⟩
  · have member : first.nodes.contains k = true := by
      rw [ExtTreeMap.contains_eq_isSome_getElem?, here]
      rfl
    rw [nodes, ExtTreeMap.size_insert, if_pos member]
  · rw [nodes]
    by_cases own : k = j
    · subst own
      simp [here, same]
    · rw [found_insert_other _ k j fresh own]

theorem found (recalls : Recalls first second) (k : Incarnation) (node : Node) (here : first.nodes[k]? = some node) :
    ∃ last, second.nodes[k]? = some last ∧ last.memory = node.memory := by
  have same := recalls.memory k
  rw [here, Option.map_some, Option.map_eq_some_iff] at same
  exact same

theorem mem (recalls : Recalls first second) (k : Incarnation) : k ∈ second.nodes ↔ k ∈ first.nodes := by
  have same := congrArg Option.isSome (recalls.memory k)
  rw [Option.isSome_map, Option.isSome_map] at same
  rw [ExtTreeMap.mem_iff_isSome_getElem?, ExtTreeMap.mem_iff_isSome_getElem?, same]

end Recalls

theorem memory_released (node : Node) : node.released.memory = node.memory := by
  rw [Node.released]
  cases node.held <;> rfl

theorem recalls_discard (cluster : Cluster) (refused : Service → Bool) (k : Incarnation) :
    Recalls cluster (cluster.discard refused k) := by
  cases here : cluster.nodes[k]? with
  | none =>
      rw [discard, here]
      exact .refl cluster
  | some node =>
      refine .of_insert here (cluster.replaced_discard refused k node here).nodes ?_
      split
      · rfl
      · exact memory_released node

theorem recalls_discards (lost : List Incarnation) (refused : Incarnation → Service → Bool) (cluster : Cluster) :
    Recalls cluster (lost.foldl (fun cluster k => cluster.discard (refused k) k) cluster) := by
  induction lost generalizing cluster with
  | nil => exact .refl cluster
  | cons k lost ih => exact (cluster.recalls_discard (refused k) k).trans (ih (cluster.discard (refused k) k))

end Cluster

namespace Interleaving

namespace Bench

theorem recalls_act (bench : Bench) (k : Incarnation) (node : Node) (here : bench.cluster.nodes[k]? = some node)
    (work : Work) (other : work.recomputes = false) : bench.cluster.Recalls (bench.act k node work).1.cluster := by
  by_cases written : ∃ mutation why, work = .write mutation why
  · obtain ⟨mutation, why, rfl⟩ := written
    obtain ⟨fresh, same, nodes, _⟩ := bench.written_act k node here mutation why
    exact .of_insert here nodes (congrArg Gist.memory same)
  · obtain ⟨fresh, replaced, turned⟩ := bench.replaced_act k node here work fun mutation why same =>
      written ⟨mutation, why, same⟩
    exact .of_insert here replaced.nodes (turned.memory other)

theorem mute_routine (action : Action) (routine : action.isRoutine = true) : action.recomputing? = none := by
  unfold Action.recomputing?
  split
  · cases routine
  · cases routine
  · rfl

theorem mute_act (bench : Bench) (k : Incarnation) (node : Node) (work : Work) (drawn : work ≠ .recompute)
    (unread : ∀ generation, work ≠ .read (.recomputing generation)) :
    ∀ action ∈ (bench.act k node work).2, action.recomputing? = none := by
  intro action member
  cases harmless : work.isHarmless with
  | true => exact mute_routine action (bench.routine_act k node work harmless action member)
  | false =>
      revert action
      cases work with
      | recompute => exact absurd rfl drawn
      | start =>
          rw [act]
          split <;> simp [Action.recomputing?]
      | admission =>
          rw [act]
          split <;> simp [Action.recomputing?, Action.publishing]
      | stop =>
          rw [act]
          split <;> simp [Action.recomputing?, Action.writing]
      | publish =>
          rw [act]
          split <;> simp [Action.recomputing?, Action.writing]
      | groupsChanged =>
          rw [act]
          split <;> simp [Action.recomputing?, Action.publishing]
      | read why =>
          cases why with
          | recomputing generation => exact absurd rfl (unread generation)
          | sweeping view => cases harmless
      | _ => cases harmless

end Bench

-- What a node knows of the store after its own work, given what it knew before.
def Work.learn (memory : Memory) : Work → Memory
  | .recompute => { memory with draws := memory.draws + 1 }
  | .endStop => { memory with draws := memory.draws + 1, snapshot := ⟨∅, UInt64.ofNat (memory.draws + 1)⟩ }
  | .entries (.recomputing generation) (.ok contents) =>
      { memory with snapshot := memory.snapshot.install ⟨bridged memory.id contents, generation⟩ }
  | _ => memory

theorem Work.learn_other (memory : Memory) (work : Work) (other : work.recomputes = false) :
    work.learn memory = memory := by
  cases work with
  | recompute | endStop => cases other
  | entries why result =>
      cases why with
      | sweeping view => rfl
      | recomputing generation =>
          cases result with
          | error fault => rfl
          | ok entries => cases other
  | _ => rfl

def Action.learn (k : Incarnation) (memory : Memory) : Action → Memory
  | .work j own => if j = k then own.learn memory else memory
  | _ => memory

namespace Bench

theorem replaced_recomputing (bench : Bench) (k : Incarnation) (node : Node) (work : Work)
    (here : bench.cluster.nodes[k]? = some node) (recomputes : work.recomputes = true) :
    ∃ fresh, bench.cluster.Replaced k fresh (bench.act k node work).1.cluster ∧
      fresh.memory = work.learn node.memory := by
  cases work with
  | recompute => exact ⟨node.drawGeneration, .set bench.cluster k _, rfl⟩
  | endStop => exact ⟨_, .modify bench.cluster (fun node => node.clear.setState .stopped) here, rfl⟩
  | entries why result =>
      cases why with
      | sweeping view => cases recomputes
      | recomputing generation =>
          cases result with
          | error fault => cases recomputes
          | ok entries => exact ⟨_, .amend bench.cluster (·.adopt generation entries) here, rfl⟩
  | _ => cases recomputes

theorem memory_act (bench : Bench) (j k : Incarnation) (node theirs : Node) (work : Work)
    (here : bench.cluster.nodes[k]? = some node) (there : bench.cluster.nodes[j]? = some theirs) :
    (bench.act j theirs work).1.cluster.nodes[k]?.map Node.memory = some ((Action.work j work).learn k node.memory) := by
  rw [Action.learn]
  cases recomputes : work.recomputes with
  | false =>
      rw [Work.learn_other node.memory work recomputes, ite_self,
        (bench.recalls_act j theirs there work recomputes).memory k, here]
      rfl
  | true =>
      obtain ⟨fresh, replaced, learned⟩ := bench.replaced_recomputing j theirs work there recomputes
      rw [replaced.found k]
      by_cases same : j = k
      · subst same
        rw [here, Option.some.injEq] at there
        subst there
        simp [learned]
      · simp [same, here]

def Counted (bench : Bench) : Prop := ∀ k, k ∈ bench.cluster.nodes → k < bench.cluster.nodes.size

theorem recalls_bury (bench : Bench) : bench.cluster.Recalls bench.bury.cluster := by
  obtain ⟨lost, doomed, buried, _⟩ := bury_discards bench
  rw [buried]
  exact Cluster.recalls_discards lost bench.refused bench.cluster

theorem recalls_lose (bench : Bench) (id : NodeId) (k : Incarnation) : bench.cluster.Recalls (bench.lose id k).cluster := by
  have forgotten : bench.cluster.Recalls { bench.cluster with current := bench.cluster.current.erase id } := .of_nodes rfl
  exact forgotten.trans (recalls_bury
    { bench with
      cluster := { bench.cluster with current := bench.cluster.current.erase id }
      doomed := bench.doomed ++ [k] })

theorem memory_install (bench : Bench) (counted : bench.Counted) (id : NodeId) (k : Incarnation) (node : Node)
    (here : bench.cluster.nodes[k]? = some node) :
    (bench.install id).1.cluster.nodes[k]?.map Node.memory = some node.memory := by
  have member : k ∈ bench.cluster.nodes := by
    rw [ExtTreeMap.mem_iff_isSome_getElem?, here]
    rfl
  have apart : bench.cluster.nodes.size ≠ k := Nat.ne_of_gt (counted k member)
  rw [install]
  split
  · rw [here]
    rfl
  · dsimp only
    split
    · change ((bench.lose id _).cluster.setNode bench.cluster.nodes.size (.create id)).nodes[k]?.map Node.memory = _
      rw [Cluster.nodes_set_node, if_neg apart, (bench.recalls_lose id _).memory k, here]
      rfl
    · change (bench.cluster.setNode bench.cluster.nodes.size (.create id)).nodes[k]?.map Node.memory = _
      rw [Cluster.nodes_set_node, if_neg apart, here]
      rfl

theorem memory_perform (bench : Bench) (counted : bench.Counted) (id : Nat) (request : Option Nat) (action : Action)
    (k : Incarnation) (node : Node) (here : bench.cluster.nodes[k]? = some node) :
    (bench.perform id request action).1.cluster.nodes[k]?.map Node.memory = some (action.learn k node.memory) := by
  have unchanged : bench.cluster.nodes[k]?.map Node.memory = some node.memory := by
    rw [here]
    rfl
  cases action with
  | work j work =>
      rw [perform]
      split
      · rename_i missing
        have apart : j ≠ k := by
          rintro rfl
          cases missing.symm.trans here
        rw [Action.learn, if_neg apart]
        exact unchanged
      · rename_i theirs there
        exact bench.memory_act j k node theirs work here there
  | install name => exact bench.memory_install counted name k node here
  | _ =>
      rw [cluster_perform bench id request _ (by simp) (by simp)]
      exact unchanged

theorem recalls_registry (cluster : Cluster) (k : Incarnation) (node : Node) (registry : Registry Incarnation)
    (here : cluster.nodes[k]? = some node) : cluster.Recalls (cluster.setNode k (node.setRegistry registry)) :=
  .of_insert here (Cluster.Replaced.set cluster k (node.setRegistry registry)).nodes rfl

theorem recalls_begin_node (bench : Bench) (k : Incarnation) (node : Node) (request : NodeRequest)
    (here : bench.cluster.nodes[k]? = some node) :
    bench.cluster.Recalls (bench.beginNode k node request).1.cluster := by
  cases request with
  | unpark service =>
      change bench.cluster.Recalls (bench.unpark (k, service)).1.cluster
      rw [unpark]
      split <;> exact .refl _
  | createGroup group =>
      rw [beginNode]
      cases node.registry.createGroup? group with
      | none => exact .refl _
      | some registry => exact recalls_registry bench.cluster k node registry here
  | dropGroup group =>
      rw [beginNode]
      cases node.registry.dropGroup? group with
      | none => exact .refl _
      | some registry => exact recalls_registry bench.cluster k node registry here
  | put group key =>
      rw [beginNode]
      cases node.registry.put? group key with
      | none => exact .refl _
      | some registry => exact recalls_registry bench.cluster k node registry here
  | invalidate event mode => exact recalls_registry bench.cluster k node (node.registry.evict event) here
  | _ => exact .refl _

theorem recalls_begin (bench : Bench) (request : Request) : bench.cluster.Recalls (bench.begin request).1.cluster := by
  cases request with
  | addNode id => exact .of_nodes rfl
  | join id => exact .of_nodes rfl
  | appoint id => exact .of_nodes rfl
  | putRaw key value => exact .of_nodes rfl
  | leave id =>
      rw [begin]
      split
      · exact .refl _
      · exact .of_nodes rfl
  | drop id =>
      rw [begin]
      split
      · exact .refl _
      · exact bench.recalls_lose id _
  | node id request =>
      rw [begin]
      split
      · exact .refl _
      · rename_i k node found
        exact bench.recalls_begin_node k node request ((bench.cluster.find_eq_some_iff id k node).mp found).2

variable {bench : Bench}

theorem recalls_rest (id : Nat) (rests : bench.next? (.go id) = none) : bench.cluster.Recalls (bench.go id).cluster := by
  rcases go_rests rests with same | ⟨_, same⟩ | ⟨task, found, done, same⟩
  · rw [same]
    exact .refl _
  · rw [same]
    exact .refl _
  · rw [same]
    exact recalls_bury { bench with ready := bench.ready.erase id, tasks := bench.tasks.erase id }

theorem recalls_arrive (index : Nat) (request : Request) : bench.cluster.Recalls (bench.arrive index request).cluster := by
  obtain ⟨began, keeps, agenda, begins, _, _, arrives⟩ := bench.arrive_eq index request
  have recalls := recalls_begin { bench with answered := ∅ } request
  rw [begins] at recalls
  rw [arrives]
  exact recalls

theorem memory_move (counted : bench.Counted) (move : Move) (k : Incarnation) (node : Node)
    (here : bench.cluster.nodes[k]? = some node) :
    ∃ last, (bench.move move).cluster.nodes[k]? = some last ∧
      last.memory = (bench.next? move).elim node.memory (·.learn k node.memory) := by
  rw [← Option.map_eq_some_iff]
  cases move with
  | arrive index request =>
      rw [Bench.move, (recalls_arrive index request).memory k, here]
      rfl
  | go id =>
      cases next : bench.next? (.go id) with
      | none =>
          rw [Bench.move, (recalls_rest id next).memory k, here]
          rfl
      | some action =>
          obtain ⟨task, agenda, after, more, taken⟩ := go_taken next
          have performed := memory_perform (bench.front id) counted id task.request action k node here
          rw [taken.performed] at performed
          rw [Bench.move, taken.went]
          exact performed

inductive AddsAtMostOne (before after : Cluster) : Prop
  | same (size : after.nodes.size = before.nodes.size) (members : ∀ k, k ∈ after.nodes ↔ k ∈ before.nodes)
  | joined (name : NodeId) (others : Cluster) (recalls : before.Recalls others)
      (nodes : after.nodes = others.nodes.insert before.nodes.size (.create name))

theorem AddsAtMostOne.of_recalls {before after : Cluster} (recalls : before.Recalls after) : AddsAtMostOne before after :=
  .same recalls.size recalls.mem

theorem AddsAtMostOne.of_replaced {before after : Cluster} {k : Incarnation} {node fresh : Node}
    (here : before.nodes[k]? = some node) (replaced : before.Replaced k fresh after) : AddsAtMostOne before after := by
  have member : k ∈ before.nodes := by
    rw [ExtTreeMap.mem_iff_isSome_getElem?, here]
    rfl
  refine .same ?_ fun j => ?_
  · rw [replaced.nodes, ExtTreeMap.size_insert, if_pos (ExtTreeMap.contains_iff_mem.mpr member)]
  · rw [replaced.nodes, ExtTreeMap.mem_insert]
    constructor
    · rintro (same | before)
      · exact Std.compare_eq_iff_eq.mp same ▸ member
      · exact before
    · exact .inr

theorem adds_at_most_one_install (bench : Bench) (name : NodeId) :
    AddsAtMostOne bench.cluster (bench.install name).1.cluster := by
  rw [install]
  split
  · exact .of_recalls (.refl _)
  · dsimp only
    split
    · exact .joined name (bench.lose name _).cluster (bench.recalls_lose name _) rfl
    · exact .joined name bench.cluster (.refl _) rfl

theorem adds_at_most_one_perform (bench : Bench) (id : Nat) (request : Option Nat) (action : Action) :
    AddsAtMostOne bench.cluster (bench.perform id request action).1.cluster := by
  have unchanged : AddsAtMostOne bench.cluster bench.cluster := .of_recalls (.refl _)
  cases action with
  | work j work =>
      rw [perform]
      split
      · exact unchanged
      · rename_i theirs there
        cases recomputes : work.recomputes with
        | false => exact .of_recalls (bench.recalls_act j theirs there work recomputes)
        | true =>
            obtain ⟨fresh, replaced, _⟩ := bench.replaced_recomputing j theirs work there recomputes
            exact .of_replaced there replaced
  | install name => exact bench.adds_at_most_one_install name
  | _ =>
      rw [cluster_perform bench id request _ (by simp) (by simp)]
      exact unchanged

theorem adds_at_most_one_move (bench : Bench) (move : Move) : AddsAtMostOne bench.cluster (bench.move move).cluster := by
  cases move with
  | arrive index request => exact .of_recalls (recalls_arrive index request)
  | go id =>
      cases next : bench.next? (.go id) with
      | none => exact .of_recalls (recalls_rest id next)
      | some action =>
          obtain ⟨task, agenda, after, more, taken⟩ := go_taken next
          have performed := adds_at_most_one_perform (bench.front id) id task.request action
          rw [taken.performed] at performed
          rw [Bench.move, taken.went]
          exact performed

theorem counted_move (counted : bench.Counted) (move : Move) : (bench.move move).Counted := by
  intro k member
  cases bench.adds_at_most_one_move move with
  | same size members => exact size ▸ counted k ((members k).mp member)
  | joined name others recalls nodes =>
      have fresh : ¬ others.nodes.contains bench.cluster.nodes.size = true := by
        intro taken
        exact Nat.lt_irrefl _ (counted _ ((recalls.mem _).mp (ExtTreeMap.contains_iff_mem.mp taken)))
      rw [nodes, ExtTreeMap.size_insert, if_neg fresh, recalls.size]
      rw [nodes, ExtTreeMap.mem_insert] at member
      cases member with
      | inl same => exact Std.compare_eq_iff_eq.mp same ▸ Nat.lt_succ_self _
      | inr before => exact Nat.lt_succ_of_lt (counted k ((recalls.mem k).mp before))

theorem created_move (move : Move) (k : Incarnation) (last : Node) (missing : bench.cluster.nodes[k]? = none)
    (found : (bench.move move).cluster.nodes[k]? = some last) : ∃ name, last = .create name := by
  have absent : k ∉ bench.cluster.nodes := by
    rw [ExtTreeMap.mem_iff_isSome_getElem?, missing]
    decide
  have present : k ∈ (bench.move move).cluster.nodes := by
    rw [ExtTreeMap.mem_iff_isSome_getElem?, found]
    rfl
  cases bench.adds_at_most_one_move move with
  | same size members => exact absurd ((members k).mp present) absent
  | joined name others recalls nodes =>
      refine ⟨name, ?_⟩
      rw [nodes] at present found
      rw [ExtTreeMap.mem_insert] at present
      cases present with
      | inl same =>
          rw [← Std.compare_eq_iff_eq.mp same, ExtTreeMap.getElem?_insert_self, Option.some.injEq] at found
          exact found.symm
      | inr before => exact absurd ((recalls.mem k).mp before) absent

theorem mute_telling (bench : Bench) : ∀ action ∈ bench.telling, action.recomputing? = none := by
  intro action member
  obtain ⟨circle, _, rfl⟩ := List.mem_map.mp member
  rfl

theorem mute_begin_node (bench : Bench) (k : Incarnation) (node : Node) (request : NodeRequest) :
    ∀ action ∈ (bench.beginNode k node request).2, action.recomputing? = none := by
  cases request with
  | createGroup group =>
      rw [beginNode]
      cases node.registry.createGroup? group <;> simp [changeGroups, Action.recomputing?, or_imp, forall_and]
  | dropGroup group =>
      rw [beginNode]
      cases node.registry.dropGroup? group <;> simp [changeGroups, Action.recomputing?, or_imp, forall_and]
  | put group key =>
      rw [beginNode]
      split <;> simp [Action.recomputing?]
  | _ => simp [beginNode, Action.publishing, Action.recomputing?, or_imp, forall_and]

theorem mute_begin (bench : Bench) (request : Request) :
    ∀ action ∈ (bench.begin request).2.2, action.recomputing? = none := by
  have answered (bench : Bench) (last : Action) (mute : last.recomputing? = none) :
      ∀ action ∈ bench.telling ++ [last], action.recomputing? = none := by
    intro action member
    cases List.mem_append.mp member with
    | inl told => exact bench.mute_telling action told
    | inr final => exact List.mem_singleton.mp final ▸ mute
  cases request with
  | addNode id => exact answered (bench.join id) (.install id) rfl
  | join id => exact answered (bench.join id) (.answer .done) rfl
  | appoint id => simp [begin, Action.recomputing?]
  | putRaw key value => simp [begin, Action.recomputing?, or_imp, forall_and]
  | leave id =>
      rw [begin]
      split
      · simp [Action.recomputing?]
      · exact answered _ (.answer .done) rfl
  | drop id =>
      rw [begin]
      split <;> simp [Action.recomputing?]
  | node id request =>
      rw [begin]
      split
      · simp [Action.recomputing?]
      · exact bench.mute_begin_node _ _ request

theorem mute_install (bench : Bench) (name : NodeId) :
    ∀ action ∈ (bench.install name).2, action.recomputing? = none := by
  rw [install]
  split <;> simp [Action.recomputing?]

theorem mute_perform (bench : Bench) (id : Nat) (request : Option Nat) (taken : Action)
    (drawn : ∀ k, taken ≠ .work k .recompute)
    (unread : ∀ k generation, taken ≠ .work k (.read (.recomputing generation))) :
    ∀ action ∈ (bench.perform id request taken).2.getD [], action.recomputing? = none := by
  cases taken with
  | acquire lock => simp [more_acquire]
  | pass k service => simp [more_pass]
  | release lock | sleep => simp [perform]
  | answer reply => cases request <;> simp [perform]
  | install name => exact bench.mute_install name
  | tellCircle circle view =>
      intro action member
      obtain ⟨k, _, rfl⟩ := List.mem_map.mp member
      rfl
  | work k work =>
      rw [perform]
      split
      · simp
      · exact bench.mute_act k _ work (fun same => drawn k (same ▸ rfl)) fun generation same =>
          unread k generation (same ▸ rfl)

theorem read_ok (cluster : Cluster) (node : Node) (contents : Entries)
    (successful : node.replica.read cluster.store cluster.channel = .ok contents) : contents = cluster.entries := by
  rw [Replica.read, Replica.reach] at successful
  split at successful
  · cases successful
  · cases successful
    rfl

-- How a recomputation goes on: it draws a number, then it reads, then it has read.
inductive Continues (cluster : Cluster) (taking : Action) (k : Incarnation) (generation : UInt64) : Action → Prop
  | drawn (node : Node) (here : cluster.nodes[k]? = some node) (starts : taking = .work k .recompute)
      (number : generation = node.drawGeneration.generation) :
      Continues cluster taking k generation (.work k (.read (.recomputing generation)))
  | read (node : Node) (result : Except Fault Entries) (here : cluster.nodes[k]? = some node)
      (reads : taking = .work k (.read (.recomputing generation)))
      (whole : ∀ contents, result = .ok contents → contents = cluster.entries) :
      Continues cluster taking k generation (.work k (.entries (.recomputing generation) result))

theorem continues_recompute (bench : Bench) (j k : Incarnation) (node : Node) (here : bench.cluster.nodes[j]? = some node)
    (generation : UInt64) (action : Action) (about : action.recomputing? = some (k, generation))
    (member : action ∈ (bench.act j node .recompute).2) :
    Continues bench.cluster (.work j .recompute) k generation action := by
  rw [act] at member
  simp only [Action.reading, List.mem_cons, List.not_mem_nil, or_false] at member
  cases member with
  | inl passed =>
      subst passed
      cases about
  | inr reading =>
      subst reading
      cases about
      exact .drawn node here rfl rfl

theorem continues_read (bench : Bench) (j k : Incarnation) (node : Node) (here : bench.cluster.nodes[j]? = some node)
    (number generation : UInt64) (action : Action) (about : action.recomputing? = some (k, generation))
    (member : action ∈ (bench.act j node (.read (.recomputing number))).2) :
    Continues bench.cluster (.work j (.read (.recomputing number))) k generation action := by
  rw [act] at member
  split at member
  · rw [List.mem_singleton] at member
    subst member
    cases about
    exact .read node _ here rfl (by simp)
  · simp only [List.mem_cons, List.not_mem_nil, or_false] at member
    cases member with
    | inl passed =>
        subst passed
        cases about
    | inr read =>
        subst read
        cases about
        exact .read node _ here rfl fun contents successful => read_ok bench.cluster node contents successful

theorem continues_perform (bench : Bench) (id : Nat) (request : Option Nat) (taking action : Action) (k : Incarnation)
    (generation : UInt64) (about : action.recomputing? = some (k, generation))
    (member : action ∈ (bench.perform id request taking).2.getD []) : Continues bench.cluster taking k generation action := by
  have mute (other : action.recomputing? = none) : Continues bench.cluster taking k generation action := by
    cases about.symm.trans other
  cases taking with
  | work j work =>
      cases work with
      | recompute =>
          rw [perform] at member
          split at member
          · cases member
          · exact bench.continues_recompute j k _ (by assumption) generation action about member
      | read why =>
          cases why with
          | sweeping view => exact mute (bench.mute_perform id request _ (by simp) (by simp) action member)
          | recomputing number =>
              rw [perform] at member
              split at member
              · cases member
              · exact bench.continues_read j k _ (by assumption) number generation action about member
      | _ => exact mute (bench.mute_perform id request _ (by simp) (by simp) action member)
  | _ => exact mute (bench.mute_perform id request _ (by simp) (by simp) action member)

theorem recomputing_source (numbered : bench.Numbered) (move : Move) (action : Action) (k : Incarnation)
    (generation : UInt64) (about : action.recomputing? = some (k, generation)) (plans : (bench.move move).Plans action) :
    bench.Plans action ∨ ∃ taking, bench.next? move = some taking ∧ Continues bench.cluster taking k generation action := by
  cases move with
  | arrive index request =>
      cases (arrive_plans numbered index request action).mp plans with
      | inl before => exact .inl before
      | inr began => cases about.symm.trans (mute_begin _ request action began)
  | go id =>
      cases next : bench.next? (.go id) with
      | none => exact .inl ((rests_plans next action).mp plans)
      | some taking =>
          obtain ⟨task, agenda, after, more, taken⟩ := go_taken next
          rcases taken.source numbered action plans with before | added | delivered
          · exact .inl before
          · have continues := (bench.front id).continues_perform id task.request taking action k generation about
            rw [taken.performed] at continues
            exact .inr ⟨taking, rfl, continues added⟩
          · cases about.symm.trans (mute_routine action (action.routine_of_delivery delivered))

theorem stopped_move (move : Move) (k : Incarnation) (node : Node) (here : bench.cluster.nodes[k]? = some node)
    (next : bench.next? move = some (.work k .endStop)) : (bench.move move).cluster.isRunning k = false := by
  obtain ⟨id, task, agenda, after, more, rfl, taken⟩ := next_taken next
  have performed := taken.performed
  rw [performed_work (bench.front id) id task.request k node .endStop here, Prod.mk.injEq] at performed
  have stopped : bench.cluster.Replaced k _ (bench.cluster.endStop k) :=
    .modify bench.cluster (fun node => node.clear.setState .stopped) here
  rw [Bench.move, taken.went, ← performed.1]
  change (bench.cluster.endStop k).isRunning k = false
  rw [Cluster.isRunning, stopped.found k, if_pos rfl]
  rfl

theorem seen_move (move : Move) (k : Incarnation) (node : Node) (here : bench.cluster.nodes[k]? = some node)
    (generation : UInt64) (next : bench.next? move = some (.work k (.read (.recomputing generation))))
    (granted : bench.refused k .getAll = false) (reachable : node.replica.unreachable = false) :
    (bench.move move).Plans (.work k (.entries (.recomputing generation) (.ok bench.cluster.entries))) := by
  obtain ⟨id, task, agenda, after, more, rfl, taken⟩ := next_taken next
  have performed := taken.performed
  rw [performed_work (bench.front id) id task.request k node _ here, Prod.mk.injEq] at performed
  have allowed : ¬ (bench.front id).refused k .getAll = true := fun refused =>
    Bool.noConfusion (granted.symm.trans refused)
  refine taken.plans_more _ ?_
  rw [← performed.2, Option.getD_some, act, if_neg allowed]
  dsimp only
  rw [Cluster.read_reachable (bench.front id).cluster node reachable]
  exact List.mem_cons_of_mem _ (List.mem_singleton.mpr rfl)

end Bench

end Interleaving

end Coherence
