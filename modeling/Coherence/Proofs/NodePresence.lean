import Coherence.Proofs.Generations
import Coherence.Proofs.Hosting

set_option autoImplicit false

namespace Coherence.Interleaving

open Std

namespace Bench

variable {bench : Bench} {k : Incarnation} {own : NodeId}

theorem current_discards (lost : List Incarnation) (refused : Incarnation → Service → Bool) (cluster : Cluster) :
    (lost.foldl (fun cluster j => cluster.discard (refused j) j) cluster).current = cluster.current := by
  induction lost generalizing cluster with
  | nil => rfl
  | cons j lost ih =>
      refine (ih (cluster.discard (refused j) j)).trans ?_
      cases here : cluster.nodes[j]? with
      | none => rw [Cluster.discard, here]
      | some node => exact (cluster.replaced_discard (refused j) j node here).current

theorem bury_keeps (bench : Bench) :
    bench.bury.cluster.current = bench.cluster.current ∧ ∀ j ∈ bench.bury.doomed, j ∈ bench.doomed := by
  obtain ⟨lost, doomed, buried, kept⟩ := bury_discards bench
  rw [buried]
  refine ⟨current_discards lost bench.refused bench.cluster, fun j member => ?_⟩
  by_cases before : j ∈ bench.doomed
  · exact before
  · exact absurd member (kept j before).2

theorem lose_keeps (bench : Bench) (id : NodeId) (j : Incarnation) :
    (bench.lose id j).cluster.current = bench.cluster.current.erase id ∧
      ∀ i ∈ (bench.lose id j).doomed, i ∈ bench.doomed ∨ i = j := by
  obtain ⟨current, doomed⟩ := bury_keeps
    { bench with
      cluster := { bench.cluster with current := bench.cluster.current.erase id }
      doomed := bench.doomed ++ [j] }
  refine ⟨current, fun i member => ?_⟩
  cases List.mem_append.mp (doomed i member) with
  | inl before => exact .inl before
  | inr same => exact .inr (List.mem_singleton.mp same)

-- A name can be given up, and whoever had it is doomed then, or it goes to one who comes.
structure Renames (before after : Bench) (action : Option Action) : Prop where
  named : ∀ (id : NodeId) (j : Incarnation), after.cluster.current[id]? = some j →
    before.cluster.current[id]? = some j ∨
      action = some (.install id) ∧ j = before.cluster.nodes.size ∧ after.cluster.nodes[j]? = some (.create id)
  doomed : ∀ j ∈ after.doomed, j ∈ before.doomed ∨ ∃ id : NodeId, before.cluster.current[id]? = some j

theorem Renames.same {before after : Bench} {action : Option Action}
    (current : after.cluster.current = before.cluster.current) (doomed : ∀ j ∈ after.doomed, j ∈ before.doomed) :
    Renames before after action :=
  ⟨fun _ _ located => .inl (current ▸ located), fun j member => .inl (doomed j member)⟩

theorem renames_install (bench : Bench) (name : NodeId) :
    Renames bench (bench.install name).1 (some (.install name)) := by
  have found (cluster : Cluster) (current : ExtTreeMap NodeId Incarnation) :
      ({ cluster.setNode bench.cluster.nodes.size (.create name) with current } : Cluster).nodes[bench.cluster.nodes.size]? =
        some (.create name) := by
    change (cluster.setNode bench.cluster.nodes.size (.create name)).nodes[bench.cluster.nodes.size]? = _
    rw [Cluster.nodes_set_node, if_pos rfl]
  rw [install]
  split
  · exact .same rfl fun _ member => member
  · dsimp only
    split
    · rename_i old located
      obtain ⟨current, doomed⟩ := bench.lose_keeps name old
      refine ⟨fun id j there => ?_, fun j member => ?_⟩
      · change ((bench.lose name old).cluster.current.insert name bench.cluster.nodes.size)[id]? = some j at there
        rw [current, ExtTreeMap.getElem?_insert] at there
        split at there
        · rename_i same
          cases there
          exact Std.compare_eq_iff_eq.mp same ▸ .inr ⟨rfl, rfl, found _ _⟩
        · rw [ExtTreeMap.getElem?_erase] at there
          split at there
          · cases there
          · exact .inl there
      · rcases doomed j member with before | rfl
        · exact .inl before
        · exact .inr ⟨name, located⟩
    · refine ⟨fun id j there => ?_, fun j member => .inl member⟩
      change (bench.cluster.current.insert name bench.cluster.nodes.size)[id]? = some j at there
      rw [ExtTreeMap.getElem?_insert] at there
      split at there
      · rename_i same
        cases there
        exact Std.compare_eq_iff_eq.mp same ▸ .inr ⟨rfl, rfl, found _ _⟩
      · exact .inl there

theorem current_act (bench : Bench) (j : Incarnation) (node : Node) (here : bench.cluster.nodes[j]? = some node)
    (work : Work) : (bench.act j node work).1.cluster.current = bench.cluster.current := by
  by_cases written : ∃ mutation why, work = .write mutation why
  · obtain ⟨mutation, why, rfl⟩ := written
    obtain ⟨_, _, _, current, _⟩ := bench.written_act j node here mutation why
    exact current
  · obtain ⟨_, replaced, _⟩ := bench.replaced_act j node here work fun mutation why same => written ⟨mutation, why, same⟩
    exact replaced.current

theorem renames_perform (bench : Bench) (id : Nat) (request : Option Nat) (action : Action) :
    Renames bench (bench.perform id request action).1 (some action) := by
  cases action with
  | install name => exact bench.renames_install name
  | work j work =>
      refine .same ?_ ?_
      · rw [perform]
        split
        · rfl
        · rename_i node here
          exact bench.current_act j node here work
      · rw [doomed_perform bench id request _ (by simp)]
        exact fun _ member => member
  | _ =>
      refine .same ?_ ?_
      · rw [cluster_perform bench id request _ (by simp) (by simp)]
      · rw [doomed_perform bench id request _ (by simp)]
        exact fun _ member => member

theorem begin_node_keeps_names (bench : Bench) (j : Incarnation) (node : Node) (request : NodeRequest) :
    (bench.beginNode j node request).1.cluster.current = bench.cluster.current ∧
      (bench.beginNode j node request).1.doomed = bench.doomed := by
  cases request with
  | unpark service =>
      change (bench.unpark (j, service)).1.cluster.current = _ ∧ (bench.unpark (j, service)).1.doomed = _
      rw [unpark]
      split <;> exact ⟨rfl, rfl⟩
  | createGroup group =>
      rw [beginNode]
      cases node.registry.createGroup? group <;> exact ⟨rfl, rfl⟩
  | dropGroup group =>
      rw [beginNode]
      cases node.registry.dropGroup? group <;> exact ⟨rfl, rfl⟩
  | put group key =>
      rw [beginNode]
      split <;> exact ⟨rfl, rfl⟩
  | _ => exact ⟨rfl, rfl⟩

theorem renames_begin (bench : Bench) (request : Request) : Renames bench (bench.begin request).1 none := by
  cases request with
  | addNode id | join id | appoint id | putRaw key value => exact .same rfl fun _ member => member
  | leave id =>
      rw [begin]
      split <;> exact .same rfl fun _ member => member
  | drop id =>
      rw [begin]
      split
      · exact .same rfl fun _ member => member
      · rename_i old located
        obtain ⟨current, doomed⟩ := bench.lose_keeps id old
        refine ⟨fun name j there => .inl ?_, fun j member => ?_⟩
        · rw [current, ExtTreeMap.getElem?_erase] at there
          split at there
          · cases there
          · exact there
        · rcases doomed j member with before | rfl
          · exact .inl before
          · exact .inr ⟨id, located⟩
  | node id request =>
      rw [begin]
      split
      · exact .same rfl fun _ member => member
      · rename_i j node _
        obtain ⟨current, doomed⟩ := bench.begin_node_keeps_names j node request
        exact .same current fun _ member => doomed ▸ member

theorem renames_move (bench : Bench) (move : Move) : Renames bench (bench.move move) (bench.next? move) := by
  cases move with
  | arrive index request =>
      obtain ⟨began, keeps, agenda, begins, _, _, arrives⟩ := bench.arrive_eq index request
      have renames := renames_begin { bench with answered := ∅ } request
      rw [begins] at renames
      rw [Bench.move, arrives]
      exact ⟨renames.named, renames.doomed⟩
  | go id =>
      cases next : bench.next? (.go id) with
      | none =>
          rw [Bench.move]
          rcases go_rests next with same | ⟨_, same⟩ | ⟨task, _, _, same⟩
          · rw [same]
            exact .same rfl fun _ member => member
          · rw [same]
            exact .same rfl fun _ member => member
          · rw [same]
            obtain ⟨current, doomed⟩ := bury_keeps { bench with ready := bench.ready.erase id, tasks := bench.tasks.erase id }
            exact .same current doomed
      | some action =>
          obtain ⟨task, agenda, after, more, taken⟩ := go_taken next
          have renames := renames_perform (bench.front id) id task.request action
          rw [taken.performed] at renames
          rw [Bench.move, taken.went]
          exact ⟨renames.named, renames.doomed⟩

-- Nothing is under way for one who has not come yet, but word of groups.
structure Unplanned (bench : Bench) (k : Incarnation) : Prop where
  calm : ∀ action, bench.Plans action → action.isIdle k = true ∨ action = .work k .groupsChanged
  free : ∀ lock : Lock, lock.owner = k → bench.line? lock = none

theorem duty_calm (agenda : List Action)
    (calm : ∀ action ∈ agenda, action.isIdle k = true ∨ action = .work k .groupsChanged) :
    duty k own agenda = some {} := by
  induction agenda with
  | nil => rfl
  | cons action agenda ih =>
      rw [duty, ih fun other member => calm other (List.mem_cons_of_mem action member), Option.bind_some]
      rcases calm action (List.mem_cons_self ..) with idle | rfl
      · exact charge_idle {} action idle
      · simp [Action.charge, Action.isIdle, Work.isIdle, Action.due, Work.charge]

theorem calm_begin_node (bench : Bench) (j : Incarnation) (node : Node) (request : NodeRequest) (other : j ≠ k) :
    ∀ action ∈ (bench.beginNode j node request).2, action.isIdle k = true ∨ action = .work k .groupsChanged := by
  have told (audience : List Incarnation) (action : Action)
      (member : action ∈ audience.map (.work · .groupsChanged) ++ [.answer .done]) :
      action.isIdle k = true ∨ action = .work k .groupsChanged := by
    cases List.mem_append.mp member with
    | inl listens =>
        obtain ⟨i, _, rfl⟩ := List.mem_map.mp listens
        by_cases mine : i = k
        · exact .inr (mine ▸ rfl)
        · exact .inl (by simp [Action.isIdle, mine])
    | inr final => exact .inl (List.mem_singleton.mp final ▸ rfl)
  have changed (registry : Option (Registry Incarnation)) :
      ∀ action ∈ (bench.changeGroups j node registry).2, action.isIdle k = true ∨ action = .work k .groupsChanged := by
    cases registry with
    | none => simp [changeGroups, Action.isIdle]
    | some registry => exact told registry.audience
  cases request with
  | createGroup group => exact changed (node.registry.createGroup? group)
  | dropGroup group => exact changed (node.registry.dropGroup? group)
  | put group key =>
      rw [beginNode]
      split <;> simp [Action.isIdle]
  | _ =>
      refine fun action member => .inl ?_
      revert action
      simp [beginNode, Action.publishing, Action.isIdle, Lock.owner, other, Work.isIdle, or_imp, forall_and]

theorem calm_begin (bench : Bench) (request : Request) (missing : bench.cluster.nodes[k]? = none) :
    ∀ action ∈ (bench.begin request).2.2, action.isIdle k = true ∨ action = .work k .groupsChanged := by
  have told (bench : Bench) (last : Action) (idle : last.isIdle k = true) :
      ∀ action ∈ bench.telling ++ [last], action.isIdle k = true ∨ action = .work k .groupsChanged := by
    intro action member
    refine .inl ?_
    cases List.mem_append.mp member with
    | inl told =>
        obtain ⟨circle, _, rfl⟩ := List.mem_map.mp told
        rfl
    | inr final => exact List.mem_singleton.mp final ▸ idle
  cases request with
  | addNode id => exact told (bench.join id) (.install id) rfl
  | join id => exact told (bench.join id) (.answer .done) rfl
  | appoint id => simp [begin, Action.isIdle]
  | putRaw key value => simp [begin, Action.isIdle, Work.isIdle, or_imp, forall_and]
  | leave id =>
      rw [begin]
      split
      · simp [Action.isIdle]
      · exact told _ (.answer .done) rfl
  | drop id =>
      rw [begin]
      split <;> simp [Action.isIdle]
  | node id request =>
      rw [begin]
      split
      · simp [Action.isIdle]
      · rename_i j node found
        refine bench.calm_begin_node j node request ?_
        rintro rfl
        cases missing.symm.trans ((bench.cluster.find_eq_some_iff id j node).mp found).2

namespace Unplanned

theorem arrive (unplanned : bench.Unplanned k) (numbered : bench.Numbered) (missing : bench.cluster.nodes[k]? = none)
    (index : Nat) (request : Request) : (bench.arrive index request).Unplanned k := by
  refine ⟨fun action plans => ?_, fun lock mine => ?_⟩
  · cases (arrive_plans numbered index request action).mp plans with
    | inl before => exact unplanned.calm action before
    | inr began => exact calm_begin { bench with answered := ∅ } request missing action began
  · obtain ⟨began, keeps, agenda, begins, _, _, arrives⟩ := bench.arrive_eq index request
    have locks := locks_begin { bench with answered := ∅ } request
    rw [begins] at locks
    rw [arrives]
    change (began.locks.find? (·.1 = lock)).map (·.2) = none
    rw [locks]
    exact unplanned.free lock mine

theorem rests {id : Nat} (unplanned : bench.Unplanned k) (rests : bench.next? (.go id) = none) :
    (bench.go id).Unplanned k := by
  refine ⟨fun action plans => unplanned.calm action ((rests_plans rests action).mp plans), fun lock mine => ?_⟩
  rw [line?, (rests_keeps rests).1]
  exact unplanned.free lock mine

theorem taken {id : Nat} {action : Action} {task : Task} {agenda : List Action} {after : Bench}
    {more : Option (List Action)} (unplanned : bench.Unplanned k) (numbered : bench.Numbered)
    (missing : bench.cluster.nodes[k]? = none) (taken : bench.Taken id action task agenda after more) :
    (bench.go id).Unplanned k := by
  have calm := unplanned.calm action ⟨id, task, taken.found, taken.planned ▸ List.mem_cons_self ..⟩
  refine ⟨fun other plans => ?_, fun lock mine => ?_⟩
  · rcases taken.source numbered other plans with before | added | delivered
    · exact unplanned.calm other before
    · rcases calm with idle | rfl
      · have quiet := (bench.front id).idle_perform id task.request action idle
        rw [taken.performed] at quiet
        exact .inl (quiet other added)
      · have performed := taken.performed
        rw [perform, show (bench.front id).cluster.nodes[k]? = none from missing, Prod.mk.injEq] at performed
        rw [← performed.2] at added
        cases added
    · exact .inl (idle_delivery other delivered)
  · rw [taken.line_kept lock]
    · exact unplanned.free lock mine
    · rintro rfl
      rcases calm with idle | same
      · exact of_decide_eq_true idle mine
      · cases same
    · rintro rfl
      rcases calm with idle | same
      · exact of_decide_eq_true idle mine
      · cases same

theorem move (unplanned : bench.Unplanned k) (numbered : bench.Numbered) (missing : bench.cluster.nodes[k]? = none)
    (move : Move) : (bench.move move).Unplanned k := by
  cases move with
  | arrive index request => exact unplanned.arrive numbered missing index request
  | go id =>
      cases next : bench.next? (.go id) with
      | none => exact unplanned.rests next
      | some action =>
          obtain ⟨task, agenda, after, more, taken⟩ := go_taken next
          exact unplanned.taken numbered missing taken

theorem disciplined (unplanned : bench.Unplanned k) (numbered : bench.Numbered) (placed : bench.Placed) :
    bench.Disciplined k own := by
  have due (id : Nat) (task : Task) (found : bench.tasks[id]? = some task) : duty k own task.agenda = some {} :=
    duty_calm task.agenda fun action member => unplanned.calm action ⟨id, task, found, member⟩
  refine ⟨numbered, placed, fun id task found => ⟨{}, due id task found⟩, fun lock mine => ⟨?_, ?_, ?_⟩⟩
  · rintro _ id burden ⟨task, found, owed⟩
    cases (due id task found).symm.trans owed
    cases lock <;> rfl
  · intro line held
    cases (unplanned.free lock mine).symm.trans held
  · intro id burden waits
    rw [queue, unplanned.free lock mine] at waits
    cases waits

end Unplanned

-- Whoever has a name or is doomed is there, and nothing is under way for anyone who is not.
structure NodesPresent (bench : Bench) : Prop where
  numbered : bench.Numbered
  placed : bench.Placed
  counted : bench.Counted
  named : ∀ (id : NodeId) (k : Incarnation), bench.cluster.current[id]? = some k →
    ∃ node, bench.cluster.nodes[k]? = some node ∧ node.id = id
  doomed : ∀ k ∈ bench.doomed, k ∈ bench.cluster.nodes
  unplanned : ∀ k : Incarnation, bench.cluster.nodes[k]? = none → bench.Unplanned k
  disciplined : ∀ (k : Incarnation) (node : Node), bench.cluster.nodes[k]? = some node → bench.Disciplined k node.id

namespace NodesPresent

theorem stays (nodesPresent : bench.NodesPresent) (move : Move) (node : Node) (here : bench.cluster.nodes[k]? = some node) :
    ∃ last, (bench.move move).cluster.nodes[k]? = some last ∧ last.id = node.id := by
  obtain ⟨last, there, learned⟩ := memory_move nodesPresent.counted move k node here
  refine ⟨last, there, ?_⟩
  change last.memory.id = _
  rw [learned]
  cases bench.next? move with
  | none => rfl
  | some action => exact action.id_learn k node.memory

theorem node_of_mem (_ : bench.NodesPresent) (member : k ∈ bench.cluster.nodes) :
    ∃ node, bench.cluster.nodes[k]? = some node :=
  Option.isSome_iff_exists.mp (ExtTreeMap.mem_iff_isSome_getElem?.mp member)

theorem mem_later (nodesPresent : bench.NodesPresent) (move : Move) (member : k ∈ bench.cluster.nodes) :
    k ∈ (bench.move move).cluster.nodes := by
  obtain ⟨node, here⟩ := nodesPresent.node_of_mem member
  obtain ⟨last, there, _⟩ := nodesPresent.stays move node here
  rw [ExtTreeMap.mem_iff_isSome_getElem?, there]
  rfl

theorem mem_of_named (nodesPresent : bench.NodesPresent) (id : NodeId) (located : bench.cluster.current[id]? = some k) :
    k ∈ bench.cluster.nodes := by
  obtain ⟨node, here, _⟩ := nodesPresent.named id k located
  rw [ExtTreeMap.mem_iff_isSome_getElem?, here]
  rfl

theorem doomed_before (nodesPresent : bench.NodesPresent) (move : Move) (doomed : k ∈ (bench.move move).doomed) :
    k ∈ bench.cluster.nodes := by
  rcases (bench.renames_move move).doomed k doomed with before | ⟨id, located⟩
  · exact nodesPresent.doomed k before
  · exact nodesPresent.mem_of_named id located

theorem move (nodesPresent : bench.NodesPresent) (move : Move) : (bench.move move).NodesPresent := by
  have numbered := numbered_move nodesPresent.numbered move
  have placed := placed_move nodesPresent.placed move
  have unplanned (k : Incarnation) (missing : bench.cluster.nodes[k]? = none) : (bench.move move).Unplanned k :=
    (nodesPresent.unplanned k missing).move nodesPresent.numbered missing move
  refine ⟨numbered, placed, counted_move nodesPresent.counted move, fun id k located => ?_, fun k doomed => ?_,
    fun k missing => ?_, fun k last there => ?_⟩
  · rcases (bench.renames_move move).named id k located with before | ⟨_, _, there⟩
    · obtain ⟨node, here, same⟩ := nodesPresent.named id k before
      obtain ⟨last, there, kept⟩ := nodesPresent.stays move node here
      exact ⟨last, there, kept.trans same⟩
    · exact ⟨_, there, rfl⟩
  · exact nodesPresent.mem_later move (nodesPresent.doomed_before move doomed)
  · cases here : bench.cluster.nodes[k]? with
    | none => exact unplanned k here
    | some node =>
        obtain ⟨last, there, _⟩ := nodesPresent.stays move node here
        cases missing.symm.trans there
  · cases here : bench.cluster.nodes[k]? with
    | none => exact (unplanned k here).disciplined numbered placed
    | some node =>
        obtain ⟨next, found, kept⟩ := nodesPresent.stays move node here
        obtain rfl : last = next := Option.some.inj (there.symm.trans found)
        exact kept ▸ (nodesPresent.disciplined k node here).move node here rfl move

end NodesPresent

end Bench

end Coherence.Interleaving
