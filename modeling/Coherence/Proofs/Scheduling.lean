import Coherence.Interleaving.Request
import Coherence.Proofs.Acting

set_option autoImplicit false

namespace Coherence.Interleaving

open Std

-- Nothing is said about which of the tasks that are ready goes next.
inductive Move where
  | arrive (index : Nat) (request : Request)
  | go (task : Nat)

namespace Bench

def arrive (bench : Bench) (index : Nat) (request : Request) : Bench :=
  let (bench, keeps, agenda) := { bench with answered := ∅ }.begin request
  bench.spawn { request := some index, keeps, agenda }

def front (bench : Bench) (task : Nat) : Bench := { bench with ready := task :: bench.ready.erase task }

def go (bench : Bench) (task : Nat) : Bench := if task ∈ bench.ready then (bench.front task).turn else bench

def move (bench : Bench) : Move → Bench
  | .arrive index request => bench.arrive index request
  | .go task => bench.go task

def play (bench : Bench) (moves : List Move) : Bench := moves.foldl move bench

variable {bench : Bench}

theorem turn_eq_go (task : Nat) (rest : List Nat) (ready : bench.ready = task :: rest) :
    bench.turn = bench.go task := by
  have member : task ∈ bench.ready := by
    rw [ready]
    exact List.mem_cons_self ..
  have same : bench.front task = bench := by
    rw [front, ready, List.erase_cons_head, ← ready]
  rw [go, if_pos member, same]

theorem settle_plays (bound : Nat) (bench : Bench) : ∃ tasks : List Nat, bench.settle bound = bench.play (tasks.map .go) := by
  induction bound generalizing bench with
  | zero => exact ⟨[], rfl⟩
  | succ bound ih =>
      rw [settle]
      cases ready : bench.ready with
      | nil => exact ⟨[], rfl⟩
      | cons task rest =>
          obtain ⟨tasks, settled⟩ := ih bench.turn
          refine ⟨task :: tasks, ?_⟩
          rw [List.isEmpty_cons, if_neg (by decide), settled, turn_eq_go task rest ready]
          rfl

/-- A request that is carried out before the next one comes in is one of the ways in which things can happen. -/
theorem request_plays (bench : Bench) (index : Nat) (request : Request) :
    ∃ tasks : List Nat, bench.request index request = bench.play (.arrive index request :: tasks.map .go) := by
  obtain ⟨tasks, settled⟩ := settle_plays patience (bench.arrive index request)
  exact ⟨tasks, settled⟩

def next? (bench : Bench) : Move → Option Action
  | .arrive .. => none
  | .go task => if task ∈ bench.ready then (bench.tasks[task]?).bind (·.agenda.head?) else none

-- Someone is going to take this action.
def Plans (bench : Bench) (action : Action) : Prop :=
  ∃ (id : Nat) (task : Task), bench.tasks[id]? = some task ∧ action ∈ task.agenda

def Numbered (bench : Bench) : Prop := ∀ id, id ∈ bench.tasks → id < bench.spawned

-- Tasks stay as they are, and there may be new ones that deliver something.
structure Grows (before after : Bench) : Prop where
  kept : ∀ (id : Nat) (task : Task), before.tasks[id]? = some task → after.tasks[id]? = some task
  fresh : ∀ (id : Nat) (task : Task), after.tasks[id]? = some task →
    before.tasks[id]? = some task ∨ before.spawned ≤ id ∧ ∀ action ∈ task.agenda, action.isDelivery = true
  grown : before.spawned ≤ after.spawned
  numbered : after.Numbered

theorem Grows.of_same {before after : Bench} (numbered : before.Numbered) (tasks : after.tasks = before.tasks)
    (spawned : after.spawned = before.spawned) : Grows before after := by
  refine ⟨fun id task found => tasks ▸ found, fun id task found => .inl (tasks ▸ found), ?_, fun id member => ?_⟩
  · exact Nat.le_of_eq spawned.symm
  · rw [spawned]
    exact numbered id (tasks ▸ member)

theorem tasks_spawn (numbered : bench.Numbered) (task other : Task) (id : Nat) :
    (bench.spawn task).tasks[id]? = some other ↔
      bench.tasks[id]? = some other ∨ id = bench.spawned ∧ task = other := by
  change (bench.tasks.insert bench.spawned task)[id]? = some other ↔ _
  rw [ExtTreeMap.getElem?_insert]
  by_cases same : bench.spawned = id
  · subst same
    have missing : bench.tasks[bench.spawned]? = none :=
      ExtTreeMap.getElem?_eq_none fun member => Nat.lt_irrefl _ (numbered _ member)
    simp [missing]
  · simp [same, Ne.symm same]

theorem numbered_spawn (numbered : bench.Numbered) (task : Task) : (bench.spawn task).Numbered := by
  intro id member
  change id ∈ bench.tasks.insert bench.spawned task at member
  rw [ExtTreeMap.mem_insert] at member
  change id < bench.spawned + 1
  cases member with
  | inl same => exact Std.compare_eq_iff_eq.mp same ▸ Nat.lt_succ_self _
  | inr before => exact Nat.lt_succ_of_lt (numbered id before)

theorem grows_delivering (agendas : List (List Action)) (bench : Bench) (numbered : bench.Numbered)
    (deliver : ∀ agenda ∈ agendas, ∀ action ∈ agenda, action.isDelivery = true) :
    Grows bench (bench.delivering agendas) := by
  induction agendas generalizing bench with
  | nil => exact .of_same numbered rfl rfl
  | cons agenda agendas ih =>
      have later := ih (bench.spawn { agenda }) (numbered_spawn numbered _) fun other member =>
        deliver other (List.mem_cons_of_mem agenda member)
      refine ⟨fun id task found => ?_, fun id task found => ?_, Nat.le_of_succ_le later.grown, later.numbered⟩
      · exact later.kept id task ((tasks_spawn numbered _ task id).mpr (.inl found))
      · cases later.fresh id task found with
        | inr delivers => exact .inr ⟨Nat.le_of_succ_le delivers.1, delivers.2⟩
        | inl spawned =>
            cases (tasks_spawn numbered _ task id).mp spawned with
            | inl before => exact .inl before
            | inr own => exact .inr ⟨Nat.le_of_eq own.1.symm, own.2 ▸ deliver agenda (List.mem_cons_self ..)⟩

theorem Delivers.grows {before after : Bench} (delivers : before.Delivers after) (numbered : before.Numbered) :
    Grows before after := by
  obtain ⟨cluster, agendas, rfl, deliver⟩ := delivers
  have grows := grows_delivering agendas (before.withCluster cluster) numbered deliver
  exact ⟨grows.kept, grows.fresh, grows.grown, grows.numbered⟩

theorem discards_eq (lost : List Incarnation) (bench : Bench) :
    lost.foldl (fun (bench : Bench) k => bench.withCluster (bench.cluster.discard (bench.refused k) k)) bench =
      bench.withCluster (lost.foldl (fun cluster k => cluster.discard (bench.refused k) k) bench.cluster) := by
  induction lost generalizing bench with
  | nil => rfl
  | cons k lost ih => exact ih (bench.withCluster (bench.cluster.discard (bench.refused k) k))

theorem bury_discards (bench : Bench) :
    ∃ (lost : List Incarnation) (doomed : List Incarnation),
      bench.bury =
        { bench with
          cluster := lost.foldl (fun cluster k => cluster.discard (bench.refused k) k) bench.cluster
          doomed } ∧
      ∀ k, k ∉ bench.doomed → k ∉ lost ∧ k ∉ doomed := by
  refine ⟨(bench.doomed.partition bench.isKept).2, (bench.doomed.partition bench.isKept).1,
    discards_eq _ { bench with doomed := _ }, fun k spared => ?_⟩
  rw [List.partition_eq_filter_filter]
  exact ⟨fun lost => spared (List.mem_filter.mp lost).1, fun doomed => spared (List.mem_filter.mp doomed).1⟩

variable {id : Nat} {action : Action}

-- A task takes the action that it had planned next, and then plans what comes of it before all else.
structure Taken (bench : Bench) (id : Nat) (action : Action) (task : Task) (agenda : List Action) (after : Bench)
    (more : Option (List Action)) : Prop where
  found : bench.tasks[id]? = some task
  planned : task.agenda = action :: agenda
  ready : id ∈ bench.ready
  performed : (bench.front id).perform id task.request action = (after, more)
  went : bench.go id =
    { after with
      tasks := after.tasks.insert id { task with agenda := more.getD [] ++ agenda }
      ready := if more.isSome then after.ready else after.ready.tail }

theorem go_taken (taken : bench.next? (.go id) = some action) :
    ∃ task agenda after more, bench.Taken id action task agenda after more := by
  rw [next?] at taken
  split at taken
  · rename_i ready
    obtain ⟨task, found, head⟩ := Option.bind_eq_some_iff.mp taken
    obtain ⟨agenda, planned⟩ := List.head?_eq_some_iff.mp head
    have first : (bench.front id).ready = id :: bench.ready.erase id := rfl
    have here : (bench.front id).tasks[id]? = some task := found
    cases performed : (bench.front id).perform id task.request action with
    | mk after more =>
        refine ⟨task, agenda, after, more, ⟨found, planned, ready, performed, ?_⟩⟩
        rw [go, if_pos ready, turn]
        simp only [first, here, planned, performed]
        cases more <;> rfl
  · cases taken

theorem next_taken {move : Move} (next : bench.next? move = some action) :
    ∃ id task agenda after more, move = .go id ∧ bench.Taken id action task agenda after more := by
  cases move with
  | arrive index request => cases next
  | go id =>
      obtain ⟨task, agenda, after, more, taken⟩ := go_taken next
      exact ⟨id, task, agenda, after, more, rfl, taken⟩

theorem grows_install (numbered : bench.Numbered) (node : NodeId) : Grows bench (bench.install node).1 := by
  rw [install]
  split
  · exact .of_same numbered rfl rfl
  · dsimp only
    split
    · rename_i old _
      obtain ⟨lost, doomed, buried, _⟩ := bury_discards
        { bench with
          cluster := { bench.cluster with current := bench.cluster.current.erase node }
          doomed := bench.doomed ++ [old] }
      rw [lose, buried]
      exact .of_same numbered rfl rfl
    · exact .of_same numbered rfl rfl

theorem grows_perform (bench : Bench) (numbered : bench.Numbered) (id : Nat) (request : Option Nat) (action : Action) :
    Grows bench (bench.perform id request action).1 := by
  have unchanged : Grows bench bench := .of_same numbered rfl rfl
  cases action with
  | acquire lock =>
      change Grows bench (bench.acquire id lock).1
      rw [acquire]
      split <;> exact .of_same numbered rfl rfl
  | release lock =>
      rw [perform, release]
      split <;> exact .of_same numbered rfl rfl
  | pass k service =>
      change Grows bench (bench.pass id (k, service)).1
      rw [pass]
      split <;> exact .of_same numbered rfl rfl
  | work k work =>
      rw [perform]
      split
      · exact unchanged
      · exact (bench.delivers_act k _ work).grows numbered
  | tellCircle circle view => exact unchanged
  | install node => exact grows_install numbered node
  | answer reply => cases request <;> exact .of_same numbered rfl rfl
  | sleep => exact unchanged

theorem more_acquire (bench : Bench) (id : Nat) (request : Option Nat) (lock : Lock) :
    (bench.perform id request (.acquire lock)).2.getD [] = [] := by
  change (if (bench.acquire id lock).2 then some [] else none).getD [] = ([] : List Action)
  split <;> rfl

theorem more_pass (bench : Bench) (id : Nat) (request : Option Nat) (k : Incarnation) (service : Service) :
    (bench.perform id request (.pass k service)).2.getD [] = [] := by
  change (if (bench.pass id (k, service)).2 then some [] else none).getD [] = ([] : List Action)
  split <;> rfl

theorem cluster_perform (bench : Bench) (id : Nat) (request : Option Nat) (action : Action)
    (idle : ∀ k work, action ≠ .work k work) (settled : ∀ name, action ≠ .install name) :
    (bench.perform id request action).1.cluster = bench.cluster := by
  cases action with
  | acquire lock =>
      change (bench.acquire id lock).1.cluster = _
      rw [acquire]
      split <;> rfl
  | release lock =>
      rw [perform, release]
      split <;> rfl
  | pass k service =>
      change (bench.pass id (k, service)).1.cluster = _
      rw [pass]
      split <;> rfl
  | work k work => exact absurd rfl (idle k work)
  | tellCircle circle view => rfl
  | install name => exact absurd rfl (settled name)
  | answer reply => cases request <;> rfl
  | sleep => rfl

theorem performed_work (bench : Bench) (id : Nat) (request : Option Nat) (k : Incarnation) (node : Node) (work : Work)
    (here : bench.cluster.nodes[k]? = some node) :
    bench.perform id request (.work k work) = ((bench.act k node work).1, some (bench.act k node work).2) := by
  rw [perform, here]

namespace Taken

variable {task : Task} {agenda : List Action} {after : Bench} {more : Option (List Action)}

theorem grows (taken : bench.Taken id action task agenda after more) (numbered : bench.Numbered) : Grows bench after := by
  have grows := grows_perform (bench.front id) numbered id task.request action
  rw [taken.performed] at grows
  exact ⟨grows.kept, grows.fresh, grows.grown, grows.numbered⟩

theorem tasks (taken : bench.Taken id action task agenda after more) (other : Nat) :
    (bench.go id).tasks[other]? =
      if id = other then some { task with agenda := more.getD [] ++ agenda } else after.tasks[other]? := by
  rw [taken.went]
  simp [ExtTreeMap.getElem?_insert]

theorem numbered (taken : bench.Taken id action task agenda after more) (numbered : bench.Numbered) :
    (bench.go id).Numbered := by
  have grows := taken.grows numbered
  have own : id ∈ after.tasks := by
    rw [ExtTreeMap.mem_iff_isSome_getElem?, grows.kept id task taken.found]
    rfl
  rw [taken.went]
  intro other member
  change other ∈ after.tasks.insert id _ at member
  rw [ExtTreeMap.mem_insert] at member
  cases member with
  | inl same => exact Std.compare_eq_iff_eq.mp same ▸ grows.numbered id own
  | inr before => exact grows.numbered other before

theorem keeps (taken : bench.Taken id action task agenda after more) (numbered : bench.Numbered) (other : Action)
    (plans : bench.Plans other) : other = action ∨ (bench.go id).Plans other := by
  obtain ⟨owner, theirs, found, member⟩ := plans
  by_cases same : id = owner
  · subst same
    rw [taken.found, Option.some.injEq] at found
    subst found
    rw [taken.planned, List.mem_cons] at member
    refine member.imp_right fun later => ⟨id, _, (taken.tasks id).trans (if_pos rfl), ?_⟩
    exact List.mem_append_right _ later
  · have kept := (taken.grows numbered).kept owner theirs found
    exact .inr ⟨owner, theirs, (taken.tasks owner).trans ((if_neg same).trans kept), member⟩

theorem plans_more (taken : bench.Taken id action task agenda after more) (other : Action)
    (member : other ∈ more.getD []) : (bench.go id).Plans other :=
  ⟨id, _, (taken.tasks id).trans (if_pos rfl), List.mem_append_left _ member⟩

theorem source (taken : bench.Taken id action task agenda after more) (numbered : bench.Numbered) (other : Action)
    (plans : (bench.go id).Plans other) :
    bench.Plans other ∨ other ∈ more.getD [] ∨ other.isDelivery = true := by
  obtain ⟨owner, theirs, found, member⟩ := plans
  rw [taken.tasks owner] at found
  by_cases same : id = owner
  · rw [if_pos same, Option.some.injEq] at found
    subst found
    cases List.mem_append.mp member with
    | inl added => exact .inr (.inl added)
    | inr later => exact .inl ⟨id, task, taken.found, taken.planned ▸ List.mem_cons_of_mem action later⟩
  · rw [if_neg same] at found
    cases (taken.grows numbered).fresh owner theirs found with
    | inl before => exact .inl ⟨owner, theirs, before, member⟩
    | inr delivers => exact .inr (.inr (delivers.2 other member))

end Taken

theorem go_rests (rests : bench.next? (.go id) = none) :
    bench.go id = bench ∨
    (bench.tasks[id]? = none ∧ bench.go id = { bench with ready := bench.ready.erase id }) ∨
    ∃ task, bench.tasks[id]? = some task ∧ task.agenda = [] ∧
      bench.go id = { bench with ready := bench.ready.erase id }.finish id := by
  rw [go]
  by_cases ready : id ∈ bench.ready
  · rw [next?, if_pos ready] at rests
    rw [if_pos ready]
    have first : (bench.front id).ready = id :: bench.ready.erase id := rfl
    have here : (bench.front id).tasks[id]? = bench.tasks[id]? := rfl
    cases found : bench.tasks[id]? with
    | none =>
        refine .inr (.inl ⟨rfl, ?_⟩)
        rw [turn]
        simp only [first, here, found]
        rfl
    | some task =>
        rw [found, Option.bind_some, List.head?_eq_none_iff] at rests
        refine .inr (.inr ⟨task, rfl, rests, ?_⟩)
        rw [turn]
        simp only [first, here, found, rests]
        rfl
  · exact .inl (if_neg ready)

theorem tasks_finish (bench : Bench) (id other : Nat) :
    (bench.finish id).tasks[other]? = if id = other then none else bench.tasks[other]? := by
  obtain ⟨lost, doomed, buried, _⟩ := bury_discards { bench with tasks := bench.tasks.erase id }
  rw [finish, buried]
  simp [ExtTreeMap.getElem?_erase]

theorem rests_plans (rests : bench.next? (.go id) = none) (other : Action) :
    (bench.go id).Plans other ↔ bench.Plans other := by
  rcases go_rests rests with same | ⟨_, same⟩ | ⟨task, found, done, same⟩
  · rw [same]
  · rw [same]
    rfl
  · rw [same]
    constructor
    · rintro ⟨owner, theirs, there, member⟩
      rw [tasks_finish] at there
      split at there
      · cases there
      · exact ⟨owner, theirs, there, member⟩
    · rintro ⟨owner, theirs, there, member⟩
      refine ⟨owner, theirs, ?_, member⟩
      rw [tasks_finish, if_neg]
      · exact there
      · rintro rfl
        rw [found, Option.some.injEq] at there
        subst there
        rw [done] at member
        cases member

theorem rests_numbered (numbered : bench.Numbered) (rests : bench.next? (.go id) = none) : (bench.go id).Numbered := by
  rcases go_rests rests with same | ⟨_, same⟩ | ⟨task, found, done, same⟩
  · rwa [same]
  · rw [same]
    exact numbered
  · obtain ⟨lost, doomed, buried, _⟩ := bury_discards
      { bench with ready := bench.ready.erase id, tasks := bench.tasks.erase id }
    rw [same, finish, buried]
    intro other member
    exact numbered other (ExtTreeMap.mem_of_mem_erase member)

theorem begin_node_keeps (bench : Bench) (k : Incarnation) (node : Node) (request : NodeRequest) :
    (bench.beginNode k node request).1.tasks = bench.tasks ∧
      (bench.beginNode k node request).1.spawned = bench.spawned := by
  cases request with
  | unpark service =>
      change (bench.unpark (k, service)).1.tasks = _ ∧ (bench.unpark (k, service)).1.spawned = _
      rw [unpark]
      split <;> exact ⟨rfl, rfl⟩
  | createGroup group =>
      rw [beginNode]
      cases node.registry.createGroup? group <;> exact ⟨rfl, rfl⟩
  | dropGroup group =>
      rw [beginNode]
      cases node.registry.dropGroup? group <;> exact ⟨rfl, rfl⟩
  | put group key =>
      rw [beginNode]
      split <;> exact ⟨rfl, rfl⟩
  | _ => exact ⟨rfl, rfl⟩

theorem begin_keeps (bench : Bench) (request : Request) :
    (bench.begin request).1.tasks = bench.tasks ∧ (bench.begin request).1.spawned = bench.spawned := by
  cases request with
  | addNode id => exact ⟨rfl, rfl⟩
  | join id => exact ⟨rfl, rfl⟩
  | putRaw key value => exact ⟨rfl, rfl⟩
  | appoint id => exact ⟨rfl, rfl⟩
  | leave id =>
      rw [begin]
      split <;> exact ⟨rfl, rfl⟩
  | drop id =>
      rw [begin]
      split
      · exact ⟨rfl, rfl⟩
      · rename_i k _
        obtain ⟨lost, doomed, buried, _⟩ := bury_discards
          { bench with
            cluster := { bench.cluster with current := bench.cluster.current.erase id }
            doomed := bench.doomed ++ [k] }
        rw [lose, buried]
        exact ⟨rfl, rfl⟩
  | node id request =>
      rw [begin]
      split
      · exact ⟨rfl, rfl⟩
      · exact bench.begin_node_keeps _ _ request

theorem arrive_eq (bench : Bench) (index : Nat) (request : Request) :
    ∃ began keeps agenda, { bench with answered := ∅ }.begin request = (began, keeps, agenda) ∧
      began.tasks = bench.tasks ∧ began.spawned = bench.spawned ∧
      bench.arrive index request = began.spawn { request := some index, keeps, agenda } := by
  have kept := { bench with answered := ∅ }.begin_keeps request
  rw [arrive]
  generalize { bench with answered := ∅ }.begin request = outcome at kept
  obtain ⟨began, keeps, agenda⟩ := outcome
  exact ⟨began, keeps, agenda, rfl, kept.1, kept.2, rfl⟩

theorem arrive_tasks (numbered : bench.Numbered) (index : Nat) (request : Request) (id : Nat) (task : Task)
    (found : (bench.arrive index request).tasks[id]? = some task) :
    bench.tasks[id]? = some task ∨
      id = bench.spawned ∧ task.agenda = ({ bench with answered := ∅ }.begin request).2.2 := by
  obtain ⟨began, keeps, agenda, begins, tasks, spawned, arrives⟩ := bench.arrive_eq index request
  have counted : began.Numbered := by
    rw [Numbered, tasks, spawned]
    exact numbered
  rw [arrives] at found
  rw [begins]
  rcases (tasks_spawn counted _ task id).mp found with before | ⟨same, rfl⟩
  · exact .inl (tasks ▸ before)
  · exact .inr ⟨same.trans spawned, rfl⟩

theorem arrive_plans (numbered : bench.Numbered) (index : Nat) (request : Request) (other : Action) :
    (bench.arrive index request).Plans other ↔
      bench.Plans other ∨ other ∈ ({ bench with answered := ∅ }.begin request).2.2 := by
  constructor
  · rintro ⟨id, task, found, member⟩
    rcases arrive_tasks numbered index request id task found with before | ⟨_, same⟩
    · exact .inl ⟨id, task, before, member⟩
    · exact .inr (same ▸ member)
  · obtain ⟨began, keeps, agenda, begins, tasks, spawned, arrives⟩ := bench.arrive_eq index request
    have counted : began.Numbered := by
      rw [Numbered, tasks, spawned]
      exact numbered
    rw [arrives, begins]
    rintro (⟨id, task, found, member⟩ | member)
    · exact ⟨id, task, (tasks_spawn counted _ task id).mpr (.inl (tasks ▸ found)), member⟩
    · exact ⟨began.spawned, _, (tasks_spawn counted _ _ _).mpr (.inr ⟨rfl, rfl⟩), member⟩

theorem numbered_move (numbered : bench.Numbered) (move : Move) : (bench.move move).Numbered := by
  cases move with
  | arrive index request =>
      obtain ⟨began, keeps, agenda, _, tasks, spawned, arrives⟩ := bench.arrive_eq index request
      have counted : began.Numbered := by
        rw [Numbered, tasks, spawned]
        exact numbered
      rw [move, arrives]
      exact numbered_spawn counted _
  | go id =>
      cases next : bench.next? (.go id) with
      | none => exact rests_numbered numbered next
      | some action =>
          obtain ⟨task, agenda, after, more, taken⟩ := go_taken next
          exact taken.numbered numbered

-- Whatever is planned is still planned after a move, unless the move was to do it.
theorem move_keeps (numbered : bench.Numbered) (move : Move) (other : Action) (plans : bench.Plans other) :
    bench.next? move = some other ∨ (bench.move move).Plans other := by
  cases move with
  | arrive index request => exact .inr ((arrive_plans numbered index request other).mpr (.inl plans))
  | go id =>
      cases next : bench.next? (.go id) with
      | none => exact .inr ((rests_plans next other).mpr plans)
      | some action =>
          obtain ⟨task, agenda, after, more, taken⟩ := go_taken next
          exact (taken.keeps numbered other plans).imp_left fun same => congrArg some same.symm

theorem next_plans (move : Move) (next : bench.next? move = some action) : bench.Plans action := by
  obtain ⟨id, task, agenda, after, more, _, taken⟩ := next_taken next
  exact ⟨id, task, taken.found, taken.planned ▸ List.mem_cons_self ..⟩

end Bench

structure Course where
  start : Bench
  moves : List Move

namespace Course

variable (course : Course)

def after (i : Nat) : Bench := course.start.play (course.moves.take i)

def action? (i : Nat) : Option Action := course.moves[i]?.bind (course.after i).next?

theorem after_zero : course.after 0 = course.start := rfl

theorem after_succ (i : Nat) :
    (∃ move, course.moves[i]? = some move ∧ course.after (i + 1) = (course.after i).move move) ∨
      course.moves[i]? = none ∧ course.after (i + 1) = course.after i := by
  rw [after, after]
  cases found : course.moves[i]? with
  | none =>
      have past := List.getElem?_eq_none_iff.mp found
      rw [List.take_of_length_le past, List.take_of_length_le (Nat.le_succ_of_le past)]
      exact .inr ⟨rfl, rfl⟩
  | some move =>
      refine .inl ⟨move, rfl, ?_⟩
      rw [List.take_add_one, found, Bench.play, List.foldl_append]
      rfl

theorem always {P : Bench → Prop} (first : P course.start) (step : ∀ bench move, P bench → P (bench.move move)) (i : Nat) :
    P (course.after i) := by
  induction i with
  | zero => exact first
  | succ i ih =>
      rcases course.after_succ i with ⟨move, _, moved⟩ | ⟨_, same⟩
      · exact moved ▸ step _ move ih
      · exact same ▸ ih

end Course

end Coherence.Interleaving
