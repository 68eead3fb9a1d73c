import Coherence.Proofs.Recomputing
import Coherence.Proofs.Syncing

set_option autoImplicit false

namespace Coherence.Interleaving

open Std

theorem number_le (n : Nat) : (UInt64.ofNat n).toNat ≤ n := by
  rw [UInt64.toNat_ofNat']
  exact Nat.mod_le _ _

theorem number_eq (n : Nat) (capacity : n < UInt64.size) : (UInt64.ofNat n).toNat = n :=
  UInt64.toNat_ofNat_of_lt' capacity

theorem install_generation (current next : Snapshot) :
    current.generation.toNat ≤ (current.install next).generation.toNat ∧
      next.generation.toNat ≤ (current.install next).generation.toNat := by
  rw [Snapshot.install]
  split
  · rename_i earlier
    exact ⟨Nat.le_refl _, Nat.le_of_lt (UInt64.lt_iff_toNat_lt.mp earlier)⟩
  · rename_i later
    rw [UInt64.lt_iff_toNat_lt] at later
    exact ⟨Nat.le_of_not_lt later, Nat.le_refl _⟩

namespace Action

def installed? (k : Incarnation) : Action → Option UInt64
  | .work j (.entries (.recomputing generation) _) => if j = k then some generation else none
  | _ => none

def clears (k : Incarnation) : Action → Bool
  | .work j .endStop => j = k
  | _ => false

theorem learn_own (k : Incarnation) (memory : Memory) (work : Work) :
    (Action.work k work).learn k memory = work.learn memory := if_pos rfl

theorem draws_learn (k : Incarnation) (memory : Memory) (action : Action) :
    memory.draws ≤ (action.learn k memory).draws := by
  unfold learn
  split
  · split
    · unfold Work.learn
      split <;> simp
    · exact Nat.le_refl _
  · exact Nat.le_refl _

theorem id_learn (k : Incarnation) (memory : Memory) (action : Action) : (action.learn k memory).id = memory.id := by
  unfold learn
  split
  · split
    · unfold Work.learn
      split <;> rfl
    · rfl
  · rfl

theorem snapshot_learn (k : Incarnation) (memory : Memory) (action : Action) :
    (action.learn k memory).snapshot = memory.snapshot ∨
    (∃ generation contents, action = .work k (.entries (.recomputing generation) (.ok contents)) ∧
      (action.learn k memory).snapshot = ⟨bridged memory.id contents, generation⟩) ∨
    action = .work k .endStop ∧ (action.learn k memory).draws = memory.draws + 1 ∧
      (action.learn k memory).snapshot = ⟨∅, UInt64.ofNat (memory.draws + 1)⟩ := by
  unfold learn
  split
  · rename_i j work
    split
    · rename_i same
      subst same
      unfold Work.learn
      split
      · exact .inl rfl
      · exact .inr (.inr ⟨rfl, rfl, rfl⟩)
      · rename_i generation contents
        dsimp only
        rw [Snapshot.install]
        split
        · exact .inl rfl
        · exact .inr (.inl ⟨generation, contents, rfl, rfl⟩)
      · exact .inl rfl
    · exact .inl rfl
  · exact .inl rfl

theorem generation_learn (k : Incarnation) (memory : Memory) (action : Action)
    (dated : memory.snapshot.generation.toNat ≤ memory.draws)
    (capacity : (action.learn k memory).draws < UInt64.size) :
    memory.snapshot.generation.toNat ≤ (action.learn k memory).snapshot.generation.toNat := by
  revert capacity
  unfold learn
  split
  · split
    · unfold Work.learn
      split
      · exact fun _ => Nat.le_refl _
      · intro capacity
        rw [number_eq _ capacity]
        exact Nat.le_succ_of_le dated
      · exact fun _ => (install_generation memory.snapshot _).1
      · exact fun _ => Nat.le_refl _
    · exact fun _ => Nat.le_refl _
  · exact fun _ => Nat.le_refl _

end Action

namespace Course

variable (course : Course) (k : Incarnation) (i : Nat)

def drawn? : Option UInt64 :=
  match course.action? i, (course.after i).cluster.nodes[k]? with
  | some (.work j .recompute), some node => if j = k then some node.drawGeneration.generation else none
  | _, _ => none

-- The number of the recomputation that gets to see the whole store.
def seen? : Option UInt64 :=
  match course.action? i, (course.after i).cluster.nodes[k]? with
  | some (.work j (.read (.recomputing generation))), some node =>
      if j = k ∧ (course.after i).refused k .getAll = false ∧ node.replica.unreachable = false then some generation
      else none
  | _, _ => none

def installed? : Option UInt64 := (course.action? i).bind (Action.installed? k)

def clears : Bool := (course.action? i).any (Action.clears k)

def runs : Bool := (course.after i).cluster.isRunning k

def entries : Entries := (course.after i).cluster.entries

def draws : Nat := (course.after i).cluster.drawsOf k

-- The node begins to run, or the store changes while it does.
def Stirs : Prop :=
  course.runs k i = false ∧ course.runs k (i + 1) = true ∨
    course.runs k i = true ∧ course.entries (i + 1) ≠ course.entries i

-- Whenever that happens, a recomputation starts later on and gets to see the store.
def Heeded : Prop :=
  ∀ i, course.Stirs k i → ∃ d r generation, i < d ∧ d < r ∧ course.drawn? k d = some generation ∧
    course.seen? k r = some generation

def InFlight : Prop :=
  ∃ action generation, (course.after i).Plans action ∧ action.recomputing? = some (k, generation)

variable {course k i}

theorem drawn_eq_some (generation : UInt64) (drawn : course.drawn? k i = some generation) :
    ∃ node, course.action? i = some (.work k .recompute) ∧ (course.after i).cluster.nodes[k]? = some node ∧
      generation = node.drawGeneration.generation := by
  rw [drawn?] at drawn
  split at drawn
  · rename_i j node action here
    split at drawn
    · rename_i same
      subst same
      exact ⟨node, action, here, (Option.some.inj drawn).symm⟩
    · cases drawn
  · cases drawn

theorem seen_eq_some (generation : UInt64) (seen : course.seen? k i = some generation) :
    ∃ node, course.action? i = some (.work k (.read (.recomputing generation))) ∧
      (course.after i).cluster.nodes[k]? = some node ∧ (course.after i).refused k .getAll = false ∧
      node.replica.unreachable = false := by
  rw [seen?] at seen
  split at seen
  · rename_i j number node action here
    split at seen
    · rename_i facts
      obtain ⟨rfl, granted, reachable⟩ := facts
      cases seen
      exact ⟨node, action, here, granted, reachable⟩
    · cases seen
  · cases seen

theorem installed_eq_some (generation : UInt64) (installed : course.installed? k i = some generation) :
    ∃ result, course.action? i = some (.work k (.entries (.recomputing generation) result)) := by
  obtain ⟨action, taken, number⟩ := Option.bind_eq_some_iff.mp installed
  unfold Action.installed? at number
  split at number
  · split at number
    · rename_i same
      subst same
      cases number
      exact ⟨_, taken⟩
    · cases number
  · cases number

theorem clears_eq_true (clears : course.clears k i = true) : course.action? i = some (.work k .endStop) := by
  obtain ⟨action, taken, cleared⟩ := (Option.any_eq_true _ _).mp clears
  unfold Action.clears at cleared
  split at cleared
  · rw [of_decide_eq_true cleared] at taken
    exact taken
  · cases cleared

variable (course)

theorem action_of_moved (move : Move) (found : course.moves[i]? = some move) :
    course.action? i = (course.after i).next? move := by
  rw [action?, found, Option.bind_some]

theorem action_of_ended (found : course.moves[i]? = none) : course.action? i = none := by
  rw [action?, found, Option.bind_none]

theorem action_plans (action : Action) (taken : course.action? i = some action) : (course.after i).Plans action := by
  obtain ⟨move, _, next⟩ := Option.bind_eq_some_iff.mp taken
  exact Bench.next_plans move next

theorem keeps_planned (numbered : course.start.Numbered) (action : Action) (plans : (course.after i).Plans action) :
    course.action? i = some action ∨ (course.after (i + 1)).Plans action := by
  have counted := course.always numbered (fun _ move numbered => Bench.numbered_move numbered move) i
  rcases course.after_succ i with ⟨move, found, moved⟩ | ⟨found, same⟩
  · rw [course.action_of_moved move found, moved]
    exact Bench.move_keeps counted move action plans
  · exact .inr (same ▸ plans)

theorem source (numbered : course.start.Numbered) (action : Action) (generation : UInt64)
    (about : action.recomputing? = some (k, generation)) (plans : (course.after (i + 1)).Plans action) :
    (course.after i).Plans action ∨ ∃ taking, course.action? i = some taking ∧
      Bench.Continues (course.after i).cluster taking k generation action := by
  have counted := course.always numbered (fun _ move numbered => Bench.numbered_move numbered move) i
  rcases course.after_succ i with ⟨move, found, moved⟩ | ⟨found, same⟩
  · rw [moved] at plans
    rw [course.action_of_moved move found]
    exact Bench.recomputing_source counted move action k generation about plans
  · exact .inl (same ▸ plans)

theorem memory_succ (counted : course.start.Counted) (node : Node)
    (here : (course.after i).cluster.nodes[k]? = some node) :
    ∃ last, (course.after (i + 1)).cluster.nodes[k]? = some last ∧
      last.memory = (course.action? i).elim node.memory (·.learn k node.memory) := by
  have numbered := course.always counted (fun _ move counted => Bench.counted_move counted move) i
  rcases course.after_succ i with ⟨move, found, moved⟩ | ⟨found, same⟩
  · rw [moved, course.action_of_moved move found]
    exact Bench.memory_move numbered move k node here
  · rw [same, course.action_of_ended found]
    exact ⟨node, here, rfl⟩

theorem created (last : Node) (missing : (course.after i).cluster.nodes[k]? = none)
    (found : (course.after (i + 1)).cluster.nodes[k]? = some last) : ∃ name, last = .create name := by
  rcases course.after_succ i with ⟨move, _, moved⟩ | ⟨_, same⟩
  · exact Bench.created_move move k last missing (moved ▸ found)
  · cases missing.symm.trans (same ▸ found)

theorem found_later (counted : course.start.Counted) (node : Node) (here : (course.after i).cluster.nodes[k]? = some node)
    (j : Nat) (later : i ≤ j) : ∃ last, (course.after j).cluster.nodes[k]? = some last := by
  induction later with
  | refl => exact ⟨node, here⟩
  | step _ ih =>
      obtain ⟨last, there⟩ := ih
      obtain ⟨next, found, _⟩ := course.memory_succ counted last there
      exact ⟨next, found⟩

theorem draws_found (node : Node) (here : (course.after i).cluster.nodes[k]? = some node) :
    course.draws k i = node.memory.draws :=
  (course.after i).cluster.draws_of_found k node here

theorem draws_succ (counted : course.start.Counted) : course.draws k i ≤ course.draws k (i + 1) := by
  cases here : (course.after i).cluster.nodes[k]? with
  | none =>
      rw [draws, Cluster.drawsOf, here]
      exact Nat.zero_le _
  | some node =>
      obtain ⟨last, there, learned⟩ := course.memory_succ counted node here
      rw [course.draws_found node here, course.draws_found last there, learned]
      cases course.action? i with
      | none => exact Nat.le_refl _
      | some action => exact action.draws_learn k node.memory

theorem draws_mono (counted : course.start.Counted) (j : Nat) (later : i ≤ j) : course.draws k i ≤ course.draws k j := by
  induction later with
  | refl => exact Nat.le_refl _
  | step _ ih => exact Nat.le_trans ih (course.draws_succ counted)

structure Fresh : Prop where
  numbered : course.start.Numbered
  counted : course.start.Counted
  empty : ∀ k : Incarnation, course.start.cluster.nodes[k]? = none
  idle : ∀ action, ¬ course.start.Plans action

-- What a node knows or is about to learn is from a reading of the whole store, or from a time when it did not run.
structure Sourced (k : Incarnation) (j : Nat) : Prop where
  known : ∀ node, (course.after j).cluster.nodes[k]? = some node → ∃ i, i ≤ j ∧
    node.snapshot.generation.toNat ≤ course.draws k i ∧
    (node.snapshot.groups = ∅ ∧ course.runs k i = false ∨ node.snapshot.groups = bridged node.id (course.entries i))
  drawn : ∀ generation, (course.after j).Plans (.work k (.read (.recomputing generation))) →
    generation.toNat ≤ course.draws k j
  read : ∀ generation contents, (course.after j).Plans (.work k (.entries (.recomputing generation) (.ok contents))) →
    ∃ i, i ≤ j ∧ generation.toNat ≤ course.draws k i ∧ contents = course.entries i

variable {course}

theorem Sourced.drawn_succ (fresh : course.Fresh) (j : Nat) (sourced : course.Sourced k j) (generation : UInt64)
    (plans : (course.after (j + 1)).Plans (.work k (.read (.recomputing generation)))) :
    generation.toNat ≤ course.draws k (j + 1) := by
  rcases course.source fresh.numbered _ generation rfl plans with before | ⟨taking, taken, continues⟩
  · exact Nat.le_trans (sourced.drawn generation before) (course.draws_succ fresh.counted)
  · cases continues with
    | drawn node here starts number =>
        obtain ⟨last, there, learned⟩ := course.memory_succ fresh.counted node here
        rw [taken, starts, Option.elim_some, Action.learn_own] at learned
        rw [course.draws_found last there, learned, number]
        exact number_le (node.draws + 1)

theorem Sourced.read_succ (fresh : course.Fresh) (j : Nat) (sourced : course.Sourced k j) (generation : UInt64)
    (contents : Entries)
    (plans : (course.after (j + 1)).Plans (.work k (.entries (.recomputing generation) (.ok contents)))) :
    ∃ i, i ≤ j + 1 ∧ generation.toNat ≤ course.draws k i ∧ contents = course.entries i := by
  rcases course.source fresh.numbered _ generation rfl plans with before | ⟨taking, taken, continues⟩
  · obtain ⟨i, earlier, drawn, same⟩ := sourced.read generation contents before
    exact ⟨i, Nat.le_succ_of_le earlier, drawn, same⟩
  · cases continues with
    | read node result here reads whole =>
        have reading := sourced.drawn generation (course.action_plans _ (reads ▸ taken))
        exact ⟨j, Nat.le_succ j, reading, whole contents rfl⟩

theorem stopped_succ (node : Node) (here : (course.after i).cluster.nodes[k]? = some node)
    (taken : course.action? i = some (.work k .endStop)) : course.runs k (i + 1) = false := by
  rcases course.after_succ i with ⟨move, found, moved⟩ | ⟨found, _⟩
  · rw [course.action_of_moved move found] at taken
    rw [runs, moved]
    exact Bench.stopped_move move k node here taken
  · rw [course.action_of_ended found] at taken
    cases taken

theorem snapshot_succ (counted : course.start.Counted) (node : Node)
    (here : (course.after i).cluster.nodes[k]? = some node) :
    ∃ last, (course.after (i + 1)).cluster.nodes[k]? = some last ∧ last.id = node.id ∧
      (last.snapshot = node.snapshot ∨
      (∃ generation contents, course.action? i = some (.work k (.entries (.recomputing generation) (.ok contents))) ∧
        last.snapshot = ⟨bridged node.id contents, generation⟩) ∨
      course.action? i = some (.work k .endStop) ∧ last.draws = node.draws + 1 ∧
        last.snapshot = ⟨∅, UInt64.ofNat (node.draws + 1)⟩) := by
  obtain ⟨last, there, learned⟩ := course.memory_succ counted node here
  refine ⟨last, there, ?_⟩
  cases taken : course.action? i with
  | none =>
      rw [taken, Option.elim_none] at learned
      exact ⟨congrArg Memory.id learned, .inl (congrArg Memory.snapshot learned)⟩
  | some action =>
      rw [taken, Option.elim_some] at learned
      have snapshot : last.snapshot = (action.learn k node.memory).snapshot := congrArg Memory.snapshot learned
      refine ⟨(congrArg Memory.id learned).trans (action.id_learn k node.memory), ?_⟩
      rcases action.snapshot_learn k node.memory with same | ⟨generation, contents, rfl, read⟩ | ⟨rfl, drew, cleared⟩
      · exact .inl (snapshot.trans same)
      · exact .inr (.inl ⟨generation, contents, rfl, snapshot.trans read⟩)
      · exact .inr (.inr ⟨rfl, (congrArg Memory.draws learned).trans drew, snapshot.trans cleared⟩)

theorem Sourced.known_succ (fresh : course.Fresh) (j : Nat) (sourced : course.Sourced k j) (last : Node)
    (there : (course.after (j + 1)).cluster.nodes[k]? = some last) :
    ∃ i, i ≤ j + 1 ∧ last.snapshot.generation.toNat ≤ course.draws k i ∧
      (last.snapshot.groups = ∅ ∧ course.runs k i = false ∨ last.snapshot.groups = bridged last.id (course.entries i)) := by
  cases here : (course.after j).cluster.nodes[k]? with
  | none =>
      obtain ⟨name, rfl⟩ := course.created last here there
      refine ⟨j + 1, Nat.le_refl _, Nat.zero_le _, .inl ⟨rfl, ?_⟩⟩
      rw [runs, Cluster.isRunning, there]
      rfl
  | some node =>
      obtain ⟨next, found, named, outcome⟩ := snapshot_succ fresh.counted node here
      rw [there, Option.some.injEq] at found
      subst found
      rw [named]
      rcases outcome with same | ⟨generation, contents, taken, read⟩ | ⟨taken, drew, cleared⟩
      · rw [same]
        obtain ⟨i, earlier, dated, source⟩ := sourced.known node here
        exact ⟨i, Nat.le_succ_of_le earlier, dated, source⟩
      · rw [read]
        obtain ⟨i, earlier, dated, rfl⟩ := sourced.read generation contents (course.action_plans _ taken)
        exact ⟨i, Nat.le_succ_of_le earlier, dated, .inr rfl⟩
      · refine ⟨j + 1, Nat.le_refl _, ?_, .inl ⟨?_, stopped_succ node here taken⟩⟩
        · rw [cleared, course.draws_found last there]
          exact drew ▸ number_le (node.draws + 1)
        · rw [cleared]

theorem sourced (fresh : course.Fresh) (j : Nat) : course.Sourced k j := by
  induction j with
  | zero =>
      refine ⟨fun node found => ?_, fun _ plans => ?_, fun _ _ plans => ?_⟩
      · cases (fresh.empty k).symm.trans found
      · exact absurd plans (fresh.idle _)
      · exact absurd plans (fresh.idle _)
  | succ j ih => exact ⟨ih.known_succ fresh j, ih.drawn_succ fresh j, ih.read_succ fresh j⟩

theorem dated (fresh : course.Fresh) (node : Node) (here : (course.after i).cluster.nodes[k]? = some node) :
    node.snapshot.generation.toNat ≤ node.draws := by
  obtain ⟨j, earlier, drawn, _⟩ := (sourced fresh i).known node here
  calc
    node.snapshot.generation.toNat ≤ course.draws k j := drawn
    _ ≤ course.draws k i := course.draws_mono fresh.counted i earlier
    _ = node.draws := course.draws_found node here

theorem generation_succ (fresh : course.Fresh) (capacity : course.draws k (i + 1) < UInt64.size) (node last : Node)
    (here : (course.after i).cluster.nodes[k]? = some node)
    (there : (course.after (i + 1)).cluster.nodes[k]? = some last) :
    node.snapshot.generation.toNat ≤ last.snapshot.generation.toNat := by
  obtain ⟨next, found, learned⟩ := course.memory_succ fresh.counted node here
  rw [there, Option.some.injEq] at found
  subst found
  rw [course.draws_found last there] at capacity
  change node.snapshot.generation.toNat ≤ last.memory.snapshot.generation.toNat
  rw [learned] at capacity ⊢
  cases taken : course.action? i with
  | none => exact Nat.le_refl _
  | some action =>
      rw [taken] at capacity
      exact action.generation_learn k node.memory (dated fresh node here) capacity

theorem generation_mono (fresh : course.Fresh) (j : Nat) (later : i ≤ j) (capacity : course.draws k j < UInt64.size)
    (node last : Node) (here : (course.after i).cluster.nodes[k]? = some node)
    (there : (course.after j).cluster.nodes[k]? = some last) :
    node.snapshot.generation.toNat ≤ last.snapshot.generation.toNat := by
  induction later generalizing last with
  | refl =>
      rw [here, Option.some.injEq] at there
      exact there ▸ Nat.le_refl _
  | @step j earlier ih =>
      obtain ⟨middle, found⟩ := course.found_later fresh.counted node here j earlier
      have before := ih (Nat.lt_of_le_of_lt (course.draws_succ fresh.counted) capacity) middle found
      exact Nat.le_trans before (generation_succ fresh capacity middle last found there)

theorem drawn_number (fresh : course.Fresh) (generation : UInt64) (drawn : course.drawn? k i = some generation)
    (capacity : course.draws k (i + 1) < UInt64.size) :
    generation.toNat = course.draws k i + 1 ∧ course.draws k (i + 1) = course.draws k i + 1 := by
  obtain ⟨node, taken, here, rfl⟩ := drawn_eq_some generation drawn
  obtain ⟨last, there, learned⟩ := course.memory_succ fresh.counted node here
  rw [taken, Option.elim_some, Action.learn_own] at learned
  have drew : course.draws k (i + 1) = course.draws k i + 1 := by
    rw [course.draws_found last there, course.draws_found node here, learned]
    rfl
  rw [drew, course.draws_found node here] at capacity
  refine ⟨?_, drew⟩
  rw [course.draws_found node here]
  exact number_eq _ capacity

theorem cleared_number (fresh : course.Fresh) (node last : Node) (here : (course.after i).cluster.nodes[k]? = some node)
    (there : (course.after (i + 1)).cluster.nodes[k]? = some last) (cleared : course.clears k i = true)
    (capacity : course.draws k (i + 1) < UInt64.size) : last.snapshot.generation.toNat = course.draws k i + 1 := by
  obtain ⟨next, found, learned⟩ := course.memory_succ fresh.counted node here
  rw [there, Option.some.injEq] at found
  subst found
  rw [clears_eq_true cleared, Option.elim_some, Action.learn_own] at learned
  rw [course.draws_found last there, learned] at capacity
  change last.memory.snapshot.generation.toNat = _
  rw [learned, course.draws_found node here]
  exact number_eq _ capacity

theorem ignored (fresh : course.Fresh) (generation : UInt64) (installed : course.installed? k i = some generation)
    (node last : Node) (here : (course.after i).cluster.nodes[k]? = some node)
    (there : (course.after (i + 1)).cluster.nodes[k]? = some last)
    (old : generation.toNat < node.snapshot.generation.toNat) : last.snapshot = node.snapshot := by
  obtain ⟨result, taken⟩ := installed_eq_some generation installed
  obtain ⟨next, found, learned⟩ := course.memory_succ fresh.counted node here
  rw [there, Option.some.injEq] at found
  subst found
  rw [taken, Option.elim_some, Action.learn_own] at learned
  have snapshot := congrArg Memory.snapshot learned
  cases result with
  | error fault => exact snapshot
  | ok contents => exact snapshot.trans (if_pos (UInt64.lt_iff_toNat_lt.mpr old))

-- Whatever was drawn before the snapshot was emptied is too old from then on.
theorem ignored_after_clear (fresh : course.Fresh) (d c j : Nat) (generation : UInt64) (first : d < c) (second : c < j)
    (capacity : course.draws k j < UInt64.size) (drawn : course.drawn? k d = some generation)
    (cleared : course.clears k c = true) (installed : course.installed? k j = some generation) (node last : Node)
    (here : (course.after j).cluster.nodes[k]? = some node)
    (there : (course.after (j + 1)).cluster.nodes[k]? = some last) : last.snapshot = node.snapshot := by
  have within (i : Nat) (earlier : i ≤ j) : course.draws k i < UInt64.size :=
    Nat.lt_of_le_of_lt (course.draws_mono fresh.counted j earlier) capacity
  obtain ⟨drawing, _, began, _⟩ := drawn_eq_some generation drawn
  obtain ⟨clearing, stopping⟩ := course.found_later fresh.counted drawing began c (Nat.le_of_lt first)
  obtain ⟨emptied, stopped⟩ := course.found_later fresh.counted drawing began (c + 1) (by omega)
  obtain ⟨number, drew⟩ := drawn_number fresh generation drawn (within (d + 1) (by omega))
  refine ignored fresh generation installed node last here there ?_
  calc
    generation.toNat = course.draws k (d + 1) := number.trans drew.symm
    _ ≤ course.draws k c := course.draws_mono fresh.counted c first
    _ < emptied.snapshot.generation.toNat := by
      rw [cleared_number fresh clearing emptied stopping stopped cleared (within (c + 1) second)]
      exact Nat.lt_succ_self _
    _ ≤ node.snapshot.generation.toNat := generation_mono fresh j second capacity emptied node stopped here

theorem seen_plans (generation : UInt64) (seen : course.seen? k i = some generation) :
    (course.after (i + 1)).Plans (.work k (.entries (.recomputing generation) (.ok (course.entries i)))) := by
  obtain ⟨node, taken, here, granted, reachable⟩ := seen_eq_some generation seen
  rcases course.after_succ i with ⟨move, found, moved⟩ | ⟨found, _⟩
  · rw [course.action_of_moved move found] at taken
    rw [moved]
    exact Bench.seen_move move k node here generation taken granted reachable
  · rw [course.action_of_ended found] at taken
    cases taken

theorem lands (fresh : course.Fresh) (generation : UInt64) (contents : Entries) (node last : Node)
    (taken : course.action? i = some (.work k (.entries (.recomputing generation) (.ok contents))))
    (here : (course.after i).cluster.nodes[k]? = some node)
    (there : (course.after (i + 1)).cluster.nodes[k]? = some last) :
    generation.toNat ≤ last.snapshot.generation.toNat := by
  obtain ⟨next, found, learned⟩ := course.memory_succ fresh.counted node here
  rw [there, Option.some.injEq] at found
  subst found
  rw [taken, Option.elim_some, Action.learn_own] at learned
  change _ ≤ last.memory.snapshot.generation.toNat
  rw [learned]
  exact (install_generation node.snapshot ⟨bridged node.id contents, generation⟩).2

-- What was seen is on its way until the snapshot is at least as recent.
theorem landed (fresh : course.Fresh) (r j : Nat) (later : r < j) (generation : UInt64)
    (seen : course.seen? k r = some generation) (capacity : course.draws k j < UInt64.size) (last : Node)
    (there : (course.after j).cluster.nodes[k]? = some last) :
    (course.after j).Plans (.work k (.entries (.recomputing generation) (.ok (course.entries r)))) ∨
      generation.toNat ≤ last.snapshot.generation.toNat := by
  obtain ⟨reading, _, began, _⟩ := seen_eq_some generation seen
  induction later generalizing last with
  | refl => exact .inl (seen_plans generation seen)
  | @step j earlier ih =>
      obtain ⟨node, here⟩ := course.found_later fresh.counted reading began j (Nat.le_of_lt earlier)
      have within := Nat.lt_of_le_of_lt (course.draws_succ fresh.counted) capacity
      cases ih within node here with
      | inl planned =>
          cases course.keeps_planned fresh.numbered _ planned with
          | inl taken => exact .inr (lands fresh generation _ node last taken here there)
          | inr kept => exact .inl kept
      | inr recent => exact .inr (Nat.le_trans recent (generation_succ fresh capacity node last here there))

theorem runs_initially (fresh : course.Fresh) : course.runs k 0 = false := by
  rw [runs, Cluster.isRunning, course.after_zero, fresh.empty k]
  rfl

theorem last_stir (fresh : course.Fresh) (j : Nat) (running : course.runs k j = true) :
    ∃ e, course.Stirs k e ∧ ∀ i, e < i → i ≤ j → course.runs k i = true ∧ course.entries i = course.entries j := by
  induction j with
  | zero => cases (runs_initially fresh).symm.trans running
  | succ j ih =>
      by_cases stirs : course.Stirs k j
      · refine ⟨j, stirs, fun i after before => ?_⟩
        rw [Nat.le_antisymm before after]
        exact ⟨running, rfl⟩
      · have ran : course.runs k j = true := by
          cases before : course.runs k j with
          | true => rfl
          | false => exact absurd (.inl ⟨before, running⟩) stirs
        have same : course.entries (j + 1) = course.entries j :=
          Decidable.not_not.mp fun changed => stirs (.inr ⟨ran, changed⟩)
        obtain ⟨e, stirred, quiet⟩ := ih ran
        refine ⟨e, stirred, fun i after before => ?_⟩
        rw [same]
        cases Nat.le_or_eq_of_le_succ before with
        | inl earlier => exact quiet i after earlier
        | inr now => exact now ▸ ⟨running, same⟩

theorem unseen_after (later : course.moves.length ≤ i) : course.seen? k i = none := by
  rw [seen?, course.action_of_ended (List.getElem?_eq_none later)]

theorem settled (fresh : course.Fresh) (capacity : course.draws k course.moves.length < UInt64.size)
    (heeded : course.Heeded k) (node : Node) (here : (course.after course.moves.length).cluster.nodes[k]? = some node)
    (running : course.runs k course.moves.length = true) (quiet : ¬ course.InFlight k course.moves.length) :
    node.snapshot.groups = bridged node.id (course.entries course.moves.length) := by
  obtain ⟨e, stirred, steady⟩ := last_stir fresh course.moves.length running
  obtain ⟨d, r, generation, afterwards, reads, drawn, seen⟩ := heeded e stirred
  have ended : r < course.moves.length := by
    refine Nat.lt_of_not_le fun later => ?_
    cases seen.symm.trans (unseen_after later)
  have within := Nat.lt_of_le_of_lt (course.draws_mono fresh.counted course.moves.length
    (show d + 1 ≤ course.moves.length by omega)) capacity
  have recent : generation.toNat ≤ node.snapshot.generation.toNat := by
    cases landed fresh r course.moves.length ended generation seen capacity node here with
    | inl planned => exact absurd ⟨_, generation, planned, rfl⟩ quiet
    | inr recent => exact recent
  -- What is known was thus read after the last change, when the node ran.
  obtain ⟨i, before, dated, source⟩ := (sourced fresh course.moves.length).known node here
  have late : d < i := by
    refine Nat.lt_of_not_le fun early => ?_
    have drew := (drawn_number fresh generation drawn within).1
    have older := course.draws_mono (k := k) fresh.counted d early
    omega
  obtain ⟨ran, same⟩ := steady i (by omega) before
  rcases source with ⟨_, rested⟩ | read
  · cases rested.symm.trans ran
  · exact same ▸ read

def launch (config : Config) (timeout : Nat) (moves : List Move) : Course :=
  ⟨{ cluster := Cluster.initial config timeout }, moves⟩

theorem fresh_launch (config : Config) (timeout : Nat) (moves : List Move) : (launch config timeout moves).Fresh where
  numbered id member := absurd member ExtTreeMap.not_mem_empty
  counted k member := absurd member ExtTreeMap.not_mem_empty
  empty k := ExtTreeMap.getElem?_empty
  idle action := by
    rintro ⟨id, task, found, _⟩
    cases ExtTreeMap.getElem?_empty.symm.trans found

theorem draws_le_last (fresh : course.Fresh) (i : Nat) : course.draws k i ≤ course.draws k course.moves.length := by
  cases Nat.le_total i course.moves.length with
  | inl before => exact course.draws_mono fresh.counted _ before
  | inr past =>
      rw [draws, draws, after, after, List.take_of_length_le past, List.take_length]

/-- No older reading is taken over, none from before a stop counts after it, and in the end all changes are known. -/
theorem overlapping_recomputations (config : Config) (timeout : Nat) (moves : List Move) (course : Course)
    (launched : course = launch config timeout moves) (k : Incarnation)
    (capacity : course.draws k course.moves.length < UInt64.size) :
    (∀ (i j : Nat) (node last : Node), i ≤ j → (course.after i).cluster.nodes[k]? = some node →
      (course.after j).cluster.nodes[k]? = some last → node.snapshot.generation ≤ last.snapshot.generation) ∧
    (∀ (j : Nat) (node : Node), (course.after j).cluster.nodes[k]? = some node →
      ∃ i, i ≤ j ∧ (node.snapshot.groups = ∅ ∧ course.runs k i = false ∨
        node.snapshot = (Recomputation.ofEntries node.id (course.entries i) node.snapshot.generation).snapshot)) ∧
    (∀ (d c j : Nat) (generation : UInt64) (node last : Node), d < c → c < j → course.drawn? k d = some generation →
      course.clears k c = true → course.installed? k j = some generation →
      (course.after j).cluster.nodes[k]? = some node → (course.after (j + 1)).cluster.nodes[k]? = some last →
      last.snapshot = node.snapshot) ∧
    (course.Heeded k → ∀ node : Node, (course.after course.moves.length).cluster.nodes[k]? = some node →
      node.isRunning = true → ¬ course.InFlight k course.moves.length →
      node.snapshot =
        (Recomputation.ofEntries node.id (course.entries course.moves.length) node.snapshot.generation).snapshot) := by
  have fresh : course.Fresh := launched ▸ fresh_launch config timeout moves
  have within (i : Nat) : course.draws k i < UInt64.size := Nat.lt_of_le_of_lt (draws_le_last fresh i) capacity
  have known (own : NodeId) (contents : Entries) (snapshot : Snapshot) (same : snapshot.groups = bridged own contents) :
      snapshot = (Recomputation.ofEntries own contents snapshot.generation).snapshot := by
    cases snapshot
    cases same
    rfl
  refine ⟨?_, ?_, ?_, ?_⟩
  · intro i j node last later here there
    exact UInt64.le_iff_toNat_le.mpr (generation_mono fresh j later (within j) node last here there)
  · intro j node here
    obtain ⟨i, earlier, _, source⟩ := (sourced fresh j).known node here
    exact ⟨i, earlier, source.imp_right (known _ _ _)⟩
  · intro d c j generation node last first second drawn cleared installed here there
    exact ignored_after_clear fresh d c j generation first second (within j) drawn cleared installed node last here there
  · intro heeded node here running quiet
    refine known _ _ _ (settled fresh capacity heeded node here ?_ quiet)
    rw [runs, Cluster.isRunning]
    exact (congrArg (Option.any Node.isRunning) here).trans running

def goes (task times : Nat) : List Move := List.replicate times (.go task)

/-- A reading is overtaken by a stop and ends after it; then the node starts again. -/
def overtaking : List Move :=
  .arrive 0 (.addNode "a") :: goes 0 3 ++ .arrive 1 (.node "a" .start) :: goes 1 18 ++
    .arrive 2 (.putRaw "b" (some (Announcement.encode ⟨"b", ExtTreeSet.ofList ["g"]⟩))) :: goes 2 3 ++
    .arrive 3 (.node "a" .stop) :: goes 3 11 ++ goes 2 5 ++ .arrive 4 (.node "a" .start) :: goes 4 18

theorem heeded_overtaking : (launch {} 5000 overtaking).Heeded 0 := by
  intro i stirs
  refine ⟨55, 57, 4, Nat.lt_of_not_le fun late => ?_, by decide, by decide +kernel, by decide +kernel⟩
  have steady : ∀ i < 63, 55 ≤ i → (launch {} 5000 overtaking).runs 0 i = true ∧
      (launch {} 5000 overtaking).entries (i + 1) = (launch {} 5000 overtaking).entries i := by
    decide +kernel
  have ran : (launch {} 5000 overtaking).runs 0 i = true ∧
      (launch {} 5000 overtaking).entries (i + 1) = (launch {} 5000 overtaking).entries i := by
    cases Nat.lt_or_ge i 63 with
    | inl before =>
        exact steady i before late
    | inr past =>
        have ended : (launch {} 5000 overtaking).moves.length ≤ i := by
          rw [show (launch {} 5000 overtaking).moves.length = 63 by decide +kernel]
          exact past
        rw [runs, entries, entries, after, after, List.take_of_length_le ended,
          List.take_of_length_le (Nat.le_succ_of_le ended)]
        exact ⟨by decide +kernel, rfl⟩
  rcases stirs with ⟨rested, _⟩ | ⟨_, changed⟩
  · cases rested.symm.trans ran.1
  · exact changed ran.2

theorem overtaking_settles :
    (launch {} 5000 overtaking).drawn? 0 25 = some 2 ∧ (launch {} 5000 overtaking).clears 0 35 = true ∧
    (launch {} 5000 overtaking).installed? 0 41 = some 2 ∧
    ∃ old node last, ((launch {} 5000 overtaking).after 41).cluster.nodes[0]? = some old ∧
      ((launch {} 5000 overtaking).after 42).cluster.nodes[0]? = some node ∧
      ((launch {} 5000 overtaking).after 63).cluster.nodes[0]? = some last ∧ node.snapshot = old.snapshot ∧
      old.snapshot.generation ≤ last.snapshot.generation ∧ "g" ∈ last.snapshot.groups ∧
      last.snapshot = (Recomputation.ofEntries last.id ((launch {} 5000 overtaking).entries 63)
        last.snapshot.generation).snapshot := by
  have drawn : (launch {} 5000 overtaking).drawn? 0 25 = some 2 := by decide +kernel
  have cleared : (launch {} 5000 overtaking).clears 0 35 = true := by decide +kernel
  have installed : (launch {} 5000 overtaking).installed? 0 41 = some 2 := by decide +kernel
  have there (i : Nat) (alive : (((launch {} 5000 overtaking).after i).cluster.nodes[0]?).isSome = true) :=
    Option.isSome_iff_exists.mp alive
  obtain ⟨old, before⟩ := there 41 (by decide +kernel)
  obtain ⟨node, after⟩ := there 42 (by decide +kernel)
  have knows : ((launch {} 5000 overtaking).after 63).cluster.nodes[0]?.any (fun last =>
      last.isRunning && last.snapshot.contains "g") = true := by
    decide +kernel
  obtain ⟨last, ended, facts⟩ := (Option.any_eq_true _ _).mp knows
  rw [Bool.and_eq_true] at facts
  have quiet : ¬ (launch {} 5000 overtaking).InFlight 0 63 := by
    rintro ⟨action, generation, ⟨id, task, found, _⟩, _⟩
    have done : ((launch {} 5000 overtaking).after 63).tasks = ∅ := by
      rw [← ExtTreeMap.isEmpty_iff]
      decide +kernel
    rw [done] at found
    cases ExtTreeMap.getElem?_empty.symm.trans found
  obtain ⟨later, _, ignored, settled⟩ :=
    overlapping_recomputations {} 5000 overtaking (launch {} 5000 overtaking) rfl 0 (by decide +kernel)
  rw [show (launch {} 5000 overtaking).moves.length = 63 by decide +kernel] at settled
  refine ⟨drawn, cleared, installed, old, node, last, before, after, ended, ?_, ?_, ?_, ?_⟩
  · have unaffected := ignored 25 35 41 2 old node (by decide) (by decide) drawn cleared installed before
    rw [show 41 + 1 = 42 from rfl] at unaffected
    exact unaffected after
  · exact later 41 63 old last (by decide) before ended
  · exact ExtTreeSet.contains_iff_mem.mp facts.2
  · exact settled heeded_overtaking last ended facts.1 quiet

end Course

end Coherence.Interleaving
