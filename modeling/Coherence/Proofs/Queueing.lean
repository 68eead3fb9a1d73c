import Coherence.Proofs.Scheduling

set_option autoImplicit false

namespace Coherence.Interleaving

open Std

-- Where a task waits: for its turn, for a call to be let through, or for a lock.
inductive Spot where
  | ready
  | parked
  | line (lock : Lock)

namespace Bench

def line? (bench : Bench) (lock : Lock) : Option (List Nat) := (bench.locks.find? (·.1 = lock)).map (·.2)

def queue (bench : Bench) : Spot → List Nat
  | .ready => bench.ready
  | .parked => bench.parked.map (·.2)
  | .line lock => (bench.line? lock).getD []

-- Nobody waits twice.
structure Placed (bench : Bench) : Prop where
  once : ∀ spot, (bench.queue spot).Nodup
  apart : ∀ spot other id, id ∈ bench.queue spot → id ∈ bench.queue other → spot = other
  known : ∀ spot id, id ∈ bench.queue spot → id < bench.spawned

namespace Placed

variable {bench after : Bench}

theorem of_perm (placed : bench.Placed) (spawned : after.spawned = bench.spawned)
    (same : ∀ spot, (after.queue spot).Perm (bench.queue spot)) : after.Placed where
  once spot := (same spot).nodup_iff.mpr (placed.once spot)
  apart spot other id here there := placed.apart spot other id ((same spot).mem_iff.mp here) ((same other).mem_iff.mp there)
  known spot id here := spawned ▸ placed.known spot id ((same spot).mem_iff.mp here)

theorem of_traced (placed : bench.Placed) (id : Nat) (target : Spot) (grown : bench.spawned ≤ after.spawned)
    (known : id < after.spawned) (once : ∀ spot, (after.queue spot).Nodup)
    (traced : ∀ spot other, other ∈ after.queue spot →
      other = id ∧ spot = target ∨ other ≠ id ∧ other ∈ bench.queue spot) : after.Placed := by
  refine ⟨once, fun spot other task member also => ?_, fun spot task member => ?_⟩
  · rcases traced spot task member with ⟨same, rfl⟩ | ⟨different, before⟩
    · rcases traced other task also with ⟨_, rfl⟩ | ⟨different, _⟩
      · rfl
      · exact absurd same different
    · rcases traced other task also with ⟨same, _⟩ | ⟨_, alsoBefore⟩
      · exact absurd same different
      · exact placed.apart spot other task before alsoBefore
  · rcases traced spot task member with ⟨rfl, _⟩ | ⟨_, before⟩
    · exact known
    · exact Nat.lt_of_lt_of_le (placed.known spot task before) grown

theorem transfer (placed : bench.Placed) (source target : Spot) (differ : source ≠ target) (id : Nat)
    (spawned : after.spawned = bench.spawned) (left : (bench.queue source).Perm (id :: after.queue source))
    (came : (after.queue target).Perm (id :: bench.queue target))
    (others : ∀ spot, spot ≠ source → spot ≠ target → after.queue spot = bench.queue spot) : after.Placed := by
  have here : id ∈ bench.queue source := left.mem_iff.mpr (List.mem_cons_self ..)
  have gone := List.nodup_cons.mp (left.nodup_iff.mp (placed.once source))
  have absent : id ∉ bench.queue target := fun there => differ (placed.apart source target id here there)
  refine placed.of_traced id target (Nat.le_of_eq spawned.symm) (spawned ▸ placed.known source id here) ?_ ?_
  · intro spot
    by_cases own : spot = target
    · rw [own, came.nodup_iff]
      exact List.nodup_cons.mpr ⟨absent, placed.once target⟩
    · by_cases first : spot = source
      · exact first ▸ gone.2
      · exact others spot first own ▸ placed.once spot
  · intro spot other member
    by_cases own : spot = target
    · subst own
      by_cases same : other = id
      · exact .inl ⟨same, rfl⟩
      · exact .inr ⟨same, (List.mem_cons.mp (came.mem_iff.mp member)).resolve_left same⟩
    · by_cases first : spot = source
      · subst first
        exact .inr ⟨fun same => gone.1 (same ▸ member), left.mem_iff.mpr (List.mem_cons_of_mem id member)⟩
      · rw [others spot first own] at member
        exact .inr ⟨fun same => first (placed.apart spot source id (same ▸ member) here), member⟩

theorem spawn (placed : bench.Placed) (task : Task) : (bench.spawn task).Placed := by
  have apart (spot : Spot) (id : Nat) (there : id ∈ bench.queue spot) : id ≠ bench.spawned :=
    Nat.ne_of_lt (placed.known spot id there)
  refine placed.of_traced bench.spawned .ready (Nat.le_succ _) (Nat.lt_succ_self _) ?_ ?_
  · intro spot
    cases spot with
    | ready =>
        refine List.nodup_append.mpr ⟨placed.once .ready, List.pairwise_singleton .., fun id here other own => ?_⟩
        exact List.mem_singleton.mp own ▸ apart .ready id here
    | parked => exact placed.once .parked
    | line lock => exact placed.once (.line lock)
  · intro spot id member
    cases spot with
    | ready =>
        cases List.mem_append.mp member with
        | inl there => exact .inr ⟨apart .ready id there, there⟩
        | inr own => exact .inl ⟨List.mem_singleton.mp own, rfl⟩
    | parked => exact .inr ⟨apart .parked id member, member⟩
    | line lock => exact .inr ⟨apart (.line lock) id member, member⟩

theorem remove (placed : bench.Placed) (id : Nat) : { bench with ready := bench.ready.erase id }.Placed := by
  have traced (spot : Spot) (other : Nat) (member : other ∈ { bench with ready := bench.ready.erase id }.queue spot) :
      other ∈ bench.queue spot := by
    cases spot with
    | ready => exact List.mem_of_mem_erase member
    | parked | line => exact member
  refine ⟨fun spot => ?_, fun spot other task member also => ?_, fun spot task member => ?_⟩
  · cases spot with
    | ready => exact (placed.once .ready).erase id
    | parked => exact placed.once .parked
    | line lock => exact placed.once (.line lock)
  · exact placed.apart spot other task (traced spot task member) (traced other task also)
  · exact placed.known spot task (traced spot task member)

theorem delivering (placed : bench.Placed) (agendas : List (List Action)) : (bench.delivering agendas).Placed := by
  induction agendas generalizing bench with
  | nil => exact placed
  | cons agenda agendas ih => exact ih (placed.spawn { agenda })

theorem front (placed : bench.Placed) (id : Nat) (ready : id ∈ bench.ready) : (bench.front id).Placed := by
  refine placed.of_perm rfl fun spot => ?_
  cases spot with
  | ready => exact (List.perm_cons_erase ready).symm
  | parked | line => exact .refl _

end Placed

theorem line_changed (locks : List (Lock × List Nat)) (lock other : Lock) (change : List Nat → List Nat) :
    ((locks.map fun (held, line) => if held = lock then (held, change line) else (held, line)).find?
      (·.1 = other)).map (·.2) =
      if lock = other then ((locks.find? (·.1 = lock)).map (·.2)).map change
      else (locks.find? (·.1 = other)).map (·.2) := by
  induction locks with
  | nil => simp
  | cons entry locks ih =>
      obtain ⟨held, line⟩ := entry
      rw [List.map_cons, List.find?_cons, List.find?_cons, List.find?_cons]
      by_cases own : held = lock
      · by_cases same : lock = other
        · simp [own, same]
        · simpa [own, same] using ih
      · by_cases same : lock = other
        · simpa [own, same, same ▸ own] using ih
        · by_cases theirs : held = other
          · simp [same, theirs, Ne.symm same]
          · simpa [own, same, theirs] using ih

theorem any_locks (bench : Bench) (lock : Lock) : bench.locks.any (·.1 = lock) = (bench.line? lock).isSome := by
  rw [line?, Option.isSome_map, Bool.eq_iff_iff, List.any_eq_true, List.find?_isSome]

theorem acquire_free (bench : Bench) (id : Nat) (lock : Lock) (free : bench.line? lock = none) :
    bench.acquire id lock = ({ bench with locks := (lock, []) :: bench.locks }, true) := by
  rw [acquire, any_locks, free]
  rfl

theorem acquire_held (bench : Bench) (id : Nat) (lock : Lock) (line : List Nat) (held : bench.line? lock = some line) :
    bench.acquire id lock =
      ({ bench with
          locks := bench.locks.map fun (held, line) => if held = lock then (held, line ++ [id]) else (held, line) },
        false) := by
  rw [acquire, any_locks, held]
  rfl

theorem line_acquire (bench : Bench) (id : Nat) (lock other : Lock) :
    (bench.acquire id lock).1.line? other =
      if lock = other then some ((bench.line? lock).elim [] (· ++ [id])) else bench.line? other := by
  cases found : bench.line? lock with
  | none =>
      rw [acquire_free bench id lock found, line?, List.find?_cons]
      by_cases same : lock = other
      · simp [same]
      · simp [same, line?]
  | some line =>
      rw [acquire_held bench id lock line found]
      refine (line_changed bench.locks lock other (· ++ [id])).trans ?_
      rw [line?] at found
      rw [found]
      rfl

theorem line_of_queue (bench : Bench) (lock : Lock) (next : Nat) (line : List Nat)
    (waiting : bench.queue (.line lock) = next :: line) : bench.line? lock = some (next :: line) := by
  rw [queue] at waiting
  cases found : bench.line? lock with
  | none =>
      rw [found] at waiting
      cases waiting
  | some others =>
      rw [found] at waiting
      exact congrArg some waiting

theorem release_next (bench : Bench) (lock : Lock) (next : Nat) (line : List Nat)
    (held : bench.line? lock = some (next :: line)) :
    bench.release lock =
      { bench with
        locks := bench.locks.map fun (held, old) => if held = lock then (held, line) else (held, old) }.wake next := by
  obtain ⟨⟨found, _⟩, there, rfl⟩ := Option.map_eq_some_iff.mp held
  rw [release, there]

theorem release_last (bench : Bench) (lock : Lock) (last : bench.queue (.line lock) = []) :
    bench.release lock = { bench with locks := bench.locks.filter (·.1 ≠ lock) } := by
  rw [queue, line?] at last
  rw [release]
  split
  · rename_i held next line found
    rw [found] at last
    cases last
  · rfl

theorem line_release (bench : Bench) (lock other : Lock) :
    (bench.release lock).line? other =
      if lock = other then (bench.line? lock).bind List.tail? else bench.line? other := by
  cases waiting : bench.queue (.line lock) with
  | nil =>
      have emptied : (bench.line? lock).bind List.tail? = none := by
        rw [queue] at waiting
        cases found : bench.line? lock with
        | none => rfl
        | some line =>
            rw [found] at waiting
            cases waiting
            rfl
      rw [emptied, release_last bench lock waiting, line?, List.find?_filter]
      by_cases same : lock = other
      · rw [if_pos same, List.find?_eq_none.mpr]
        · rfl
        · simp [same]
      · rw [if_neg same, line?]
        congr 2
        funext entry
        by_cases theirs : entry.1 = other
        · simp [theirs, Ne.symm same]
        · simp [theirs]
  | cons next line =>
      have held := line_of_queue bench lock next line waiting
      rw [release_next bench lock next line held]
      refine (line_changed bench.locks lock other fun _ => line).trans ?_
      rw [line?] at held
      rw [line?, held]
      rfl

namespace Placed

variable {bench : Bench}

theorem of_same {after : Bench} (placed : bench.Placed) (ready : after.ready = bench.ready)
    (parked : after.parked = bench.parked) (locks : after.locks = bench.locks) (spawned : after.spawned = bench.spawned) :
    after.Placed := by
  refine placed.of_perm spawned fun spot => ?_
  cases spot with
  | ready => exact .of_eq ready
  | parked => exact .of_eq (congrArg _ parked)
  | line lock =>
      rw [queue, queue, line?, line?, locks]

theorem acquire (placed : bench.Placed) (id : Nat) (rest : List Nat) (ready : bench.ready = id :: rest) (lock : Lock) :
    { (bench.acquire id lock).1 with
      ready := if (bench.acquire id lock).2 then bench.ready else rest }.Placed := by
  have lines (other : Lock) : (bench.acquire id lock).1.queue (.line other) =
      if lock = other then (bench.line? lock).elim [] (· ++ [id]) else bench.queue (.line other) := by
    rw [queue, line_acquire]
    split <;> rfl
  cases found : bench.line? lock with
  | none =>
      rw [acquire_free bench id lock found] at lines ⊢
      refine placed.of_perm rfl fun spot => ?_
      cases spot with
      | ready | parked => exact .refl _
      | line other =>
          refine .of_eq ((lines other).trans ?_)
          split
          · rename_i same
            rw [← same, queue, found]
            rfl
          · rfl
  | some line =>
      rw [acquire_held bench id lock line found] at lines ⊢
      refine placed.transfer .ready (.line lock) (by simp) id rfl (.of_eq ready) ?_ ?_
      · refine (List.Perm.of_eq ((lines lock).trans (if_pos rfl))).trans ?_
        rw [queue, found]
        exact List.perm_append_singleton id line
      · intro spot first second
        cases spot with
        | ready => exact absurd rfl first
        | parked => rfl
        | line other => exact (lines other).trans (if_neg fun (same : lock = other) => second (same ▸ rfl))

theorem release (placed : bench.Placed) (lock : Lock) : (bench.release lock).Placed := by
  have lines (other : Lock) : (bench.release lock).queue (.line other) =
      if lock = other then (bench.queue (.line lock)).tail else bench.queue (.line other) := by
    rw [queue, line_release]
    split
    · rw [queue]
      cases bench.line? lock with
      | none => rfl
      | some line => cases line <;> rfl
    · rfl
  cases waiting : bench.queue (.line lock) with
  | nil =>
      rw [waiting, release_last bench lock waiting] at lines
      rw [release_last bench lock waiting]
      refine placed.of_perm rfl fun spot => ?_
      cases spot with
      | ready | parked => exact .refl _
      | line other =>
          refine .of_eq ((lines other).trans ?_)
          split
          · rename_i same
            exact (same ▸ waiting).symm
          · rfl
  | cons next line =>
      have released := release_next bench lock next line (line_of_queue bench lock next line waiting)
      rw [waiting, released] at lines
      rw [released]
      refine placed.transfer (.line lock) .ready (by simp) next rfl ?_ (List.perm_append_singleton next bench.ready) ?_
      · rw [waiting]
        exact .of_eq (congrArg (next :: ·) ((lines lock).trans (if_pos rfl)).symm)
      · intro spot first second
        cases spot with
        | ready => exact absurd rfl second
        | parked => rfl
        | line other => exact (lines other).trans (if_neg fun (same : lock = other) => first (same ▸ rfl))

theorem pass (placed : bench.Placed) (id : Nat) (rest : List Nat) (ready : bench.ready = id :: rest)
    (place : Incarnation × Service) :
    { (bench.pass id place).1 with ready := if (bench.pass id place).2 then bench.ready else rest }.Placed := by
  rw [Bench.pass]
  split
  · refine placed.transfer .ready .parked (by simp) id rfl (.of_eq ready) ?_ ?_
    · change ((bench.parked ++ [(place, id)]).map (·.2)).Perm (id :: bench.parked.map (·.2))
      rw [List.map_append]
      exact List.perm_append_singleton id _
    · intro spot first second
      cases spot with
      | ready => exact absurd rfl first
      | parked => exact absurd rfl second
      | line other => rfl
  · exact placed.of_same rfl rfl rfl rfl

theorem unpark (placed : bench.Placed) (place : Incarnation × Service) : (bench.unpark place).1.Placed := by
  rw [Bench.unpark]
  split
  · exact placed
  · rename_i entry found
    have member : entry.2 ∈ bench.queue .parked := List.mem_map_of_mem (List.mem_of_find?_eq_some found)
    refine placed.transfer .parked .ready (by simp) entry.2 rfl ?_ (List.perm_append_singleton entry.2 bench.ready) ?_
    · have rest : (bench.queue .parked).erase entry.2 = (bench.parked.filter (·.2 ≠ entry.2)).map (·.2) := by
        rw [(placed.once .parked).erase_eq_filter, queue, List.filter_map]
        congr 2
        funext other
        by_cases same : other.2 = entry.2
        · simp [same]
        · simp [same]
      exact (List.perm_cons_erase member).trans (.of_eq (congrArg (entry.2 :: ·) rest))
    · intro spot first second
      cases spot with
      | ready => exact absurd rfl second
      | parked => exact absurd rfl first
      | line other => rfl

end Placed

theorem Delivers.placed {before after : Bench} (delivers : before.Delivers after) (placed : before.Placed) :
    after.Placed := by
  obtain ⟨cluster, agendas, rfl, _⟩ := delivers
  exact (placed.of_same rfl rfl rfl rfl : (before.withCluster cluster).Placed).delivering agendas

theorem placed_lose (bench : Bench) (placed : bench.Placed) (id : NodeId) (k : Incarnation) : (bench.lose id k).Placed := by
  obtain ⟨lost, doomed, buried, _⟩ := bury_discards
    { bench with
      cluster := { bench.cluster with current := bench.cluster.current.erase id }
      doomed := bench.doomed ++ [k] }
  rw [lose, buried]
  exact placed.of_same rfl rfl rfl rfl

theorem placed_install (bench : Bench) (placed : bench.Placed) (id : NodeId) : (bench.install id).1.Placed := by
  rw [install]
  split
  · exact placed
  · dsimp only
    split
    · exact (bench.placed_lose placed id _).of_same rfl rfl rfl rfl
    · exact placed.of_same rfl rfl rfl rfl

theorem ready_acquire (bench : Bench) (id : Nat) (lock : Lock) : (bench.acquire id lock).1.ready = bench.ready := by
  rw [acquire]
  split <;> rfl

theorem ready_pass (bench : Bench) (id : Nat) (place : Incarnation × Service) :
    (bench.pass id place).1.ready = bench.ready := by
  rw [pass]
  split <;> rfl

theorem perform_acquire (bench : Bench) (id : Nat) (request : Option Nat) (lock : Lock) :
    bench.perform id request (.acquire lock) =
      ((bench.acquire id lock).1, if (bench.acquire id lock).2 then some [] else none) := rfl

theorem perform_pass (bench : Bench) (id : Nat) (request : Option Nat) (k : Incarnation) (service : Service) :
    bench.perform id request (.pass k service) =
      ((bench.pass id (k, service)).1, if (bench.pass id (k, service)).2 then some [] else none) := rfl

theorem Taken.placed {bench : Bench} {id : Nat} {action : Action} {task : Task} {agenda : List Action} {after : Bench}
    {more : Option (List Action)} (taken : bench.Taken id action task agenda after more) (placed : bench.Placed) :
    (bench.go id).Placed := by
  have first := placed.front id taken.ready
  have performed := taken.performed
  have goes (fresh : Bench) (list : List Action) (outcome : (fresh, some list) = (after, more)) (kept : fresh.Placed) :
      (bench.go id).Placed := by
    cases outcome
    rw [taken.went]
    exact kept.of_same rfl rfl rfl rfl
  cases action with
  | acquire lock =>
      rw [perform_acquire, Prod.mk.injEq] at performed
      obtain ⟨rfl, rfl⟩ := performed
      rw [taken.went]
      refine (first.acquire id _ rfl lock).of_same ?_ rfl rfl rfl
      dsimp only
      rw [ready_acquire]
      cases ((bench.front id).acquire id lock).2 <;> rfl
  | pass k service =>
      rw [perform_pass, Prod.mk.injEq] at performed
      obtain ⟨rfl, rfl⟩ := performed
      rw [taken.went]
      refine (first.pass id _ rfl (k, service)).of_same ?_ rfl rfl rfl
      dsimp only
      rw [ready_pass]
      cases ((bench.front id).pass id (k, service)).2 <;> rfl
  | release lock => exact goes _ _ performed (first.release lock)
  | work k work =>
      rw [perform] at performed
      split at performed
      · exact goes _ _ performed first
      · exact goes _ _ performed (((bench.front id).delivers_act k _ work).placed first)
  | tellCircle circle view => exact goes _ _ performed first
  | install name => exact goes _ _ performed ((bench.front id).placed_install first name)
  | answer reply =>
      cases request : task.request with
      | none =>
          rw [request] at performed
          exact goes _ _ performed first
      | some index =>
          rw [request] at performed
          exact goes _ _ performed (first.of_same rfl rfl rfl rfl)
  | sleep =>
      cases performed
      rw [taken.went]
      exact (placed.remove id).of_same rfl rfl rfl rfl

theorem locks_delivering (agendas : List (List Action)) (bench : Bench) :
    (bench.delivering agendas).locks = bench.locks := by
  induction agendas generalizing bench with
  | nil => rfl
  | cons agenda agendas ih => exact ih (bench.spawn { agenda })

theorem locks_lose (bench : Bench) (id : NodeId) (k : Incarnation) : (bench.lose id k).locks = bench.locks := by
  obtain ⟨lost, doomed, buried, _⟩ := bury_discards
    { bench with
      cluster := { bench.cluster with current := bench.cluster.current.erase id }
      doomed := bench.doomed ++ [k] }
  rw [lose, buried]

theorem locks_install (bench : Bench) (id : NodeId) : (bench.install id).1.locks = bench.locks := by
  rw [install]
  split
  · rfl
  · dsimp only
    split
    · exact bench.locks_lose id _
    · rfl

theorem locks_perform (bench : Bench) (id : Nat) (request : Option Nat) (action : Action)
    (unasked : ∀ lock, action ≠ .acquire lock) (kept : ∀ lock, action ≠ .release lock) :
    (bench.perform id request action).1.locks = bench.locks := by
  cases action with
  | acquire lock => exact absurd rfl (unasked lock)
  | release lock => exact absurd rfl (kept lock)
  | pass k service =>
      rw [perform_pass, pass]
      split <;> rfl
  | work k work =>
      rw [perform]
      split
      · rfl
      · obtain ⟨cluster, agendas, delivers, _⟩ := bench.delivers_act k _ work
        dsimp only
        rw [delivers, locks_delivering]
        rfl
  | tellCircle circle view => rfl
  | install name => exact bench.locks_install name
  | answer reply => cases request <;> rfl
  | sleep => rfl

namespace Taken

variable {bench : Bench} {id : Nat} {action : Action} {task : Task} {agenda : List Action} {after : Bench}
  {more : Option (List Action)}

theorem line_eq (taken : bench.Taken id action task agenda after more) (lock : Lock) :
    (bench.go id).line? lock = ((bench.front id).perform id task.request action).1.line? lock := by
  rw [taken.performed, taken.went]
  rfl

theorem line_acquired {lock : Lock} (taken : bench.Taken id (.acquire lock) task agenda after more) (other : Lock) :
    (bench.go id).line? other =
      if lock = other then some ((bench.line? lock).elim [] (· ++ [id])) else bench.line? other := by
  rw [taken.line_eq, perform_acquire]
  exact (bench.front id).line_acquire id lock other

theorem line_released {lock : Lock} (taken : bench.Taken id (.release lock) task agenda after more) (other : Lock) :
    (bench.go id).line? other = if lock = other then (bench.line? lock).bind List.tail? else bench.line? other := by
  rw [taken.line_eq]
  exact (bench.front id).line_release lock other

theorem line_kept (taken : bench.Taken id action task agenda after more) (lock : Lock) (unasked : action ≠ .acquire lock)
    (kept : action ≠ .release lock) : (bench.go id).line? lock = bench.line? lock := by
  cases action with
  | acquire other => exact (taken.line_acquired lock).trans (if_neg fun same => unasked (congrArg Action.acquire same))
  | release other => exact (taken.line_released lock).trans (if_neg fun same => kept (congrArg Action.release same))
  | _ =>
      rw [taken.line_eq, line?, locks_perform _ _ _ _ (by simp) (by simp)]
      rfl

end Taken

theorem locks_begin_node (bench : Bench) (k : Incarnation) (node : Node) (request : NodeRequest) :
    (bench.beginNode k node request).1.locks = bench.locks := by
  cases request with
  | unpark service =>
      change (bench.unpark (k, service)).1.locks = _
      rw [unpark]
      split <;> rfl
  | createGroup group =>
      rw [beginNode]
      cases node.registry.createGroup? group <;> rfl
  | dropGroup group =>
      rw [beginNode]
      cases node.registry.dropGroup? group <;> rfl
  | put group key =>
      rw [beginNode]
      split <;> rfl
  | _ => rfl

theorem locks_begin (bench : Bench) (request : Request) : (bench.begin request).1.locks = bench.locks := by
  cases request with
  | addNode id => rfl
  | join id => rfl
  | appoint id => rfl
  | putRaw key value => rfl
  | leave id =>
      rw [begin]
      split <;> rfl
  | drop id =>
      rw [begin]
      split
      · rfl
      · exact bench.locks_lose id _
  | node id request =>
      rw [begin]
      split
      · rfl
      · exact bench.locks_begin_node _ _ request

theorem rests_keeps {bench : Bench} {id : Nat} (rests : bench.next? (.go id) = none) :
    (bench.go id).locks = bench.locks ∧ (bench.go id).spawned = bench.spawned ∧
      ∀ (other : Nat) (task : Task), (bench.go id).tasks[other]? = some task → bench.tasks[other]? = some task := by
  rcases go_rests rests with same | ⟨_, same⟩ | ⟨task, _, _, same⟩
  · rw [same]
    exact ⟨rfl, rfl, fun _ _ found => found⟩
  · rw [same]
    exact ⟨rfl, rfl, fun _ _ found => found⟩
  · rw [same]
    obtain ⟨lost, doomed, buried, _⟩ := bury_discards
      { bench with ready := bench.ready.erase id, tasks := bench.tasks.erase id }
    refine ⟨by rw [finish, buried], by rw [finish, buried], fun other task found => ?_⟩
    rw [tasks_finish] at found
    split at found
    · cases found
    · exact found

theorem placed_begin_node (bench : Bench) (placed : bench.Placed) (k : Incarnation) (node : Node) (request : NodeRequest) :
    (bench.beginNode k node request).1.Placed := by
  cases request with
  | unpark service => exact placed.unpark (k, service)
  | createGroup group =>
      rw [beginNode]
      cases node.registry.createGroup? group <;> exact placed.of_same rfl rfl rfl rfl
  | dropGroup group =>
      rw [beginNode]
      cases node.registry.dropGroup? group <;> exact placed.of_same rfl rfl rfl rfl
  | put group key =>
      rw [beginNode]
      split <;> exact placed.of_same rfl rfl rfl rfl
  | _ => exact placed.of_same rfl rfl rfl rfl

theorem placed_begin (bench : Bench) (placed : bench.Placed) (request : Request) : (bench.begin request).1.Placed := by
  cases request with
  | addNode id => exact placed.of_same rfl rfl rfl rfl
  | join id => exact placed.of_same rfl rfl rfl rfl
  | appoint id => exact placed.of_same rfl rfl rfl rfl
  | putRaw key value => exact placed.of_same rfl rfl rfl rfl
  | leave id =>
      rw [begin]
      split <;> exact placed.of_same rfl rfl rfl rfl
  | drop id =>
      rw [begin]
      split
      · exact placed
      · exact bench.placed_lose placed id _
  | node id request =>
      rw [begin]
      split
      · exact placed
      · exact bench.placed_begin_node placed _ _ request

theorem placed_move {bench : Bench} (placed : bench.Placed) (move : Move) : (bench.move move).Placed := by
  cases move with
  | arrive index request =>
      obtain ⟨began, keeps, agenda, begins, _, _, arrives⟩ := bench.arrive_eq index request
      have still : { bench with answered := ∅ }.Placed := placed.of_same rfl rfl rfl rfl
      have kept := placed_begin { bench with answered := ∅ } still request
      rw [begins] at kept
      rw [Bench.move, arrives]
      exact kept.spawn _
  | go id =>
      cases next : bench.next? (.go id) with
      | none =>
          rw [Bench.move]
          rcases go_rests next with same | ⟨_, same⟩ | ⟨task, found, done, same⟩
          · rw [same]
            exact placed
          · rw [same]
            exact placed.remove id
          · obtain ⟨lost, doomed, buried, _⟩ := bury_discards
              { bench with ready := bench.ready.erase id, tasks := bench.tasks.erase id }
            rw [same, finish, buried]
            exact (placed.remove id).of_same rfl rfl rfl rfl
      | some action =>
          obtain ⟨task, agenda, after, more, taken⟩ := go_taken next
          exact taken.placed placed

end Bench

end Coherence.Interleaving
