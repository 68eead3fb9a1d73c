import Coherence.Proofs.NodePresence
import Coherence.Proofs.Serialization
import Coherence.Proofs.Sweeping

set_option autoImplicit false

namespace Coherence.Interleaving

open Std

-- Requests that neither write to the store from outside nor make it refuse what is written.
def Request.isFaultless : Request → Bool
  | .putRaw .. => false
  | .node _ (.refuse service on) => !on || service ≠ .set && service ≠ .remove
  | _ => true

def Move.isFaultless : Move → Bool
  | .arrive _ request => request.isFaultless
  | .go _ => true

namespace Bench

variable {bench : Bench} {k : Incarnation} {own : NodeId} {node : Node}

def Accepts (bench : Bench) : Prop := ∀ k mutation, bench.refused k (.ofMutation mutation) = false

theorem Accepts.of_same {after : Bench} (accepts : bench.Accepts) (same : after.refusals = bench.refusals) :
    after.Accepts := by
  intro k mutation
  rw [refused, same]
  exact accepts k mutation

theorem refusals_bury (bench : Bench) : bench.bury.refusals = bench.refusals := by
  obtain ⟨lost, doomed, buried, _⟩ := bury_discards bench
  rw [buried]

theorem refusals_delivering (agendas : List (List Action)) (bench : Bench) :
    (bench.delivering agendas).refusals = bench.refusals := by
  induction agendas generalizing bench with
  | nil => rfl
  | cons agenda agendas ih => exact ih (bench.spawn { agenda })

theorem refusals_perform (bench : Bench) (id : Nat) (request : Option Nat) (action : Action) :
    (bench.perform id request action).1.refusals = bench.refusals := by
  cases action with
  | acquire lock =>
      rw [perform_acquire, acquire]
      split <;> rfl
  | release lock =>
      rw [perform, release]
      split <;> rfl
  | pass j service =>
      rw [perform_pass, pass]
      split <;> rfl
  | work j work =>
      rw [perform]
      split
      · rfl
      · obtain ⟨cluster, agendas, delivers, _⟩ := bench.delivers_act j _ work
        dsimp only
        rw [delivers, refusals_delivering]
        rfl
  | tellCircle circle view => rfl
  | sleep => rfl
  | answer reply => cases request <;> rfl
  | install name =>
      change (bench.install name).1.refusals = bench.refusals
      rw [install]
      split
      · rfl
      · dsimp only
        split
        · exact refusals_bury _
        · rfl

theorem accepts_begin_node (accepts : bench.Accepts) (j : Incarnation) (node : Node) (id : NodeId) (request : NodeRequest)
    (faultless : (Request.node id request).isFaultless = true) : (bench.beginNode j node request).1.Accepts := by
  cases request with
  | refuse service on =>
      intro i mutation
      have before := accepts i mutation
      have harmless : on = true → Service.ofMutation mutation ≠ service := by
        rintro rfl same
        subst same
        cases mutation <;> cases faultless
      cases on with
      | false => simp_all [beginNode, refused]
      | true => simp_all [beginNode, refused]
  | unpark service =>
      refine accepts.of_same ?_
      change (bench.unpark (j, service)).1.refusals = bench.refusals
      rw [unpark]
      split <;> rfl
  | createGroup group =>
      rw [beginNode]
      cases node.registry.createGroup? group <;> exact accepts.of_same rfl
  | dropGroup group =>
      rw [beginNode]
      cases node.registry.dropGroup? group <;> exact accepts.of_same rfl
  | put group key =>
      rw [beginNode]
      split <;> exact accepts.of_same rfl
  | _ => exact accepts.of_same rfl

theorem accepts_begin (accepts : bench.Accepts) (request : Request) (faultless : request.isFaultless = true) :
    (bench.begin request).1.Accepts := by
  cases request with
  | addNode id | join id | appoint id => exact accepts.of_same rfl
  | putRaw key value => cases faultless
  | leave id =>
      rw [begin]
      split <;> exact accepts.of_same rfl
  | drop id =>
      rw [begin]
      split
      · exact accepts
      · exact accepts.of_same (refusals_bury _)
  | node id request =>
      rw [begin]
      split
      · exact accepts
      · exact accepts_begin_node accepts _ _ id request faultless

theorem accepts_move (accepts : bench.Accepts) (move : Move) (faultless : move.isFaultless = true) :
    (bench.move move).Accepts := by
  cases move with
  | arrive index request =>
      have still : { bench with answered := ∅ }.Accepts := accepts.of_same rfl
      exact (accepts_begin still request faultless).of_same rfl
  | go id =>
      cases next : bench.next? (.go id) with
      | none =>
          rw [Bench.move]
          rcases go_rests next with same | ⟨_, same⟩ | ⟨task, _, _, same⟩
          · rwa [same]
          · rw [same]
            exact accepts.of_same rfl
          · rw [same]
            exact accepts.of_same (refusals_bury _)
      | some action =>
          obtain ⟨task, agenda, after, more, taken⟩ := go_taken next
          have kept := (bench.front id).refusals_perform id task.request action
          rw [taken.performed] at kept
          rw [Bench.move, taken.went]
          exact accepts.of_same kept

theorem spares_of_kept (located : bench.cluster.current[own]? = some k) (index : Nat) (request : Request)
    (faultless : request.isFaultless = true) (kept : (bench.arrive index request).cluster.current[own]? = some k) :
    request.spares own = true := by
  cases request with
  | putRaw key value => cases faultless
  | drop id =>
      refine decide_eq_true ?_
      rintro rfl
      have found : { bench with answered := ∅ }.cluster.current[id]? = some k := located
      change ({ bench with answered := ∅ }.begin (.drop id)).1.cluster.current[id]? = some k at kept
      rw [Bench.begin, found] at kept
      dsimp only at kept
      rw [(lose_keeps _ id k).1, ExtTreeMap.getElem?_erase_self] at kept
      cases kept
  | _ => rfl

theorem Hosted.remains (hosted : bench.Hosted k own node) (numbered : bench.Numbered) (move : Move)
    (faultless : move.isFaultless = true) (located : bench.cluster.current[own]? = some k)
    (kept : (bench.move move).cluster.current[own]? = some k) :
    ∃ last, (bench.move move).Hosted k own last ∧ Fares bench move k own node last := by
  cases move with
  | arrive index request => exact hosted.arrive numbered index request (spares_of_kept located index request faultless kept)
  | go id =>
      cases next : bench.next? (.go id) with
      | none => exact hosted.rests next
      | some action =>
          obtain ⟨task, agenda, after, more, taken⟩ := go_taken next
          by_cases installs : action = .install own
          · subst installs
            have cluster : (bench.go id).cluster = ((bench.front id).install own).1.cluster := taken.cluster
            cases valid : bench.cluster.config.validate with
            | error error =>
                have idle : (bench.front id).install own = (bench.front id, [.answer (.error error)]) := by
                  rw [Bench.install, show (bench.front id).cluster.config.validate = _ from valid]
                refine hosted.still next (cluster.trans (idle ▸ rfl)) (taken.doomed.trans ?_) (by simp)
                change ((bench.front id).install own).1.doomed = bench.doomed
                rw [idle]
                rfl
            | ok =>
                have named : ((bench.front id).install own).1.cluster.current[own]? = some bench.cluster.nodes.size := by
                  rw [Bench.install, show (bench.front id).cluster.config.validate = _ from valid]
                  exact ExtTreeMap.getElem?_insert_self
                change (bench.go id).cluster.current[own]? = some k at kept
                rw [cluster, named] at kept
                exact absurd (Option.some.inj kept) hosted.apart
          · refine hosted.taken next taken fun name same => ?_
            rintro rfl
            exact installs same

theorem NodesPresent.under_locks_created (nodesPresent : bench.NodesPresent) (move : Move)
    (created : (bench.move move).cluster.nodes[bench.cluster.nodes.size]? = some (.create own)) :
    (bench.move move).UnderLocks bench.cluster.nodes.size own (.create own) := by
  have later := nodesPresent.move move
  refine ⟨later.disciplined _ _ created, ⟨later.counted, fun id there => ?_, fun doomed => ?_, created, rfl, rfl, rfl⟩,
    ?_, ?_⟩
  · obtain ⟨node, here, named⟩ := later.named id _ there
    rw [← named, Option.some.inj (here.symm.trans created)]
    rfl
  · exact Nat.lt_irrefl _ (nodesPresent.counted _ (nodesPresent.doomed_before move doomed))
  · intro running
    cases running
  · intro running
    cases running

end Bench

namespace Action

def announces (k : Incarnation) : Action → Bool
  | .work j (.write _ .announcing) => j = k
  | _ => false

end Action

namespace Course

variable (course : Course) (k : Incarnation) (own : NodeId) (i : Nat)

def announces : Bool := (course.action? i).any (Action.announces k)

-- Someone writes the entry of a bridge without being concerned with it as its own.
def Intrudes : Prop :=
  ∃ j mutation why, course.action? i = some (.work j (.write mutation why)) ∧ mutation.key = own ∧
    ¬ (j = k ∧ why.isOwn = true)

def Overwritten : Prop := ∃ l, l < i ∧ course.Intrudes k own l ∧ ∀ m, l < m → m < i → course.announces k m = false

-- An announcement is lost to a sweep for members without its bridge, or to an earlier bridge of that name.
inductive Loss : Prop
  | swept (j : Incarnation) (view : View) (told read : Nat) (sweep : course.Sweep j view told read) (later : read < i)
      (missing : view.contains own = false) (found : own ∈ course.entries read)
      (removed : course.action? i = some (.work j (.write (.remove own) (.sweeping own))))
  | replaced (j : Incarnation) (other : Node) (mutation : Mutation) (why : Writing) (different : j ≠ k)
      (here : (course.after i).cluster.nodes[j]? = some other) (named : other.id = own)
      (wrote : course.action? i = some (.work j (.write mutation why))) (busy : why.isOwn = true)

variable {course k own i}

theorem announces_eq_false (unannounced : ∀ mutation, course.action? i ≠ some (.work k (.write mutation .announcing))) :
    course.announces k i = false := by
  rw [announces, ← Bool.not_eq_true, Option.any_eq_true]
  rintro ⟨action, taken, announces⟩
  unfold Action.announces at announces
  split at announces
  · rename_i j mutation
    exact unannounced mutation (of_decide_eq_true announces ▸ taken)
  · cases announces

theorem Overwritten.later (overwritten : course.Overwritten k own i) (unannounced : course.announces k i = false) :
    course.Overwritten k own (i + 1) := by
  obtain ⟨l, earlier, intrudes, silent⟩ := overwritten
  refine ⟨l, Nat.lt_succ_of_lt earlier, intrudes, fun m after before => ?_⟩
  rcases Nat.lt_succ_iff_lt_or_eq.mp before with still | rfl
  · exact silent m after still
  · exact unannounced

theorem Intrudes.now (intrudes : course.Intrudes k own i) : course.Overwritten k own (i + 1) :=
  ⟨i, Nat.lt_succ_self i, intrudes, fun _ after before => absurd before (Nat.not_lt_of_le after)⟩

theorem nodes_present_after (nodesPresent : course.start.NodesPresent) (i : Nat) : (course.after i).NodesPresent :=
  course.always nodesPresent (fun _ move nodesPresent => nodesPresent.move move) i

section Launched

variable (accepts : course.start.Accepts) (faultless : ∀ move ∈ course.moves, move.isFaultless = true)
include accepts faultless

theorem accepts_after (i : Nat) : (course.after i).Accepts := by
  induction i with
  | zero => exact accepts
  | succ i ih =>
      rcases course.after_succ i with ⟨move, taken, moved⟩ | ⟨_, same⟩
      · exact moved ▸ Bench.accepts_move ih move (faultless move (List.mem_of_getElem? taken))
      · exact same ▸ ih

variable (nodesPresent : course.start.NodesPresent) (empty : ∀ id : NodeId, course.start.cluster.current[id]? = none)
include nodesPresent empty

-- The announcement is in the store or will be, or someone else has written there since.
theorem under_locks_after (i : Nat) (own : NodeId) (k : Incarnation)
    (located : (course.after i).cluster.current[own]? = some k) :
    ∃ node, (course.after i).UnderLocks k own node ∧
      (node.state = .running → (course.after i).Announced k own node (course.Overwritten k own i)) := by
  induction i with
  | zero => cases (empty own).symm.trans located
  | succ i ih =>
      rcases course.after_succ i with ⟨move, taken, moved⟩ | ⟨ended, same⟩
      · have action := course.action_of_moved move taken
        rw [moved] at located ⊢
        rcases ((course.after i).renames_move move).named own k located with before | ⟨_, rfl, created⟩
        · obtain ⟨node, underLocks, announced⟩ := ih before
          obtain ⟨last, hosted, fares⟩ := underLocks.hosted.remains underLocks.disciplined.numbered move
            (faultless move (List.mem_of_getElem? taken)) before located
          refine ⟨last, underLocks.step hosted fares, underLocks.announced_move fares ?_ ?_ announced hosted⟩
          · intro j mutation why next key
            by_cases mine : j = k ∧ why.isOwn = true
            · exact .inl ⟨mine.1, mine.2, accepts_after accepts faultless i k mutation⟩
            · exact .inr (Intrudes.now ⟨j, mutation, why, action.trans next, key, mine⟩)
          · intro overwritten unannounced
            refine overwritten.later (announces_eq_false fun mutation => ?_)
            rw [action]
            exact unannounced mutation
        · refine ⟨.create own, (nodes_present_after nodesPresent i).under_locks_created move created, fun running => ?_⟩
          cases running
      · rw [same] at located ⊢
        obtain ⟨node, underLocks, announced⟩ := ih located
        refine ⟨node, underLocks, fun running => ?_⟩
        have unannounced : course.announces k i = false := by
          rw [announces, course.action_of_ended ended]
          rfl
        rcases announced running with publishing | changing | ⟨only, planned | entry | overwritten⟩
        · exact .inl publishing
        · exact .inr (.inl changing)
        · exact .inr (.inr ⟨only, .inl planned⟩)
        · exact .inr (.inr ⟨only, .inr (.inl entry)⟩)
        · exact .inr (.inr ⟨only, .inr (.inr (overwritten.later unannounced))⟩)

end Launched

theorem own_write_key (nodesPresent : course.start.NodesPresent) (j : Incarnation) (mutation : Mutation) (why : Writing)
    (mine : why.isOwn = true) (taken : course.action? i = some (.work j (.write mutation why))) :
    ∃ other, (course.after i).cluster.nodes[j]? = some other ∧ mutation.key = other.id := by
  have later := nodes_present_after nodesPresent i
  cases here : (course.after i).cluster.nodes[j]? with
  | none =>
      rcases (later.unplanned j here).calm _ (course.action_plans _ taken) with idle | same
      · cases why with
        | announcing | withdrawing => simp [Action.isIdle, Work.isIdle] at idle
        | sweeping owner => cases mine
      · cases same
  | some other =>
      refine ⟨other, rfl, ?_⟩
      obtain ⟨move, _, next⟩ := Option.bind_eq_some_iff.mp taken
      obtain ⟨id, task, agenda, after, more, rfl, took⟩ := Bench.next_taken next
      obtain ⟨all, rest, _, _, charges⟩ := (later.disciplined j other here).charged took
      cases charges with
      | idle _ idle =>
          cases why with
          | announcing | withdrawing => simp [Action.isIdle, Work.isIdle] at idle
          | sweeping owner => cases mine
      | announce _ key => exact key
      | withdraw => rfl

theorem loss_of_intrusion (fresh : course.Fresh) (nodesPresent : course.start.NodesPresent)
    (intrudes : course.Intrudes k own i) :
    course.Loss k own i := by
  obtain ⟨j, mutation, why, taken, key, foreign⟩ := intrudes
  cases mine : why.isOwn with
  | true =>
      obtain ⟨other, here, named⟩ := own_write_key nodesPresent j mutation why mine taken
      exact .replaced j other mutation why (fun same => foreign ⟨same, mine⟩) here (named.symm.trans key) taken mine
  | false =>
      cases why with
      | announcing | withdrawing => cases mine
      | sweeping owner =>
          obtain ⟨rfl, view, told, read, sweep, later, missing, found⟩ := sweep_of_removal fresh j mutation owner taken
          obtain rfl : owner = own := key
          exact .swept j view told read sweep later missing found taken

theorem nodes_present_launch (config : Config) (timeout : Nat) (moves : List Move) :
    (launch config timeout moves).start.NodesPresent := by
  have fresh := fresh_launch config timeout moves
  have rests : (launch config timeout moves).start.Disciplined 0 "" := Bench.disciplined_at_rest _
  refine ⟨fresh.numbered, rests.placed, fresh.counted, fun id k located => ?_, fun k doomed => ?_,
    fun k _ => ⟨fun action plans => absurd plans (fresh.idle action), fun _ _ => rfl⟩, fun k node here => ?_⟩
  · cases ExtTreeMap.getElem?_empty.symm.trans located
  · cases doomed
  · cases (fresh.empty k).symm.trans here

/-- While the store takes every write, the announcement of a running bridge can be lost in these ways only. -/
theorem announcement_outlasts_sweeps (config : Config) (timeout : Nat) (moves : List Move) (course : Course)
    (launched : course = launch config timeout moves) (faultless : ∀ move ∈ moves, move.isFaultless = true) (i : Nat)
    (own : NodeId) (k : Incarnation) (located : (course.after i).cluster.current[own]? = some k) :
    ∃ node, (course.after i).cluster.nodes[k]? = some node ∧ node.id = own ∧
      (node.isRunning = true → course.Quiet k i →
        (course.entries i)[own]? =
          (if node.registry.groupNames = [] then none
          else some (some (Announcement.encode ⟨own, ExtTreeSet.ofList node.registry.groupNames⟩))) ∨
        ∃ l, l < i ∧ course.Loss k own l ∧ ∀ m, l < m → m < i → course.announces k m = false) := by
  subst launched
  have fresh := fresh_launch config timeout moves
  have nodesPresent := nodes_present_launch config timeout moves
  obtain ⟨node, underLocks, announced⟩ := under_locks_after (fun _ _ => rfl) faultless nodesPresent
    (fun _ => ExtTreeMap.getElem?_empty) i own k located
  refine ⟨node, underLocks.hosted.here, underLocks.hosted.id, fun running quiet => ?_⟩
  have named : node.standing.id = own := underLocks.hosted.id
  rcases settled_or_excused (announced (node.is_running_iff.mp running)) quiet with settled | ⟨l, earlier, intrudes, silent⟩
  · left
    rw [entries, settled, Standing.entry_eq, named]
    rfl
  · exact .inr ⟨l, earlier, loss_of_intrusion fresh nodesPresent intrudes, silent⟩

/-- A bridge is about to remove the entry of one that has left, which comes back and announces the same group. -/
def resurrection : List Move :=
  .arrive 0 (.addNode "a") :: goes 0 3 ++ .arrive 1 (.node "a" .start) :: goes 1 18 ++ .arrive 2 (.addNode "b") :: goes 2 9 ++
    .arrive 3 (.node "b" (.createGroup "g")) :: goes 3 2 ++ .arrive 4 (.node "b" .start) :: goes 4 30 ++
    .arrive 5 (.drop "b") :: goes 5 2 ++ .arrive 6 (.leave "b") :: goes 6 6 ++ .arrive 7 (.addNode "b") :: goes 7 9 ++
    .arrive 8 (.node "b" (.createGroup "g")) :: goes 8 2 ++ .arrive 9 (.node "b" .start) :: goes 9 30 ++ goes 6 17

theorem resurrection_faultless : ∀ move ∈ resurrection, move.isFaultless = true := by decide +kernel

theorem resurrection_done : ((launch {} 5000 resurrection).after 138).tasks = ∅ := by
  rw [← ExtTreeMap.isEmpty_iff]
  decide +kernel

theorem resurrection_ends :
    ((launch {} 5000 resurrection).after 138).cluster.nodes[2]?.any (fun node =>
      node.isRunning && (node.id = "b" && node.registry.groupNames = ["g"])) = true := by
  decide +kernel

theorem resurrection_erased : (launch {} 5000 resurrection).entries 138 = ∅ := by
  rw [← ExtTreeMap.isEmpty_iff]
  decide +kernel

theorem resurrection_lost :
    (∀ move ∈ resurrection, move.isFaultless = true) ∧
    ((launch {} 5000 resurrection).after 138).cluster.current["b"]? = some 2 ∧
    ∃ l, l < 138 ∧ (launch {} 5000 resurrection).Loss 2 "b" l ∧
      ∀ m, l < m → m < 138 → (launch {} 5000 resurrection).announces 2 m = false := by
  have located : ((launch {} 5000 resurrection).after 138).cluster.current["b"]? = some 2 := by decide +kernel
  have quiet : (launch {} 5000 resurrection).Quiet 2 138 := by
    rintro action ⟨id, task, found, _⟩
    rw [resurrection_done] at found
    cases ExtTreeMap.getElem?_empty.symm.trans found
  refine ⟨resurrection_faultless, located, ?_⟩
  obtain ⟨node, here, _, settles⟩ := announcement_outlasts_sweeps {} 5000 resurrection _ rfl resurrection_faultless 138 "b" 2
    located
  obtain ⟨last, there, facts⟩ := (Option.any_eq_true _ _).mp resurrection_ends
  obtain rfl : node = last := Option.some.inj (here.symm.trans there)
  rw [Bool.and_eq_true, Bool.and_eq_true, decide_eq_true_eq, decide_eq_true_eq] at facts
  rcases settles facts.1 quiet with announced | lost
  · rw [resurrection_erased, facts.2.2] at announced
    cases ExtTreeMap.getElem?_empty.symm.trans announced
  · exact lost

/-- A running bridge is left without its announcement, although the store refused nothing and nobody else wrote to it. -/
theorem live_announcement_swept :
    (∀ move ∈ resurrection, move.isFaultless = true) ∧ ((launch {} 5000 resurrection).after 138).tasks = ∅ ∧
    ((launch {} 5000 resurrection).after 138).cluster.current["b"]? = some 2 ∧
    ((launch {} 5000 resurrection).after 138).cluster.hub.members.contains "b" = true ∧
    ((launch {} 5000 resurrection).after 138).cluster.nodes[2]?.any (fun node =>
      node.isRunning && (node.id = "b" && node.registry.groupNames = ["g"])) = true ∧
    "b" ∈ (launch {} 5000 resurrection).entries 121 ∧ (launch {} 5000 resurrection).entries 138 = ∅ :=
  ⟨resurrection_faultless, resurrection_done, by decide +kernel, by decide +kernel, resurrection_ends, by decide +kernel,
    resurrection_erased⟩

end Course

end Coherence.Interleaving
