import Mathlib.Data.List.Nodup
import Coherence.Proofs.Ledger

set_option autoImplicit false

namespace Coherence

open Std

variable {η : Type}

namespace Bus

section Tidiness

-- Every delivery that is not finished is kept track of, and sleepers are woken in the order in which they are due.
structure AllTracked (bus : Bus η) : Prop where
  tracked : ∀ delivery ∈ bus.onWay, delivery.id ∈ bus.pending
  sorted : bus.timers.Pairwise (·.1 ≤ ·.1)
  due : ∀ timer ∈ bus.timers, bus.now ≤ timer.1

theorem mem_insert_timer (due : Nat) (delivery : Delivery η) (timers : List (Nat × Delivery η)) (timer : Nat × Delivery η) :
    timer ∈ insertTimer due delivery timers ↔ timer = (due, delivery) ∨ timer ∈ timers := by
  rw [(perm_insert_timer due delivery timers).mem_iff, List.mem_cons]

theorem sorted_insert_timer (due : Nat) (delivery : Delivery η) (timers : List (Nat × Delivery η))
    (sorted : timers.Pairwise (·.1 ≤ ·.1)) : (insertTimer due delivery timers).Pairwise (·.1 ≤ ·.1) := by
  induction timers with
  | nil => exact List.pairwise_singleton _ _
  | cons timer timers ih =>
      obtain ⟨least, rest⟩ := List.pairwise_cons.mp sorted
      rw [insertTimer]
      split
      · rename_i early
        refine List.pairwise_cons.mpr ⟨?_, ih rest⟩
        intro other member
        cases (mem_insert_timer due delivery timers other).mp member with
        | inl new => exact new ▸ early
        | inr old => exact least other old
      · rename_i late
        refine List.pairwise_cons.mpr ⟨?_, sorted⟩
        intro other member
        cases List.mem_cons.mp member with
        | inl same =>
            subst same
            exact Nat.le_of_not_le late
        | inr later => exact Nat.le_trans (Nat.le_of_not_le late) (least other later)

theorem timers_run_queue (now : Nat) (timers : List (Nat × Delivery η)) (queue : List (Delivery η))
    (sorted : timers.Pairwise (·.1 ≤ ·.1)) (due : ∀ timer ∈ timers, now ≤ timer.1) :
    (runQueue now timers queue).1.Pairwise (·.1 ≤ ·.1) ∧ ∀ timer ∈ (runQueue now timers queue).1, now ≤ timer.1 := by
  induction queue generalizing timers with
  | nil => exact ⟨sorted, due⟩
  | cons delivery queue ih =>
      rw [runQueue]
      split
      · apply ih _ (sorted_insert_timer _ _ timers sorted)
        intro timer member
        cases (mem_insert_timer _ _ timers timer).mp member with
        | inl new => exact new ▸ Nat.le_add_right now _
        | inr old => exact due timer old
      · exact ih timers sorted due

theorem Carries.ids {before after : Bus η} {arrived : List (Delivery η)} (carries : Carries before after arrived []) :
    ((arrived ++ after.onWay).map Delivery.id).Perm (before.onWay.map Delivery.id) := by
  rw [Carries, List.filter_nil, List.map_nil, List.append_nil] at carries
  have ids := carries.map Prod.fst
  rw [List.map_map, List.map_map] at ids
  exact ids

theorem is_unfinished_iff (bus : Bus η) (id : Nat) :
    bus.isUnfinished id = true ↔ ∃ delivery ∈ bus.onWay, delivery.id = id := by
  have any : bus.isUnfinished id = bus.onWay.any (·.id = id) := by
    simp [isUnfinished, onWay, Function.comp_def]
  simp [any]

theorem AllTracked.advance {bus : Bus η} (allTracked : AllTracked bus) (millis : Nat) :
    AllTracked (bus.advance millis).1 := by
  rw [Bus.advance]
  split
  · exact allTracked
  · have woken := timers_run_queue bus.now bus.timers bus.queue allTracked.sorted allTracked.due
    refine ⟨?_, woken.1.filter _, ?_⟩
    · intro delivery member
      have present := (carries_wait_until bus _).ids.mem_iff.mp (List.mem_map_of_mem (List.mem_append_right _ member))
      obtain ⟨former, there, id⟩ := List.mem_map.mp present
      exact id ▸ allTracked.tracked former there
    · intro timer member
      exact Nat.le_of_lt (of_decide_eq_true (List.mem_filter.mp member).2)

theorem AllTracked.flush (bus : Bus η) : AllTracked bus.flush.1 := ⟨by simp [Bus.flush, onWay], .nil, by simp [Bus.flush]⟩

theorem AllTracked.spawn {bus : Bus η} (allTracked : AllTracked bus) (delivery : Delivery η) :
    AllTracked (bus.spawn delivery) := by
  refine ⟨?_, allTracked.sorted, allTracked.due⟩
  intro other member
  simp only [onWay, Bus.spawn, List.mem_append, List.mem_singleton] at member
  rw [Bus.spawn, List.mem_append, List.mem_filter]
  by_cases new : other = delivery
  · exact .inr (new ▸ List.mem_singleton_self _)
  · have old : other ∈ bus.onWay := by
      rw [onWay, List.mem_append]
      rcases member with (queued | same) | asleep
      · exact .inl queued
      · exact absurd same new
      · exact .inr asleep
    exact .inl ⟨allTracked.tracked other old, (is_unfinished_iff bus other.id).mpr ⟨other, old, rfl⟩⟩

theorem AllTracked.send_to {bus : Bus η} (allTracked : AllTracked bus) (event : Event) (mode : Mode) (target : NodeId × η) :
    AllTracked (bus.sendTo event mode target).1 := by
  have numbered : AllTracked { bus with numbered := bus.numbered + 1 } :=
    ⟨allTracked.tracked, allTracked.sorted, allTracked.due⟩
  unfold sendTo
  dsimp only
  split
  · exact numbered
  · cases mode with
    | sync =>
        dsimp only
        rw [deliver]
        split
        · exact numbered
        · dsimp only
          split <;> exact numbered.advance _
    | async => exact numbered.spawn _

theorem AllTracked.send_all {bus : Bus η} (allTracked : AllTracked bus) (event : Event) (mode : Mode)
    (targets : List (NodeId × η)) :
    AllTracked (bus.sendAll event mode targets).1 := by
  induction targets generalizing bus with
  | nil => exact allTracked
  | cons target targets ih => exact ih (allTracked.send_to event mode target)

theorem AllTracked.step {bus : Bus η} (allTracked : AllTracked bus) (operation : Operation η) :
    AllTracked (bus.step operation).1 := by
  cases operation with
  | control control =>
      cases control with
      | setUnreachable node on => exact ⟨allTracked.tracked, allTracked.sorted, allTracked.due⟩
      | setDelay node millis => exact ⟨allTracked.tracked, allTracked.sorted, allTracked.due⟩
      | advance millis => exact allTracked.advance millis
      | flush => exact AllTracked.flush bus
  | register channel node handler =>
      obtain ⟨handlers, registered⟩ := step_register bus channel node handler
      rw [registered]
      exact ⟨allTracked.tracked, allTracked.sorted, allTracked.due⟩
  | unregister channel node =>
      obtain ⟨handlers, unregistered⟩ := step_unregister bus channel node
      rw [unregistered]
      exact ⟨allTracked.tracked, allTracked.sorted, allTracked.due⟩
  | broadcast sender channel event mode =>
      have recorded (call : Call) : AllTracked (bus.record call) := ⟨allTracked.tracked, allTracked.sorted, allTracked.due⟩
      exact (recorded _).send_all event mode _

structure TrackedOnce (bus : Bus η) : Prop extends bus.AllTracked where
  distinct : (bus.onWay.map Delivery.id).Nodup
  numbered : ∀ delivery ∈ bus.onWay, delivery.id < bus.numbered

theorem mem_numbers_posted (bus : Bus η) (operation : Operation η) (number : Nat)
    (member : number ∈ ((bus.posted operation).filter Posting.granted).map Posting.number) :
    bus.numbered ≤ number ∧ number < (bus.step operation).1.numbered := by
  have posted : number ∈ (bus.posted operation).map Posting.number :=
    (List.filter_sublist.map Posting.number).subset member
  rw [numbers_posted, List.mem_range'_1] at posted
  rw [numbered_step]
  exact posted

theorem ids_step (bus : Bus η) (operation : Operation η) :
    (((bus.step operation).2.2 ++ (bus.step operation).1.onWay).map Delivery.id).Perm
      (bus.onWay.map Delivery.id ++ ((bus.posted operation).filter Posting.granted).map Posting.number) := by
  have ids := (carries_step bus operation).map Prod.fst
  simp only [List.map_append, List.map_map] at ids ⊢
  exact ids

theorem TrackedOnce.step {bus : Bus η} (trackedOnce : TrackedOnce bus) (operation : Operation η) :
    TrackedOnce (bus.step operation).1 := by
  have ids := ids_step bus operation
  have earlier (number : Nat) (member : number ∈ bus.onWay.map Delivery.id) : number < bus.numbered := by
    obtain ⟨delivery, there, rfl⟩ := List.mem_map.mp member
    exact trackedOnce.numbered delivery there
  refine ⟨trackedOnce.toAllTracked.step operation, ?_, ?_⟩
  · have granted : (((bus.posted operation).filter Posting.granted).map Posting.number).Nodup := by
      have posted : ((bus.posted operation).map Posting.number).Nodup := by
        rw [numbers_posted]
        exact List.nodup_range'
      exact posted.sublist (List.filter_sublist.map Posting.number)
    have all := List.nodup_append.mpr ⟨trackedOnce.distinct, granted, fun first here second there same => by
      have low := earlier first here
      have high := (mem_numbers_posted bus operation second there).1
      omega⟩
    exact (ids.nodup_iff.mpr all).sublist ((List.sublist_append_right _ _).map _)
  · intro delivery member
    have grown := numbered_step bus operation
    have either := ids.mem_iff.mp (List.mem_map_of_mem (List.mem_append_right _ member))
    cases List.mem_append.mp either with
    | inl before =>
        have low := earlier _ before
        omega
    | inr new => exact (mem_numbers_posted bus operation _ new).2

theorem TrackedOnce.run {bus : Bus η} (trackedOnce : TrackedOnce bus) (operations : List (Operation η)) :
    TrackedOnce (bus.run operations).1 := by
  induction operations generalizing bus with
  | nil => exact trackedOnce
  | cons operation operations ih => exact ih (trackedOnce.step operation)

theorem TrackedOnce.rewire {bus : Bus η} (trackedOnce : TrackedOnce bus)
    (handlers : ExtTreeMap Channel (ExtTreeMap NodeId η)) :
    TrackedOnce { bus with handlers } :=
  ⟨⟨trackedOnce.tracked, trackedOnce.sorted, trackedOnce.due⟩, trackedOnce.distinct, trackedOnce.numbered⟩

theorem tracked_once_initial (timeout : Nat) : TrackedOnce ({ timeout } : Bus η) :=
  ⟨⟨by simp [onWay], .nil, by simp⟩, by simp [onWay], by simp [onWay]⟩

end Tidiness

section Waiting

def settle (bus : Bus η) : Bus η × List (Delivery η) :=
  let (timers, arrived) := runQueue bus.now bus.timers bus.queue
  ({ bus with queue := [], timers }, arrived)

-- Time moves on until one of the sleepers has been woken.
def wake (bus : Bus η) (id : Nat) : Bus η × List (Delivery η) :=
  match bus.timers.find? (·.2.id = id) with
  | none => (bus, [])
  | some timer =>
      ({ bus with now := timer.1, timers := bus.timers.filter (timer.1 < ·.1) },
        (bus.timers.filter (·.1 ≤ timer.1)).map (·.2))

def await (bus : Bus η) (id : Nat) : Bus η × List (Delivery η) :=
  if bus.isUnfinished id then
    let (bus, ran) := bus.settle
    let (bus, woken) := bus.wake id
    (bus, ran ++ woken)
  else (bus, [])

def awaitAll (bus : Bus η) : List Nat → Bus η × List (Delivery η)
  | [] => (bus, [])
  | id :: ids =>
      let (bus, here) := bus.await id
      let (bus, there) := bus.awaitAll ids
      (bus, here ++ there)

def wakeAll (bus : Bus η) : Bus η × List (Delivery η) :=
  ({ bus with now := bus.timers.foldl (fun now timer => max now timer.1) bus.now, timers := [] },
    bus.timers.map (·.2))

theorem settle_idle (bus : Bus η) (idle : bus.queue = []) : bus.settle = (bus, []) := by
  cases bus
  simp_all [settle, runQueue]

theorem await_idle (bus : Bus η) (id : Nat) (idle : bus.queue = []) : bus.await id = bus.wake id := by
  rw [await]
  by_cases unfinished : bus.isUnfinished id = true
  · rw [if_pos unfinished, settle_idle bus idle]
    rfl
  · have missing : bus.timers.find? (·.2.id = id) = none := by
      rw [List.find?_eq_none]
      simpa [isUnfinished, idle] using unfinished
    rw [if_neg unfinished, wake, missing]

theorem sorted_split (timers : List (Nat × Delivery η)) (time : Nat) (sorted : timers.Pairwise (·.1 ≤ ·.1)) :
    timers.filter (·.1 ≤ time) ++ timers.filter (time < ·.1) = timers := by
  induction timers with
  | nil => rfl
  | cons timer timers ih =>
      obtain ⟨least, rest⟩ := List.pairwise_cons.mp sorted
      by_cases early : timer.1 ≤ time
      · rw [List.filter_cons_of_pos (by simpa using early), List.filter_cons_of_neg (by simpa using early),
          List.cons_append, ih rest]
      · -- Nothing behind the first one is earlier.
        have none : (timer :: timers).filter (·.1 ≤ time) = [] := by
          rw [List.filter_eq_nil_iff]
          intro other member
          cases List.mem_cons.mp member with
          | inl same => simpa [same] using early
          | inr later =>
              have bound := least other later
              simp only [decide_eq_true_eq]
              omega
        have all : (timer :: timers).filter (time < ·.1) = timer :: timers := by
          rw [List.filter_eq_self]
          intro other member
          cases List.mem_cons.mp member with
          | inl same =>
              simp only [decide_eq_true_eq, same]
              omega
          | inr later =>
              have bound := least other later
              simp only [decide_eq_true_eq]
              omega
        rw [none, all, List.nil_append]

theorem latest_of_bounded (timers : List (Nat × Delivery η)) (now time : Nat) (start : now ≤ time)
    (bounded : ∀ timer ∈ timers, timer.1 ≤ time) :
    timers.foldl (fun now timer => max now timer.1) now ≤ time := by
  induction timers generalizing now with
  | nil => exact start
  | cons timer timers ih =>
      rw [List.forall_mem_cons] at bounded
      exact ih _ (Nat.max_le.mpr ⟨start, bounded.1⟩) bounded.2

theorem le_latest (timers : List (Nat × Delivery η)) (now : Nat) :
    now ≤ timers.foldl (fun now timer => max now timer.1) now ∧
      ∀ timer ∈ timers, timer.1 ≤ timers.foldl (fun now timer => max now timer.1) now := by
  induction timers generalizing now with
  | nil => exact ⟨Nat.le_refl now, by simp⟩
  | cons timer timers ih =>
      obtain ⟨start, later⟩ := ih (max now timer.1)
      rw [List.foldl_cons, List.forall_mem_cons]
      exact ⟨by omega, by omega, later⟩

theorem latest_split (timers : List (Nat × Delivery η)) (now : Nat) (timer : Nat × Delivery η) (member : timer ∈ timers)
    (due : now ≤ timer.1) :
    (timers.filter (timer.1 < ·.1)).foldl (fun now timer => max now timer.1) timer.1 =
      timers.foldl (fun now timer => max now timer.1) now := by
  have all := le_latest timers now
  have late := le_latest (timers.filter (timer.1 < ·.1)) timer.1
  apply Nat.le_antisymm
  · refine latest_of_bounded _ _ _ (all.2 timer member) fun other there => ?_
    exact all.2 other (List.mem_filter.mp there).1
  · refine latest_of_bounded _ _ _ (Nat.le_trans due late.1) fun other there => ?_
    by_cases later : timer.1 < other.1
    · exact late.2 other (List.mem_filter.mpr ⟨there, decide_eq_true later⟩)
    · exact Nat.le_trans (Nat.le_of_not_lt later) late.1

theorem await_all_asleep (bus : Bus η) (ids : List Nat) (idle : bus.queue = [])
    (sorted : bus.timers.Pairwise (·.1 ≤ ·.1)) (due : ∀ timer ∈ bus.timers, bus.now ≤ timer.1)
    (distinct : (bus.timers.map (·.2.id)).Nodup) (known : ∀ timer ∈ bus.timers, timer.2.id ∈ ids) :
    bus.awaitAll ids = bus.wakeAll := by
  induction ids generalizing bus with
  | nil =>
      have none : bus.timers = [] := List.eq_nil_iff_forall_not_mem.mpr fun timer member => by
        simpa using known timer member
      cases bus
      simp_all [awaitAll, wakeAll]
  | cons id ids ih =>
      rw [awaitAll, await_idle bus id idle, wake]
      cases found : bus.timers.find? (·.2.id = id) with
      | none =>
          rw [List.find?_eq_none] at found
          refine ih bus idle sorted due distinct fun timer member => ?_
          exact (List.mem_cons.mp (known timer member)).resolve_left (by simpa using found timer member)
      | some timer =>
          have member := List.mem_of_find?_eq_some found
          have named : timer.2.id = id := by simpa using List.find?_some found
          have later := ih { bus with now := timer.1, timers := bus.timers.filter (timer.1 < ·.1) } idle
            (sorted.filter _) (fun other there => Nat.le_of_lt (of_decide_eq_true (List.mem_filter.mp there).2))
            (distinct.sublist (List.filter_sublist.map _)) (by
              intro other there
              rw [List.mem_filter, decide_eq_true_eq] at there
              refine (List.mem_cons.mp (known other there.1)).resolve_left fun same => ?_
              -- There is no second delivery of that number.
              rw [List.inj_on_of_nodup_map distinct there.1 member (same.trans named.symm)] at there
              exact Nat.lt_irrefl _ there.2)
          dsimp only
          rw [later, wakeAll, wakeAll]
          dsimp only
          rw [latest_split bus.timers bus.now timer member (due timer member), ← List.map_append,
            sorted_split bus.timers timer.1 sorted]

theorem carries_settle (bus : Bus η) : Carries bus bus.settle.1 bus.settle.2 [] := by
  rw [Carries, List.filter_nil, List.map_nil, List.append_nil]
  exact stamps_run_queue bus.now bus.timers bus.queue

theorem await_all_settles (bus : Bus η) (id : Nat) (ids : List Nat) (unfinished : bus.isUnfinished id = true) :
    bus.awaitAll (id :: ids) =
      ((bus.settle.1.awaitAll (id :: ids)).1, bus.settle.2 ++ (bus.settle.1.awaitAll (id :: ids)).2) := by
  rw [awaitAll, awaitAll, await, if_pos unfinished, await_idle bus.settle.1 id rfl]
  simp only [List.append_assoc]

theorem await_all_eq (bus : Bus η) (ids : List Nat) (sorted : bus.timers.Pairwise (·.1 ≤ ·.1))
    (due : ∀ timer ∈ bus.timers, bus.now ≤ timer.1) (distinct : (bus.onWay.map Delivery.id).Nodup)
    (known : ∀ delivery ∈ bus.onWay, delivery.id ∈ ids) :
    bus.awaitAll ids = (bus.settle.1.wakeAll.1, bus.settle.2 ++ bus.settle.1.wakeAll.2) := by
  induction ids with
  | nil =>
      have none : bus.onWay = [] := List.eq_nil_iff_forall_not_mem.mpr fun delivery member => by
        simpa using known delivery member
      obtain ⟨idle, nobody⟩ := List.append_eq_nil_iff.mp none
      cases bus
      simp_all [awaitAll, settle, wakeAll, runQueue]
  | cons id ids ih =>
      by_cases unfinished : bus.isUnfinished id = true
      · have timers := timers_run_queue bus.now bus.timers bus.queue sorted due
        have same := (carries_settle bus).ids
        have asleep : (bus.settle.1.timers.map (·.2.id)).Sublist ((bus.settle.2 ++ bus.settle.1.onWay).map Delivery.id) := by
          rw [List.map_append, onWay, List.map_append, List.map_map]
          exact (List.sublist_append_right _ _).trans (List.sublist_append_right _ _)
        rw [await_all_settles bus id ids unfinished, await_all_asleep bus.settle.1 (id :: ids) rfl timers.1 timers.2
          ((same.nodup_iff.mpr distinct).sublist asleep)]
        intro timer member
        obtain ⟨former, there, named⟩ := List.mem_map.mp (same.mem_iff.mp (asleep.subset (List.mem_map_of_mem member)))
        exact named ▸ known former there
      · have others : ∀ delivery ∈ bus.onWay, delivery.id ∈ ids := fun delivery member =>
          (List.mem_cons.mp (known delivery member)).resolve_left fun same =>
            unfinished ((is_unfinished_iff bus id).mpr ⟨delivery, member, same⟩)
        rw [awaitAll, await, if_neg unfinished]
        exact ih others

theorem flush_awaits (bus : Bus η) (trackedOnce : TrackedOnce bus) :
    bus.flush = { bus with pending := [] }.awaitAll bus.pending := by
  rw [await_all_eq { bus with pending := [] } bus.pending
    trackedOnce.sorted trackedOnce.due trackedOnce.distinct trackedOnce.tracked]
  rfl

end Waiting

section Accounts

-- It brings the event of the call to whoever was registered when the call was made.
def Once (deliveries : List (Delivery η)) (posting : Posting η) : Prop :=
  ∃ delivery, deliveries.filter (·.id = posting.number) = [delivery] ∧ delivery.handler = posting.handler ∧
    delivery.event = posting.event

def Never (deliveries : List (Delivery η)) (posting : Posting η) : Prop :=
  ∀ delivery ∈ deliveries, delivery.id ≠ posting.number

structure Names (bus : Bus η) (sender : NodeId) (channel : Channel) (event : Event) (mode : Mode)
    (posting : Posting η) : Prop where
  registered : (bus.handlersOn channel)[posting.target]? = some posting.handler
  other : posting.target ≠ sender
  event : posting.event = event
  mode : posting.mode = mode
  reachable : posting.reachable = true ↔ posting.target ∉ bus.unreachable

theorem names_posted (bus : Bus η) (sender : NodeId) (channel : Channel) (event : Event) (mode : Mode)
    (posting : Posting η) (member : posting ∈ bus.posted (.broadcast sender channel event mode)) :
    bus.Names sender channel event mode posting := by
  obtain ⟨⟨target, number⟩, entry, rfl⟩ := List.mem_map.mp member
  obtain ⟨registered, other⟩ :=
    (bus.mem_targets channel sender target.1 target.2).mp (List.fst_mem_of_mem_zipIdx entry)
  exact ⟨registered, other, rfl, rfl, decide_eq_true_iff⟩

theorem exists_posted (bus : Bus η) (sender target : NodeId) (channel : Channel) (event : Event) (mode : Mode)
    (handler : η) (registered : (bus.handlersOn channel)[target]? = some handler) (other : target ≠ sender) :
    ∃ posting ∈ bus.posted (.broadcast sender channel event mode), posting.target = target := by
  have member := (bus.mem_targets channel sender target handler).mpr ⟨registered, other⟩
  obtain ⟨index, place⟩ := List.mem_iff_getElem?.mp member
  refine ⟨bus.setting.posting _ event mode ((target, handler), bus.numbered + index), List.mem_map.mpr ⟨_, ?_, rfl⟩, rfl⟩
  exact List.mk_add_mem_zipIdx_iff_getElem?.mpr place

theorem filter_number (ledger : List (Posting η)) (distinct : (ledger.map Posting.number).Nodup) (posting : Posting η)
    (member : posting ∈ ledger) : ledger.filter (·.number = posting.number) = [posting] := by
  obtain ⟨before, after, rfl⟩ := List.append_of_mem member
  simp only [List.map_append, List.map_cons, List.nodup_append, List.nodup_cons, List.mem_map, List.mem_cons] at distinct
  have earlier : before.filter (·.number = posting.number) = [] := by
    rw [List.filter_eq_nil_iff]
    intro other there same
    exact distinct.2.2 other.number ⟨other, there, rfl⟩ posting.number (.inl rfl) (by simpa using same)
  have later : after.filter (·.number = posting.number) = [] := by
    rw [List.filter_eq_nil_iff]
    intro other there same
    exact distinct.2.1.1 ⟨other, there, by simpa using same⟩
  rw [List.filter_append, List.filter_cons_of_pos (by simp), earlier, later, List.nil_append]

theorem stamps_granted (ledger : List (Posting η)) (distinct : (ledger.map Posting.number).Nodup) (posting : Posting η)
    (member : posting ∈ ledger) :
    ((ledger.filter Posting.granted).map Posting.stamp).filter (·.1 = posting.number) =
      if posting.granted then [posting.stamp] else [] := by
  have entry : (ledger.filter Posting.granted).filter (·.number = posting.number) = [posting].filter Posting.granted := by
    rw [← filter_number ledger distinct posting member, List.filter_filter, List.filter_filter]
    simp only [Bool.and_comm]
  rw [List.filter_map]
  change ((ledger.filter Posting.granted).filter (·.number = posting.number)).map Posting.stamp = _
  rw [entry, List.filter_cons, List.filter_nil]
  split <;> rfl

theorem stamps_of_carries (start after : Bus η) (arrived : List (Delivery η)) (ledger : List (Posting η))
    (carries : Carries start after arrived ledger) (distinct : (ledger.map Posting.number).Nodup) (posting : Posting η)
    (member : posting ∈ ledger) (unknown : ∀ delivery ∈ start.onWay, delivery.id ≠ posting.number) :
    ((arrived ++ after.onWay).filter (·.id = posting.number)).map Delivery.stamp =
      if posting.granted then [posting.stamp] else [] := by
  have before : (start.onWay.map Delivery.stamp).filter (·.1 = posting.number) = [] := by
    rw [List.filter_map, List.map_eq_nil_iff, List.filter_eq_nil_iff]
    exact fun delivery there same => unknown delivery there (of_decide_eq_true same)
  have same := carries.filter (·.1 = posting.number)
  rw [List.filter_append, before, List.nil_append, stamps_granted ledger distinct posting member, List.filter_map] at same
  by_cases granted : posting.granted = true
  · rw [if_pos granted] at same ⊢
    exact List.perm_singleton.mp same
  · rw [if_neg granted] at same ⊢
    exact List.perm_nil.mp same

theorem once_of_carries (start after : Bus η) (arrived : List (Delivery η)) (ledger : List (Posting η))
    (carries : Carries start after arrived ledger) (idle : start.onWay = [])
    (distinct : (ledger.map Posting.number).Nodup) (posting : Posting η) (member : posting ∈ ledger)
    (granted : posting.granted = true) : Once (arrived ++ after.onWay) posting := by
  have stamps := stamps_of_carries start after arrived ledger carries distinct posting member (by simp [idle])
  rw [if_pos granted, List.map_eq_singleton_iff] at stamps
  obtain ⟨delivery, only, stamp⟩ := stamps
  exact ⟨delivery, only, (Prod.ext_iff.mp (Prod.ext_iff.mp stamp).2).1, (Prod.ext_iff.mp (Prod.ext_iff.mp stamp).2).2⟩

theorem never_of_carries (start after : Bus η) (arrived : List (Delivery η)) (ledger : List (Posting η))
    (carries : Carries start after arrived ledger) (idle : start.onWay = [])
    (distinct : (ledger.map Posting.number).Nodup) (posting : Posting η) (member : posting ∈ ledger)
    (refused : posting.granted = false) : Never (arrived ++ after.onWay) posting := by
  have stamps := stamps_of_carries start after arrived ledger carries distinct posting member (by simp [idle])
  rw [if_neg (by simp [refused]), List.map_eq_nil_iff, List.filter_eq_nil_iff] at stamps
  intro delivery there
  simpa using stamps delivery there

end Accounts

/-- No delivery is lost or doubled: whoever is addressed and in reach gets exactly one, at the latest by a flush. -/
theorem deliveries_exactly_once (timeout : Nat) (operations : List (Operation η)) :
    let start : Bus η := { timeout }
    let ledger := start.ledger operations
    let after := (start.run operations).1
    let arrived := (start.run operations).2
    (ledger.map Posting.number).Nodup ∧
      (ledger.map fun posting => (posting.call, posting.target)).Nodup ∧
      (∀ before sender channel event mode rest, operations = before ++ .broadcast sender channel event mode :: rest →
        let there := (start.run before).1
        (∀ posting ∈ ledger, posting.call = there.sent.length → there.Names sender channel event mode posting) ∧
          ∀ target handler, (there.handlersOn channel)[target]? = some handler → target ≠ sender →
            ∃ posting ∈ ledger, posting.call = there.sent.length ∧ posting.target = target) ∧
      (∀ delivery ∈ arrived ++ after.onWay, ∃ posting ∈ ledger, posting.granted ∧ posting.stamp = delivery.stamp) ∧
      (∀ posting ∈ ledger, posting.mode = .async →
        (posting.reachable = false → Never (arrived ++ after.onWay) posting) ∧
          (posting.reachable = true →
            Once (arrived ++ after.onWay) posting ∧ Once (arrived ++ after.flush.2) posting)) ∧
      (∀ delivery ∈ after.onWay, delivery.id ∈ after.pending) ∧
      after.flush = { after with pending := [] }.awaitAll after.pending ∧
      after.flush.1.onWay = [] ∧ after.flush.1.pending = [] := by
  intro start ledger after arrived
  have carries := carries_run start operations
  have distinct := numbers_distinct start operations
  have trackedOnce := (tracked_once_initial timeout : TrackedOnce start).run operations
  refine ⟨distinct, pairs_distinct start operations, ?_, ?_, ?_, trackedOnce.tracked,
    flush_awaits after trackedOnce, rfl, rfl⟩
  · intro before sender channel event mode rest split
    refine ⟨?_, ?_⟩
    · intro posting member call
      refine names_posted _ sender channel event mode posting (mem_ledger_call start before rest _ posting call ?_ ?_)
      · exact split ▸ member
      · change _ < ((start.run before).1.broadcast sender channel event mode).1.sent.length
        rw [sent_broadcast, List.length_append]
        exact Nat.lt_succ_self _
    · intro target handler registered other
      obtain ⟨posting, member, named⟩ := exists_posted _ sender target channel event mode handler registered other
      refine ⟨posting, ?_, (call_posted _ _ posting member).1, named⟩
      change posting ∈ start.ledger operations
      rw [split, ledger_append, Bus.ledger, List.mem_append, List.mem_append]
      exact .inr (.inl member)
  · intro delivery member
    have stamp := carries.mem_iff.mp (List.mem_map_of_mem member)
    rw [show start.onWay = [] from rfl, List.map_nil, List.nil_append, List.mem_map] at stamp
    obtain ⟨posting, entry, same⟩ := stamp
    exact ⟨posting, (List.mem_filter.mp entry).1, (List.mem_filter.mp entry).2, same⟩
  · intro posting member async
    refine ⟨?_, ?_⟩
    · intro cut
      exact never_of_carries start after arrived ledger carries rfl distinct posting member (by
        simp [Posting.granted, cut])
    · intro reachable
      have granted : posting.granted = true := by simp [Posting.granted, reachable, async]
      have flushed := carries.trans (carries_flush after)
      have once := once_of_carries start after.flush.1 (arrived ++ after.flush.2) (ledger ++ []) flushed rfl
        (by simpa using distinct) posting (by simpa using member) granted
      refine ⟨once_of_carries start after arrived ledger carries rfl distinct posting member granted, ?_⟩
      rw [show after.flush.1.onWay = [] from rfl, List.append_nil] at once
      exact once

-- The wire to one node is slow, to another it is cut.
def strained : List (Operation Nat) :=
  [.register "events" "a" 0, .register "events" "b" 1, .register "events" "c" 2, .control (.setDelay "b" 10),
    .control (.setUnreachable "c" true)]

theorem replaced_handler_once :
    let operations := strained ++ .broadcast "a" "events" (.single "g" "x") .async ::
      [.unregister "events" "b", .register "events" "b" 3, .control (.advance 10)]
    let after := ({} : Bus Nat).run operations
    ∃ slow cut : Posting Nat, slow.target = "b" ∧ slow.handler = 1 ∧ cut.target = "c" ∧
      Once (after.2 ++ after.1.flush.2) slow ∧ Never (after.2 ++ after.1.onWay) cut := by
  intro operations after
  obtain ⟨_, _, calls, _, fate, _⟩ := deliveries_exactly_once 5000 operations
  obtain ⟨named, addressed⟩ := calls strained "a" "events" (.single "g" "x") .async _ rfl
  obtain ⟨slow, entry, call, target⟩ := addressed "b" 1 (by decide +kernel) (by decide)
  obtain ⟨cut, other, place, silent⟩ := addressed "c" 2 (by decide +kernel) (by decide)
  have names := named slow entry call
  have unreached := named cut other place
  have handler : slow.handler = 1 := by
    have registered := names.registered
    rw [target, show ((({} : Bus Nat).run strained).1.handlersOn "events")["b"]? = some 1 by decide +kernel] at registered
    exact (Option.some.inj registered).symm
  refine ⟨slow, cut, target, handler, silent, ((fate slow entry names.mode).2 ?_).2, (fate cut other unreached.mode).1 ?_⟩
  · rw [names.reachable, target]
    decide +kernel
  · rw [← Bool.not_eq_true, unreached.reachable, silent]
    decide +kernel

end Bus

end Coherence
