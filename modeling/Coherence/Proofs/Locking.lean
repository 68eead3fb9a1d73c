import Coherence.Proofs.Entries
import Coherence.Proofs.Queueing

set_option autoImplicit false

namespace Coherence.Interleaving

open Std

def Lock.owner : Lock → Incarnation
  | .lifecycle k => k
  | .publishing k => k

-- What a task is bound to do: give back the two locks of a bridge, write its announcement, withdraw it.
structure Duty where
  lifecycle : Bool := false
  publishing : Bool := false
  announces : Bool := false
  withdraws : Bool := false
deriving DecidableEq

namespace Duty

def locks (lifecycle publishing : Bool) : Duty := { lifecycle, publishing }

def owes (duty : Duty) : Lock → Bool
  | .lifecycle _ => duty.lifecycle
  | .publishing _ => duty.publishing

-- What nobody intends before they have the lock.
def intends (duty : Duty) : Lock → Bool
  | .lifecycle _ => duty.withdraws
  | .publishing _ => duty.announces

end Duty

namespace Work

def isIdle : Work → Bool
  | .start | .admission | .stop | .publish | .groupsChanged => false
  | .write _ .announcing | .write _ .withdrawing => false
  | _ => true

def charge (own : NodeId) (rest : Duty) : Work → Option Duty
  | .start | .admission | .stop => if rest = {} then some (.locks true false) else none
  | .groupsChanged => if rest = {} then some {} else none
  | .publish => if rest = .locks rest.lifecycle true then some rest else none
  | .write mutation .announcing =>
      if mutation.key = own ∧ rest = .locks rest.lifecycle true then some { rest with announces := true } else none
  | .write mutation .withdrawing =>
      if mutation.issued = .remove own ∧ rest = .locks true true then some { rest with withdraws := true } else none
  | _ => some rest

end Work

namespace Action

def isIdle (k : Incarnation) : Action → Bool
  | .acquire lock | .release lock => lock.owner ≠ k
  | .work j own => j ≠ k || own.isIdle
  | _ => true

def due (own : NodeId) (rest : Duty) : Action → Option Duty
  | .acquire (.lifecycle _) => if rest = .locks true false then some {} else none
  | .release (.lifecycle _) => if rest = {} then some (.locks true false) else none
  | .acquire (.publishing _) =>
      if rest.publishing = true ∧ rest.announces = false then some { rest with publishing := false } else none
  | .release (.publishing _) =>
      if rest = .locks rest.lifecycle false then some (.locks rest.lifecycle true) else none
  | .work _ planned => planned.charge own rest
  | _ => some rest

def charge (k : Incarnation) (own : NodeId) (rest : Duty) (action : Action) : Option Duty :=
  if action.isIdle k then some rest else action.due own rest

end Action

-- There is none if the agenda does something without the lock that it takes.
def duty (k : Incarnation) (own : NodeId) : List Action → Option Duty
  | [] => some {}
  | action :: agenda => (duty k own agenda).bind (action.charge k own ·)

inductive Charges (k : Incarnation) (own : NodeId) (rest : Duty) : Action → Duty → Prop
  | idle (action : Action) (idle : action.isIdle k = true) : Charges k own rest action rest
  | seize (plain : rest = .locks true false) : Charges k own rest (.acquire (.lifecycle k)) {}
  | yield (plain : rest = {}) : Charges k own rest (.release (.lifecycle k)) (.locks true false)
  | enter (owed : rest.publishing = true) (calm : rest.announces = false) :
      Charges k own rest (.acquire (.publishing k)) { rest with publishing := false }
  | leave (plain : rest = .locks rest.lifecycle false) :
      Charges k own rest (.release (.publishing k)) (.locks rest.lifecycle true)
  | start (plain : rest = {}) : Charges k own rest (.work k .start) (.locks true false)
  | admission (plain : rest = {}) : Charges k own rest (.work k .admission) (.locks true false)
  | stop (plain : rest = {}) : Charges k own rest (.work k .stop) (.locks true false)
  | changed (plain : rest = {}) : Charges k own rest (.work k .groupsChanged) {}
  | publish (plain : rest = .locks rest.lifecycle true) : Charges k own rest (.work k .publish) rest
  | announce (mutation : Mutation) (key : mutation.key = own) (plain : rest = .locks rest.lifecycle true) :
      Charges k own rest (.work k (.write mutation .announcing)) { rest with announces := true }
  | withdraw (plain : rest = .locks true true) :
      Charges k own rest (.work k (.write (.remove own) .withdrawing)) { rest with withdraws := true }

variable {k : Incarnation} {own : NodeId}

theorem charges_of_work {rest duty : Duty} (work : Work) (busy : ¬ work.isIdle = true)
    (charged : work.charge own rest = some duty) : Charges k own rest (.work k work) duty := by
  cases work with
  | start =>
      obtain ⟨plain, ⟨⟩⟩ := Option.ite_none_right_eq_some.mp charged
      exact .start plain
  | admission =>
      obtain ⟨plain, ⟨⟩⟩ := Option.ite_none_right_eq_some.mp charged
      exact .admission plain
  | stop =>
      obtain ⟨plain, ⟨⟩⟩ := Option.ite_none_right_eq_some.mp charged
      exact .stop plain
  | publish =>
      obtain ⟨plain, ⟨⟩⟩ := Option.ite_none_right_eq_some.mp charged
      exact .publish plain
  | groupsChanged =>
      obtain ⟨plain, ⟨⟩⟩ := Option.ite_none_right_eq_some.mp charged
      exact .changed plain
  | write mutation why =>
      cases why with
      | announcing =>
          obtain ⟨⟨key, plain⟩, ⟨⟩⟩ := Option.ite_none_right_eq_some.mp charged
          exact .announce mutation key plain
      | withdrawing =>
          obtain ⟨⟨key, plain⟩, ⟨⟩⟩ := Option.ite_none_right_eq_some.mp charged
          cases mutation with
          | set => cases key
          | remove =>
              cases key
              exact .withdraw plain
      | sweeping owner => exact absurd rfl busy
  | _ => exact absurd rfl busy

theorem charges_of_charge {rest duty : Duty} (action : Action) (charged : action.charge k own rest = some duty) :
    Charges k own rest action duty := by
  rw [Action.charge] at charged
  split at charged
  · rename_i idle
    cases charged
    exact .idle action idle
  · rename_i busy
    have owned {j : Incarnation} (busy : ¬ decide (j ≠ k) = true) : j = k :=
      Decidable.not_not.mp fun other => busy (decide_eq_true other)
    cases action with
    | acquire lock =>
        obtain rfl := owned busy
        cases lock with
        | lifecycle =>
            obtain ⟨plain, ⟨⟩⟩ := Option.ite_none_right_eq_some.mp charged
            exact .seize plain
        | publishing =>
            obtain ⟨⟨owed, calm⟩, ⟨⟩⟩ := Option.ite_none_right_eq_some.mp charged
            exact .enter owed calm
    | release lock =>
        obtain rfl := owned busy
        cases lock with
        | lifecycle =>
            obtain ⟨plain, ⟨⟩⟩ := Option.ite_none_right_eq_some.mp charged
            exact .yield plain
        | publishing =>
            obtain ⟨plain, ⟨⟩⟩ := Option.ite_none_right_eq_some.mp charged
            exact .leave plain
    | work j work =>
        obtain ⟨mine, active⟩ : j = k ∧ ¬ work.isIdle = true := by
          rw [Action.isIdle, Bool.or_eq_true] at busy
          exact ⟨owned fun other => busy (.inl other), fun idle => busy (.inr idle)⟩
        subst mine
        exact charges_of_work work active charged
    | _ => exact absurd rfl busy

theorem charge_idle (rest : Duty) (action : Action) (idle : action.isIdle k = true) :
    action.charge k own rest = some rest := if_pos idle

theorem idle_routine (action : Action) (routine : action.isRoutine = true) : action.isIdle k = true := by
  cases action with
  | pass | answer | sleep => rfl
  | work j work =>
      have idle : work.isIdle = true := by
        cases work with
        | write mutation why => cases why <;> first | rfl | cases routine
        | _ => first | rfl | cases routine
      rw [Action.isIdle, idle, Bool.or_true]
  | _ => cases routine

theorem duty_idle (more agenda : List Action) (idle : ∀ action ∈ more, action.isIdle k = true) :
    duty k own (more ++ agenda) = duty k own agenda := by
  induction more with
  | nil => rfl
  | cons action more ih =>
      rw [List.cons_append, duty, ih fun other member => idle other (List.mem_cons_of_mem action member)]
      cases duty k own agenda with
      | none => rfl
      | some rest => exact charge_idle rest action (idle action (List.mem_cons_self ..))

theorem duty_of_idle (agenda : List Action) (idle : ∀ action ∈ agenda, action.isIdle k = true) :
    duty k own agenda = some {} := by
  rw [← List.append_nil agenda, duty_idle agenda [] idle]
  rfl

theorem idle_delivery (action : Action) (delivery : action.isDelivery = true) : action.isIdle k = true :=
  idle_routine action (action.routine_of_delivery delivery)

theorem duty_delivery (agenda : List Action) (delivery : ∀ action ∈ agenda, action.isDelivery = true) :
    duty k own agenda = some {} :=
  duty_of_idle agenda fun action member => idle_delivery action (delivery action member)

theorem announces_of_mem {agenda : List Action} {all : Duty} (mutation : Mutation) (owed : duty k own agenda = some all)
    (member : .work k (.write mutation .announcing) ∈ agenda) : all.announces = true := by
  induction agenda generalizing all with
  | nil => cases member
  | cons action agenda ih =>
      obtain ⟨rest, later, charged⟩ := Option.bind_eq_some_iff.mp owed
      have charges := charges_of_charge action charged
      cases List.mem_cons.mp member with
      | inl same =>
          subst same
          cases charges with
          | idle _ idle => simp [Action.isIdle, Work.isIdle] at idle
          | announce => rfl
      | inr there =>
          have announces := ih later there
          cases charges with
          | idle => exact announces
          | enter owed calm => cases calm.symm.trans announces
          | announce => rfl
          | seize plain | yield plain | leave plain | start plain | admission plain | stop plain | changed plain
          | publish plain | withdraw plain =>
              rw [plain] at announces
              cases announces

theorem owes_of_intends {agenda : List Action} {all : Duty} (lock : Lock) (owed : duty k own agenda = some all)
    (intends : all.intends lock = true) : all.owes lock = true := by
  induction agenda generalizing all with
  | nil =>
      cases owed
      cases lock <;> cases intends
  | cons action agenda ih =>
      obtain ⟨rest, later, charged⟩ := Option.bind_eq_some_iff.mp owed
      have charges := charges_of_charge action charged
      have before := ih later
      cases charges with
      | idle => exact before intends
      | publish => exact before intends
      | seize | yield | leave | start | admission | stop | changed => cases lock <;> cases intends
      | enter owed calm =>
          cases lock with
          | lifecycle => exact before intends
          | publishing => cases calm.symm.trans intends
      | announce mutation key plain =>
          cases lock with
          | lifecycle => exact before intends
          | publishing => exact congrArg Duty.publishing plain
      | withdraw plain =>
          cases lock with
          | lifecycle => exact congrArg Duty.lifecycle plain
          | publishing => exact before intends

namespace Bench

variable (bench : Bench)

theorem idle_act (j : Incarnation) (node : Node) (work : Work)
    (apart : j ≠ k ∨ work.isIdle = true ∨ work.isHarmless = true) :
    ∀ action ∈ (bench.act j node work).2, action.isIdle k = true := by
  intro action member
  cases harmless : work.isHarmless with
  | true => exact idle_routine action (bench.routine_act j node work harmless action member)
  | false =>
      rw [harmless] at apart
      revert action
      cases work with
      | start =>
          have other : j ≠ k := apart.resolve_right (by decide)
          rw [act]
          split <;> simp [Action.isIdle, Lock.owner, other]
      | admission =>
          have other : j ≠ k := apart.resolve_right (by decide)
          rw [act]
          split <;> simp [Action.isIdle, Lock.owner, Action.publishing, other]
      | stop =>
          have other : j ≠ k := apart.resolve_right (by decide)
          rw [act]
          split <;> simp [Action.isIdle, Lock.owner, Action.writing, other]
      | publish =>
          have other : j ≠ k := apart.resolve_right (by decide)
          rw [act]
          split <;> simp [Action.isIdle, Action.writing, other]
      | groupsChanged =>
          have other : j ≠ k := apart.resolve_right (by decide)
          rw [act]
          split <;> simp [Action.isIdle, Lock.owner, Action.publishing, other]
      | recompute => simp [act, Action.reading, Action.isIdle, Work.isIdle]
      | read why =>
          cases why with
          | sweeping view => cases harmless
          | recomputing generation =>
              rw [act]
              split <;> simp [Action.isIdle, Work.isIdle]
      | _ => cases harmless

theorem idle_perform (id : Nat) (request : Option Nat) (action : Action) (idle : action.isIdle k = true) :
    ∀ other ∈ (bench.perform id request action).2.getD [], other.isIdle k = true := by
  cases action with
  | acquire lock => simp [more_acquire]
  | pass j service => simp [more_pass]
  | release lock => simp [perform]
  | answer reply => cases request <;> simp [perform]
  | sleep => simp [perform]
  | install name =>
      have answers : ∀ other ∈ (bench.install name).2, other.isIdle k = true := by
        rw [install]
        split <;> simp [Action.isIdle]
      exact answers
  | tellCircle circle view =>
      intro other member
      obtain ⟨j, _, rfl⟩ := List.mem_map.mp member
      simp [Action.isIdle, Work.isIdle]
  | work j work =>
      rw [perform]
      split
      · simp
      · refine bench.idle_act j _ work ?_
        rw [Action.isIdle, Bool.or_eq_true, decide_eq_true_eq] at idle
        exact idle.imp_right .inl

theorem duty_act (node : Node) (named : node.id = own) (work : Work) (agenda : List Action) (rest all : Duty)
    (later : duty k own agenda = some rest) (charges : Charges k own rest (.work k work) all) :
    ∃ fresh, duty k own ((bench.act k node work).2 ++ agenda) = some fresh ∧ fresh.lifecycle = all.lifecycle ∧
      fresh.publishing = all.publishing ∧
      (fresh.withdraws = true → all.withdraws = true ∨ work = .stop ∧ node.state ≠ .stopped) := by
  have harmless (safe : work.isHarmless = true) : duty k own ((bench.act k node work).2 ++ agenda) = some rest :=
    (duty_idle _ agenda (bench.idle_act k node work (.inr (.inr safe)))).trans later
  cases charges with
  | idle _ idle =>
      refine ⟨rest, ?_, rfl, rfl, .inl⟩
      have own : work.isIdle = true := by simpa [Action.isIdle] using idle
      exact (duty_idle _ agenda (bench.idle_act k node work (.inr (.inl own)))).trans later
  | announce mutation key plain => exact ⟨rest, harmless rfl, rfl, rfl, fun withdraws => .inl withdraws⟩
  | withdraw plain => exact ⟨rest, harmless rfl, rfl, rfl, fun withdraws => .inl rfl⟩
  | start plain =>
      subst plain
      refine ⟨.locks true false, ?_, rfl, rfl, by simp [Duty.locks]⟩
      rw [act]
      split <;> simp [duty, later, Action.charge, Action.isIdle, Lock.owner, Action.due, Work.charge, Work.isIdle]
  | admission plain =>
      subst plain
      refine ⟨.locks true false, ?_, rfl, rfl, by simp [Duty.locks]⟩
      rw [act]
      split <;> simp [duty, later, Action.charge, Action.isIdle, Lock.owner, Action.due, Work.charge, Work.isIdle,
        Action.publishing, Duty.locks]
  | stop plain =>
      subst plain
      rw [act]
      by_cases stopped : node.state = .stopped
      · rw [if_pos stopped]
        refine ⟨.locks true false, ?_, rfl, rfl, by simp [Duty.locks]⟩
        simp [duty, later, Action.charge, Action.isIdle, Lock.owner, Action.due]
      · rw [if_neg stopped]
        refine ⟨{ lifecycle := true, withdraws := true }, ?_, rfl, rfl, fun _ => .inr ⟨rfl, stopped⟩⟩
        simp [duty, later, Action.charge, Action.isIdle, Lock.owner, Action.due, Work.charge, Work.isIdle,
          Action.writing, Duty.locks, named, Mutation.issued]
  | changed plain =>
      subst plain
      refine ⟨{}, ?_, rfl, rfl, by simp⟩
      rw [act]
      split <;> simp [duty, later, Action.charge, Action.isIdle, Lock.owner, Action.due, Work.charge, Work.isIdle,
        Action.publishing, Duty.locks]
  | publish plain =>
      rw [act]
      by_cases running : node.isRunning = true
      · refine ⟨{ rest with announces := true }, ?_, rfl, rfl, fun withdraws => .inl withdraws⟩
        have key : node.announcing.key = own := node.announcing_key.trans named
        rw [if_pos running]
        simpa [duty, later, Action.charge, Action.isIdle, Action.due, Work.charge, Work.isIdle, Action.writing, key]
          using plain
      · refine ⟨rest, ?_, rfl, rfl, .inl⟩
        rw [if_neg running]
        exact later

def Bears (k : Incarnation) (own : NodeId) (id : Nat) (burden : Duty) : Prop :=
  ∃ task, bench.tasks[id]? = some task ∧ duty k own task.agenda = some burden

structure Shifts (lock : Lock) (action : Action) (all fresh : Duty) : Prop where
  acquired : action = .acquire lock → all.owes lock = false ∧ fresh.owes lock = true ∧ fresh.intends lock = false
  released : action = .release lock → all.owes lock = true ∧ fresh.owes lock = false
  kept : action ≠ .acquire lock → action ≠ .release lock → fresh.owes lock = all.owes lock

-- What it does to the whole duty of the task: only a stop that has something to stop comes to withdraw.
structure Renews (k : Incarnation) (node : Node) (action : Action) (all fresh : Duty) : Prop where
  shifts : ∀ lock : Lock, lock.owner = k → Shifts lock action all fresh
  withdraws : fresh.withdraws = true → all.withdraws = true ∨ action = .work k .stop ∧ node.state ≠ .stopped

namespace Renews

variable {node : Node} {rest all : Duty}

theorem idle (action : Action) (idle : action.isIdle k = true) : Renews k node action rest rest := by
  refine ⟨fun lock mine => ⟨?_, ?_, fun _ _ => rfl⟩, .inl⟩
  · rintro rfl
    exact absurd mine (of_decide_eq_true idle)
  · rintro rfl
    exact absurd mine (of_decide_eq_true idle)

theorem acquire (lock : Lock) (charges : Charges k own rest (.acquire lock) all) :
    Renews k node (.acquire lock) all rest := by
  cases charges with
  | idle _ idle => exact .idle _ idle
  | seize plain =>
      subst plain
      refine ⟨fun lock mine => ⟨?_, by simp, ?_⟩, by simp [Duty.locks]⟩
      · rintro ⟨⟩
        exact ⟨rfl, rfl, rfl⟩
      · intro other _
        cases lock with
        | lifecycle => exact absurd (congrArg (Action.acquire <| .lifecycle ·) mine.symm) other
        | publishing => rfl
  | enter taking calm =>
      refine ⟨fun lock mine => ⟨?_, by simp, ?_⟩, .inl⟩
      · rintro ⟨⟩
        exact ⟨rfl, taking, calm⟩
      · intro other _
        cases lock with
        | lifecycle => rfl
        | publishing => exact absurd (congrArg (Action.acquire <| .publishing ·) mine.symm) other

theorem release (lock : Lock) (charges : Charges k own rest (.release lock) all) :
    Renews k node (.release lock) all rest := by
  cases charges with
  | idle _ idle => exact .idle _ idle
  | yield plain =>
      subst plain
      refine ⟨fun lock mine => ⟨by simp, ?_, ?_⟩, by simp⟩
      · rintro ⟨⟩
        exact ⟨rfl, rfl⟩
      · intro _ other
        cases lock with
        | lifecycle => exact absurd (congrArg (Action.release <| .lifecycle ·) mine.symm) other
        | publishing => rfl
  | leave plain =>
      refine ⟨fun lock mine => ⟨by simp, ?_, ?_⟩, fun withdraws => ?_⟩
      · rintro ⟨⟩
        exact ⟨rfl, congrArg Duty.publishing plain⟩
      · intro _ other
        cases lock with
        | lifecycle => rfl
        | publishing => exact absurd (congrArg (Action.release <| .publishing ·) mine.symm) other
      · cases withdraws.symm.trans (congrArg Duty.withdraws plain)

theorem work (bench : Bench) (named : node.id = own) (work : Work) (agenda : List Action)
    (later : duty k own agenda = some rest) (charges : Charges k own rest (.work k work) all) :
    ∃ fresh, duty k own ((bench.act k node work).2 ++ agenda) = some fresh ∧ Renews k node (.work k work) all fresh := by
  obtain ⟨fresh, owed, lifecycle, publishing, withdraws⟩ := bench.duty_act node named work agenda rest all later charges
  refine ⟨fresh, owed, fun lock _ => ⟨by simp, by simp, fun _ _ => ?_⟩, fun now => ?_⟩
  · cases lock with
    | lifecycle => exact lifecycle
    | publishing => exact publishing
  · rcases withdraws now with before | ⟨rfl, active⟩
    · exact .inl before
    · exact .inr ⟨rfl, active⟩

end Renews

variable {bench} {id : Nat} {action : Action} {task : Task} {agenda : List Action} {after : Bench}
  {more : Option (List Action)}

theorem Taken.renews (taken : bench.Taken id action task agenda after more) (node : Node)
    (here : bench.cluster.nodes[k]? = some node) (named : node.id = own) (all : Duty)
    (owed : duty k own task.agenda = some all) :
    ∃ fresh, duty k own (more.getD [] ++ agenda) = some fresh ∧ Renews k node action all fresh := by
  rw [taken.planned, duty] at owed
  obtain ⟨rest, later, charged⟩ := Option.bind_eq_some_iff.mp owed
  have charges := charges_of_charge action charged
  have resting (idle : action.isIdle k = true) :
      ∃ fresh, duty k own (more.getD [] ++ agenda) = some fresh ∧ Renews k node action all fresh := by
    have quiet := (bench.front id).idle_perform id task.request action idle
    rw [taken.performed] at quiet
    obtain rfl : rest = all := Option.some.inj ((charge_idle rest action idle).symm.trans charged)
    exact ⟨rest, (duty_idle _ agenda quiet).trans later, .idle action idle⟩
  cases action with
  | work j work =>
      by_cases mine : j = k
      · subst mine
        have performed := taken.performed
        rw [performed_work (bench.front id) id task.request j node work here, Prod.mk.injEq] at performed
        exact performed.2 ▸ Renews.work (bench.front id) named work agenda later charges
      · refine resting ?_
        rw [Action.isIdle, Bool.or_eq_true, decide_eq_true_eq]
        exact .inl mine
  | acquire lock =>
      have nothing := more_acquire (bench.front id) id task.request lock
      rw [taken.performed] at nothing
      rw [nothing]
      exact ⟨rest, later, .acquire lock charges⟩
  | release lock =>
      have nothing : more.getD [] = [] := by
        have performed := taken.performed
        rw [perform, Prod.mk.injEq] at performed
        rw [← performed.2]
        rfl
      rw [nothing]
      exact ⟨rest, later, .release lock charges⟩
  | _ => exact resting rfl

theorem Taken.bears (taken : bench.Taken id action task agenda after more) (numbered : bench.Numbered) (other : Nat)
    (burden : Duty) (bears : (bench.go id).Bears k own other burden) :
    other = id ∧ duty k own (more.getD [] ++ agenda) = some burden ∨
      other ≠ id ∧ (bench.Bears k own other burden ∨ bench.spawned ≤ other ∧ burden = {}) := by
  obtain ⟨theirs, found, owed⟩ := bears
  rw [taken.tasks] at found
  by_cases same : id = other
  · rw [if_pos same, Option.some.injEq] at found
    subst found
    exact .inl ⟨same.symm, owed⟩
  · rw [if_neg same] at found
    refine .inr ⟨Ne.symm same, ?_⟩
    rcases (taken.grows numbered).fresh other theirs found with before | ⟨late, delivers⟩
    · exact .inl ⟨theirs, before, owed⟩
    · rw [duty_delivery theirs.agenda delivers] at owed
      exact .inr ⟨late, (Option.some.inj owed).symm⟩

-- A lock is owed by the one who has it and by those who wait for it, who intend nothing yet that takes it.
structure Guarded (bench : Bench) (k : Incarnation) (own : NodeId) (lock : Lock) : Prop where
  free : bench.line? lock = none → ∀ id burden, bench.Bears k own id burden → burden.owes lock = false
  held : ∀ line, bench.line? lock = some line → ∃ holder, holder < bench.spawned ∧ holder ∉ line ∧
    ∀ id burden, bench.Bears k own id burden → (burden.owes lock = true ↔ id = holder ∨ id ∈ line)
  patient : ∀ id burden, id ∈ bench.queue (.line lock) → bench.Bears k own id burden → burden.intends lock = false

namespace Guarded

variable {lock : Lock}

theorem exclusive (guarded : bench.Guarded k own lock) (first second : Nat) (one other : Duty)
    (bears : bench.Bears k own first one) (alsoBears : bench.Bears k own second other)
    (owes : one.owes lock = true) (alsoOwes : other.owes lock = true) (has : first ∉ bench.queue (.line lock))
    (alsoHas : second ∉ bench.queue (.line lock)) : first = second := by
  cases found : bench.line? lock with
  | none => cases owes.symm.trans (guarded.free found first one bears)
  | some line =>
      obtain ⟨holder, _, _, holds⟩ := guarded.held line found
      rw [queue, found] at has alsoHas
      have mine := ((holds first one bears).mp owes).resolve_right has
      have theirs := ((holds second other alsoBears).mp alsoOwes).resolve_right alsoHas
      exact mine.trans theirs.symm

theorem keep {next : Bench} (guarded : bench.Guarded k own lock) (placed : bench.Placed)
    (line : next.line? lock = bench.line? lock) (grown : bench.spawned ≤ next.spawned)
    (traced : ∀ id burden, next.Bears k own id burden → bench.spawned ≤ id ∧ burden.owes lock = false ∨
      ∃ old, bench.Bears k own id old ∧ burden.owes lock = old.owes lock ∧
        (id ∈ bench.queue (.line lock) → burden = old)) : next.Guarded k own lock := by
  have waiting : next.queue (.line lock) = bench.queue (.line lock) := by
    rw [queue, queue, line]
  refine ⟨fun free id burden bears => ?_, fun others found => ?_, fun id burden waits bears => ?_⟩
  · rcases traced id burden bears with ⟨_, owes⟩ | ⟨old, before, same, _⟩
    · exact owes
    · exact same.trans (guarded.free (line ▸ free) id old before)
  · rw [line] at found
    obtain ⟨holder, known, apart, holds⟩ := guarded.held others found
    refine ⟨holder, Nat.lt_of_lt_of_le known grown, apart, fun id burden bears => ?_⟩
    rcases traced id burden bears with ⟨late, owes⟩ | ⟨old, before, same, _⟩
    · rw [owes]
      refine ⟨by simp, fun wrong => ?_⟩
      rcases wrong with rfl | waits
      · exact absurd known (Nat.not_lt_of_le late)
      · have member : id ∈ bench.queue (.line lock) := by rwa [queue, found]
        exact absurd (placed.known (.line lock) id member) (Nat.not_lt_of_le late)
    · rw [same]
      exact holds id old before
  · rw [waiting] at waits
    rcases traced id burden bears with ⟨late, _⟩ | ⟨old, before, _, same⟩
    · exact absurd (placed.known (.line lock) id waits) (Nat.not_lt_of_le late)
    · rw [same waits]
      exact guarded.patient id old waits before

theorem acquire {next : Bench} (guarded : bench.Guarded k own lock) (placed : bench.Placed) (id : Nat) (all fresh : Duty)
    (known : id < bench.spawned) (bears : bench.Bears k own id all) (unowed : all.owes lock = false)
    (owed : fresh.owes lock = true) (calm : fresh.intends lock = false) (grown : bench.spawned ≤ next.spawned)
    (line : next.line? lock = some ((bench.line? lock).elim [] (· ++ [id])))
    (traced : ∀ other burden, next.Bears k own other burden → other = id ∧ burden = fresh ∨
      other ≠ id ∧ (bench.Bears k own other burden ∨ bench.spawned ≤ other ∧ burden = {})) :
    next.Guarded k own lock := by
  have early (other : Nat) (late : bench.spawned ≤ other) : other ∉ bench.queue (.line lock) := fun waits =>
    Nat.not_lt_of_le late (placed.known (.line lock) other waits)
  have nothing : ({} : Duty).owes lock = false := by cases lock <;> rfl
  refine ⟨fun free => ?_, fun others found => ?_, fun other burden waits bearing => ?_⟩
  · cases line.symm.trans free
  · rw [line, Option.some.injEq] at found
    subst found
    cases waiting : bench.line? lock with
    | none =>
        refine ⟨id, Nat.lt_of_lt_of_le known grown, List.not_mem_nil, fun other burden bearing => ?_⟩
        rcases traced other burden bearing with ⟨rfl, rfl⟩ | ⟨different, before | ⟨_, rfl⟩⟩
        · simp [owed]
        · simp [guarded.free waiting other burden before, different]
        · simp [nothing, different]
    | some line =>
        obtain ⟨holder, first, apart, holds⟩ := guarded.held line waiting
        have other : id ≠ holder := fun same =>
          Bool.noConfusion (unowed.symm.trans ((holds id all bears).mpr (.inl same)))
        rw [queue, waiting] at early
        refine ⟨holder, Nat.lt_of_lt_of_le first grown, ?_, fun other burden bearing => ?_⟩
        · simp [apart, Ne.symm other]
        · rcases traced other burden bearing with ⟨rfl, rfl⟩ | ⟨different, before | ⟨late, rfl⟩⟩
          · simp [owed]
          · simp [holds other burden before, different]
          · have absent : other ∉ line := early other late
            simp [nothing, different, absent, Nat.ne_of_gt (Nat.lt_of_lt_of_le first late)]
  · rcases traced other burden bearing with ⟨rfl, rfl⟩ | ⟨different, before⟩
    · exact calm
    · have waited : other ∈ bench.queue (.line lock) := by
        rw [queue, line] at waits
        rw [queue]
        cases waiting : bench.line? lock with
        | none =>
            rw [waiting] at waits
            cases waits
        | some line =>
            rw [waiting] at waits
            exact (List.mem_append.mp waits).resolve_right fun same => different (List.mem_singleton.mp same)
      rcases before with before | ⟨late, _⟩
      · exact guarded.patient other burden waited before
      · exact absurd waited (early other late)

theorem release {next : Bench} (guarded : bench.Guarded k own lock) (placed : bench.Placed) (id : Nat) (all fresh : Duty)
    (bears : bench.Bears k own id all) (owed : all.owes lock = true) (unowed : fresh.owes lock = false)
    (has : id ∉ bench.queue (.line lock)) (grown : bench.spawned ≤ next.spawned)
    (line : next.line? lock = (bench.line? lock).bind List.tail?)
    (traced : ∀ other burden, next.Bears k own other burden → other = id ∧ burden = fresh ∨
      other ≠ id ∧ (bench.Bears k own other burden ∨ bench.spawned ≤ other ∧ burden = {})) :
    next.Guarded k own lock := by
  have early (other : Nat) (late : bench.spawned ≤ other) : other ∉ bench.queue (.line lock) := fun waits =>
    Nat.not_lt_of_le late (placed.known (.line lock) other waits)
  have nothing : ({} : Duty).owes lock = false := by cases lock <;> rfl
  cases waiting : bench.line? lock with
  | none => cases owed.symm.trans (guarded.free waiting id all bears)
  | some others =>
      obtain ⟨holder, _, _, holds⟩ := guarded.held others waiting
      rw [queue, waiting] at has early
      obtain rfl : id = holder := ((holds id all bears).mp owed).resolve_right has
      rw [waiting] at line
      cases others with
      | nil =>
          refine ⟨fun _ other burden bearing => ?_, fun others found => ?_, fun other burden waits _ => ?_⟩
          · rcases traced other burden bearing with ⟨_, rfl⟩ | ⟨different, before | ⟨_, rfl⟩⟩
            · exact unowed
            · have owes := holds other burden before
              simpa [different] using owes
            · exact nothing
          · cases line.symm.trans found
          · rw [queue, line] at waits
            cases waits
      | cons first others =>
          have member : first ∈ bench.queue (.line lock) := by
            rw [queue, waiting]
            exact List.mem_cons_self ..
          have once : (first :: others).Nodup := by
            have once := placed.once (.line lock)
            rwa [queue, waiting] at once
          have waited (other : Nat) (waits : other ∈ others) : other ∈ bench.queue (.line lock) := by
            rw [queue, waiting]
            exact List.mem_cons_of_mem first waits
          refine ⟨fun free => ?_, fun remaining found => ?_, fun other burden waits bearing => ?_⟩
          · cases line.symm.trans free
          · obtain rfl : others = remaining := Option.some.inj (line.symm.trans found)
            refine ⟨first, Nat.lt_of_lt_of_le (placed.known (.line lock) first member) grown,
              (List.nodup_cons.mp once).1, fun other burden bearing => ?_⟩
            rw [← List.mem_cons]
            rcases traced other burden bearing with ⟨rfl, rfl⟩ | ⟨different, before | ⟨late, rfl⟩⟩
            · rw [unowed]
              exact ⟨by simp, fun waits => absurd waits has⟩
            · rw [holds other burden before, or_iff_right different]
            · rw [nothing]
              exact ⟨by simp, fun waits => absurd waits (early other late)⟩
          · rw [queue, line] at waits
            rcases traced other burden bearing with ⟨rfl, rfl⟩ | ⟨_, before | ⟨late, _⟩⟩
            · exact absurd (List.mem_cons_of_mem first waits) has
            · exact guarded.patient other burden (waited other waits) before
            · exact absurd (List.mem_cons_of_mem first waits) (early other late)

end Guarded

theorem duty_changed (audience : List Incarnation) (agenda : List Action) (later : duty k own agenda = some {}) :
    duty k own (audience.map (.work · .groupsChanged) ++ agenda) = some {} := by
  induction audience with
  | nil => exact later
  | cons j audience ih =>
      rw [List.map_cons, List.cons_append, duty, ih]
      by_cases mine : j = k
      · simp [Action.charge, Action.isIdle, Work.isIdle, mine, Action.due, Work.charge]
      · exact charge_idle {} _ (by simp [Action.isIdle, mine])

theorem duty_begin_node (bench : Bench) (j : Incarnation) (node : Node) (request : NodeRequest) :
    duty k own (bench.beginNode j node request).2 = some {} := by
  have apart (agenda : List Action) (theirs : j ≠ k → ∀ action ∈ agenda, action.isIdle k = true)
      (mine : j = k → duty k own agenda = some {}) : duty k own agenda = some {} := by
    by_cases same : j = k
    · exact mine same
    · exact duty_of_idle agenda (theirs same)
  have changed (registry : Option (Registry Incarnation)) :
      duty k own (bench.changeGroups j node registry).2 = some {} := by
    cases registry with
    | none => rfl
    | some registry => exact duty_changed registry.audience [.answer .done] rfl
  cases request with
  | hold | unpark | refuse | issued => rfl
  | start =>
      refine apart _ (fun other => ?_) fun same => ?_
      · simp [beginNode, Action.isIdle, Lock.owner, other]
      · simp [beginNode, duty, Action.charge, Action.isIdle, Lock.owner, same, Work.isIdle, Action.due, Work.charge]
  | stop =>
      refine apart _ (fun other => ?_) fun same => ?_
      · simp [beginNode, Action.isIdle, Lock.owner, other]
      · simp [beginNode, duty, Action.charge, Action.isIdle, Lock.owner, same, Work.isIdle, Action.due, Work.charge]
  | publish =>
      refine apart _ (fun other => ?_) fun same => ?_
      · simp [beginNode, Action.publishing, Action.isIdle, Lock.owner, other]
      · simp [beginNode, Action.publishing, duty, Action.charge, Action.isIdle, Lock.owner, same, Work.isIdle,
          Action.due, Work.charge, Duty.locks]
  | createGroup group => exact changed (node.registry.createGroup? group)
  | dropGroup group => exact changed (node.registry.dropGroup? group)
  | put group key =>
      rw [beginNode]
      split <;> rfl
  | storeChanged | membershipChanged | send =>
      refine duty_of_idle _ ?_
      simp [beginNode, Action.isIdle, Work.isIdle]
  | invalidate event mode =>
      refine duty_of_idle _ ?_
      simp [beginNode, Action.isIdle, Work.isIdle, or_imp, forall_and]

theorem duty_begin (bench : Bench) (request : Request) : duty k own (bench.begin request).2.2 = some {} := by
  have told (bench : Bench) (last : Action) (idle : last.isIdle k = true) :
      ∀ action ∈ bench.telling ++ [last], action.isIdle k = true := by
    intro action member
    cases List.mem_append.mp member with
    | inl told =>
        obtain ⟨circle, _, rfl⟩ := List.mem_map.mp told
        rfl
    | inr final => exact List.mem_singleton.mp final ▸ idle
  cases request with
  | addNode id => exact duty_of_idle _ (told (bench.join id) (.install id) rfl)
  | join id => exact duty_of_idle _ (told (bench.join id) (.answer .done) rfl)
  | appoint id => rfl
  | putRaw key value =>
      refine duty_of_idle _ ?_
      simp [begin, Action.isIdle, Work.isIdle, or_imp, forall_and]
  | leave id =>
      rw [begin]
      split
      · rfl
      · exact duty_of_idle _ (told _ (.answer .done) rfl)
  | drop id =>
      rw [begin]
      split <;> rfl
  | node id request =>
      rw [begin]
      split
      · rfl
      · exact duty_begin_node bench _ _ request

theorem arrive_bears (numbered : bench.Numbered) (index : Nat) (request : Request) (id : Nat) (burden : Duty)
    (bears : (bench.arrive index request).Bears k own id burden) :
    bench.Bears k own id burden ∨ id = bench.spawned ∧ burden = {} := by
  obtain ⟨task, found, owed⟩ := bears
  rcases arrive_tasks numbered index request id task found with before | ⟨same, begun⟩
  · exact .inl ⟨task, before, owed⟩
  · rw [begun, duty_begin] at owed
    exact .inr ⟨same, (Option.some.inj owed).symm⟩

-- Whoever does something that takes a lock of the bridge has it then.
structure Disciplined (bench : Bench) (k : Incarnation) (own : NodeId) : Prop where
  numbered : bench.Numbered
  placed : bench.Placed
  dutiful : ∀ (id : Nat) (task : Task), bench.tasks[id]? = some task → ∃ burden, duty k own task.agenda = some burden
  guarded : ∀ lock : Lock, lock.owner = k → bench.Guarded k own lock

namespace Disciplined

theorem unqueued (disciplined : bench.Disciplined k own) (ready : id ∈ bench.ready) (lock : Lock) :
    id ∉ bench.queue (.line lock) := by
  intro waits
  cases disciplined.placed.apart .ready (.line lock) id ready waits

theorem taken (disciplined : bench.Disciplined k own) (taken : bench.Taken id action task agenda after more) (node : Node)
    (here : bench.cluster.nodes[k]? = some node) (named : node.id = own) : (bench.go id).Disciplined k own := by
  have numbered := disciplined.numbered
  have placed := disciplined.placed
  obtain ⟨all, owed⟩ := disciplined.dutiful id task taken.found
  obtain ⟨fresh, owes, renews⟩ := taken.renews node here named all owed
  have grown : bench.spawned ≤ (bench.go id).spawned := by
    rw [taken.went]
    exact (taken.grows numbered).grown
  have known : id < bench.spawned := by
    refine numbered id ?_
    rw [ExtTreeMap.mem_iff_isSome_getElem?, taken.found]
    rfl
  have traced (other : Nat) (burden : Duty) (bears : (bench.go id).Bears k own other burden) :
      other = id ∧ burden = fresh ∨
        other ≠ id ∧ (bench.Bears k own other burden ∨ bench.spawned ≤ other ∧ burden = {}) :=
    (taken.bears numbered other burden bears).imp_left fun mine =>
      ⟨mine.1, Option.some.inj (mine.2.symm.trans owes)⟩
  refine ⟨taken.numbered numbered, taken.placed placed, fun other theirs found => ?_, fun lock mine => ?_⟩
  · rw [taken.tasks] at found
    split at found
    · cases found
      exact ⟨fresh, owes⟩
    · rcases (taken.grows numbered).fresh other theirs found with before | ⟨_, delivers⟩
      · exact disciplined.dutiful other theirs before
      · exact ⟨{}, duty_delivery theirs.agenda delivers⟩
  · have guarded := disciplined.guarded lock mine
    have shift := renews.shifts lock mine
    by_cases acquires : action = .acquire lock
    · subst acquires
      obtain ⟨unowed, owes, calm⟩ := shift.acquired rfl
      refine guarded.acquire placed id all fresh known ⟨task, taken.found, owed⟩ unowed owes calm grown ?_ traced
      exact (taken.line_acquired lock).trans (if_pos rfl)
    · by_cases releases : action = .release lock
      · subst releases
        obtain ⟨owes, unowed⟩ := shift.released rfl
        refine guarded.release placed id all fresh ⟨task, taken.found, owed⟩ owes unowed
          (disciplined.unqueued taken.ready lock) grown ?_ traced
        exact (taken.line_released lock).trans (if_pos rfl)
      · refine guarded.keep placed (taken.line_kept lock acquires releases) grown fun other burden bears => ?_
        rcases traced other burden bears with ⟨rfl, rfl⟩ | ⟨_, before | ⟨late, rfl⟩⟩
        · exact .inr ⟨all, ⟨task, taken.found, owed⟩, shift.kept acquires releases, fun waits =>
            absurd waits (disciplined.unqueued taken.ready lock)⟩
        · exact .inr ⟨burden, before, rfl, fun _ => rfl⟩
        · exact .inl ⟨late, by cases lock <;> rfl⟩

theorem rests (disciplined : bench.Disciplined k own) (rests : bench.next? (.go id) = none) :
    (bench.go id).Disciplined k own := by
  obtain ⟨locks, spawned, tasks⟩ := rests_keeps rests
  refine ⟨rests_numbered disciplined.numbered rests, placed_move disciplined.placed (.go id), ?_, fun lock mine => ?_⟩
  · intro other task found
    exact disciplined.dutiful other task (tasks other task found)
  · refine (disciplined.guarded lock mine).keep disciplined.placed ?_ (Nat.le_of_eq spawned.symm) ?_
    · rw [line?, line?, locks]
    · rintro other burden ⟨task, found, owed⟩
      exact .inr ⟨burden, ⟨task, tasks other task found, owed⟩, rfl, fun _ => rfl⟩

theorem arrive (disciplined : bench.Disciplined k own) (index : Nat) (request : Request) :
    (bench.arrive index request).Disciplined k own := by
  obtain ⟨began, keeps, agenda, begins, _, spawned, arrives⟩ := bench.arrive_eq index request
  have locks : began.locks = bench.locks := by
    have locks := locks_begin { bench with answered := ∅ } request
    rwa [begins] at locks
  refine ⟨numbered_move disciplined.numbered (.arrive index request),
    placed_move disciplined.placed (.arrive index request), fun id task found => ?_, fun lock mine => ?_⟩
  · rcases arrive_tasks disciplined.numbered index request id task found with before | ⟨_, same⟩
    · exact disciplined.dutiful id task before
    · exact ⟨{}, same ▸ duty_begin _ request⟩
  · refine (disciplined.guarded lock mine).keep disciplined.placed ?_ ?_ fun id burden bears => ?_
    · rw [arrives, line?, line?, ← locks]
      rfl
    · rw [arrives, ← spawned]
      exact Nat.le_succ _
    · rcases arrive_bears disciplined.numbered index request id burden bears with before | ⟨same, rfl⟩
      · exact .inr ⟨burden, before, rfl, fun _ => rfl⟩
      · exact .inl ⟨Nat.le_of_eq same.symm, by cases lock <;> rfl⟩

theorem move (disciplined : bench.Disciplined k own) (node : Node) (here : bench.cluster.nodes[k]? = some node)
    (named : node.id = own) (move : Move) : (bench.move move).Disciplined k own := by
  cases move with
  | arrive index request => exact disciplined.arrive index request
  | go id =>
      cases next : bench.next? (.go id) with
      | none => exact disciplined.rests next
      | some action =>
          obtain ⟨task, agenda, after, more, taken⟩ := go_taken next
          exact disciplined.taken taken node here named

end Disciplined

end Bench

end Coherence.Interleaving
