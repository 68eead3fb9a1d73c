import Coherence.Proofs.Announcing
import Coherence.Proofs.Generations
import Coherence.Proofs.Hosting

set_option autoImplicit false

namespace Coherence.Interleaving

open Std

namespace Bench

variable {bench : Bench} {k : Incarnation} {own : NodeId} {node : Node}

-- Whoever intends something that takes a lock has it, and so has whoever is about to give it back.
theorem Disciplined.alone (disciplined : bench.Disciplined k own) (lock : Lock) (mine : lock.owner = k) (id other : Nat)
    (all burden : Duty) (ready : id ∈ bench.ready) (bears : bench.Bears k own id all) (owes : all.owes lock = true)
    (alsoBears : bench.Bears k own other burden) (intends : burden.intends lock = true) : other = id := by
  have guarded := disciplined.guarded lock mine
  have waiting : other ∉ bench.queue (.line lock) := fun waits =>
    Bool.noConfusion (intends.symm.trans (guarded.patient other burden waits alsoBears))
  obtain ⟨task, found, owed⟩ := alsoBears
  exact guarded.exclusive other id burden all ⟨task, found, owed⟩ bears (owes_of_intends lock owed intends) owes waiting
    (disciplined.unqueued ready lock)

theorem announcing_act (bench : Bench) (j : Incarnation) (theirs : Node) (work : Work) (mutation : Mutation)
    (member : .work k (.write mutation .announcing) ∈ (bench.act j theirs work).2) :
    j = k ∧ work = .publish ∧ theirs.isRunning = true ∧ mutation = theirs.announcing := by
  cases harmless : work.isHarmless with
  | true => cases bench.routine_act j theirs work harmless _ member
  | false =>
      cases work with
      | publish =>
          rw [act] at member
          split at member
          · rename_i running
            simp only [Action.writing, List.mem_cons, Action.work.injEq, Work.write.injEq, reduceCtorEq, false_or,
              and_true, List.not_mem_nil, or_false] at member
            exact ⟨member.1.symm, rfl, running, member.2⟩
          · cases member
      | start =>
          rw [act] at member
          split at member <;> simp at member
      | admission =>
          rw [act] at member
          split at member <;> simp [Action.publishing] at member
      | stop =>
          rw [act] at member
          split at member <;> simp [Action.writing] at member
      | groupsChanged =>
          rw [act] at member
          split at member <;> simp [Action.publishing] at member
      | recompute => simp [act, Action.reading] at member
      | read why =>
          rw [act] at member
          split at member <;> simp at member
      | _ => cases harmless

theorem announcing_perform (bench : Bench) (id : Nat) (request : Option Nat) (action : Action) (mutation : Mutation)
    (here : bench.cluster.nodes[k]? = some node)
    (member : .work k (.write mutation .announcing) ∈ (bench.perform id request action).2.getD []) :
    action = .work k .publish ∧ node.isRunning = true ∧ mutation = node.announcing := by
  cases action with
  | work j work =>
      rw [perform] at member
      split at member
      · cases member
      · rename_i theirs there
        obtain ⟨rfl, rfl, running, same⟩ := bench.announcing_act j theirs work mutation member
        obtain rfl : node = theirs := Option.some.inj (here.symm.trans there)
        exact ⟨rfl, running, same⟩
  | acquire lock =>
      rw [more_acquire] at member
      cases member
  | pass j service =>
      rw [more_pass] at member
      cases member
  | release lock | sleep => cases member
  | answer reply => cases request <;> cases member
  | install name =>
      have answers := bench.idle_perform (k := k) id request (.install name) rfl _ member
      simp [Action.isIdle, Work.isIdle] at answers
  | tellCircle circle view =>
      have tells := bench.idle_perform (k := k) id request (.tellCircle circle view) rfl _ member
      simp [Action.isIdle, Work.isIdle] at tells

theorem announcing_source (numbered : bench.Numbered) (here : bench.cluster.nodes[k]? = some node) (move : Move)
    (mutation : Mutation) (plans : (bench.move move).Plans (.work k (.write mutation .announcing))) :
    bench.Plans (.work k (.write mutation .announcing)) ∨
      bench.next? move = some (.work k .publish) ∧ node.isRunning = true ∧ mutation = node.announcing := by
  have unplanned (agenda : List Action) (plain : duty k node.id agenda = some {})
      (member : .work k (.write mutation .announcing) ∈ agenda) : False :=
    Bool.noConfusion (announces_of_mem mutation plain member)
  cases move with
  | arrive index request =>
      cases (arrive_plans numbered index request _).mp plans with
      | inl before => exact .inl before
      | inr began => exact (unplanned _ (duty_begin _ request) began).elim
  | go id =>
      cases next : bench.next? (.go id) with
      | none => exact .inl ((rests_plans next _).mp plans)
      | some action =>
          obtain ⟨task, agenda, after, more, taken⟩ := go_taken next
          rcases taken.source numbered _ plans with before | added | delivered
          · exact .inl before
          · have performed := (bench.front id).announcing_perform id task.request action mutation here
            rw [taken.performed] at performed
            obtain ⟨rfl, running, same⟩ := performed added
            exact .inr ⟨rfl, running, same⟩
          · cases delivered

theorem withdraws_source (disciplined : bench.Disciplined k own) (hosted : bench.Hosted k own node) (move : Move)
    (id : Nat) (burden : Duty) (bears : (bench.move move).Bears k own id burden) (withdraws : burden.withdraws = true) :
    (∃ old, bench.Bears k own id old ∧ old.withdraws = true) ∨ bench.next? move = some (.work k .stop) := by
  cases move with
  | arrive index request =>
      rcases arrive_bears disciplined.numbered index request id burden bears with before | ⟨_, rfl⟩
      · exact .inl ⟨burden, before, withdraws⟩
      · cases withdraws
  | go other =>
      cases next : bench.next? (.go other) with
      | none =>
          obtain ⟨task, found, owed⟩ := bears
          exact .inl ⟨burden, ⟨task, (rests_keeps next).2.2 id task found, owed⟩, withdraws⟩
      | some action =>
          obtain ⟨task, agenda, after, more, taken⟩ := go_taken next
          obtain ⟨all, owed⟩ := disciplined.dutiful other task taken.found
          obtain ⟨fresh, owes, renews⟩ := taken.renews node hosted.here hosted.id all owed
          rcases taken.bears disciplined.numbered id burden bears with ⟨rfl, own⟩ | ⟨_, before | ⟨_, rfl⟩⟩
          · obtain rfl : fresh = burden := Option.some.inj (owes.symm.trans own)
            rcases renews.withdraws withdraws with before | ⟨rfl, _⟩
            · exact .inl ⟨all, ⟨task, taken.found, owed⟩, before⟩
            · exact .inr rfl
          · exact .inl ⟨burden, before, withdraws⟩
          · cases withdraws

variable {move : Move}

theorem granted_of_spared (j : Incarnation) (mutation : Mutation) (why : Writing)
    (spared : bench.spares k own move = true) (next : bench.next? move = some (.work j (.write mutation why)))
    (key : mutation.key = own) : j = k ∧ why.isOwn = true ∧ bench.refused k (.ofMutation mutation) = false := by
  obtain ⟨id, _, _, _, _, rfl, _⟩ := next_taken next
  rw [spares, next] at spared
  simpa [permits, key, and_assoc] using spared

theorem Hosted.acts {work : Work} (hosted : bench.Hosted k own node) (next : bench.next? move = some (.work k work)) :
    ∃ id, (bench.move move).cluster = ((bench.front id).act k node work).1.cluster ∧
      ∀ action ∈ ((bench.front id).act k node work).2, (bench.move move).Plans action := by
  obtain ⟨id, task, agenda, after, more, rfl, taken⟩ := next_taken next
  have performed := taken.performed
  rw [performed_work (bench.front id) id task.request k node work hosted.here, Prod.mk.injEq] at performed
  refine ⟨id, ?_, fun action member => taken.plans_more action ?_⟩
  · rw [Bench.move, taken.went, ← performed.1]
  · rw [← performed.2]
    exact member

theorem Hosted.granted {mutation : Mutation} {why : Writing} (hosted : bench.Hosted k own node)
    (next : bench.next? move = some (.work k (.write mutation why)))
    (granted : bench.refused k (.ofMutation mutation) = false) :
    (bench.move move).cluster.entries = mutation.apply bench.cluster.entries := by
  have permitted : node.replica.permit mutation.key = .ok () := by
    simp [Replica.permit, Replica.reach, hosted.reachable, hosted.lawful]
  obtain ⟨id, cluster, _⟩ := hosted.acts next
  obtain ⟨_, _, _, _, written⟩ := (bench.front id).written_act k node hosted.here mutation why
  rw [cluster]
  rcases written with applied | ⟨_, refused | ⟨fault, failed⟩⟩
  · exact applied
  · cases granted.symm.trans refused
  · cases permitted.symm.trans failed

theorem Hosted.admission {last : Node} (hosted : bench.Hosted k own node)
    (next : bench.next? move = some (.work k .admission)) (here : (bench.move move).cluster.nodes[k]? = some last)
    (running : last.state = .running) : (bench.move move).Plans (.work k .publish) := by
  obtain ⟨id, cluster, plans⟩ := hosted.acts next
  refine plans _ ?_
  rw [cluster] at here
  have admitted := (bench.front id).cluster.replaced_admission (bench.refused k) k node hosted.here
  have refused : (bench.front id).refused k = bench.refused k := rfl
  rw [Bench.act, refused] at here ⊢
  generalize (bench.front id).cluster.admission (bench.refused k) k node = outcome at here admitted
  obtain ⟨after, result⟩ := outcome
  rcases admitted with ⟨store, hub, rfl, _⟩ | ⟨error, fresh, rfl, _, replaced⟩
  · simp [Action.publishing]
  · obtain rfl := Option.some.inj (here.symm.trans ((replaced.found k).trans (if_pos rfl)))
    cases running

section Taken

variable {id : Nat} {action : Action} {task : Task} {agenda : List Action} {after : Bench} {more : Option (List Action)}

theorem Disciplined.charged (disciplined : bench.Disciplined k own)
    (taken : bench.Taken id action task agenda after more) :
    ∃ all rest, bench.Bears k own id all ∧ duty k own agenda = some rest ∧ Charges k own rest action all := by
  obtain ⟨all, owed⟩ := disciplined.dutiful id task taken.found
  have bears : bench.Bears k own id all := ⟨task, taken.found, owed⟩
  rw [taken.planned] at owed
  obtain ⟨rest, later, charged⟩ := Option.bind_eq_some_iff.mp owed
  exact ⟨all, rest, bears, later, charges_of_charge action charged⟩

-- While a task has the lock and is not about to announce anything later, nobody else is about to at all.
theorem Disciplined.silent (disciplined : bench.Disciplined k own)
    (taken : bench.Taken id action task agenda after more) (all rest : Duty) (bears : bench.Bears k own id all)
    (later : duty k own agenda = some rest) (owes : all.publishing = true) (calm : rest.announces = false)
    (mutation : Mutation) (plans : bench.Plans (.work k (.write mutation .announcing))) :
    action = .work k (.write mutation .announcing) := by
  obtain ⟨other, theirs, found, member⟩ := plans
  obtain ⟨burden, due⟩ := disciplined.dutiful other theirs found
  have announces := announces_of_mem mutation due member
  obtain rfl := disciplined.alone (.publishing k) rfl id other all burden taken.ready bears owes ⟨theirs, found, due⟩
    announces
  obtain rfl : task = theirs := Option.some.inj (taken.found.symm.trans found)
  rw [taken.planned] at member
  cases List.mem_cons.mp member with
  | inl same => exact same.symm
  | inr there => cases calm.symm.trans (announces_of_mem mutation later there)

end Taken

theorem Disciplined.unwithdrawn_admission (disciplined : bench.Disciplined k own)
    (next : bench.next? move = some (.work k .admission)) (id : Nat) (burden : Duty) (bears : bench.Bears k own id burden)
    (withdraws : burden.withdraws = true) : False := by
  obtain ⟨other, task, agenda, after, more, rfl, taken⟩ := next_taken next
  obtain ⟨all, rest, alsoBears, _, charges⟩ := disciplined.charged taken
  cases charges with
  | idle _ idle => simp [Action.isIdle, Work.isIdle] at idle
  | admission plain =>
      obtain rfl := disciplined.alone (.lifecycle k) rfl other id _ burden taken.ready alsoBears rfl bears withdraws
      obtain ⟨mine, found, owed⟩ := bears
      obtain ⟨same, there, due⟩ := alsoBears
      cases found.symm.trans there
      cases due.symm.trans owed
      cases withdraws

-- The store holds what the bridge would announce now, or someone is about to see to it, or there is an excuse.
def Announced (bench : Bench) (k : Incarnation) (own : NodeId) (node : Node) (excused : Prop) : Prop :=
  bench.Plans (.work k .publish) ∨ bench.Plans (.work k .groupsChanged) ∨
    (∀ mutation, bench.Plans (.work k (.write mutation .announcing)) → mutation = node.announcing) ∧
      (bench.Plans (.work k (.write node.announcing .announcing)) ∨ bench.cluster.entries[own]? = node.standing.entry ∨
        excused)

-- The locks are kept, and a bridge that runs hears of its groups and is not about to be withdrawn.
structure UnderLocks (bench : Bench) (k : Incarnation) (own : NodeId) (node : Node) : Prop where
  disciplined : bench.Disciplined k own
  hosted : bench.Hosted k own node
  attended : node.state = .running → k ∈ node.registry.audience
  unwithdrawn : node.state = .running → ∀ id burden, bench.Bears k own id burden → burden.withdraws = false

structure Serial (bench : Bench) (k : Incarnation) (own : NodeId) (node : Node) : Prop extends
    bench.UnderLocks k own node where
  announced : node.state = .running → bench.Announced k own node False

namespace UnderLocks

variable {last : Node}

theorem attended_move (underLocks : bench.UnderLocks k own node) (fares : Fares bench move k own node last)
    (running : last.state = .running) : k ∈ last.registry.audience := by
  rcases fares.running running with ⟨ran, listeners, _⟩ | ⟨_, listed⟩
  · rw [Registry.audience, listeners]
    exact underLocks.attended ran
  · exact listed

-- Whoever would withdraw the announcement of a bridge that runs has the same lock as the one who let it in.
theorem unwithdrawn_move (underLocks : bench.UnderLocks k own node) (fares : Fares bench move k own node last)
    (running : last.state = .running) (id : Nat) (burden : Duty) (bears : (bench.move move).Bears k own id burden) :
    burden.withdraws = false := by
  rw [← Bool.not_eq_true]
  intro withdraws
  rcases withdraws_source underLocks.disciplined underLocks.hosted move id burden bears withdraws with
    ⟨old, before, intends⟩ | stops
  · rcases fares.running running with ⟨ran, _⟩ | ⟨next, _⟩
    · cases intends.symm.trans (underLocks.unwithdrawn ran id old before)
    · exact underLocks.disciplined.unwithdrawn_admission next id old before intends
  · exact fares.stopping stops running

theorem step (underLocks : bench.UnderLocks k own node) (hosted : (bench.move move).Hosted k own last)
    (fares : Fares bench move k own node last) : (bench.move move).UnderLocks k own last where
  disciplined := underLocks.disciplined.move node underLocks.hosted.here underLocks.hosted.id move
  hosted := hosted
  attended := underLocks.attended_move fares
  unwithdrawn := underLocks.unwithdrawn_move fares

theorem published (underLocks : bench.UnderLocks k own node) (next : bench.next? move = some (.work k .publish))
    (running : node.state = .running) (excused : Prop) : (bench.move move).Announced k own node excused := by
  obtain ⟨id, task, agenda, after, more, rfl, taken⟩ := next_taken next
  obtain ⟨all, rest, bears, later, charges⟩ := underLocks.disciplined.charged taken
  have unannounced (mutation : Mutation) (plans : bench.Plans (.work k (.write mutation .announcing))) : False := by
    cases charges with
    | idle _ idle => simp [Action.isIdle, Work.isIdle] at idle
    | publish plain =>
        have owes : all.publishing = true := congrArg Duty.publishing plain
        have calm : all.announces = false := congrArg Duty.announces plain
        cases underLocks.disciplined.silent taken all all bears later owes calm mutation plans
  obtain ⟨_, _, plans⟩ := underLocks.hosted.acts next
  refine .inr (.inr ⟨fun mutation plans => ?_, .inl (plans _ ?_)⟩)
  · rcases announcing_source underLocks.disciplined.numbered underLocks.hosted.here _ mutation plans with
      before | ⟨_, _, same⟩
    · exact (unannounced mutation before).elim
    · exact same
  · rw [act, if_pos (node.is_running_iff.mpr running)]
    simp [Action.writing]

theorem written (underLocks : bench.UnderLocks k own node) (granted : bench.refused k (.ofMutation node.announcing) = false)
    (next : bench.next? move = some (.work k (.write node.announcing .announcing))) :
    (bench.move move).cluster.entries[own]? = node.standing.entry := by
  rw [underLocks.hosted.granted next granted, ← underLocks.hosted.id]
  exact node.announcing_entry bench.cluster.entries

theorem unwithdrawing (underLocks : bench.UnderLocks k own node) (running : node.state = .running) (mutation : Mutation) :
    bench.next? move ≠ some (.work k (.write mutation .withdrawing)) := by
  intro next
  obtain ⟨id, task, agenda, after, more, rfl, taken⟩ := next_taken next
  obtain ⟨all, rest, bears, _, charges⟩ := underLocks.disciplined.charged taken
  cases charges with
  | idle _ idle => simp [Action.isIdle, Work.isIdle] at idle
  | withdraw => cases underLocks.unwithdrawn running id _ bears

theorem changed (underLocks : bench.UnderLocks k own node) (next : bench.next? move = some (.work k .groupsChanged))
    (running : node.state = .running) : (bench.move move).Plans (.work k .publish) := by
  obtain ⟨_, _, plans⟩ := underLocks.hosted.acts next
  refine plans _ ?_
  rw [act, if_pos (node.is_running_iff.mpr running)]
  simp [Action.publishing]

section Excuses

-- Whoever else writes the entry is an excuse from then on, until the bridge writes it again.
variable {excused later : Prop} (underLocks : bench.UnderLocks k own node) (fares : Fares bench move k own node last)
  (minded : ∀ j mutation why, bench.next? move = some (.work j (.write mutation why)) → mutation.key = own →
    j = k ∧ why.isOwn = true ∧ bench.refused k (.ofMutation mutation) = false ∨ later)
  (carried : excused → (∀ mutation, bench.next? move ≠ some (.work k (.write mutation .announcing))) → later)
include underLocks fares minded carried

theorem announced_still (announced : bench.Announced k own node excused) (running : node.state = .running) :
    (bench.move move).Announced k own node later := by
  have numbered := underLocks.disciplined.numbered
  have written (next : bench.next? move = some (.work k (.write node.announcing .announcing))) :
      (bench.move move).cluster.entries[own]? = node.standing.entry ∨ later := by
    rcases minded k _ _ next (node.announcing_key.trans underLocks.hosted.id) with ⟨_, _, granted⟩ | lost
    · exact .inl (underLocks.written granted next)
    · exact .inr lost
  rcases announced with publishing | changing | ⟨only, standing⟩
  · rcases move_keeps numbered move _ publishing with next | kept
    · exact underLocks.published next running later
    · exact .inl kept
  · rcases move_keeps numbered move _ changing with next | kept
    · exact .inl (underLocks.changed next running)
    · exact .inr (.inl kept)
  · by_cases publishes : bench.next? move = some (.work k .publish)
    · exact underLocks.published publishes running later
    · refine .inr (.inr ⟨fun mutation plans => ?_, ?_⟩)
      · rcases announcing_source numbered underLocks.hosted.here move mutation plans with before | ⟨next, _⟩
        · exact only mutation before
        · exact absurd next publishes
      · rcases standing with planned | entry | excuse
        · rcases move_keeps numbered move _ planned with next | kept
          · exact .inr (written next)
          · exact .inl kept
        · refine .inr ?_
          rcases fares.entry with same | ⟨j, mutation, why, next, key⟩
          · exact .inl (same.trans entry)
          · rcases minded j mutation why next key with ⟨rfl, mine, _⟩ | lost
            · cases why with
              | announcing =>
                  obtain rfl := only mutation (next_plans move next)
                  exact written next
              | withdrawing => exact absurd next (underLocks.unwithdrawing running mutation)
              | sweeping owner => cases mine
            · exact .inr lost
        · refine .inr ?_
          by_cases announces : ∃ mutation, bench.next? move = some (.work k (.write mutation .announcing))
          · obtain ⟨mutation, next⟩ := announces
            obtain rfl := only mutation (next_plans move next)
            exact written next
          · exact .inr (carried excuse fun mutation next => announces ⟨mutation, next⟩)

theorem announced_move (announced : node.state = .running → bench.Announced k own node excused)
    (hosted : (bench.move move).Hosted k own last) (running : last.state = .running) :
    (bench.move move).Announced k own last later := by
  rcases fares.running running with ⟨ran, _, same | told⟩ | ⟨next, _⟩
  · have still := underLocks.announced_still fares minded carried (announced ran) ran
    have announcing : last.announcing = node.announcing := by rw [Node.announcing, Node.announcing, same, fares.id]
    have entry : last.standing.entry = node.standing.entry := by
      have named : last.standing.id = node.standing.id := fares.id
      have grouped : last.standing.registry.groupNames = node.standing.registry.groupNames := same
      rw [Standing.entry_eq, Standing.entry_eq, named, grouped]
    rwa [Announced, announcing, entry]
  · exact .inr (.inl (told k (underLocks.attended ran)))
  · exact .inl (underLocks.hosted.admission next hosted.here running)

end Excuses

end UnderLocks

theorem Serial.moved (serial : bench.Serial k own node) (move : Move) (spared : bench.spares k own move = true) :
    ∃ last, (bench.move move).Serial k own last ∧ Fares bench move k own node last := by
  obtain ⟨last, hosted, fares⟩ := serial.hosted.move serial.disciplined.numbered move spared
  refine ⟨last, ⟨serial.toUnderLocks.step hosted fares, ?_⟩, fares⟩
  refine serial.toUnderLocks.announced_move fares ?_ (fun excuse _ => excuse) serial.announced hosted
  exact fun j mutation why next key => .inl (granted_of_spared j mutation why spared next key)

-- The announcement is withdrawn, and nobody is about to write it again.
structure Withdrawn (bench : Bench) (k : Incarnation) (own : NodeId) (node : Node) : Prop where
  rests : node.state ≠ .running
  unannounced : ∀ mutation, ¬ bench.Plans (.work k (.write mutation .announcing))
  missing : bench.cluster.entries[own]? = none

namespace Serial

variable {last : Node}

theorem removed (serial : bench.Serial k own node) (spared : bench.spares k own move = true) (mutation : Mutation)
    (next : bench.next? move = some (.work k (.write mutation .withdrawing))) :
    (bench.move move).cluster.entries[own]? = none ∧ ∀ mutation, ¬ bench.Plans (.work k (.write mutation .announcing)) := by
  obtain ⟨id, task, agenda, after, more, rfl, taken⟩ := next_taken next
  obtain ⟨all, rest, bears, later, charges⟩ := serial.disciplined.charged taken
  cases charges with
  | idle _ idle => simp [Action.isIdle, Work.isIdle] at idle
  | withdraw plain =>
      obtain ⟨_, _, granted⟩ := granted_of_spared k _ _ spared next rfl
      have owes : rest.publishing = true := congrArg Duty.publishing plain
      have calm : rest.announces = false := congrArg Duty.announces plain
      refine ⟨?_, fun mutation plans => ?_⟩
      · rw [serial.hosted.granted next granted]
        exact ExtTreeMap.getElem?_erase_self
      · cases serial.disciplined.silent taken _ rest bears later owes calm mutation plans

theorem withdraws (serial : bench.Serial k own node) (fares : Fares bench move k own node last)
    (spared : bench.spares k own move = true) (mutation : Mutation)
    (next : bench.next? move = some (.work k (.write mutation .withdrawing))) :
    (bench.move move).Withdrawn k own last := by
  obtain ⟨missing, unannounced⟩ := serial.removed spared mutation next
  refine ⟨fun running => ?_, fun other plans => ?_, missing⟩
  · rcases fares.running running with ⟨ran, _⟩ | ⟨admits, _⟩
    · exact serial.toUnderLocks.unwithdrawing ran mutation next
    · cases next.symm.trans admits
  · rcases announcing_source serial.disciplined.numbered serial.hosted.here move other plans with before | ⟨publishes, _⟩
    · exact unannounced other before
    · cases next.symm.trans publishes

theorem withdrawn_move (serial : bench.Serial k own node) (withdrawn : bench.Withdrawn k own node)
    (fares : Fares bench move k own node last) (spared : bench.spares k own move = true)
    (unadmitted : bench.next? move ≠ some (.work k .admission)) : (bench.move move).Withdrawn k own last := by
  refine ⟨fun running => ?_, fun mutation plans => ?_, ?_⟩
  · rcases fares.running running with ⟨ran, _⟩ | ⟨admits, _⟩
    · exact withdrawn.rests ran
    · exact unadmitted admits
  · rcases announcing_source serial.disciplined.numbered serial.hosted.here move mutation plans with
      before | ⟨_, running, _⟩
    · exact withdrawn.unannounced mutation before
    · exact withdrawn.rests (node.is_running_iff.mp running)
  · rcases fares.entry with same | ⟨j, mutation, why, next, key⟩
    · exact same.trans withdrawn.missing
    · obtain ⟨rfl, mine, _⟩ := granted_of_spared j mutation why spared next key
      cases why with
      | announcing => exact absurd (next_plans move next) (withdrawn.unannounced mutation)
      | withdrawing => exact (serial.removed spared mutation next).1
      | sweeping owner => cases mine

end Serial

section Rest

variable (cluster : Cluster)

theorem idle_at_rest (id : Nat) (task : Task) : ({ cluster } : Bench).tasks[id]? ≠ some task := by
  intro found
  cases ExtTreeMap.getElem?_empty.symm.trans found

theorem disciplined_at_rest : ({ cluster } : Bench).Disciplined k own := by
  have unborne (id : Nat) (burden : Duty) : ¬ ({ cluster } : Bench).Bears k own id burden := by
    rintro ⟨task, found, _⟩
    exact idle_at_rest cluster id task found
  have queues (spot : Spot) : ({ cluster } : Bench).queue spot = [] := by cases spot <;> rfl
  have waits (spot : Spot) (id : Nat) : id ∉ ({ cluster } : Bench).queue spot := by
    rw [queues]
    exact List.not_mem_nil
  refine ⟨fun id member => absurd member ExtTreeMap.not_mem_empty, ⟨fun spot => ?_, ?_, ?_⟩, ?_, fun lock _ => ⟨?_, ?_, ?_⟩⟩
  · rw [queues]
    exact List.nodup_nil
  · exact fun spot _ id waiting => absurd waiting (waits spot id)
  · exact fun spot id waiting => absurd waiting (waits spot id)
  · exact fun id task found => absurd found (idle_at_rest cluster id task)
  · exact fun _ id burden bears => absurd bears (unborne id burden)
  · intro line found
    cases found
  · exact fun id burden waiting => absurd waiting (waits _ id)

theorem serial_at_rest (orderly : cluster.Orderly) (located : cluster.current[own]? = some k) :
    ∃ node, ({ cluster } : Bench).Serial k own node := by
  obtain ⟨node, here, named, linked⟩ := orderly.node_of_located own k located
  have standing := cluster.standing_of_found k node here
  refine ⟨node, ⟨disciplined_at_rest cluster,
    ⟨fun j member => ?_, fun id there => ?_, List.not_mem_nil, here, named, ?_, ?_⟩, fun running => ?_,
    fun _ id burden bears => ?_⟩, fun running => .inr (.inr ⟨fun mutation plans => ?_, .inr (.inl ?_)⟩)⟩
  · have there : j ∈ cluster.frame.nodes := by simpa [Cluster.frame] using member
    exact cluster.frame_size ▸ orderly.allLinked.numbered j there
  · exact orderly.allLinked.addressed.name_unique id own k there located
  · exact linked.reachable
  · exact orderly.ordered.lawful own k node.standing located standing
  · obtain ⟨held, _, listeners⟩ := linked.enrolled running
    have listed : node.registry.listeners.entries[held.registry]? = some k := by
      rw [show node.registry.listeners.entries = _ from listeners]
      exact ExtTreeMap.getElem?_insert_self
    exact List.mem_map_of_mem (ExtTreeMap.mem_toList_iff_getElem?_eq_some.mpr listed)
  · obtain ⟨task, found, _⟩ := bears
    exact absurd found (idle_at_rest cluster id task)
  · obtain ⟨id, task, found, _⟩ := plans
    exact absurd found (idle_at_rest cluster id task)
  · exact orderly.announced own k node.standing located standing running

end Rest

end Bench

namespace Action

def withdraws (k : Incarnation) : Action → Bool
  | .work j (.write _ .withdrawing) => j = k
  | _ => false

def admits (k : Incarnation) : Action → Bool
  | .work j .admission => j = k
  | _ => false

theorem withdraws_iff (k : Incarnation) (action : Action) :
    action.withdraws k = true ↔ ∃ mutation, action = .work k (.write mutation .withdrawing) := by
  constructor
  · intro removes
    rw [withdraws.eq_def] at removes
    split at removes
    · rename_i j mutation
      exact ⟨mutation, of_decide_eq_true removes ▸ rfl⟩
    · cases removes
  · rintro ⟨mutation, rfl⟩
    exact decide_eq_true rfl

end Action

namespace Course

variable (course : Course) (k : Incarnation) (own : NodeId) (i : Nat)

def withdraws : Bool := (course.action? i).any (Action.withdraws k)

def admits : Bool := (course.action? i).any (Action.admits k)

-- No start, stop, publish or change of groups is under way.
def Quiet : Prop := ∀ action, (course.after i).Plans action → action.isIdle k = true

-- Nobody else writes the entry of the bridge or takes its place, and the store takes what it writes.
def Undisturbed : Prop := ∀ i move, course.moves[i]? = some move → (course.after i).spares k own move = true

def resume (cluster : Cluster) (moves : List Move) : Course := ⟨{ cluster }, moves⟩

variable {course k own i}

theorem serial_after (undisturbed : course.Undisturbed k own) (first : ∃ node, course.start.Serial k own node) (i : Nat) :
    ∃ node, (course.after i).Serial k own node := by
  induction i with
  | zero => exact first
  | succ i ih =>
      rcases course.after_succ i with ⟨move, taken, moved⟩ | ⟨_, same⟩
      · obtain ⟨node, serial⟩ := ih
        obtain ⟨last, later, _⟩ := serial.moved move (undisturbed i move taken)
        exact ⟨last, moved ▸ later⟩
      · exact same ▸ ih

theorem withdrawn_after (undisturbed : course.Undisturbed k own) (first : ∃ node, course.start.Serial k own node)
    (i j : Nat) (later : i < j) (removed : course.withdraws k i = true)
    (unadmitted : ∀ l, i < l → l < j → course.admits k l = false) :
    ∃ node, (course.after j).Serial k own node ∧ (course.after j).Withdrawn k own node := by
  induction j with
  | zero => cases later
  | succ j ih =>
      rcases course.after_succ j with ⟨move, taken, moved⟩ | ⟨ended, same⟩
      · rw [moved]
        have spared := undisturbed j move taken
        have action : course.action? j = (course.after j).next? move := by rw [action?, taken, Option.bind_some]
        rcases Nat.lt_succ_iff_lt_or_eq.mp later with earlier | rfl
        · obtain ⟨node, serial, withdrawn⟩ := ih earlier fun l after before =>
            unadmitted l after (Nat.lt_succ_of_lt before)
          obtain ⟨last, moving, fares⟩ := serial.moved move spared
          refine ⟨last, moving, serial.withdrawn_move withdrawn fares spared fun next => ?_⟩
          have admitted : course.admits k j = true := by
            rw [admits, action, next]
            exact decide_eq_true rfl
          cases admitted.symm.trans (unadmitted j earlier (Nat.lt_succ_self j))
        · obtain ⟨node, serial⟩ := serial_after undisturbed first i
          obtain ⟨last, moving, fares⟩ := serial.moved move spared
          rw [withdraws, action] at removed
          obtain ⟨removal, next, withdraws⟩ := (Option.any_eq_true _ _).mp removed
          obtain ⟨mutation, rfl⟩ := (Action.withdraws_iff k removal).mp withdraws
          exact ⟨last, moving, serial.withdraws fares spared mutation next⟩
      · rcases Nat.lt_succ_iff_lt_or_eq.mp later with earlier | rfl
        · rw [same]
          exact ih earlier fun l after before => unadmitted l after (Nat.lt_succ_of_lt before)
        · rw [withdraws, action?, ended] at removed
          cases removed

theorem settled_or_excused {bench : Bench} {node : Node} {excused : Prop} (announced : bench.Announced k own node excused)
    (quiet : ∀ action, bench.Plans action → action.isIdle k = true) :
    bench.cluster.entries[own]? = node.standing.entry ∨ excused := by
  have unplanned (work : Work) (busy : work.isIdle = false) : ¬ bench.Plans (.work k work) := by
    intro plans
    have idle := quiet _ plans
    simp [Action.isIdle, busy] at idle
  rcases announced with publishing | changing | ⟨_, announcing | settled⟩
  · exact absurd publishing (unplanned _ rfl)
  · exact absurd changing (unplanned _ rfl)
  · exact absurd announcing (unplanned _ rfl)
  · exact settled

theorem settled_of_quiet {bench : Bench} {node : Node} (serial : bench.Serial k own node)
    (quiet : ∀ action, bench.Plans action → action.isIdle k = true) (running : node.state = .running) :
    bench.cluster.entries[own]? = node.standing.entry :=
  (settled_or_excused (serial.announced running) quiet).resolve_right fun excuse => excuse

/-- Whenever nothing is under way, the store holds just what a running bridge has, and nothing after a stop's removal. -/
theorem publish_stop_serialization (cluster : Cluster) (attained : cluster.Attained) (own : NodeId) (k : Incarnation)
    (located : cluster.current[own]? = some k) (moves : List Move) (course : Course)
    (resumed : course = resume cluster moves) (undisturbed : course.Undisturbed k own) :
    (∀ i, ∃ node, (course.after i).cluster.nodes[k]? = some node ∧ node.id = own ∧
      (node.isRunning = true → course.Quiet k i → (course.entries i)[own]? =
        if node.registry.groupNames = [] then none
        else some (some (Announcement.encode ⟨own, ExtTreeSet.ofList node.registry.groupNames⟩)))) ∧
    ∀ i j, i < j → course.withdraws k i = true → (∀ l, i < l → l < j → course.admits k l = false) →
      course.runs k j = false ∧ (course.entries j)[own]? = none := by
  have first : ∃ node, course.start.Serial k own node := by
    rw [resumed]
    exact Bench.serial_at_rest cluster attained.orderly located
  refine ⟨fun i => ?_, fun i j later removed unadmitted => ?_⟩
  · obtain ⟨node, serial⟩ := serial_after undisturbed first i
    refine ⟨node, serial.hosted.here, serial.hosted.id, fun running quiet => ?_⟩
    have named : node.standing.id = own := serial.hosted.id
    rw [entries, settled_of_quiet serial quiet (node.is_running_iff.mp running), Standing.entry_eq, named]
    rfl
  · obtain ⟨node, serial, withdrawn⟩ := withdrawn_after undisturbed first i j later removed unadmitted
    refine ⟨?_, withdrawn.missing⟩
    rw [runs, Cluster.isRunning, serial.hosted.here, Option.any_some, ← Bool.not_eq_true, node.is_running_iff]
    exact withdrawn.rests

/-- A stop waits for the write of an announcement, and another group comes before the next start. -/
def interruption : Course :=
  resume ((Cluster.initial {} 5000).run [.addNode "a"])
    (.arrive 0 (.node "a" .start) :: goes 0 18 ++ .arrive 1 (.node "a" (.createGroup "g")) :: goes 1 4 ++
      .arrive 2 (.node "a" .stop) :: goes 2 3 ++ goes 1 5 ++ goes 2 8 ++
      .arrive 3 (.node "a" (.createGroup "h")) :: goes 3 2 ++ .arrive 4 (.node "a" .start) :: goes 4 24)

theorem interruption_settles :
    "a" ∈ interruption.entries 34 ∧ interruption.withdraws 0 34 = true ∧
    (∀ j, 34 < j → j ≤ 48 → interruption.runs 0 j = false ∧ (interruption.entries j)["a"]? = none) ∧
    (interruption.entries 69)["a"]? = some (some (Announcement.encode ⟨"a", ExtTreeSet.ofList ["g", "h"]⟩)) := by
  have removed : interruption.withdraws 0 34 = true := by decide +kernel
  have unadmitted : ∀ l < 48, 34 < l → interruption.admits 0 l = false := by decide +kernel
  have spared : ∀ i < 69, (interruption.moves[i]?).all ((interruption.after i).spares 0 "a") = true := by decide +kernel
  have undisturbed : interruption.Undisturbed 0 "a" := by
    intro i move found
    have within : i < 69 := (List.getElem?_eq_some_iff.mp found).1
    have all := spared i within
    rwa [found, Option.all_some] at all
  have quiet : interruption.Quiet 0 69 := by
    rintro action ⟨id, task, found, _⟩
    have done : (interruption.after 69).tasks = ∅ := by
      rw [← ExtTreeMap.isEmpty_iff]
      decide +kernel
    rw [done] at found
    cases ExtTreeMap.getElem?_empty.symm.trans found
  have ends : (interruption.after 69).cluster.nodes[0]?.map (fun node => (node.isRunning, node.registry.groupNames)) =
      some (true, ["g", "h"]) := by
    decide +kernel
  obtain ⟨settled, withdrawn⟩ := publish_stop_serialization _ ⟨{}, 5000, [.addNode "a"], by decide, rfl⟩ "a" 0
    (by decide +kernel) _ interruption rfl undisturbed
  refine ⟨by decide +kernel, removed, fun j later within => ?_, ?_⟩
  · exact withdrawn 34 j later removed fun l after before => unadmitted l (Nat.lt_of_lt_of_le before within) after
  · obtain ⟨node, here, _, entry⟩ := settled 69
    rw [here, Option.map_some, Option.some.injEq, Prod.mk.injEq] at ends
    have announced := entry ends.1 quiet
    rw [ends.2] at announced
    exact announced

end Course

end Coherence.Interleaving
