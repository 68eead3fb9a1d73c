import Coherence.Proofs.Generations

set_option autoImplicit false

namespace Coherence.Interleaving

open Std

namespace Work

-- What takes part in a sweep, from word of the members to the removals.
def sweeps : Work → Bool
  | .membershipChanged _ | .primaryCheck _ => true
  | .read (.sweeping _) | .entries (.sweeping _) _ => true
  | .write _ (.sweeping _) => true
  | _ => false

end Work

namespace Action

def sweeps : Action → Bool
  | .tellCircle .. => true
  | .work _ own => own.sweeps
  | _ => false

end Action

namespace Bench

variable {bench : Bench}

theorem unswept_delivery (action : Action) (delivery : action.isDelivery = true) : action.sweeps = false := by
  obtain ⟨j, rfl⟩ | ⟨j, event, rfl⟩ | rfl := action.delivery_cases delivery
  · rfl
  · rfl
  · rfl

theorem unswept_write (bench : Bench) (j : Incarnation) (node : Node) (mutation : Mutation) (why : Writing) :
    ∀ action ∈ (bench.act j node (.write mutation why)).2, action.sweeps = false := by
  rw [act]
  split
  · simp [Action.sweeps, Work.sweeps]
  · split <;> simp [Action.sweeps, Work.sweeps, or_imp, forall_and]

theorem unswept_act (bench : Bench) (j : Incarnation) (node : Node) (work : Work) (other : work.sweeps = false) :
    ∀ action ∈ (bench.act j node work).2, action.sweeps = false := by
  cases work with
  | membershipChanged | primaryCheck => cases other
  | endStop | written => simp [act]
  | recompute => simp [act, Action.reading, Action.sweeps, Work.sweeps]
  | start =>
      rw [act]
      split <;> simp [Action.sweeps, Work.sweeps]
  | admission =>
      rw [act]
      split <;> simp [Action.publishing, Action.sweeps, Work.sweeps]
  | stop =>
      rw [act]
      split <;> simp [Action.writing, Action.sweeps, Work.sweeps]
  | publish =>
      rw [act]
      split <;> simp [Action.writing, Action.sweeps, Work.sweeps]
  | groupsChanged =>
      rw [act]
      split <;> simp [Action.publishing, Action.sweeps, Work.sweeps]
  | storeChanged | invalidated =>
      rw [act]
      split <;> simp [Action.sweeps, Work.sweeps]
  | write mutation why => exact bench.unswept_write j node mutation why
  | read why =>
      cases why with
      | sweeping view => cases other
      | recomputing generation =>
          rw [act]
          split <;> simp [Action.sweeps, Work.sweeps]
  | entries why result =>
      cases why with
      | sweeping view => cases other
      | recomputing generation => cases result <;> simp [act, useEntries]
  | send event mode answering =>
      rw [act]
      split <;> simp [answerIf, Action.sweeps, Work.sweeps]
  | broadcast event mode answering =>
      rw [act]
      split
      · simp [Action.sweeps, Work.sweeps]
      · intro action member
        cases List.mem_append.mp member with
        | inl delivered => exact unswept_delivery action (delivery_broadcast bench node event mode action delivered)
        | inr concluded =>
            rw [List.mem_singleton.mp concluded]
            rfl
  | conclude event result answering => simp [act, answerIf, Action.sweeps]
  | apply event =>
      rw [act]
      split <;> simp

inductive Pursues (bench : Bench) (taking : Action) : Action → Prop
  | told (circle : NodeId × Nat) (j : Incarnation) (view : View) (tells : taking = .tellCircle circle view) :
      Pursues bench taking (.work j (.membershipChanged view))
  | asked (j : Incarnation) (view : View) (hears : taking = .work j (.membershipChanged view)) :
      Pursues bench taking (.work j (.primaryCheck view))
  | elected (j : Incarnation) (view : View)
      (hears : taking = .work j (.membershipChanged view) ∨ taking = .work j (.primaryCheck view)) :
      Pursues bench taking (.work j (.read (.sweeping view)))
  | read (j : Incarnation) (view : View) (result : Except Fault Entries) (reads : taking = .work j (.read (.sweeping view)))
      (whole : ∀ contents, result = .ok contents → contents = bench.cluster.entries) :
      Pursues bench taking (.work j (.entries (.sweeping view) result))
  | removes (j : Incarnation) (view : View) (contents : Entries) (owner : NodeId)
      (has : taking = .work j (.entries (.sweeping view) (.ok contents))) (missing : view.contains owner = false)
      (found : owner ∈ contents) : Pursues bench taking (.work j (.write (.remove owner) (.sweeping owner)))

theorem pursues_sweep_if (bench : Bench) (j : Incarnation) (view : View) (taking : Action) (primary : Bool)
    (hears : taking = .work j (.membershipChanged view) ∨ taking = .work j (.primaryCheck view)) (action : Action)
    (sweeps : action.sweeps = true) (member : action ∈ sweepIf j view primary) : Pursues bench taking action := by
  cases primary with
  | false => cases member
  | true =>
      simp only [sweepIf, if_true, Action.reading, List.mem_cons, List.not_mem_nil, or_false] at member
      rcases member with rfl | rfl
      · cases sweeps
      · exact .elected j view hears

theorem pursues_act (bench : Bench) (j : Incarnation) (node : Node) (work : Work) (action : Action)
    (sweeps : action.sweeps = true) (member : action ∈ (bench.act j node work).2) :
    Pursues bench (.work j work) action := by
  have other (unswept : work.sweeps = false) : Pursues bench (.work j work) action := by
    cases sweeps.symm.trans (bench.unswept_act j node work unswept action member)
  cases work with
  | membershipChanged view =>
      rw [act] at member
      split at member
      · split at member
        · exact bench.pursues_sweep_if j view _ _ (.inl rfl) action sweeps member
        · simp only [List.mem_cons, List.not_mem_nil, or_false] at member
          rcases member with rfl | rfl
          · cases sweeps
          · exact .asked j view rfl
      · cases member
  | primaryCheck view =>
      rw [act] at member
      split at member
      · cases member
      · exact bench.pursues_sweep_if j view _ _ (.inr rfl) action sweeps member
  | read why =>
      cases why with
      | recomputing generation => exact other rfl
      | sweeping view =>
          rw [act] at member
          split at member
          · obtain rfl := List.mem_singleton.mp member
            exact .read j view _ rfl (by simp)
          · simp only [List.mem_cons, List.not_mem_nil, or_false] at member
            rcases member with rfl | rfl
            · cases sweeps
            · exact .read j view _ rfl (read_ok bench.cluster node)
  | entries why result =>
      cases why with
      | recomputing generation => exact other rfl
      | sweeping view =>
          cases result with
          | error fault => cases member
          | ok contents =>
              obtain ⟨owner, dead, written⟩ := List.mem_flatMap.mp member
              obtain ⟨found, missing⟩ := List.mem_filter.mp dead
              simp only [Action.writing, List.mem_cons, List.not_mem_nil, or_false] at written
              rcases written with rfl | rfl
              · cases sweeps
              · exact .removes j view contents owner rfl (by simpa using missing) (ExtTreeMap.mem_keys.mp found)
  | write mutation why => cases sweeps.symm.trans (bench.unswept_write j node mutation why action member)
  | _ => exact other rfl

theorem pursues_perform (bench : Bench) (id : Nat) (request : Option Nat) (taking action : Action)
    (sweeps : action.sweeps = true) (member : action ∈ (bench.perform id request taking).2.getD []) :
    Pursues bench taking action := by
  cases taking with
  | acquire lock =>
      rw [more_acquire] at member
      cases member
  | pass j service =>
      rw [more_pass] at member
      cases member
  | release lock | sleep => cases member
  | answer reply => cases request <;> cases member
  | install name =>
      have answers : ∀ other ∈ (bench.install name).2, other.sweeps = false := by
        rw [install]
        split <;> simp [Action.sweeps]
      cases sweeps.symm.trans (answers action member)
  | tellCircle circle view =>
      obtain ⟨j, _, rfl⟩ := List.mem_map.mp member
      exact .told circle j view rfl
  | work j work =>
      rw [perform] at member
      split at member
      · cases member
      · exact bench.pursues_act j _ work action sweeps member

-- What a request begins of a sweep: word of the members as they are then, or as someone says they are.
inductive Proclaims (bench : Bench) (request : Request) : Action → Prop
  | hub (circle : NodeId × Nat) : Proclaims bench request (.tellCircle circle (bench.begin request).1.cluster.hub.view)
  | said (j : Incarnation) (id : NodeId) (members : List NodeId) (asks : request = .node id (.membershipChanged members)) :
      Proclaims bench request (.work j (.membershipChanged (View.ofList members)))

theorem proclaims_telling (bench begun : Bench) (request : Request) (last action : Action) (unswept : last.sweeps = false)
    (hub : (bench.begin request).1.cluster.hub = begun.cluster.hub) (sweeps : action.sweeps = true)
    (member : action ∈ begun.telling ++ [last]) : Proclaims bench request action := by
  cases List.mem_append.mp member with
  | inl told =>
      obtain ⟨circle, _, rfl⟩ := List.mem_map.mp told
      exact hub ▸ .hub circle
  | inr final =>
      obtain rfl := List.mem_singleton.mp final
      cases sweeps.symm.trans unswept

theorem unswept_begin_node (bench : Bench) (j : Incarnation) (node : Node) (request : NodeRequest)
    (other : ∀ members, request ≠ .membershipChanged members) :
    ∀ action ∈ (bench.beginNode j node request).2, action.sweeps = false := by
  cases request with
  | membershipChanged members => exact absurd rfl (other members)
  | createGroup group =>
      rw [beginNode]
      cases node.registry.createGroup? group <;> simp [changeGroups, Action.sweeps, Work.sweeps, or_imp, forall_and]
  | dropGroup group =>
      rw [beginNode]
      cases node.registry.dropGroup? group <;> simp [changeGroups, Action.sweeps, Work.sweeps, or_imp, forall_and]
  | put group key =>
      rw [beginNode]
      split <;> simp [Action.sweeps]
  | _ => simp [beginNode, Action.publishing, Action.sweeps, Work.sweeps, or_imp, forall_and]

theorem proclaims_begin (bench : Bench) (request : Request) (action : Action) (sweeps : action.sweeps = true)
    (member : action ∈ (bench.begin request).2.2) : Proclaims bench request action := by
  have other (unswept : ∀ action ∈ (bench.begin request).2.2, action.sweeps = false) : Proclaims bench request action := by
    cases sweeps.symm.trans (unswept action member)
  cases request with
  | addNode id => exact proclaims_telling bench (bench.join id) _ (.install id) action rfl rfl sweeps member
  | join id => exact proclaims_telling bench (bench.join id) _ (.answer .done) action rfl rfl sweeps member
  | appoint id => exact other (by simp [begin, Action.sweeps])
  | putRaw key value => exact other (by simp [begin, Action.sweeps, Work.sweeps, or_imp, forall_and])
  | leave id =>
      cases left : bench.cluster.hub.leave? id with
      | none =>
          refine other ?_
          rw [begin, left]
          simp [Action.sweeps]
      | some hub =>
          refine proclaims_telling bench (bench.withCluster { bench.cluster with hub }) _
            (.answer .done) action rfl ?_ sweeps ?_
          · rw [begin, left]
          · rw [begin, left] at member
            exact member
  | drop id =>
      refine other ?_
      rw [begin]
      split <;> simp [Action.sweeps]
  | node id request =>
      by_cases asks : ∃ members, request = .membershipChanged members
      · obtain ⟨members, rfl⟩ := asks
        rw [begin] at member
        split at member
        · obtain rfl := List.mem_singleton.mp member
          cases sweeps
        · simp only [beginNode, List.mem_cons, List.not_mem_nil, or_false] at member
          rcases member with rfl | rfl
          · exact .said _ id members rfl
          · cases sweeps
      · refine other ?_
        rw [begin]
        split
        · simp [Action.sweeps]
        · exact bench.unswept_begin_node _ _ request fun members same => asks ⟨members, same⟩

theorem sweeping_source (numbered : bench.Numbered) (move : Move) (action : Action) (sweeps : action.sweeps = true)
    (plans : (bench.move move).Plans action) :
    bench.Plans action ∨ (∃ taking, bench.next? move = some taking ∧ Pursues bench taking action) ∨
      ∃ index request, move = .arrive index request ∧ Proclaims { bench with answered := ∅ } request action := by
  cases move with
  | arrive index request =>
      cases (arrive_plans numbered index request action).mp plans with
      | inl before => exact .inl before
      | inr began => exact .inr (.inr ⟨index, request, rfl, proclaims_begin _ request action sweeps began⟩)
  | go id =>
      cases next : bench.next? (.go id) with
      | none => exact .inl ((rests_plans next action).mp plans)
      | some taking =>
          obtain ⟨task, agenda, after, more, taken⟩ := go_taken next
          rcases taken.source numbered action plans with before | added | delivered
          · exact .inl before
          · have pursues := (bench.front id).pursues_perform id task.request taking action sweeps
            rw [taken.performed] at pursues
            refine .inr (.inl ⟨taking, rfl, ?_⟩)
            cases pursues added with
            | told circle j view tells => exact .told circle j view tells
            | asked j view hears => exact .asked j view hears
            | elected j view hears => exact .elected j view hears
            | read j view result reads whole => exact .read j view result reads whole
            | removes j view contents owner has missing found => exact .removes j view contents owner has missing found
          · cases sweeps.symm.trans (unswept_delivery action delivered)

end Bench

namespace Course

variable (course : Course)

-- Who the members are, as the hub had it at some time, or as someone said they are.
inductive Shown (view : View) (i : Nat) : Prop
  | hub (t : Nat) (earlier : t ≤ i) (same : view = (course.after t).cluster.hub.view)
  | said (t index : Nat) (id : NodeId) (members : List NodeId) (earlier : t < i)
      (asks : course.moves[t]? = some (.arrive index (.node id (.membershipChanged members))))
      (same : view = View.ofList members)

structure Hears (j : Incarnation) (view : View) (told : Nat) : Prop where
  hears : course.action? told = some (.work j (.membershipChanged view))
  shown : course.Shown view told

structure Sweep (j : Incarnation) (view : View) (told read : Nat) : Prop extends course.Hears j view told where
  reads : course.action? read = some (.work j (.read (.sweeping view)))
  after : told < read

def Explains (i : Nat) : Action → Prop
  | .tellCircle _ view => course.Shown view i
  | .work j work =>
      match work with
      | .membershipChanged view => course.Shown view i
      | .primaryCheck view | .read (.sweeping view) => ∃ told, told < i ∧ course.Hears j view told
      | .entries (.sweeping view) result =>
          ∃ told read, course.Sweep j view told read ∧ read < i ∧
            ∀ contents, result = .ok contents → contents = course.entries read
      | .write mutation (.sweeping owner) =>
          mutation = .remove owner ∧ ∃ view told read, course.Sweep j view told read ∧ read < i ∧
            view.contains owner = false ∧ owner ∈ course.entries read
      | _ => True
  | _ => True

variable {course} {i : Nat}

theorem Shown.mono {view : View} (shown : course.Shown view i) (j : Nat) (later : i ≤ j) : course.Shown view j := by
  cases shown with
  | hub t earlier same => exact .hub t (Nat.le_trans earlier later) same
  | said t index id members earlier asks same => exact .said t index id members (Nat.lt_of_lt_of_le earlier later) asks same

theorem explains_unswept (action : Action) (unswept : action.sweeps = false) : course.Explains i action := by
  cases action with
  | tellCircle circle view => cases unswept
  | work j work =>
      cases work with
      | membershipChanged | primaryCheck => cases unswept
      | read why => cases why with
        | recomputing generation => trivial
        | sweeping view => cases unswept
      | entries why result => cases why with
        | recomputing generation => trivial
        | sweeping view => cases unswept
      | write mutation why => cases why with
        | announcing | withdrawing => trivial
        | sweeping owner => cases unswept
      | _ => trivial
  | _ => trivial

theorem explains_succ (action : Action) (explained : course.Explains i action) : course.Explains (i + 1) action := by
  have later := Nat.lt_succ_self i
  cases sweeps : action.sweeps with
  | false => exact explains_unswept action sweeps
  | true =>
      cases action with
      | tellCircle circle view => exact Shown.mono explained _ (Nat.le_of_lt later)
      | work j work =>
          cases work with
          | membershipChanged view => exact Shown.mono explained _ (Nat.le_of_lt later)
          | primaryCheck view =>
              obtain ⟨told, before, hears⟩ := explained
              exact ⟨told, Nat.lt_trans before later, hears⟩
          | read why => cases why with
            | recomputing generation => cases sweeps
            | sweeping view =>
                obtain ⟨told, before, hears⟩ := explained
                exact ⟨told, Nat.lt_trans before later, hears⟩
          | entries why result => cases why with
            | recomputing generation => cases sweeps
            | sweeping view =>
                obtain ⟨told, read, sweep, before, whole⟩ := explained
                exact ⟨told, read, sweep, Nat.lt_trans before later, whole⟩
          | write mutation why => cases why with
            | announcing | withdrawing => cases sweeps
            | sweeping owner =>
                obtain ⟨same, view, told, read, sweep, before, facts⟩ := explained
                exact ⟨same, view, told, read, sweep, Nat.lt_trans before later, facts⟩
          | _ => cases sweeps
      | _ => cases sweeps

theorem explains_pursued (taking action : Action) (taken : course.action? i = some taking)
    (explained : course.Explains i taking) (pursues : (course.after i).Pursues taking action) :
    course.Explains (i + 1) action := by
  have later := Nat.lt_succ_self i
  cases pursues with
  | told circle j view tells =>
      subst tells
      exact Shown.mono explained _ (Nat.le_of_lt later)
  | asked j view hears =>
      subst hears
      exact ⟨i, later, taken, explained⟩
  | elected j view hears =>
      rcases hears with rfl | rfl
      · exact ⟨i, later, taken, explained⟩
      · obtain ⟨told, before, hears⟩ := explained
        exact ⟨told, Nat.lt_trans before later, hears⟩
  | read j view result reads whole =>
      subst reads
      obtain ⟨told, before, hears⟩ := explained
      exact ⟨told, i, ⟨hears, taken, before⟩, later, whole⟩
  | removes j view contents owner has missing found =>
      subst has
      obtain ⟨told, read, sweep, before, whole⟩ := explained
      exact ⟨rfl, view, told, read, sweep, Nat.lt_trans before later, missing, whole contents rfl ▸ found⟩

theorem explains_proclaimed (index : Nat) (request : Request) (action : Action)
    (came : course.moves[i]? = some (.arrive index request))
    (moved : course.after (i + 1) = (course.after i).move (.arrive index request))
    (proclaims : { course.after i with answered := ∅ }.Proclaims request action) : course.Explains (i + 1) action := by
  cases proclaims with
  | hub circle =>
      refine Shown.hub (i + 1) (Nat.le_refl _) ?_
      rw [moved]
      rfl
  | said j id members asks =>
      subst asks
      exact Shown.said i index id members (Nat.lt_succ_self i) came rfl

theorem explained (fresh : course.Fresh) (i : Nat) (action : Action) (plans : (course.after i).Plans action) :
    course.Explains i action := by
  induction i generalizing action with
  | zero => exact absurd plans (fresh.idle action)
  | succ i ih =>
      cases sweeps : action.sweeps with
      | false => exact explains_unswept action sweeps
      | true =>
          have numbered := course.always fresh.numbered (fun _ move numbered => Bench.numbered_move numbered move) i
          rcases course.after_succ i with ⟨move, came, moved⟩ | ⟨_, same⟩
          · rw [moved] at plans
            rcases Bench.sweeping_source numbered move action sweeps plans with
              before | ⟨taking, next, pursues⟩ | ⟨index, request, rfl, proclaims⟩
            · exact explains_succ action (ih action before)
            · have taken := (course.action_of_moved move came).trans next
              exact explains_pursued taking action taken (ih taking (course.action_plans _ taken)) pursues
            · exact explains_proclaimed index request action came moved proclaims
          · exact explains_succ action (ih action (same ▸ plans))

-- Whatever a sweep removes, it had found in the store after its bridge had heard of members without its owner.
theorem sweep_of_removal (fresh : course.Fresh) (j : Incarnation) (mutation : Mutation) (owner : NodeId)
    (taken : course.action? i = some (.work j (.write mutation (.sweeping owner)))) :
    mutation = .remove owner ∧ ∃ view told read, course.Sweep j view told read ∧ read < i ∧
      view.contains owner = false ∧ owner ∈ course.entries read :=
  explained fresh i _ (course.action_plans _ taken)

end Course

end Coherence.Interleaving
