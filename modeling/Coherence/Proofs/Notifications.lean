import Coherence.Proofs.Eviction
import Coherence.Proofs.ListenerNumbers
import Coherence.Registry.Session

set_option autoImplicit false

namespace Coherence

open Std

theorem filter_map_to_list {α β : Type} (pick : α → Option β) (item : Option α) :
    item.toList.filterMap pick = (item.bind pick).toList := by
  cases item with
  | none => rfl
  | some value => cases picked : pick value <;> simp [picked]

namespace Notice

def upon (groups : ExtTreeSet Group) : Notice → ExtTreeSet Group
  | created group => groups.insert group
  | dropped group => groups.erase group
  | invalidated .. => groups

def replay (groups : ExtTreeSet Group) (notices : List Notice) : ExtTreeSet Group := notices.foldl upon groups

def presence? (group : Group) : Notice → Option Bool
  | created other => if other = group then some true else none
  | dropped other => if other = group then some false else none
  | invalidated .. => none

def invalidation? : Notice → Option (Event × Mode)
  | invalidated event mode => some (event, mode)
  | _ => none

end Notice

namespace Registry

namespace Operation

def invalidation? : Operation → Option (Event × Mode)
  | invalidate event mode => some (event, mode)
  | _ => none

def subscribes : Operation → Bool
  | subscribe _ => true
  | _ => false

-- What there is to say about an operation. Without an effect on the groups there is nothing.
def notice? (cache : Cache) : Operation → Option Notice
  | createGroup group => if group ∈ cache then none else some (.created group)
  | dropGroup group => if group ∈ cache then some (.dropped group) else none
  | invalidate event mode => some (.invalidated event mode)
  | _ => none

end Operation

def subscriptions (operations : List Operation) : Nat := operations.countP (·.subscribes)

def heardBy (name : String) (told : List (String × Notice)) : List Notice := (told.filter (·.1 = name)).map (·.2)

theorem subscriptions_append (first second : List Operation) :
    subscriptions (first ++ second) = subscriptions first + subscriptions second :=
  List.countP_append

theorem subscriptions_cons (operation : Operation) (operations : List Operation) :
    subscriptions (operation :: operations) = subscriptions [operation] + subscriptions operations :=
  subscriptions_append [operation] operations

theorem heard_append (name : String) (first second : List (String × Notice)) :
    heardBy name (first ++ second) = heardBy name first ++ heardBy name second := by
  simp [heardBy]

namespace Session

variable (session : Session)

def groups : ExtTreeSet Group := .ofList session.registry.groupNames

def notices (session : Session) : List Operation → List Notice
  | [] => []
  | operation :: operations =>
      (operation.notice? session.registry.cache).toList ++ (session.step operation).1.notices operations

theorem mem_groups (group : Group) : group ∈ session.groups ↔ group ∈ session.registry.cache := by
  simp [groups, groupNames]

theorem groups_of_keys (registry : Registry String) (held : ExtTreeMap String UInt64)
    (same : registry.cache.keys = session.registry.cache.keys) : (Session.mk registry held).groups = session.groups := by
  rw [groups, groupNames, same]
  rfl

theorem told_step (operation : Operation) :
    (session.step operation).2.2 = (operation.notice? session.registry.cache).elim [] session.tell := by
  cases operation with
  | createGroup group =>
      by_cases present : group ∈ session.registry.cache <;> simp [step, createGroup?, Operation.notice?, present]
  | dropGroup group =>
      by_cases present : group ∈ session.registry.cache <;> simp [step, dropGroup?, Operation.notice?, present]
  | put group key => by_cases present : group ∈ session.registry.cache <;> simp [step, put?, Operation.notice?, present]
  | unsubscribe name => cases held : session.held[name]? <;> simp [step, Operation.notice?, held]
  | _ => rfl

theorem groups_step (operation : Operation) :
    (session.step operation).1.groups =
      (operation.notice? session.registry.cache).elim session.groups (Notice.upon session.groups) := by
  cases operation with
  | createGroup group =>
      by_cases present : group ∈ session.registry.cache
      · simp [step, createGroup?, Operation.notice?, present]
      · apply ExtTreeSet.ext_mem
        simp [step, createGroup?, Operation.notice?, Notice.upon, present, mem_groups]
  | dropGroup group =>
      by_cases present : group ∈ session.registry.cache
      · apply ExtTreeSet.ext_mem
        simp [step, dropGroup?, Operation.notice?, Notice.upon, present, mem_groups]
      · simp [step, dropGroup?, Operation.notice?, present]
  | put group key =>
      by_cases present : group ∈ session.registry.cache
      · have same := session.registry.cache.keys_modify group (·.insert key)
        simp only [step, put?, if_pos present]
        exact session.groups_of_keys _ _ same
      · simp [step, put?, Operation.notice?, present]
  | invalidate event mode => exact session.groups_of_keys _ _ (session.registry.cache.keys_evict event)
  | apply event =>
      refine session.groups_of_keys (session.registry.apply event).1 _ ?_
      rw [Registry.apply]
      split
      · rfl
      · exact session.registry.cache.keys_evict event
  | setRejecting on => rfl
  | subscribe name =>
      rw [step]
      dsimp only
      split <;> rfl
  | unsubscribe name =>
      rw [step]
      split <;> rfl

theorem replay_notices (operations : List Operation) :
    Notice.replay session.groups (session.notices operations) = (session.run operations).1.groups := by
  induction operations generalizing session with
  | nil => rfl
  | cons operation operations ih =>
      have next := ih (session.step operation).1
      rw [groups_step] at next
      rw [run, ← next, notices]
      cases operation.notice? session.registry.cache <;> rfl

theorem presence_step (operation : Operation) (group : Group) :
    decide (group ∈ (session.step operation).1.groups) =
      ((operation.notice? session.registry.cache).bind (·.presence? group)).getD (decide (group ∈ session.groups)) := by
  rw [groups_step]
  cases operation.notice? session.registry.cache with
  | none => rfl
  | some notice =>
    cases notice with
    | created other => by_cases same : other = group <;> simp [Notice.upon, Notice.presence?, same]
    | dropped other => by_cases same : other = group <;> simp [Notice.upon, Notice.presence?, same]
    | invalidated event mode => rfl

theorem presence_changes (operation : Operation) (group : Group) (present : Bool)
    (said : (operation.notice? session.registry.cache).bind (·.presence? group) = some present) :
    decide (group ∈ session.groups) ≠ present := by
  simp only [mem_groups]
  cases operation <;> grind [Operation.notice?, Notice.presence?]

theorem presence_alternates (operations : List Operation) (group : Group) :
    (decide (group ∈ session.groups) :: (session.notices operations).filterMap (·.presence? group)).IsChain (· ≠ ·) := by
  induction operations generalizing session with
  | nil => exact .singleton _
  | cons operation operations ih =>
      have next := ih (session.step operation).1
      rw [presence_step] at next
      rw [notices, List.filterMap_append, filter_map_to_list]
      cases said : (operation.notice? session.registry.cache).bind (·.presence? group) with
      | none =>
          rw [said] at next
          exact next
      | some present =>
          rw [said] at next
          exact .cons_cons (session.presence_changes operation group present said) next

theorem invalidations_notices (operations : List Operation) :
    (session.notices operations).filterMap Notice.invalidation? = operations.filterMap Operation.invalidation? := by
  induction operations generalizing session with
  | nil => rfl
  | cons operation operations ih =>
      rw [notices, List.filterMap_append, ih, List.filterMap_cons]
      cases operation with
      | createGroup group => grind [Operation.notice?, Notice.invalidation?, Operation.invalidation?]
      | dropGroup group => grind [Operation.notice?, Notice.invalidation?, Operation.invalidation?]
      | _ => rfl

theorem absent_step (operation : Operation) (group : Group) (absent : group ∉ session.registry.cache)
    (uncreated : .createGroup group ≠ operation) : group ∉ (session.step operation).1.registry.cache := by
  rw [← mem_groups, groups_step]
  rw [← mem_groups] at absent
  cases operation with
  | createGroup other => grind [Operation.notice?, Notice.upon]
  | dropGroup other => grind [Operation.notice?, Notice.upon]
  | _ => exact absent

theorem absent_run (operations : List Operation) (group : Group) (absent : group ∉ session.registry.cache)
    (uncreated : .createGroup group ∉ operations) : group ∉ (session.run operations).1.registry.cache := by
  induction operations generalizing session with
  | nil => exact absent
  | cons operation operations ih =>
      rw [List.mem_cons, not_or] at uncreated
      exact ih _ (session.absent_step operation group absent uncreated.1) uncreated.2

theorem found_created (group : Group) (absent : group ∉ session.registry.cache) :
    (session.step (.createGroup group)).1.registry.cache[group]? = some ∅ := by
  simp [step, createGroup?, absent]

theorem absent_dropped (group : Group) : group ∉ (session.step (.dropGroup group)).1.registry.cache := by
  by_cases present : group ∈ session.registry.cache <;> simp [step, dropGroup?, present]

theorem run_append (first second : List Operation) :
    session.run (first ++ second) =
      (((session.run first).1.run second).1, (session.run first).2 ++ ((session.run first).1.run second).2) := by
  induction first generalizing session with
  | nil => rfl
  | cons operation first ih => simp [run, ih]

-- A group that comes back has forgotten its keys.
theorem found_recreated (group : Group) (between : List Operation) (uncreated : .createGroup group ∉ between) :
    (session.run (.dropGroup group :: between ++ [.createGroup group])).1.registry.cache[group]? = some ∅ := by
  have absent := absent_run _ between group (session.absent_dropped group) uncreated
  rw [run_append]
  exact found_created _ group absent

theorem listeners_step (operation : Operation) :
    (session.step operation).1.registry.listeners =
      match operation with
      | .subscribe name => (session.registry.listeners.add name).1.vacate session.held[name]?
      | .unsubscribe name => session.registry.listeners.vacate session.held[name]?
      | _ => session.registry.listeners := by
  cases operation with
  | createGroup group => by_cases present : group ∈ session.registry.cache <;> simp [step, createGroup?, present]
  | dropGroup group => by_cases present : group ∈ session.registry.cache <;> simp [step, dropGroup?, present]
  | put group key => by_cases present : group ∈ session.registry.cache <;> simp [step, put?, present]
  | invalidate event mode => rfl
  | apply event => by_cases rejects : session.registry.rejecting = true <;> simp [step, Registry.apply, evict, rejects]
  | setRejecting on => rfl
  | subscribe name => cases held : session.held[name]? <;> simp [step, subscribe, release, Listeners.vacate, held]
  | unsubscribe name => cases held : session.held[name]? <;> simp [step, release, Listeners.vacate, held]

theorem found_held_step (operation : Operation) (name : String) :
    (session.step operation).1.held[name]? =
      match operation with
      | .subscribe other => if other = name then some session.registry.listeners.next else session.held[name]?
      | .unsubscribe other => if other = name then none else session.held[name]?
      | _ => session.held[name]? := by
  cases operation with
  | createGroup group => by_cases present : group ∈ session.registry.cache <;> simp [step, createGroup?, present]
  | dropGroup group => by_cases present : group ∈ session.registry.cache <;> simp [step, dropGroup?, present]
  | put group key => by_cases present : group ∈ session.registry.cache <;> simp [step, put?, present]
  | invalidate event mode => rfl
  | apply event => simp [step]
  | setRejecting on => rfl
  | subscribe other => simp [step, subscribe, Listeners.add, ExtTreeMap.getElem?_insert]
  | unsubscribe other =>
      by_cases same : other = name
      · subst same
        cases held : session.held[other]? <;> simp [step, held]
      · cases held : session.held[other]? <;> simp [step, held, same, ExtTreeMap.getElem?_erase]

theorem held_kept (operation : Operation) (name : String) (comes : operation ≠ .subscribe name)
    (goes : operation ≠ .unsubscribe name) : (session.step operation).1.held[name]? = session.held[name]? := by
  rw [found_held_step]
  grind

theorem held_run (operations : List Operation) (name : String)
    (stays : ∀ operation ∈ operations, operation ≠ .subscribe name ∧ operation ≠ .unsubscribe name) :
    (session.run operations).1.held[name]? = session.held[name]? := by
  induction operations generalizing session with
  | nil => rfl
  | cons operation operations ih =>
      obtain ⟨⟨comes, goes⟩, later⟩ := List.forall_mem_cons.mp stays
      exact (ih _ later).trans (session.held_kept operation name comes goes)

def Enrolled (count : Nat) : Prop := session.registry.listeners.Seated count fun name => session.held[name]?

theorem enrolled_initial : ({} : Session).Enrolled 0 := Listeners.seated_nobody

variable {session} {count : Nat}

theorem Enrolled.step (enrolled : session.Enrolled count) (operation : Operation)
    (room : count + subscriptions [operation] ≤ UInt64.size) :
    (session.step operation).1.Enrolled (count + subscriptions [operation]) := by
  rw [Enrolled, listeners_step]
  simp only [found_held_step]
  cases operation with
  | subscribe name => exact enrolled.enter name room _ (by simp) (by simp +contextual [eq_comm])
  | unsubscribe name => exact enrolled.vacate name _ (by simp) (by simp +contextual [eq_comm])
  | _ => exact enrolled

theorem heard_tell (enrolled : session.Enrolled count) (name : String) (held : session.held[name]?.isSome = true)
    (notice : Notice) : heardBy name (session.tell notice) = [notice] := by
  have once : session.registry.audience.count name = 1 := by
    rw [audience, enrolled.nodup.count, if_pos ((enrolled.mem_to_list name).mpr held)]
  simp [heardBy, tell, List.filter_map, Function.comp_def, List.filter_eq, once]

theorem heard_step (enrolled : session.Enrolled count) (name : String) (held : session.held[name]?.isSome = true)
    (operation : Operation) :
    heardBy name (session.step operation).2.2 = (operation.notice? session.registry.cache).toList := by
  rw [told_step]
  cases operation.notice? session.registry.cache with
  | none => rfl
  | some notice => exact heard_tell enrolled name held notice

theorem Enrolled.run (enrolled : session.Enrolled count) (operations : List Operation)
    (room : count + subscriptions operations ≤ UInt64.size) :
    (session.run operations).1.Enrolled (count + subscriptions operations) := by
  induction operations generalizing session count with
  | nil => exact enrolled
  | cons operation operations ih =>
      rw [subscriptions_cons, ← Nat.add_assoc] at room ⊢
      exact ih (enrolled.step operation (Nat.le_of_add_right_le room)) room

theorem heard_run (operations : List Operation) (name : String)
    (stays : ∀ operation ∈ operations, operation ≠ .subscribe name ∧ operation ≠ .unsubscribe name)
    (enrolled : session.Enrolled count) (held : session.held[name]?.isSome = true)
    (room : count + subscriptions operations ≤ UInt64.size) :
    heardBy name (session.run operations).2 = session.notices operations := by
  induction operations generalizing session count with
  | nil => rfl
  | cons operation operations ih =>
      obtain ⟨⟨comes, goes⟩, later⟩ := List.forall_mem_cons.mp stays
      rw [subscriptions_cons, ← Nat.add_assoc] at room
      have next := enrolled.step operation (Nat.le_of_add_right_le room)
      have kept := session.held_kept operation name comes goes
      rw [run, notices, heard_append, heard_step enrolled name held]
      exact congrArg _ (ih later next (kept ▸ held) room)

end Session

/-- What a listener hears replays the groups, alternates for each of them, and names every local invalidation. -/
theorem notifications_faithful (earlier later : List Operation) (name : String)
    (stays : ∀ operation ∈ later, operation ≠ .subscribe name ∧ operation ≠ .unsubscribe name)
    (room : subscriptions (earlier ++ .subscribe name :: later) ≤ UInt64.size) :
    let start := (({} : Session).run (earlier ++ [.subscribe name])).1
    let session := (start.run later).1
    let heard := heardBy name (start.run later).2
    Notice.replay start.groups heard = session.groups ∧
    (∀ group, (decide (group ∈ start.groups) :: heard.filterMap (·.presence? group)).IsChain (· ≠ ·)) ∧
    heard.filterMap Notice.invalidation? = later.filterMap Operation.invalidation? ∧
    (∀ operation, heardBy name (session.step operation).2.2 = (operation.notice? session.registry.cache).toList) ∧
    ∀ group between, .createGroup group ∉ between →
      (session.run (.dropGroup group :: between ++ [.createGroup group])).1.registry.cache[group]? = some ∅ := by
  intro start session heard
  rw [List.append_cons, subscriptions_append] at room
  have enrolled : start.Enrolled (subscriptions (earlier ++ [.subscribe name])) := by
    have begun := Session.enrolled_initial.run (earlier ++ [.subscribe name])
    rw [Nat.zero_add] at begun
    exact begun (Nat.le_of_add_right_le room)
  have held : start.held[name]?.isSome = true := by
    simp [start, Session.run_append, Session.run, Session.found_held_step]
  have told : heard = start.notices later := Session.heard_run later name stays enrolled held room
  refine ⟨?_, fun group => ?_, ?_, ?_, session.found_recreated⟩
  · rw [told]
    exact start.replay_notices later
  · rw [told]
    exact start.presence_alternates later group
  · rw [told]
    exact start.invalidations_notices later
  · have kept := start.held_run later name stays
    exact Session.heard_step (enrolled.run later room) name (kept ▸ held)

/-- A listener comes and another goes, a group is dropped and comes back, and a key is invalidated here and elsewhere. -/
def beforehand : List Operation := [.subscribe "y", .createGroup "g", .put "g" "k"]

def meanwhile : List Operation :=
  [.createGroup "h", .apply (.single "g" "k"), .unsubscribe "y", .dropGroup "g", .createGroup "h", .createGroup "g",
    .invalidate (.single "g" "k") .sync, .put "g" "k"]

theorem news_heard :
    let start := (({} : Session).run (beforehand ++ [.subscribe "x"])).1
    let session := (start.run meanwhile).1
    let heard := heardBy "x" (start.run meanwhile).2
    start.groups.toList = ["g"] ∧ Notice.replay start.groups heard = session.groups ∧ session.groups.toList = ["g", "h"] ∧
    (true :: heard.filterMap (·.presence? "g")).IsChain (· ≠ ·) ∧ heard.filterMap (·.presence? "g") = [false, true] ∧
    heard.filterMap Notice.invalidation? = [(.single "g" "k", .sync)] ∧
    heardBy "x" (session.step (.dropGroup "h")).2.2 = [.dropped "h"] ∧
    session.registry.cache.holds "g" "k" = true ∧
    (session.run [.dropGroup "g", .put "g" "k", .createGroup "g"]).1.registry.cache["g"]? = some ∅ := by
  intro start session heard
  obtain ⟨replayed, alternates, invalidated, told, forgotten⟩ :=
    notifications_faithful beforehand meanwhile "x" (by simp [meanwhile]) (by decide)
  exact ⟨by decide, replayed, by decide, alternates "g", by decide, invalidated, told _, by decide,
    forgotten "g" [.put "g" "k"] (by simp)⟩

end Registry

end Coherence
