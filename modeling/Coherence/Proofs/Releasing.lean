import Coherence.Proofs.SubscriptionHistory
import Coherence.Subscription

set_option autoImplicit false

namespace Coherence

open Std

namespace Subscription

-- Letting go again and again, and how often that has had an effect.
def releases (subscription : Subscription) : Nat → Subscription × Nat
  | 0 => (subscription, 0)
  | times + 1 =>
      let (released, now) := subscription.release
      let (last, later) := released.releases times
      (last, now + later)

theorem releases_inactive (times : Nat) (subscription : Subscription) (inactive : subscription.active = false) :
    (subscription.releases times).2 = 0 := by
  induction times generalizing subscription with
  | zero => rfl
  | succ times ih => simp [releases, release, inactive, ih]

theorem releases_active (times : Nat) (subscription : Subscription) (active : subscription.active = true) :
    (subscription.releases (times + 1)).2 = 1 := by
  simp [releases, release, active, releases_inactive]

end Subscription

namespace Hub

def holders (held : ExtTreeMap String Handle) (handle : Handle) : Nat := held.toList.countP (·.2 = handle)

theorem holders_erase (held : ExtTreeMap String Handle) (name : String) (handle : Handle) :
    holders held handle = held[name]?.toList.count handle + holders (held.erase name) handle := by
  cases found : held[name]? with
  | none =>
      have absent : name ∉ held := by simp [ExtTreeMap.mem_iff_isSome_getElem?, found]
      simp [erase_absent held name absent]
  | some own =>
      rw [holders, (to_list_perm_erase held name own found).countP_eq, List.countP_cons, holders]
      simp [List.count_singleton, Nat.add_comm]

theorem holders_insert (held : ExtTreeMap String Handle) (name : String) (own handle : Handle) :
    holders (held.insert name own) handle = [own].count handle + holders (held.erase name) handle := by
  have same : (held.insert name own).erase name = held.erase name := by
    apply ExtTreeMap.ext_getElem?
    intro other
    simp only [ExtTreeMap.getElem?_erase, ExtTreeMap.getElem?_insert]
    grind
  rw [holders_erase _ name, same, ExtTreeMap.getElem?_insert_self, Option.toList_some]

namespace Session

variable (session : Session)

def gives : Operation → Option Handle
  | .subscribe node _ name => some (session.hub.subscribe node name).2
  | _ => none

def given (session : Session) : List Operation → List Handle
  | [] => []
  | operation :: later => (session.gives operation).toList ++ (session.step operation).1.given later

def dropped (session : Session) : List Operation → List Handle
  | [] => []
  | operation :: later => (session.drops operation).toList ++ (session.step operation).1.dropped later

theorem holders_step (operation : Operation) (handle : Handle) :
    (session.gives operation).toList.count handle + holders session.held handle =
      (session.drops operation).toList.count handle + holders (session.step operation).1.held handle := by
  cases operation with
  | subscribe node channel name =>
      rw [gives, drops, holders_erase session.held name handle]
      rw [show (session.step (.subscribe node channel name)).1.held =
        session.held.insert name (session.hub.subscribe node name).2 from rfl, holders_insert]
      simp only [Option.toList_some]
      omega
  | unsubscribe name =>
      have erased := holders_erase session.held name handle
      cases held : session.held[name]? with
      | none => simp [step, gives, drops, held]
      | some own => simpa [step, gives, drops, held] using erased
  | leave node => cases left : session.hub.leave? node <;> simp [step, gives, drops, left]
  | _ => rfl

theorem holders_run (operations : List Operation) (handle : Handle) :
    (session.given operations).count handle + holders session.held handle =
      (session.dropped operations).count handle + holders (session.run operations).1.held handle := by
  induction operations generalizing session with
  | nil => rfl
  | cons operation operations ih =>
      have now := session.holders_step operation handle
      have later := ih (session.step operation).1
      simp only [given, dropped, run, List.count_append]
      omega

theorem eras_step (operation : Operation) : session.hub.eras ≤ (session.step operation).1.hub.eras := by
  rw [hub_step, eras_drop]
  cases operation with
  | leave node =>
      rw [enact]
      cases left : session.hub.leave? node with
      | none => exact Nat.le_refl _
      | some after => exact Nat.le_of_eq (session.hub.leave_some node after left).2.2.2.symm
  | subscribe node channel name => exact eras_subscribe ..
  | _ => exact Nat.le_refl _

-- A circle that has gone does not come back, and none goes but with its node.
theorem in_use_step (operation : Operation) (handle : Handle) (past : handle.era < session.hub.eras)
    (used : (session.step operation).1.hub.inUse handle = true) :
    session.hub.inUse handle = true ∧ (operation = .leave handle.node → handle.node ∉ session.hub.members) := by
  rw [hub_step, in_use_drop] at used
  cases operation with
  | leave node =>
      rw [enact] at used
      cases left : session.hub.leave? node with
      | none =>
          have absent : node ∉ session.hub.members := by simpa [leave?] using left
          rw [left] at used
          refine ⟨used, fun same => ?_⟩
          cases same
          exact absent
      | some after =>
          rw [left, Option.getD_some, session.hub.in_use_leave node after left, Bool.and_eq_true] at used
          refine ⟨used.2, fun same => ?_⟩
          cases same
          simp at used
  | subscribe node channel name =>
      rw [enact, in_use_subscribe _ _ _ _ past] at used
      exact ⟨used, by simp⟩
  | _ => exact ⟨used, by simp⟩

end Session

-- No handle is given out twice: those of the circles in use have the numbers that were given out since.
structure Issued (operations : List Operation) (given : List Handle) (session : Session) : Prop where
  past : ∀ handle ∈ given, handle.era < session.hub.eras
  below : ∀ handle ∈ given, session.hub.inUse handle = true → handle.id.toNat < additions handle.node operations
  once : given.Nodup

namespace Issued

variable {operations : List Operation} {given : List Handle} {session : Session}

theorem kept (issued : Issued operations given session) (matching : MatchesHistory operations session)
    (operation : Operation) :
    Issued (operations ++ [operation]) given (session.step operation).1 where
  past handle member := Nat.lt_of_lt_of_le (issued.past handle member) (session.eras_step operation)
  below handle member used := by
    obtain ⟨before, stays⟩ := session.in_use_step operation handle (issued.past handle member) used
    rw [matching.joined, Bool.not_eq_true] at stays
    rw [additions_concat handle.node operations operation stays]
    exact Nat.lt_add_right _ (issued.below handle member before)
  once := issued.once

theorem subscribe (issued : Issued operations given session) (matching : MatchesHistory operations session) (node : NodeId)
    (channel : Channel) (name : String)
    (room : ∀ node', additions node' (operations ++ [.subscribe node channel name]) ≤ UInt64.size) :
    Issued (operations ++ [.subscribe node channel name]) (given ++ [(session.hub.subscribe node name).2])
      (session.step (.subscribe node channel name)).1 := by
  have after := matching.step _ room
  have kept := issued.kept matching (.subscribe node channel name)
  have used : (session.step (.subscribe node channel name)).1.hub.inUse (session.hub.subscribe node name).2 = true := by
    rw [Session.hub_step, in_use_drop]
    exact session.hub.in_use_subscribed node name
  have count : additions node (operations ++ [.subscribe node channel name]) = additions node operations + 1 := by
    simp [additions_concat, Operation.registers?]
  have number : (session.hub.subscribe node name).2.id.toNat = additions node operations := by
    have few := room node
    rw [count] at few
    rw [id_subscribe, (matching.seated node).numbered.next, UInt64.toNat_ofNat_of_lt' few]
  have fresh : (session.hub.subscribe node name).2 ∉ given := by
    intro member
    have before := (session.in_use_step _ _ (issued.past _ member) used).1
    have below := issued.below _ member before
    rw [handle_node_subscribe, number] at below
    exact Nat.lt_irrefl _ below
  refine ⟨fun handle member => ?_, fun handle member => ?_, ?_⟩
  · cases List.mem_append.mp member with
    | inl old => exact kept.past handle old
    | inr new => exact after.used _ (List.mem_singleton.mp new ▸ used)
  · cases List.mem_append.mp member with
    | inl old => exact kept.below handle old
    | inr new =>
        rw [List.mem_singleton.mp new, handle_node_subscribe, number, count]
        exact fun _ => Nat.lt_succ_self _
  · exact List.nodup_append.mpr ⟨issued.once, by simp, by grind⟩

theorem step (issued : Issued operations given session) (matching : MatchesHistory operations session) (operation : Operation)
    (room : ∀ node, additions node (operations ++ [operation]) ≤ UInt64.size) :
    Issued (operations ++ [operation]) (given ++ (session.gives operation).toList) (session.step operation).1 := by
  cases operation with
  | subscribe node channel name => exact issued.subscribe matching node channel name room
  | _ =>
      rw [Session.gives, Option.toList_none, List.append_nil]
      · exact issued.kept matching _
      · simp

end Issued

theorem matches_history_run (later : List Operation) (earlier : List Operation) (given : List Handle) (session : Session)
    (matching : MatchesHistory earlier session) (issued : Issued earlier given session)
    (room : ∀ before, before <+: later → ∀ node, additions node (earlier ++ before) ≤ UInt64.size) :
    MatchesHistory (earlier ++ later) (session.run later).1 ∧
      Issued (earlier ++ later) (given ++ session.given later) (session.run later).1 := by
  induction later generalizing earlier given session with
  | nil => simpa [Session.run, Session.given] using ⟨matching, issued⟩
  | cons operation later ih =>
      have now := room [operation] (by simp)
      rw [List.append_cons, Session.given, ← List.append_assoc]
      refine ih _ _ _ (matching.step operation now) (issued.step matching operation now) fun before first => ?_
      rw [List.append_assoc]
      exact room _ (List.prefix_append_right_inj [operation] |>.mpr first)

namespace Session

theorem run_append (session : Session) (first second : List Operation) :
    (session.run (first ++ second)).1 = ((session.run first).1.run second).1 := by
  induction first generalizing session with
  | nil => rfl
  | cons operation first ih => exact ih (session.step operation).1

theorem held_kept (session : Session) (operation : Operation) (name : String) (kept : operation.releases name = false) :
    (session.step operation).1.held[name]? = session.held[name]? := by
  rw [found_held_step]
  cases operation <;> simp_all [Operation.releases]

theorem held_run (session : Session) (operations : List Operation) (name : String)
    (kept : ∀ operation ∈ operations, operation.releases name = false) :
    (session.run operations).1.held[name]? = session.held[name]? := by
  induction operations generalizing session with
  | nil => rfl
  | cons operation operations ih =>
      obtain ⟨now, later⟩ := List.forall_mem_cons.mp kept
      exact (ih _ later).trans (session.held_kept operation name now)

theorem held_subscribed (session : Session) (node : NodeId) (channel : Channel) (name : String) (later : List Operation)
    (kept : ∀ operation ∈ later, operation.releases name = false) :
    (session.run (.subscribe node channel name :: later)).1.held[name]? = some (session.hub.subscribe node name).2 := by
  refine (held_run (session.step (.subscribe node channel name)).1 later name kept).trans ?_
  simp [found_held_step]

theorem in_use_run (session : Session) (operations : List Operation) (handle : Handle)
    (past : handle.era < session.hub.eras) (gone : session.hub.inUse handle = false) :
    (session.run operations).1.hub.inUse handle = false := by
  induction operations generalizing session with
  | nil => exact gone
  | cons operation operations ih =>
      apply ih _ (Nat.lt_of_lt_of_le past (session.eras_step operation))
      by_contra used
      rw [Bool.not_eq_false] at used
      simp [(session.in_use_step operation handle past used).1] at gone

end Session

-- Whoever came before its node left holds a handle that is good for nothing.
theorem MatchesHistory.outlived {operations : List Operation} {session : Session}
    (matching : MatchesHistory operations session)
    (node : NodeId) (joined : (stay node operations).joined = true) (later : List Operation) (name : String)
    (handle : Handle) (own : handle.node = node) (held : session.held[name]? = some handle)
    (kept : ∀ operation ∈ later, operation.releases name = false) :
    let after := (session.run (.leave node :: later)).1
    after.held[name]? = some handle ∧ (after.step (.unsubscribe name)).1.hub = after.hub := by
  intro after
  have past := matching.held name handle held
  have gone : (session.step (.leave node)).1.hub.inUse handle = false := by
    by_contra used
    rw [Bool.not_eq_false] at used
    subst own
    exact (session.in_use_step _ handle past used).2 rfl ((matching.joined handle.node).mpr joined)
  have unused : after.hub.inUse handle = false :=
    Session.in_use_run _ later handle (Nat.lt_of_lt_of_le past (session.eras_step (.leave node))) gone
  have still : after.held[name]? = some handle := by
    refine (Session.held_run session (.leave node :: later) name ?_).trans held
    simpa [Operation.releases] using kept
  refine ⟨still, ?_⟩
  rw [Session.hub_step, Session.drops, still]
  exact after.hub.release_past handle unused

/-- Whoever subscribes is told until it lets go of its handle or its node leaves, and no handle is given out twice. -/
theorem subscriptions_release_their_own (operations : List Operation)
    (room : ∀ before, before <+: operations → ∀ node, additions node before ≤ UInt64.size) :
    let session := (({} : Session).run operations).1
    let given := ({} : Session).given operations
    let dropped := ({} : Session).dropped operations
    (∀ node, (node ∈ session.hub.members ↔ (stay node operations).joined = true) ∧
      session.hub.snapshot node = subscribedNames node operations ∧ (subscribedNames node operations).Nodup) ∧
    session.hub.audience = session.hub.circles.keys.flatMap (subscribedNames · operations) ∧
    (∀ operation, (session.step operation).1.hub = (session.enact operation).drop (session.drops operation)) ∧
    given.Nodup ∧ (∀ handle, given.count handle = dropped.count handle + holders session.held handle) ∧
    (∀ name,
      let after := (session.step (.unsubscribe name)).1
      (∀ node, after.hub.snapshot node = (session.hub.snapshot node).filter (· ≠ name)) ∧
      after.step (.unsubscribe name) = (after, .flag false, [])) ∧
    (∀ before node channel name between after,
      operations = before ++ .subscribe node channel name :: between ++ .leave node :: after →
      (stay node (before ++ .subscribe node channel name :: between)).joined = true →
      (∀ operation ∈ between ++ after, operation.releases name = false) →
      (∃ handle, session.held[name]? = some handle) ∧ (session.step (.unsubscribe name)).1.hub = session.hub) ∧
    ∀ label times, (({ label } : Subscription).releases (times + 1)).2 = 1 := by
  intro session given dropped
  have initial : Issued [] [] ({} : Session) := ⟨by simp, by simp, List.nodup_nil⟩
  have run (before : List Operation) (first : before <+: operations) :=
    matches_history_run before [] [] {} matches_history_initial initial fun earlier shorter =>
      room earlier (shorter.trans first)
  obtain ⟨matching, issued⟩ : MatchesHistory operations session ∧ Issued operations given session :=
    run operations (List.prefix_refl operations)
  refine ⟨fun node => ?_, ?_, session.hub_step, issued.once, fun handle => ?_, fun name => ?_, ?_, ?_⟩
  · rw [← matching.snapshot]
    exact ⟨matching.joined node, rfl, (matching.seated node).nodup⟩
  · rw [audience_eq]
    exact List.flatMap_congr fun node _ => matching.snapshot node
  · exact ({} : Session).holders_run operations handle
  · intro after
    have released := matching.unsubscribe name
    refine ⟨fun node => ?_, ?_⟩
    · rw [released.snapshot, subscribed_names_concat node operations _ (by simp), ← matching.snapshot]
      simp [Operation.releases, Operation.registers?, eq_comm]
    · have gone : after.held[name]? = none := by simp [after, Session.found_held_step]
      simp [Session.step, gone]
  · intro before node channel name between later whole joined kept
    subst whole
    obtain ⟨meanwhile, afterwards⟩ := List.forall_mem_append.mp kept
    have middle := (run _ (List.prefix_append ..)).1
    have held := (({} : Session).run before).1.held_subscribed node channel name between meanwhile
    rw [← Session.run_append] at held
    have outlived := middle.outlived node joined later name _ (handle_node_subscribe ..) held afterwards
    rw [← Session.run_append] at outlived
    exact ⟨⟨_, outlived.1⟩, outlived.2⟩
  · intro label times
    exact Subscription.releases_active times _ rfl

theorem since_length (node : NodeId) (operations : List Operation) (before : Stay) :
    (operations.foldl (Stay.next node) before).since.length ≤ before.since.length + operations.length := by
  induction operations generalizing before with
  | nil => simp
  | cons operation operations ih =>
      have step : (before.next node operation).since.length ≤ before.since.length + 1 := by
        cases operation <;> simp [Stay.next]
        split <;> simp
      have later := ih (before.next node operation)
      simp only [List.foldl_cons, List.length_cons]
      omega

theorem room_of_length (operations : List Operation) (few : operations.length ≤ UInt64.size) (before : List Operation)
    (first : before <+: operations) (node : NodeId) : additions node before ≤ UInt64.size := by
  calc additions node before ≤ (stay node before).since.length := List.countP_le_length
    _ ≤ 0 + before.length := since_length node before {}
    _ ≤ operations.length := by simpa using first.length_le
    _ ≤ UInt64.size := few

/-- A node leaves and comes back, and a new listener gets the number that an old one had. -/
def reunion : List Operation :=
  [.join "a", .join "b", .subscribe "a" "" "x", .subscribe "b" "" "w", .subscribe "a" "" "y", .leave "a", .leave "z",
    .join "a", .subscribe "a" "" "v", .subscribe "a" "" "z", .unsubscribe "y", .subscribe "a" "" "u", .subscribe "a" "" "z"]

theorem reunion_undisturbed :
    let session := (({} : Session).run reunion).1
    session.hub.snapshot "a" = ["v", "u", "z"] ∧ session.hub.audience = ["v", "u", "z", "w"] ∧
    session.held["x"]? = some ⟨"a", 0, 0⟩ ∧ session.held["v"]? = some ⟨"a", 2, 0⟩ ∧
    (session.step (.unsubscribe "x")).1.hub = session.hub ∧
    (session.step (.unsubscribe "v")).1.hub.snapshot "a" = ["u", "z"] ∧
    (({} : Session).dropped reunion).count ⟨"a", 0, 1⟩ = 1 := by
  intro session
  obtain ⟨told, audience, _, _, conserved, released, outlived, _⟩ :=
    subscriptions_release_their_own reunion (room_of_length reunion (by decide))
  have listed : session.hub.snapshot "a" = ["v", "u", "z"] := (told "a").2.1.trans (by decide)
  have stale := outlived [.join "a", .join "b"] "a" "" "x" [.subscribe "b" "" "w", .subscribe "a" "" "y"]
    [.leave "z", .join "a", .subscribe "a" "" "v", .subscribe "a" "" "z", .unsubscribe "y", .subscribe "a" "" "u",
      .subscribe "a" "" "z"] rfl (by decide) (by decide)
  refine ⟨listed, audience.trans (by decide), by decide, by decide, stale.2, ?_, ?_⟩
  · rw [(released "v").1 "a", listed]
    decide
  · have unheld : holders session.held ⟨"a", 0, 1⟩ = 0 := by decide
    calc (({} : Session).dropped reunion).count ⟨"a", 0, 1⟩
      _ = (({} : Session).dropped reunion).count ⟨"a", 0, 1⟩ + holders session.held ⟨"a", 0, 1⟩ := by
        rw [unheld, Nat.add_zero]
      _ = (({} : Session).given reunion).count ⟨"a", 0, 1⟩ := (conserved ⟨"a", 0, 1⟩).symm
      _ = 1 := by decide

end Hub

end Coherence
