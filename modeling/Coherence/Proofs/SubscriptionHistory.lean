import Coherence.Hub.Session
import Coherence.Proofs.Handles

set_option autoImplicit false

namespace Coherence

open Std

namespace Hub

namespace Operation

def registers? (node : NodeId) : Operation → Option String
  | subscribe place _ name => if place = node then some name else none
  | _ => none

-- Who subscribes anew lets go of the handle that it had.
def releases (name : String) : Operation → Bool
  | subscribe _ _ other => other = name
  | unsubscribe other => other = name
  | _ => false

end Operation

-- Whether a node is a member, and what has been done since it left last.
structure Stay where
  joined : Bool := false
  since : List Operation := []

-- The leave of a node that is no member goes unnoticed.
def Stay.next (node : NodeId) (stay : Stay) : Operation → Stay
  | .join other => ⟨stay.joined || other = node, stay.since ++ [.join other]⟩
  | .leave other => if stay.joined ∧ other = node then {} else ⟨stay.joined, stay.since ++ [.leave other]⟩
  | operation => ⟨stay.joined, stay.since ++ [operation]⟩

def stay (node : NodeId) (operations : List Operation) : Stay := operations.foldl (Stay.next node) {}

-- Those who came for a node and have not let go of their handle, in the order in which they came.
def remaining (node : NodeId) : List Operation → List String
  | [] => []
  | operation :: later =>
      (operation.registers? node).toList.filter (fun name => !later.any (·.releases name)) ++ remaining node later

def subscribedNames (node : NodeId) (operations : List Operation) : List String := remaining node (stay node operations).since

def additions (node : NodeId) (operations : List Operation) : Nat :=
  (stay node operations).since.countP fun operation => (operation.registers? node).isSome

theorem stay_concat (node : NodeId) (operations : List Operation) (operation : Operation) :
    stay node (operations ++ [operation]) = (stay node operations).next node operation := by
  simp [stay]

theorem remaining_concat (node : NodeId) (operations : List Operation) (operation : Operation) :
    remaining node (operations ++ [operation]) =
      (remaining node operations).filter (fun name => !operation.releases name) ++
        (operation.registers? node).toList := by
  induction operations with
  | nil => simp [remaining]
  | cons first operations ih => simp [remaining, ih, List.filter_append, List.filter_filter, Bool.and_comm]

theorem subscribed_names_departed (node : NodeId) (operations : List Operation)
    (joined : (stay node operations).joined = true) :
    subscribedNames node (operations ++ [.leave node]) = [] ∧ additions node (operations ++ [.leave node]) = 0 := by
  simp [subscribedNames, additions, stay_concat, Stay.next, joined, remaining]

theorem since_concat (node : NodeId) (operations : List Operation) (operation : Operation)
    (stays : operation = .leave node → (stay node operations).joined = false) :
    (stay node (operations ++ [operation])).since = (stay node operations).since ++ [operation] := by
  rw [stay_concat]
  cases operation with
  | leave other => grind [Stay.next]
  | _ => rfl

theorem subscribed_names_concat (node : NodeId) (operations : List Operation) (operation : Operation)
    (stays : operation = .leave node → (stay node operations).joined = false) :
    subscribedNames node (operations ++ [operation]) =
      (subscribedNames node operations).filter (fun name => !operation.releases name) ++
        (operation.registers? node).toList := by
  rw [subscribedNames, since_concat node operations operation stays, remaining_concat, subscribedNames]

theorem additions_concat (node : NodeId) (operations : List Operation) (operation : Operation)
    (stays : operation = .leave node → (stay node operations).joined = false) :
    additions node (operations ++ [operation]) =
      additions node operations + (operation.registers? node).toList.length := by
  rw [additions, since_concat node operations operation stays, List.countP_append, additions]
  cases registers : operation.registers? node <;> simp [registers]

namespace Session

variable (session : Session)

def enact : Operation → Hub String
  | .join node => session.hub.join node
  | .leave node => (session.hub.leave? node).getD session.hub
  | .setUnreachable node on => session.hub.setUnreachable node on
  | .appoint node => session.hub.appoint node
  | .subscribe node _ name => (session.hub.subscribe node name).1
  | _ => session.hub

def drops : Operation → Option Handle
  | .subscribe _ _ name => session.held[name]?
  | .unsubscribe name => session.held[name]?
  | _ => none

theorem hub_step (operation : Operation) :
    (session.step operation).1.hub = (session.enact operation).drop (session.drops operation) := by
  cases operation with
  | leave node => cases left : session.hub.leave? node <;> simp [step, enact, drops, drop, left]
  | subscribe node channel name => cases held : session.held[name]? <;> simp [step, enact, drops, drop, held]
  | unsubscribe name => cases held : session.held[name]? <;> simp [step, enact, drops, drop, held]
  | _ => rfl

theorem found_held_step (operation : Operation) (name : String) :
    (session.step operation).1.held[name]? =
      match operation with
      | .subscribe node _ other => if other = name then some (session.hub.subscribe node other).2 else session.held[name]?
      | .unsubscribe other => if other = name then none else session.held[name]?
      | _ => session.held[name]? := by
  cases operation with
  | leave node => cases left : session.hub.leave? node <;> simp [step, left]
  | subscribe node channel other => simp [step, ExtTreeMap.getElem?_insert]
  | unsubscribe other =>
      by_cases same : other = name
      · subst same
        cases held : session.held[other]? <;> simp [step, held]
      · cases held : session.held[other]? <;> simp [step, held, same, ExtTreeMap.getElem?_erase]
  | _ => rfl

end Session

def Session.seat (session : Session) (node : NodeId) (name : String) : Option UInt64 :=
  session.hub.seat node session.held[name]?

-- Handles are of eras that have begun, so that a circle to come is of none of theirs.
structure MatchesHistory (operations : List Operation) (session : Session) : Prop where
  joined : ∀ node, node ∈ session.hub.members ↔ (stay node operations).joined = true
  used : ∀ handle, session.hub.inUse handle = true → handle.era < session.hub.eras
  held : ∀ (name : String) (handle : Handle), session.held[name]? = some handle → handle.era < session.hub.eras
  seated : ∀ node, (session.hub.listenersOf node).Seated (additions node operations) (session.seat node)
  snapshot : ∀ node, session.hub.snapshot node = subscribedNames node operations

theorem matches_history_initial : MatchesHistory [] {} where
  joined node := by simp [stay]
  used handle used := by simp [inUse] at used
  held name handle held := by simp at held
  seated node := Listeners.seated_nobody
  snapshot node := by simp [snapshot, listenersOf, Listeners.toList, subscribedNames, stay, remaining]

namespace MatchesHistory

variable {operations : List Operation} {session : Session}

theorem quiet (matching : MatchesHistory operations session) (operation : Operation) (after : Session)
    (joined : ∀ node, node ∈ after.hub.members ↔ ((stay node operations).next node operation).joined = true)
    (circles : after.hub.circles = session.hub.circles) (eras : after.hub.eras = session.hub.eras)
    (held : after.held = session.held) (unregistered : ∀ node, operation.registers? node = none)
    (unreleased : ∀ name, operation.releases name = false)
    (stays : ∀ node, operation = .leave node → (stay node operations).joined = false) :
    MatchesHistory (operations ++ [operation]) after where
  joined node := by rw [joined, stay_concat]
  used := by
    simp only [inUse, circles, eras]
    exact matching.used
  held := by
    rw [held, eras]
    exact matching.held
  seated node := by
    have seated := matching.seated node
    have used (handle : Handle) : after.hub.inUse handle = session.hub.inUse handle := by rw [inUse, inUse, circles]
    have same : after.seat node = session.seat node := by
      funext name
      simp only [Session.seat, seat, used, held]
    rw [additions_concat node operations operation (stays node), unregistered, listenersOf, circles, same]
    exact seated
  snapshot node := by
    rw [subscribed_names_concat node operations operation (stays node), unregistered, ← matching.snapshot,
      Hub.snapshot, listenersOf,
      circles]
    simp [unreleased, Hub.snapshot, listenersOf]

theorem leave (matching : MatchesHistory operations session) (node : NodeId) (after : Hub String)
    (left : session.hub.leave? node = some after) :
    MatchesHistory (operations ++ [.leave node]) { session with hub := after } := by
  obtain ⟨member, members, _, eras⟩ := session.hub.leave_some node after left
  have here := (matching.joined node).mp member
  have gone := subscribed_names_departed node operations here
  have stays (other : NodeId) (elsewhere : node ≠ other) :
      Operation.leave node = .leave other → (stay other operations).joined = false := by simp [elsewhere]
  have listeners (other : NodeId) := session.hub.listeners_of_leave node other after left
  constructor
  case joined =>
    intro other
    rw [stay_concat, members, ExtTreeSet.mem_erase, matching.joined other]
    by_cases same : node = other
    · subst same
      simp [Stay.next, here]
    · simp [Stay.next, same]
  case used =>
    intro handle used
    rw [session.hub.in_use_leave node after left, Bool.and_eq_true] at used
    rw [eras]
    exact matching.used handle used.2
  case held =>
    rw [eras]
    exact matching.held
  case seated =>
    intro other
    have seat : Session.seat { session with hub := after } other =
        fun name => if node = other then none else session.seat other name :=
      funext fun name => session.hub.seat_leave node other after left session.held[name]?
    rw [listeners, seat]
    by_cases same : node = other
    · subst same
      simp only [if_pos, gone.2]
      exact Listeners.seated_nobody
    · simp only [if_neg same]
      rw [additions_concat other operations _ (stays other same)]
      exact matching.seated other
  case snapshot =>
    intro other
    rw [Hub.snapshot, listeners]
    by_cases same : node = other
    · subst same
      rw [if_pos rfl, gone.1]
      rfl
    · rw [if_neg same, subscribed_names_concat other operations _ (stays other same), ← matching.snapshot]
      simp [Operation.releases, Operation.registers?, Hub.snapshot]

theorem unsubscribe (matching : MatchesHistory operations session) (name : String) :
    MatchesHistory (operations ++ [.unsubscribe name]) (session.step (.unsubscribe name)).1 where
  joined node := by
    rw [Session.hub_step, members_drop, stay_concat]
    exact matching.joined node
  used handle used := by
    rw [Session.hub_step, in_use_drop] at used
    rw [Session.hub_step, eras_drop]
    exact matching.used handle used
  held other handle held := by
    rw [Session.found_held_step] at held
    rw [Session.hub_step, eras_drop]
    exact matching.held other handle (by grind)
  seated node := by
    rw [Session.hub_step, listeners_of_drop, additions_concat node operations _ (by simp)]
    refine (matching.seated node).vacate name _ ?_ ?_
    · simp [Session.seat, Session.found_held_step, seat]
    · intro other different
      simp [Session.seat, Session.found_held_step, Session.hub_step, seat_drop, Session.enact, different.symm]
  snapshot node := by
    rw [Hub.snapshot, Session.hub_step, listeners_of_drop, subscribed_names_concat node operations _ (by simp),
      ← matching.snapshot]
    have vacated := (matching.seated node).to_list_vacate name
    simpa [Operation.releases, Operation.registers?, Hub.snapshot, Session.enact, Session.drops, Session.seat,
      eq_comm] using vacated

theorem seat_subscribed (matching : MatchesHistory operations session) (place node : NodeId) (channel : Channel)
    (name : String) :
    let after := (session.step (.subscribe place channel name)).1
    after.seat node name = (if place = node then some (session.hub.listenersOf place).next else none) ∧
      ∀ other, other ≠ name → after.seat node other = session.seat node other := by
  intro after
  have seat (other : String) : after.seat node other = (session.hub.subscribe place name).1.seat node after.held[other]? := by
    rw [Session.seat, Session.hub_step, seat_drop, Session.enact]
  refine ⟨?_, fun other different => ?_⟩
  · rw [seat, Session.found_held_step]
    simp only [if_true]
    exact session.hub.seat_subscribed place node name
  · rw [seat, Session.found_held_step]
    simp only [different.symm, if_false]
    exact session.hub.seat_subscribe place node name _ (matching.held other)

theorem listeners_subscribed (matching : MatchesHistory operations session) (place node : NodeId) (channel : Channel)
    (name : String) :
    (session.step (.subscribe place channel name)).1.hub.listenersOf node =
      (if place = node then ((session.hub.listenersOf place).add name).1 else session.hub.listenersOf node).vacate
        (session.seat node name) := by
  rw [Session.hub_step, listeners_of_drop, Session.enact, Session.drops, listeners_of_subscribe,
    session.hub.seat_subscribe place node name _ (matching.held name), Session.seat]

theorem used_subscribed (matching : MatchesHistory operations session) (place : NodeId) (name : String) (handle : Handle)
    (used : (session.hub.subscribe place name).1.inUse handle = true) :
    handle.era < (session.hub.subscribe place name).1.eras := by
  cases in_use_of_subscribe _ _ _ _ used with
  | inl before => exact Nat.lt_of_lt_of_le (matching.used handle before) (eras_subscribe ..)
  | inr new => exact new

theorem subscribe (matching : MatchesHistory operations session) (place : NodeId) (channel : Channel) (name : String)
    (room : additions place (operations ++ [.subscribe place channel name]) ≤ UInt64.size) :
    MatchesHistory (operations ++ [.subscribe place channel name]) (session.step (.subscribe place channel name)).1 := by
  have few : additions place operations < UInt64.size := by
    rw [additions_concat place operations _ (by simp), Operation.registers?, if_pos rfl] at room
    exact room
  constructor
  case joined =>
    intro node
    obtain ⟨circles, eras, same⟩ := session.hub.subscribe_eq place name
    rw [Session.hub_step, members_drop, stay_concat, Session.enact, same]
    exact matching.joined node
  case used =>
    intro handle
    rw [Session.hub_step, in_use_drop, eras_drop]
    exact matching.used_subscribed place name handle
  case held =>
    intro other handle held
    rw [Session.found_held_step] at held
    rw [Session.hub_step, eras_drop]
    dsimp only at held
    split at held
    · cases held
      exact matching.used_subscribed place name _ (in_use_subscribed ..)
    · exact Nat.lt_of_lt_of_le (matching.held other handle held) (eras_subscribe ..)
  case seated =>
    intro node
    obtain ⟨own, others⟩ := matching.seat_subscribed place node channel name
    rw [matching.listeners_subscribed, additions_concat node operations _ (by simp), Operation.registers?]
    by_cases here : place = node
    · subst here
      rw [if_pos rfl] at own ⊢
      rw [if_pos rfl]
      exact (matching.seated place).enter name few _ own others
    · rw [if_neg here] at own ⊢
      rw [if_neg here]
      exact (matching.seated node).vacate name _ own others
  case snapshot =>
    intro node
    rw [Hub.snapshot, matching.listeners_subscribed, subscribed_names_concat node operations _ (by simp), ← matching.snapshot]
    by_cases here : place = node
    · subst here
      have entered := (matching.seated place).to_list_enter name few
      simpa [Operation.releases, Operation.registers?, Hub.snapshot, eq_comm] using entered
    · have vacated := (matching.seated node).to_list_vacate name
      simpa [Operation.releases, Operation.registers?, Hub.snapshot, here, eq_comm] using vacated

theorem step (matching : MatchesHistory operations session) (operation : Operation)
    (room : ∀ node, additions node (operations ++ [operation]) ≤ UInt64.size) :
    MatchesHistory (operations ++ [operation]) (session.step operation).1 := by
  cases operation with
  | join node =>
      refine matching.quiet _ _ (fun other => ?_) rfl rfl rfl (fun _ => rfl) (fun _ => rfl) (by simp)
      simp [Session.step, Hub.join, Stay.next, matching.joined other, or_comm]
  | leave node =>
      rw [Session.step]
      cases left : session.hub.leave? node with
      | none =>
          have absent : (stay node operations).joined = false := by
            rw [← Bool.not_eq_true, ← matching.joined]
            simpa [leave?] using left
          refine matching.quiet _ _ (fun other => ?_) rfl rfl rfl (fun _ => rfl) (fun _ => rfl) ?_
          · rw [matching.joined other]
            grind [Stay.next]
          · grind
      | some after => exact matching.leave node after left
  | setUnreachable node on =>
      exact matching.quiet _ _ matching.joined rfl rfl rfl (fun _ => rfl) (fun _ => rfl) (by simp)
  | appoint node => exact matching.quiet _ _ matching.joined rfl rfl rfl (fun _ => rfl) (fun _ => rfl) (by simp)
  | subscribe node channel name => exact matching.subscribe node channel name (room node)
  | unsubscribe name => exact matching.unsubscribe name
  | notify members => exact matching.quiet _ _ matching.joined rfl rfl rfl (fun _ => rfl) (fun _ => rfl) (by simp)

end MatchesHistory

end Hub

end Coherence
