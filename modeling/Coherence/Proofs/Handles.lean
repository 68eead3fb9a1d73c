import Coherence.Proofs.Circles
import Coherence.Proofs.Primacy
import Coherence.Proofs.ListenerNumbers

set_option autoImplicit false

namespace Coherence

open Std

namespace Hub

variable {ℓ : Type}

def listenersOf (hub : Hub ℓ) (node : NodeId) : Listeners ℓ := (hub.circles[node]?.map (·.listeners)).getD {}

def snapshot (hub : Hub ℓ) (node : NodeId) : List ℓ := (hub.listenersOf node).toList

-- The circle that the handle was given for has not gone with its node.
def inUse (hub : Hub ℓ) (handle : Handle) : Bool := hub.circles[handle.node]?.any (·.era = handle.era)

def drop (hub : Hub ℓ) (handle : Option Handle) : Hub ℓ := handle.elim hub hub.release

-- The number that a handle stands for in the present circle of a node.
def seat (hub : Hub ℓ) (node : NodeId) (handle : Option Handle) : Option UInt64 :=
  handle.bind fun handle => if handle.node = node ∧ hub.inUse handle then some handle.id else none

section Circles

variable (hub : Hub ℓ)

theorem audience_eq : hub.audience = hub.circles.keys.flatMap hub.snapshot := by
  rw [audience, circleKeys, ← ExtTreeMap.map_fst_toList_eq_keys, List.flatMap_map, List.flatMap_map]
  refine List.flatMap_congr fun entry listed => ?_
  rw [ExtTreeMap.mem_toList_iff_getElem?_eq_some] at listed
  simp [circleListeners, snapshot, listenersOf, listed]

theorem listeners_of_subscribe (node other : NodeId) (listener : ℓ) :
    (hub.subscribe node listener).1.listenersOf other =
      if node = other then ((hub.listenersOf node).add listener).1 else hub.listenersOf other := by
  by_cases same : node = other
  · subst same
    cases found : hub.circles[node]? <;> simp [subscribe, listenersOf, found]
  · cases found : hub.circles[node]? <;> simp [subscribe, listenersOf, found, same, ExtTreeMap.getElem?_insert]

theorem in_use_subscribed (node : NodeId) (listener : ℓ) :
    (hub.subscribe node listener).1.inUse (hub.subscribe node listener).2 = true := by
  cases found : hub.circles[node]? <;> simp [subscribe, inUse, found]

theorem id_subscribe (node : NodeId) (listener : ℓ) :
    (hub.subscribe node listener).2.id = (hub.listenersOf node).next := by
  cases found : hub.circles[node]? <;> simp [subscribe, listenersOf, Listeners.add, found]

theorem seat_subscribed (node other : NodeId) (listener : ℓ) :
    (hub.subscribe node listener).1.seat other (some (hub.subscribe node listener).2) =
      if node = other then some (hub.listenersOf node).next else none := by
  simp [seat, handle_node_subscribe, in_use_subscribed, id_subscribe]

theorem eras_subscribe (node : NodeId) (listener : ℓ) : hub.eras ≤ (hub.subscribe node listener).1.eras := by
  cases found : hub.circles[node]? <;> simp [subscribe, found]

theorem in_use_subscribe (node : NodeId) (listener : ℓ) (handle : Handle) (past : handle.era < hub.eras) :
    (hub.subscribe node listener).1.inUse handle = hub.inUse handle := by
  by_cases same : node = handle.node
  · cases found : hub.circles[node]? with
    | none =>
        subst same
        simp [subscribe, inUse, found, Nat.ne_of_gt past]
    | some circle =>
        subst same
        simp [subscribe, inUse, found]
  · cases found : hub.circles[node]? <;> simp [subscribe, inUse, found, same, ExtTreeMap.getElem?_insert]

theorem release_past (handle : Handle) (past : hub.inUse handle = false) : hub.release handle = hub := by
  cases found : hub.circles[handle.node]? with
  | none => simp [release, found]
  | some circle =>
      have other : circle.era ≠ handle.era := by simpa [inUse, found] using past
      simp [release, found, other]

theorem in_use_drop (dropped : Option Handle) (handle : Handle) : (hub.drop dropped).inUse handle = hub.inUse handle := by
  cases dropped with
  | none => rfl
  | some dropped =>
      cases found : hub.circles[dropped.node]? with
      | none => simp [drop, release, inUse, found]
      | some circle =>
          by_cases own : dropped.node = handle.node
          · by_cases current : circle.era = dropped.era <;> simp [drop, release, inUse, ← own, found, current]
          · by_cases current : circle.era = dropped.era <;>
              simp [drop, release, inUse, found, current, own, ExtTreeMap.getElem?_insert]

theorem eras_drop (handle : Option Handle) : (hub.drop handle).eras = hub.eras := by
  cases handle with
  | none => rfl
  | some handle =>
      obtain ⟨circles, same⟩ := hub.release_eq handle
      simp [drop, same]

theorem members_drop (handle : Option Handle) : (hub.drop handle).members = hub.members := by
  cases handle with
  | none => rfl
  | some handle =>
      obtain ⟨circles, same⟩ := hub.release_eq handle
      simp [drop, same]

theorem in_use_of_subscribe (node : NodeId) (listener : ℓ) (handle : Handle)
    (used : (hub.subscribe node listener).1.inUse handle = true) :
    hub.inUse handle = true ∨ handle.era < (hub.subscribe node listener).1.eras := by
  by_cases same : node = handle.node
  · subst same
    cases found : hub.circles[handle.node]? with
    | none =>
        have era : hub.eras = handle.era := by simpa [subscribe, inUse, found] using used
        simp [subscribe, found, ← era]
    | some circle =>
        have era : circle.era = handle.era := by simpa [subscribe, inUse, found] using used
        simp [inUse, found, era]
  · cases found : hub.circles[node]? <;>
      simp_all [subscribe, inUse, ExtTreeMap.getElem?_insert]

theorem listeners_of_drop (handle : Option Handle) (node : NodeId) :
    (hub.drop handle).listenersOf node = (hub.listenersOf node).vacate (hub.seat node handle) := by
  cases handle with
  | none => rfl
  | some handle =>
      cases current : hub.inUse handle with
      | false => simp [drop, release_past, seat, current, Listeners.vacate]
      | true =>
          obtain ⟨circle, found, era⟩ := (Option.any_eq_true _ _).mp current
          have same : circle.era = handle.era := by simpa using era
          by_cases own : handle.node = node
          · subst own
            simp [drop, release, seat, current, found, same, listenersOf, Listeners.vacate]
          · simp [drop, release, seat, current, found, same, listenersOf, Listeners.vacate, own, ExtTreeMap.getElem?_insert]

theorem leave_some (node : NodeId) (after : Hub ℓ) (left : hub.leave? node = some after) :
    node ∈ hub.members ∧ after.members = hub.members.erase node ∧ after.circles = hub.circles.erase node ∧
      after.eras = hub.eras := by
  rw [leave?] at left
  split at left
  · rename_i member
    cases left
    exact ⟨member, rfl, rfl, rfl⟩
  · cases left

theorem listeners_of_leave (node other : NodeId) (after : Hub ℓ) (left : hub.leave? node = some after) :
    after.listenersOf other = if node = other then {} else hub.listenersOf other := by
  obtain ⟨_, _, circles, _⟩ := hub.leave_some node after left
  by_cases same : node = other <;> simp [listenersOf, circles, ExtTreeMap.getElem?_erase, same]

theorem in_use_leave (node : NodeId) (after : Hub ℓ) (left : hub.leave? node = some after) (handle : Handle) :
    after.inUse handle = (node ≠ handle.node && hub.inUse handle) := by
  obtain ⟨_, _, circles, _⟩ := hub.leave_some node after left
  by_cases same : node = handle.node <;> simp [inUse, circles, ExtTreeMap.getElem?_erase, same]

theorem seat_leave (node other : NodeId) (after : Hub ℓ) (left : hub.leave? node = some after) (handle : Option Handle) :
    after.seat other handle = if node = other then none else hub.seat other handle := by
  cases handle with
  | none => simp [seat]
  | some handle =>
      have used := hub.in_use_leave node after left handle
      by_cases same : node = other
      · simp +contextual [seat, used, same]
      · by_cases own : handle.node = other <;> simp [seat, used, same, own]

theorem seat_drop (dropped : Option Handle) (node : NodeId) (handle : Option Handle) :
    (hub.drop dropped).seat node handle = hub.seat node handle := by
  simp only [seat, in_use_drop]

theorem seat_subscribe (place node : NodeId) (listener : ℓ) (handle : Option Handle)
    (past : ∀ other, handle = some other → other.era < hub.eras) :
    (hub.subscribe place listener).1.seat node handle = hub.seat node handle := by
  cases handle with
  | none => rfl
  | some handle => simp [seat, in_use_subscribe hub place listener handle (past handle rfl)]

end Circles

end Hub

end Coherence
