import Mathlib.Data.List.Nodup
import Coherence.Proofs.Frame
import Coherence.Proofs.Listening

set_option autoImplicit false

namespace Coherence

open Std

theorem Listeners.found_of_add {ℓ : Type} (listeners : Listeners ℓ) (listener other : ℓ) (number : UInt64)
    (found : (listeners.add listener).1.entries[number]? = some other) :
    number = (listeners.add listener).2 ∧ other = listener ∨ listeners.entries[number]? = some other := by
  rw [add, ExtTreeMap.getElem?_insert] at found
  split at found
  · rename_i same
    exact .inl ⟨(Std.compare_eq_iff_eq.mp same).symm, (Option.some.inj found).symm⟩
  · exact .inr found

namespace Hub

variable {ℓ : Type}

-- The hub still has the listener that the handle was given for.
def Lists (hub : Hub ℓ) (handle : Handle) (listener : ℓ) : Prop :=
  ∃ circle, hub.circles[handle.node]? = some circle ∧ circle.era = handle.era ∧
    circle.listeners.entries[handle.id]? = some listener

variable {hub : Hub ℓ}

theorem mem_circle_listeners (key : NodeId × Nat) (listener : ℓ) :
    listener ∈ hub.circleListeners key ↔ ∃ number, hub.Lists ⟨key.1, key.2, number⟩ listener := by
  rw [circleListeners]
  cases found : hub.circles[key.1]? with
  | none => simp [Lists, found]
  | some circle =>
      by_cases current : circle.era = key.2
      · simp [Lists, found, current, Listeners.mem_to_list]
      · simp [Lists, found, current]

theorem mem_audience (listener : ℓ) : listener ∈ hub.audience ↔ ∃ handle, hub.Lists handle listener := by
  rw [audience, List.mem_flatMap]
  constructor
  · rintro ⟨key, _, there⟩
    obtain ⟨number, lists⟩ := (mem_circle_listeners key listener).mp there
    exact ⟨_, lists⟩
  · rintro ⟨handle, lists⟩
    obtain ⟨circle, found, current, _⟩ := id lists
    refine ⟨(handle.node, handle.era), ?_, (mem_circle_listeners _ listener).mpr ⟨handle.id, lists⟩⟩
    rw [circleKeys, List.mem_map]
    exact ⟨(handle.node, circle), ExtTreeMap.mem_toList_iff_getElem?_eq_some.mpr found,
      congrArg (Prod.mk handle.node) current⟩

theorem circle_listeners_nodup (key : NodeId × Nat)
    (sole : ∀ handle other listener, hub.Lists handle listener → hub.Lists other listener → handle = other) :
    (hub.circleListeners key).Nodup := by
  rw [circleListeners]
  cases found : hub.circles[key.1]? with
  | none => exact List.nodup_nil
  | some circle =>
      dsimp only
      split
      · rename_i current
        apply circle.listeners.to_list_nodup
        intro first second listener here there
        exact congrArg Handle.id (sole ⟨key.1, key.2, first⟩ ⟨key.1, key.2, second⟩ listener
          ⟨circle, found, current, here⟩ ⟨circle, found, current, there⟩)
      · exact List.nodup_nil

theorem audience_nodup
    (sole : ∀ handle other listener, hub.Lists handle listener → hub.Lists other listener → handle = other) :
    hub.audience.Nodup := by
  rw [audience, List.nodup_flatMap]
  refine ⟨fun key _ => circle_listeners_nodup key sole, ?_⟩
  refine List.Pairwise.map _ ?_ hub.circles.distinct_keys_toList
  rintro ⟨first, circle⟩ ⟨second, other⟩ different listener here there
  obtain ⟨number, lists⟩ := (mem_circle_listeners _ listener).mp here
  obtain ⟨place, also⟩ := (mem_circle_listeners _ listener).mp there
  exact different (Std.compare_eq_iff_eq.mpr (congrArg Handle.node (sole _ _ listener lists also)))

theorem subscribe_circle (hub : Hub ℓ) (node : NodeId) (listener : ℓ) :
    ∃ circle : Circle ℓ, (hub.circles[node]? = some circle ∨ circle.listeners.entries = ∅) ∧
      (hub.subscribe node listener).1.circles =
        hub.circles.insert node { circle with listeners := (circle.listeners.add listener).1 } ∧
      (hub.subscribe node listener).2 = ⟨node, circle.era, (circle.listeners.add listener).2⟩ := by
  rw [subscribe]
  cases hub.circles[node]? with
  | none => exact ⟨⟨hub.eras, {}⟩, .inr rfl, rfl, rfl⟩
  | some circle => exact ⟨circle, .inl rfl, rfl, rfl⟩

theorem lists_subscribed (hub : Hub ℓ) (node : NodeId) (listener : ℓ) :
    (hub.subscribe node listener).1.Lists (hub.subscribe node listener).2 listener := by
  obtain ⟨circle, _, circles, handle⟩ := hub.subscribe_circle node listener
  rw [Lists, circles, handle]
  exact ⟨_, ExtTreeMap.getElem?_insert_self, rfl, ExtTreeMap.getElem?_insert_self⟩

theorem handle_node_subscribe (hub : Hub ℓ) (node : NodeId) (listener : ℓ) :
    (hub.subscribe node listener).2.node = node := by
  obtain ⟨_, _, _, handle⟩ := hub.subscribe_circle node listener
  rw [handle]

theorem lists_subscribe_other (hub : Hub ℓ) (node : NodeId) (listener other : ℓ) (handle : Handle)
    (different : node ≠ handle.node) : (hub.subscribe node listener).1.Lists handle other ↔ hub.Lists handle other := by
  obtain ⟨circle, _, circles, _⟩ := hub.subscribe_circle node listener
  rw [Lists, circles, found_insert_other _ node handle.node _ different]
  rfl

theorem lists_of_subscribe (hub : Hub ℓ) (node : NodeId) (listener other : ℓ) (handle : Handle)
    (lists : (hub.subscribe node listener).1.Lists handle other) :
    handle = (hub.subscribe node listener).2 ∧ other = listener ∨ hub.Lists handle other := by
  by_cases own : node = handle.node
  · obtain ⟨circle, before, circles, given⟩ := hub.subscribe_circle node listener
    obtain ⟨after, found, current, present⟩ := lists
    rw [circles, own, ExtTreeMap.getElem?_insert_self, Option.some.injEq] at found
    subst found
    cases Listeners.found_of_add circle.listeners listener other handle.id present with
    | inl fresh => exact .inl ⟨by rw [given, own, show circle.era = handle.era from current, ← fresh.1], fresh.2⟩
    | inr there =>
        cases before with
        | inl kept => exact .inr ⟨circle, own ▸ kept, current, there⟩
        | inr empty => simp [empty] at there
  · exact .inr ((lists_subscribe_other hub node listener other handle own).mp lists)

theorem lists_release (hub : Hub ℓ) (released handle : Handle) (listener : ℓ) :
    (hub.release released).Lists handle listener ↔ hub.Lists handle listener ∧ handle ≠ released := by
  rw [release]
  cases found : hub.circles[released.node]? with
  | none =>
      refine ⟨fun lists => ⟨lists, ?_⟩, And.left⟩
      rintro rfl
      obtain ⟨circle, there, _⟩ := lists
      cases found.symm.trans there
  | some circle =>
      dsimp only
      split
      · rename_i current
        rw [Lists, Lists, ExtTreeMap.getElem?_insert]
        by_cases own : released.node = handle.node
        · rw [if_pos (Std.compare_eq_iff_eq.mpr own), ← own, found]
          constructor
          · rintro ⟨after, same, era, present⟩
            cases same
            rw [Listeners.remove, ExtTreeMap.getElem?_erase] at present
            split at present
            · cases present
            · rename_i different
              refine ⟨⟨circle, rfl, era, present⟩, ?_⟩
              rintro rfl
              exact different (Std.compare_eq_iff_eq.mpr rfl)
          · rintro ⟨⟨before, same, era, present⟩, different⟩
            cases same
            refine ⟨_, rfl, era, ?_⟩
            rw [Listeners.remove, found_erase_other _ _ _ fun same => different ?_]
            · exact present
            · cases handle
              cases released
              simp_all
        · rw [if_neg (fun same => own (Std.compare_eq_iff_eq.mp same))]
          refine ⟨fun lists => ⟨lists, ?_⟩, And.left⟩
          rintro rfl
          exact own rfl
      · rename_i past
        refine ⟨fun lists => ⟨lists, ?_⟩, And.left⟩
        rintro rfl
        obtain ⟨other, there, current, _⟩ := lists
        cases found.symm.trans there
        exact past current

theorem lists_leave (hub after : Hub ℓ) (node : NodeId) (left : hub.leave? node = some after) (handle : Handle)
    (listener : ℓ) : after.Lists handle listener ↔ hub.Lists handle listener ∧ node ≠ handle.node := by
  rw [leave?] at left
  split at left
  · cases left
    rw [Lists, ExtTreeMap.getElem?_erase]
    by_cases same : node = handle.node
    · simp [same]
    · simp [same, Lists]
  · cases left

end Hub

end Coherence
