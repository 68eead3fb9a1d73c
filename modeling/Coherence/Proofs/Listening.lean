import Coherence.Store

set_option autoImplicit false

namespace Coherence

open Std

namespace Listeners

variable {ℓ : Type} (listeners : Listeners ℓ)

theorem mem_to_list (listener : ℓ) :
    listener ∈ listeners.toList ↔ ∃ number : UInt64, listeners.entries[number]? = some listener := by
  simp [toList, ExtTreeMap.mem_toList_iff_getElem?_eq_some]

theorem to_list_nodup (sole : ∀ (first second : UInt64) (listener : ℓ), listeners.entries[first]? = some listener →
    listeners.entries[second]? = some listener → first = second) : listeners.toList.Nodup := by
  refine List.Pairwise.map _ ?_ (List.Pairwise.imp_of_mem ?_ listeners.entries.distinct_keys_toList)
    (R := fun a b : UInt64 × ℓ => a.2 ≠ b.2)
  · exact fun _ _ different => different
  · rintro ⟨first, listener⟩ ⟨second, other⟩ here there different same
    dsimp only at same
    subst same
    rw [ExtTreeMap.mem_toList_iff_getElem?_eq_some] at here there
    exact different (Std.compare_eq_iff_eq.mpr (sole first second listener here there))

-- Numbers were given out in turn, starting from zero.
structure Numbered (count : Nat) : Prop where
  next : listeners.next = UInt64.ofNat count
  below : ∀ number, number ∈ listeners.entries → number.toNat < count

namespace Numbered

variable {listeners} {count : Nat}

theorem fresh (numbered : listeners.Numbered count) (room : count < UInt64.size) :
    listeners.next ∉ listeners.entries := by
  intro taken
  have below := numbered.below listeners.next taken
  rw [numbered.next, UInt64.toNat_ofNat_of_lt' room] at below
  exact Nat.lt_irrefl count below

theorem add (numbered : listeners.Numbered count) (listener : ℓ) (room : count < UInt64.size) :
    (listeners.add listener).1.Numbered (count + 1) := by
  constructor
  · rw [UInt64.ofNat_add, ← numbered.next]
    rfl
  · intro number present
    cases ExtTreeMap.mem_insert.mp present with
    | inl same =>
        rw [← Std.compare_eq_iff_eq.mp same, numbered.next, UInt64.toNat_ofNat_of_lt' room]
        exact Nat.lt_succ_self count
    | inr before => exact Nat.lt_succ_of_lt (numbered.below number before)

theorem remove (numbered : listeners.Numbered count) (id : UInt64) : (listeners.remove id).Numbered count :=
  ⟨numbered.next, fun number present => numbered.below number (ExtTreeMap.mem_of_mem_erase present)⟩

end Numbered

end Listeners

namespace Store

variable {ℓ : Type}

theorem listeners_of_subscribe (store : Store ℓ) (channel other : Channel) (listener : ℓ) :
    (store.subscribe channel listener).1.listenersOf other =
      if channel = other then ((store.listenersOf channel).add listener).1 else store.listenersOf other := by
  rw [listenersOf, subscribe]
  dsimp only
  rw [ExtTreeMap.getElem?_insert]
  simp only [Std.compare_eq_iff_eq]
  split <;> rfl

theorem listeners_of_release (store : Store ℓ) (handle : Handle) (channel : Channel) :
    (store.release handle).listenersOf channel =
      if handle.channel = channel then (store.listenersOf channel).remove handle.id else store.listenersOf channel := by
  rw [listenersOf, release, ExtTreeMap.getElem?_modify]
  simp only [Std.compare_eq_iff_eq]
  split
  · rename_i same
    subst same
    rw [listenersOf]
    cases store.listeners[handle.channel]? with
    | none => simp [Listeners.remove]
    | some listeners => rfl
  · rfl

-- The store still has the listener that the handle was given for.
def Lists (store : Store ℓ) (handle : Handle) (listener : ℓ) : Prop :=
  (store.listenersOf handle.channel).entries[handle.id]? = some listener

theorem lists_release (store : Store ℓ) (released handle : Handle) (listener : ℓ) :
    (store.release released).Lists handle listener ↔ store.Lists handle listener ∧ handle ≠ released := by
  obtain ⟨place, id⟩ := released
  obtain ⟨channel, number⟩ := handle
  rw [Lists, Lists, listeners_of_release]
  by_cases same : place = channel
  · simp [same, Listeners.remove, ExtTreeMap.getElem?_erase, eq_comm (a := number), and_comm]
  · simp [Ne.symm same, same]

theorem lists_subscribe (store : Store ℓ) (channel : Channel) (listener other : ℓ) (handle : Handle) :
    (store.subscribe channel listener).1.Lists handle other ↔
      if (store.subscribe channel listener).2 = handle then listener = other else store.Lists handle other := by
  obtain ⟨place, number⟩ := handle
  rw [Lists, Lists, listeners_of_subscribe]
  by_cases same : channel = place
  · subst same
    by_cases taken : (store.listenersOf channel).next = number
    · simp [subscribe, Listeners.add, taken]
    · simp [subscribe, Listeners.add, ExtTreeMap.getElem?_insert, taken]
  · simp [subscribe, same]

end Store

end Coherence
