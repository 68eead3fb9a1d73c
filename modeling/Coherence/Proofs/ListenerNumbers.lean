import Coherence.Proofs.Listening
import Coherence.Proofs.Maps

set_option autoImplicit false

namespace Coherence

open Std

namespace Listeners

variable {ℓ : Type}

def vacate (listeners : Listeners ℓ) (seat : Option UInt64) : Listeners ℓ := seat.elim listeners listeners.remove

section Entries

variable (listeners : Listeners ℓ)

theorem found_add (listener : ℓ) (number : UInt64) :
    (listeners.add listener).1.entries[number]? =
      if listeners.next = number then some listener else listeners.entries[number]? := by
  simp [add, ExtTreeMap.getElem?_insert]

theorem found_vacate (seat : Option UInt64) (number : UInt64) :
    (listeners.vacate seat).entries[number]? = if seat = some number then none else listeners.entries[number]? := by
  cases seat with
  | none => simp [vacate]
  | some id => simp [vacate, remove, ExtTreeMap.getElem?_erase]

theorem vacate_add (listener : ℓ) (seat : Option UInt64) (different : seat ≠ some listeners.next) :
    (listeners.add listener).1.vacate seat = ((listeners.vacate seat).add listener).1 := by
  cases seat with
  | none => rfl
  | some id =>
      suffices entries : (listeners.entries.insert listeners.next listener).erase id =
          (listeners.entries.erase id).insert listeners.next listener from congrArg (Listeners.mk _) entries
      apply ExtTreeMap.ext_getElem?
      intro number
      simp only [ExtTreeMap.getElem?_erase, ExtTreeMap.getElem?_insert, Std.compare_eq_iff_eq]
      grind

theorem to_list_vacate_entries (seat : Option UInt64) :
    (listeners.vacate seat).toList = (listeners.entries.toList.filter (seat ≠ some ·.1)).map (·.2) := by
  cases seat with
  | none => simp [vacate, toList]
  | some id => simp [vacate, toList, remove, to_list_erase, eq_comm]

end Entries

theorem Numbered.vacate {listeners : Listeners ℓ} {count : Nat} (numbered : listeners.Numbered count)
    (seat : Option UInt64) : (listeners.vacate seat).Numbered count := by
  cases seat with
  | none => exact numbered
  | some id => exact numbered.remove id

-- Numbers are given out in turn, so that a newcomer is the last to be called.
theorem Numbered.to_list_add {listeners : Listeners ℓ} {count : Nat} (numbered : listeners.Numbered count) (listener : ℓ)
    (room : count < UInt64.size) : (listeners.add listener).1.toList = listeners.toList ++ [listener] := by
  suffices entries : (listeners.add listener).1.entries.toList =
      listeners.entries.toList ++ [(listeners.next, listener)] by
    simp [toList, entries]
  refine eq_of_ordered Prod.fst ExtTreeMap.ordered_keys_toList ?_ ?_
  · rw [List.pairwise_append]
    refine ⟨ExtTreeMap.ordered_keys_toList, by simp, ?_⟩
    rintro ⟨number, other⟩ earlier last final
    rw [ExtTreeMap.mem_toList_iff_getElem?_eq_some] at earlier
    have below := numbered.below number (ExtTreeMap.mem_iff_isSome_getElem?.mpr (Option.isSome_of_eq_some earlier))
    rw [List.mem_singleton.mp final, Std.compare_eq_lt, UInt64.lt_iff_toNat_lt, numbered.next,
      UInt64.toNat_ofNat_of_lt' room]
    exact below
  · rintro ⟨number, other⟩
    have fresh := ExtTreeMap.getElem?_eq_none (numbered.fresh room)
    simp only [ExtTreeMap.mem_toList_iff_getElem?_eq_some, List.mem_append, List.mem_singleton, found_add, Prod.mk.injEq]
    grind

-- Whoever has a seat is listed under its number, and nobody else is listed.
structure Seated (listeners : Listeners ℓ) (count : Nat) (seat : ℓ → Option UInt64) : Prop where
  numbered : listeners.Numbered count
  lists : ∀ number listener, listeners.entries[number]? = some listener ↔ seat listener = some number

theorem seated_nobody : ({} : Listeners ℓ).Seated 0 fun _ => none where
  numbered := ⟨rfl, by simp⟩
  lists := by simp

namespace Seated

variable {listeners : Listeners ℓ} {count : Nat} {seat : ℓ → Option UInt64}

theorem nodup (seated : listeners.Seated count seat) : listeners.toList.Nodup := by
  apply listeners.to_list_nodup
  intro first second listener here there
  rw [seated.lists] at here there
  exact Option.some.inj (here.symm.trans there)

theorem mem_to_list (seated : listeners.Seated count seat) (listener : ℓ) :
    listener ∈ listeners.toList ↔ (seat listener).isSome = true := by
  simp [Listeners.mem_to_list, seated.lists, Option.isSome_iff_exists]

theorem unseated (seated : listeners.Seated count seat) (listener : ℓ) (room : count < UInt64.size) :
    seat listener ≠ some listeners.next := by
  intro held
  have taken := Option.isSome_of_eq_some ((seated.lists _ _).mpr held)
  exact seated.numbered.fresh room (ExtTreeMap.mem_iff_isSome_getElem?.mpr taken)

theorem vacate (seated : listeners.Seated count seat) (listener : ℓ) (after : ℓ → Option UInt64)
    (own : after listener = none) (others : ∀ other, other ≠ listener → after other = seat other) :
    (listeners.vacate (seat listener)).Seated count after where
  numbered := seated.numbered.vacate _
  lists number other := by
    rw [found_vacate]
    have before := seated.lists number
    by_cases same : other = listener
    · subst same
      grind
    · rw [others other same]
      grind

theorem add (seated : listeners.Seated count seat) (listener : ℓ) (room : count < UInt64.size)
    (after : ℓ → Option UInt64) (newcomer : seat listener = none) (own : after listener = some listeners.next)
    (others : ∀ other, other ≠ listener → after other = seat other) :
    (listeners.add listener).1.Seated (count + 1) after where
  numbered := seated.numbered.add listener room
  lists number other := by
    rw [found_add]
    have before := seated.lists number other
    have unseated := seated.unseated other room
    by_cases same : other = listener
    · subst same
      grind
    · rw [others other same]
      grind

theorem enter (seated : listeners.Seated count seat) (listener : ℓ) (room : count < UInt64.size)
    (after : ℓ → Option UInt64) (own : after listener = some listeners.next)
    (others : ∀ other, other ≠ listener → after other = seat other) :
    ((listeners.add listener).1.vacate (seat listener)).Seated (count + 1) after := by
  classical
  rw [vacate_add _ _ _ (seated.unseated listener room)]
  have left := seated.vacate listener (fun other => if other = listener then none else seat other) (by simp)
    (by simp +contextual)
  refine left.add listener room after (by simp) ?_ ?_
  · rw [own]
    cases seat listener <;> rfl
  · simp +contextual [others]

variable [DecidableEq ℓ]

theorem to_list_vacate (seated : listeners.Seated count seat) (listener : ℓ) :
    (listeners.vacate (seat listener)).toList = listeners.toList.filter (· ≠ listener) := by
  rw [to_list_vacate_entries, toList, List.filter_map]
  congr 1
  apply List.filter_congr
  rintro ⟨number, other⟩ listed
  rw [ExtTreeMap.mem_toList_iff_getElem?_eq_some] at listed
  have lists := seated.lists number
  grind

theorem to_list_enter (seated : listeners.Seated count seat) (listener : ℓ) (room : count < UInt64.size) :
    ((listeners.add listener).1.vacate (seat listener)).toList = listeners.toList.filter (· ≠ listener) ++ [listener] := by
  rw [vacate_add _ _ _ (seated.unseated listener room), (seated.numbered.vacate _).to_list_add listener room,
    seated.to_list_vacate]

end Seated

end Listeners

end Coherence
