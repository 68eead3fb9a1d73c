import Mathlib.Data.List.Perm.Subperm
import Std.Data.ExtTreeMap

set_option autoImplicit false

namespace Coherence

open Std

variable {α β : Type} [Ord α] [TransOrd α] [LawfulEqOrd α]

theorem found_insert_other (map : ExtTreeMap α β) (key other : α) (value : β) (different : key ≠ other) :
    (map.insert key value)[other]? = map[other]? := by
  rw [ExtTreeMap.getElem?_insert, if_neg (fun same => different (Std.compare_eq_iff_eq.mp same))]

theorem found_erase_other (map : ExtTreeMap α β) (key other : α) (different : key ≠ other) :
    (map.erase key)[other]? = map[other]? := by
  rw [ExtTreeMap.getElem?_erase, if_neg (fun same => different (Std.compare_eq_iff_eq.mp same))]

theorem erase_sole (key : α) (value : β) : ((∅ : ExtTreeMap α β).insert key value).erase key = ∅ := by
  apply ExtTreeMap.ext_getElem?
  intro other
  rw [ExtTreeMap.getElem?_erase, ExtTreeMap.getElem?_insert]
  split <;> rfl

theorem erase_absent (map : ExtTreeMap α β) (key : α) (absent : key ∉ map) : map.erase key = map := by
  apply ExtTreeMap.ext_getElem?
  intro other
  rw [ExtTreeMap.getElem?_erase]
  split
  · rename_i same
    rw [← Std.compare_eq_iff_eq.mp same, ExtTreeMap.getElem?_eq_none absent]
  · rfl

theorem insert_again (map : ExtTreeMap α β) (key : α) (first second : β) :
    (map.insert key first).insert key second = map.insert key second := by
  apply ExtTreeMap.ext_getElem?
  intro other
  simp only [ExtTreeMap.getElem?_insert]
  split <;> rfl

theorem insert_found (map : ExtTreeMap α β) (key : α) (value : β) (found : map[key]? = some value) :
    map.insert key value = map := by
  apply ExtTreeMap.ext_getElem?
  intro other
  rw [ExtTreeMap.getElem?_insert]
  split
  · rename_i same
    rw [← Std.compare_eq_iff_eq.mp same, found]
  · rfl

theorem modify_same (map : ExtTreeMap α β) (key : α) (change : β → β)
    (same : ∀ value, map[key]? = some value → change value = value) : map.modify key change = map := by
  apply ExtTreeMap.ext_getElem?
  intro other
  rw [ExtTreeMap.getElem?_modify]
  split
  · rename_i equal
    rw [← Std.compare_eq_iff_eq.mp equal]
    cases found : map[key]? with
    | none => rfl
    | some value => rw [Option.map_some, same value found]
  · rfl

section Ordering

omit [LawfulEqOrd α]

variable {γ : Type} (key : γ → α)

theorem nodup_of_ordered {items : List γ}
    (ordered : items.Pairwise fun first second => compare (key first) (key second) = .lt) : items.Nodup := by
  refine ordered.imp fun {first second} lower same => ?_
  rw [same, Std.compare_self] at lower
  cases lower

theorem eq_of_ordered {items others : List γ}
    (ordered : items.Pairwise fun first second => compare (key first) (key second) = .lt)
    (also : others.Pairwise fun first second => compare (key first) (key second) = .lt)
    (same : ∀ item, item ∈ items ↔ item ∈ others) : items = others := by
  have alike : items.Perm others :=
    (List.perm_ext_iff_of_nodup (nodup_of_ordered key ordered) (nodup_of_ordered key also)).mpr same
  refine alike.eq_of_pairwise (fun first second _ _ lower upper => ?_) ordered also
  exact (OrientedCmp.not_lt_of_lt lower upper).elim

end Ordering

theorem to_list_erase [DecidableEq α] (map : ExtTreeMap α β) (key : α) :
    (map.erase key).toList = map.toList.filter (·.1 ≠ key) := by
  have kept : map.erase key = map.filter fun other _ => other ≠ key := by
    apply ExtTreeMap.ext_getElem?
    intro other
    rw [ExtTreeMap.getElem?_erase, ExtTreeMap.getElem?_filter']
    by_cases same : key = other
    · simp [same]
    · cases map[other]? <;> simp [Option.filter, same, Ne.symm same]
  rw [kept, ExtTreeMap.toList_filter]

theorem to_list_perm_erase (map : ExtTreeMap α β) (key : α) (value : β) (found : map[key]? = some value) :
    map.toList.Perm ((key, value) :: (map.erase key).toList) := by
  have once (map : ExtTreeMap α β) : map.toList.Nodup := nodup_of_ordered Prod.fst ExtTreeMap.ordered_keys_toList
  have absent : (key, value) ∉ (map.erase key).toList := by simp [ExtTreeMap.mem_toList_iff_getElem?_eq_some]
  refine (List.perm_ext_iff_of_nodup (once map) (List.nodup_cons.mpr ⟨absent, once _⟩)).mpr ?_
  rintro ⟨other, item⟩
  simp only [List.mem_cons, ExtTreeMap.mem_toList_iff_getElem?_eq_some, ExtTreeMap.getElem?_erase,
    Std.compare_eq_iff_eq, Prod.mk.injEq]
  grind

end Coherence
