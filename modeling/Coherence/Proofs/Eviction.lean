import Coherence.Registry
import Coherence.Snapshot

set_option autoImplicit false

namespace Coherence

open Std

namespace Cache

theorem modify_eq_map (cache : Cache) (group : Group) (change : ExtTreeSet Key → ExtTreeSet Key) :
    cache.modify group change = cache.map fun other keys => if group = other then change keys else keys := by
  apply ExtTreeMap.ext_getElem?
  intro other
  rw [ExtTreeMap.getElem?_modify, ExtTreeMap.getElem?_map]
  by_cases same : group = other
  · subst same
    simp
  · simp [same]

theorem keys_modify (cache : Cache) (group : Group) (change : ExtTreeSet Key → ExtTreeSet Key) :
    (cache.modify group change).keys = cache.keys := by
  rw [modify_eq_map, ExtTreeMap.keys_map]

theorem keys_evict_pairs (pairs : List (Group × Key)) (cache : Cache) : (cache.evictPairs pairs).1.keys = cache.keys := by
  induction pairs generalizing cache with
  | nil => rfl
  | cons pair pairs ih => exact (ih _).trans (keys_modify cache pair.1 _)

theorem keys_evict (cache : Cache) (event : Event) : (cache.evict event).1.keys = cache.keys :=
  keys_evict_pairs event.pairs cache

theorem evict_pair_missing (cache : Cache) (pair : Group × Key) (missing : pair.1 ∉ cache) :
    cache.evictPair pair = cache := by
  apply ExtTreeMap.ext_getElem?
  intro other
  rw [evictPair, ExtTreeMap.getElem?_modify]
  split
  · rename_i same
    rw [← Std.compare_eq_iff_eq.mp same, ExtTreeMap.getElem?_eq_none missing]
    rfl
  · rfl

theorem evict_pairs_filter (wanted : Group → Bool) (pairs : List (Group × Key)) (cache : Cache)
    (covers : ∀ group ∈ cache, wanted group = true) :
    (cache.evictPairs (pairs.filter fun pair => wanted pair.1)).1 = (cache.evictPairs pairs).1 := by
  induction pairs generalizing cache with
  | nil => rfl
  | cons pair pairs ih =>
      -- Groups stay when their keys go, so what is wanted still covers the cache.
      have covered : ∀ group ∈ cache.evictPair pair, wanted group = true :=
        fun group member => covers group (ExtTreeMap.mem_modify.mp member)
      by_cases asked : wanted pair.1 = true
      · rw [List.filter_cons, if_pos asked]
        exact ih (cache.evictPair pair) covered
      · rw [List.filter_cons, if_neg asked]
        have missing : pair.1 ∉ cache := fun member => asked (covers pair.1 member)
        calc (cache.evictPairs (pairs.filter fun pair => wanted pair.1)).1
          _ = (cache.evictPairs pairs).1 := ih cache covers
          _ = ((cache.evictPair pair).evictPairs pairs).1 := by rw [evict_pair_missing cache pair missing]

theorem holds_evict_pair (cache : Cache) (pair : Group × Key) (group : Group) (key : Key) :
    (cache.evictPair pair).holds group key = (decide ((group, key) ≠ pair) && cache.holds group key) := by
  obtain ⟨evicted, gone⟩ := pair
  rw [holds, keysOf, evictPair, ExtTreeMap.getElem?_modify, holds, keysOf]
  by_cases same : evicted = group
  · subst same
    cases cache[evicted]? with
    | none => simp
    | some keys =>
        by_cases equal : gone = key
        · simp [equal]
        · simp [equal, Ne.symm equal]
  · simp [same, Ne.symm same]

theorem holds_evict_pairs (pairs : List (Group × Key)) (cache : Cache) (group : Group) (key : Key) :
    (cache.evictPairs pairs).1.holds group key = (decide ((group, key) ∉ pairs) && cache.holds group key) := by
  induction pairs generalizing cache with
  | nil => simp [evictPairs]
  | cons pair pairs ih =>
      change ((cache.evictPair pair).evictPairs pairs).1.holds group key = _
      rw [ih, holds_evict_pair]
      by_cases same : (group, key) = pair
      · simp [same]
      · simp [same]

theorem holds_evict (cache : Cache) (event : Event) (group : Group) (key : Key) :
    (cache.evict event).1.holds group key = (decide ((group, key) ∉ event.pairs) && cache.holds group key) :=
  holds_evict_pairs event.pairs cache group key

theorem mem_of_holds (cache : Cache) (group : Group) (key : Key) (holds : cache.holds group key = true) :
    group ∈ cache := by
  rw [Cache.holds, keysOf] at holds
  rw [ExtTreeMap.mem_iff_isSome_getElem?]
  cases here : cache[group]? with
  | none =>
      rw [here] at holds
      simp at holds
  | some keys => rfl

end Cache

namespace Snapshot

theorem filter_group (snapshot : Snapshot) (group : Group) (keys : List Key) :
    ((keys.map (group, ·)).filter fun pair => snapshot.contains pair.1) =
      if snapshot.contains group then keys.map (group, ·) else [] := by
  split
  · rename_i bridged
    apply List.filter_eq_self.mpr
    intro pair member
    obtain ⟨key, _, rfl⟩ := List.mem_map.mp member
    exact bridged
  · rename_i unbridged
    apply List.filter_eq_nil_iff.mpr
    intro pair member
    obtain ⟨key, _, rfl⟩ := List.mem_map.mp member
    exact unbridged

theorem pairs_filter_batch (snapshot : Snapshot) (entries : List BatchEntry) :
    (snapshot.filterBatch entries).flatMap BatchEntry.pairs =
      (entries.flatMap BatchEntry.pairs).filter fun pair => snapshot.contains pair.1 := by
  induction entries with
  | nil => rfl
  | cons entry entries ih =>
      rw [List.flatMap_cons, List.filter_append, ← ih, BatchEntry.pairs, filter_group, filterBatch, filterBatch,
        List.filter_cons]
      by_cases bridged : snapshot.contains entry.group = true
      · cases keys : entry.keys with
        | nil => simp
        | cons key rest => simp [BatchEntry.pairs, keys, bridged]
      · simp [bridged]

theorem gate_pairs (snapshot : Snapshot) (event : Event) :
    ((snapshot.gate event).elim [] Event.pairs) = event.pairs.filter fun pair => snapshot.contains pair.1 := by
  cases event with
  | single group key =>
      rw [gate]
      by_cases bridged : snapshot.contains group = true
      · simp [Event.pairs, bridged]
      · simp [Event.pairs, bridged]
  | many group keys =>
      rw [gate, Event.pairs, filter_group]
      by_cases bridged : snapshot.contains group = true
      · cases keys with
        | nil => simp
        | cons key keys => simp [Event.pairs, bridged]
      · simp [bridged]
  | batch entries =>
      rw [Event.pairs, ← pairs_filter_batch, gate]
      split
      · rename_i nothing
        rw [nothing]
        rfl
      · rfl

variable {snapshot : Snapshot} {cache : Cache} {event : Event}

theorem evict_suppressed (covers : ∀ group ∈ cache, snapshot.contains group = true) (nothing : snapshot.gate event = none) :
    (cache.evict event).1 = cache := by
  have pairs := gate_pairs snapshot event
  rw [nothing] at pairs
  rw [Cache.evict, ← Cache.evict_pairs_filter snapshot.contains event.pairs cache covers, ← pairs]
  rfl

theorem evict_wanted (covers : ∀ group ∈ cache, snapshot.contains group = true) (wanted : Event)
    (passed : snapshot.gate event = some wanted) : (cache.evict wanted).1 = (cache.evict event).1 := by
  have pairs := gate_pairs snapshot event
  rw [passed] at pairs
  rw [Cache.evict, Cache.evict, ← Cache.evict_pairs_filter snapshot.contains event.pairs cache covers, ← pairs]
  rfl

end Snapshot

end Coherence
