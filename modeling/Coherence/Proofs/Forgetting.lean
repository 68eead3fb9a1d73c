import Coherence.Proofs.Eviction

set_option autoImplicit false

namespace Coherence

open Std

namespace Cache

-- What is left when some pairs are taken out: every group, without the keys that are paired with it.
def without (cache : Cache) (pairs : List (Group × Key)) : Cache :=
  cache.map fun group keys => keys.filter fun key => (group, key) ∉ pairs

def contents (cache : Cache) : List (Group × Key) :=
  cache.toList.flatMap fun entry => entry.2.toList.map (entry.1, ·)

def total (cache : Cache) : Nat := cache.contents.length

theorem found_without (cache : Cache) (pairs : List (Group × Key)) (group : Group) :
    (cache.without pairs)[group]? = cache[group]?.map fun keys => keys.filter fun key => (group, key) ∉ pairs :=
  ExtTreeMap.getElem?_map

theorem without_nil (cache : Cache) : cache.without [] = cache := by
  apply ExtTreeMap.ext_getElem?
  intro group
  rw [found_without]
  cases cache[group]? with
  | none => rfl
  | some keys =>
      rw [Option.map_some, Option.some.injEq]
      apply ExtTreeSet.ext_mem
      intro key
      simp

theorem without_append (cache : Cache) (first second : List (Group × Key)) :
    cache.without (first ++ second) = (cache.without first).without second := by
  apply ExtTreeMap.ext_getElem?
  intro group
  rw [found_without, found_without, found_without, Option.map_map]
  congr 1
  funext keys
  apply ExtTreeSet.ext_mem
  intro key
  simp [and_assoc, and_left_comm]

theorem without_congr (cache : Cache) (first second : List (Group × Key)) (alike : ∀ pair, pair ∈ first ↔ pair ∈ second) :
    cache.without first = cache.without second := by
  simp only [without, alike]

theorem evict_pair_eq (cache : Cache) (pair : Group × Key) : cache.evictPair pair = cache.without [pair] := by
  apply ExtTreeMap.ext_getElem?
  intro group
  rw [found_without, evictPair, ExtTreeMap.getElem?_modify]
  by_cases same : pair.1 = group
  · subst same
    rw [if_pos Std.compare_self]
    congr 1
    funext keys
    apply ExtTreeSet.ext_mem
    intro key
    simp [Prod.ext_iff, eq_comm (a := key), and_comm]
  · rw [if_neg fun equal => same (Std.compare_eq_iff_eq.mp equal)]
    cases cache[group]? with
    | none => rfl
    | some keys =>
        rw [Option.map_some, Option.some.injEq]
        apply ExtTreeSet.ext_mem
        intro key
        simp [Prod.ext_iff, Ne.symm same]

theorem evict_pairs_eq (pairs : List (Group × Key)) (cache : Cache) :
    (cache.evictPairs pairs).1 = cache.without pairs := by
  induction pairs generalizing cache with
  | nil => exact cache.without_nil.symm
  | cons pair pairs ih =>
      calc ((cache.evictPair pair).evictPairs pairs).1
        _ = (cache.evictPair pair).without pairs := ih _
        _ = (cache.without [pair]).without pairs := by rw [evict_pair_eq]
        _ = cache.without (pair :: pairs) := (cache.without_append [pair] pairs).symm

section Counting

theorem contents_without (cache : Cache) (pairs : List (Group × Key)) :
    (cache.without pairs).contents = cache.contents.filter (· ∉ pairs) := by
  rw [contents, without, ExtTreeMap.toList_map, List.flatMap_map, contents, List.filter_flatMap]
  congr 1
  funext entry
  rw [ExtTreeSet.toList_filter, List.filter_map]
  rfl

theorem mem_contents (cache : Cache) (pair : Group × Key) :
    pair ∈ cache.contents ↔ cache.holds pair.1 pair.2 = true := by
  obtain ⟨group, key⟩ := pair
  rw [contents, List.mem_flatMap, holds, keysOf]
  constructor
  · rintro ⟨⟨other, keys⟩, member, held⟩
    obtain ⟨_, listed, same⟩ := List.mem_map.mp held
    cases same
    rw [ExtTreeMap.mem_toList_iff_getElem?_eq_some.mp member, Option.getD_some, ExtTreeSet.contains_iff_mem]
    exact ExtTreeSet.mem_toList.mp listed
  · intro held
    cases here : cache[group]? with
    | none =>
        rw [here] at held
        simp at held
    | some keys =>
        rw [here, Option.getD_some, ExtTreeSet.contains_iff_mem] at held
        refine ⟨(group, keys), ExtTreeMap.mem_toList_iff_getElem?_eq_some.mpr here, ?_⟩
        exact List.mem_map.mpr ⟨key, ExtTreeSet.mem_toList.mpr held, rfl⟩

theorem contents_nodup (cache : Cache) : cache.contents.Nodup := by
  rw [contents, List.Nodup, List.pairwise_flatMap]
  constructor
  · intro entry _
    rw [List.pairwise_map]
    refine entry.2.distinct_toList.imp fun different same => ?_
    exact different (Std.compare_eq_iff_eq.mpr (congrArg Prod.snd same))
  · refine cache.distinct_keys_toList.imp fun different first here second there same => ?_
    obtain ⟨_, _, rfl⟩ := List.mem_map.mp here
    obtain ⟨_, _, rfl⟩ := List.mem_map.mp there
    exact different (Std.compare_eq_iff_eq.mpr (Prod.ext_iff.mp same).1)

theorem total_evict_pair (cache : Cache) (pair : Group × Key) :
    (cache.evictPair pair).total + (if cache.holds pair.1 pair.2 then 1 else 0) = cache.total := by
  have once : cache.contents.count pair = if cache.holds pair.1 pair.2 then 1 else 0 := by
    rw [cache.contents_nodup.count]
    simp only [mem_contents]
  rw [← once, total, evict_pair_eq, contents_without, ← List.countP_eq_length_filter, List.count_eq_countP,
    Nat.add_comm, total, List.length_eq_countP_add_countP (· == pair)]
  congr 1
  apply List.countP_congr
  intro other _
  simp

theorem total_evict_pairs (pairs : List (Group × Key)) (cache : Cache) :
    (cache.evictPairs pairs).2 + (cache.evictPairs pairs).1.total = cache.total := by
  induction pairs generalizing cache with
  | nil => exact Nat.zero_add _
  | cons pair pairs ih =>
      have rest := ih (cache.evictPair pair)
      have first := cache.total_evict_pair pair
      rw [evictPairs]
      dsimp only
      omega

end Counting

end Cache

namespace Registry

variable {ℓ : Type}

def applyAll (registry : Registry ℓ) (events : List Event) : Registry ℓ :=
  events.foldl (fun registry event => (registry.apply event).1) registry

theorem apply_willing (registry : Registry ℓ) (event : Event) (willing : registry.rejecting = false) :
    registry.apply event =
      ({ registry with cache := registry.cache.without event.pairs, applied := registry.applied ++ [event] }, .ok ()) := by
  rw [apply, if_neg (by simp [willing]), evict, Cache.evict, Cache.evict_pairs_eq]

theorem apply_all_willing (events : List Event) (registry : Registry ℓ) (willing : registry.rejecting = false) :
    registry.applyAll events =
      { registry with
        cache := registry.cache.without (events.flatMap Event.pairs)
        applied := registry.applied ++ events } := by
  induction events generalizing registry with
  | nil => simp [applyAll, Cache.without_nil]
  | cons event events ih =>
      have taken := registry.apply_willing event willing
      have still : (registry.apply event).1.rejecting = false := by
        rw [taken]
        exact willing
      change (registry.apply event).1.applyAll events = _
      rw [ih _ still, taken, List.flatMap_cons, Cache.without_append, ← List.append_cons]

/-- The order, repetition and packing of events from elsewhere do not matter, only the pairs they name. -/
theorem invalidation_order_free (registry : Registry ℓ) (willing : registry.rejecting = false) (first second : List Event)
    (alike : ∀ pair, pair ∈ first.flatMap Event.pairs ↔ pair ∈ second.flatMap Event.pairs) :
    let after := registry.applyAll first
    (registry.applyAll second).cache = after.cache ∧
      after.groupNames = registry.groupNames ∧
      (∀ group : Group, after.cache[group]? =
        registry.cache[group]?.map fun keys => keys.filter fun key => (group, key) ∉ first.flatMap Event.pairs) ∧
      ∀ (earlier later : List Event) (event : Event), first = earlier ++ event :: later →
        let before := registry.applyAll earlier
        ∃ next, before.apply event = (next, .ok ()) ∧ (before.cache.evict event).1 = next.cache ∧
          (before.cache.evict event).2 + next.cache.total = before.cache.total := by
  intro after
  have cache : after.cache = registry.cache.without (first.flatMap Event.pairs) := by
    rw [show after = _ from apply_all_willing first registry willing]
  refine ⟨?_, ?_, ?_, ?_⟩
  · rw [apply_all_willing second registry willing, cache]
    exact Cache.without_congr _ _ _ fun pair => (alike pair).symm
  · rw [groupNames, cache, Cache.without, ExtTreeMap.keys_map]
    rfl
  · rw [cache]
    exact registry.cache.found_without _
  · intro earlier later event _ before
    have still : before.rejecting = false := by
      rw [show before = _ from apply_all_willing earlier registry willing]
      exact willing
    have evicted := Cache.evict_pairs_eq event.pairs before.cache
    refine ⟨_, before.apply_willing event still, evicted, ?_⟩
    rw [← Cache.total_evict_pairs event.pairs before.cache, evicted]
    rfl

def stocked : Registry Unit :=
  { cache := ExtTreeMap.ofList [("g", ExtTreeSet.ofList ["x", "y"]), ("h", ExtTreeSet.ofList ["x"])] }

-- Both lists name the same four pairs, of which one has no such key and one no such group.
theorem stocked_order_free :
    let packed := [Event.batch [⟨"g", ["y", "y"]⟩, ⟨"k", ["x"]⟩], .single "h" "x", .many "g" ["z", "y"]]
    let loose := [Event.single "h" "x", .many "k" ["x", "x"], .single "g" "z", .many "g" ["y"], .batch []]
    (stocked.applyAll loose).cache = (stocked.applyAll packed).cache ∧
      (stocked.applyAll packed).groupNames = ["g", "h"] ∧
      (stocked.applyAll packed).cache["g"]?.map (·.toList) = some ["x"] ∧
      ∃ next, stocked.apply (.batch [⟨"g", ["y", "y"]⟩, ⟨"k", ["x"]⟩]) = (next, .ok ()) ∧
        (stocked.cache.evict (.batch [⟨"g", ["y", "y"]⟩, ⟨"k", ["x"]⟩])).2 + next.cache.total = 3 := by
  intro packed loose
  have alike : ∀ pair, pair ∈ packed.flatMap Event.pairs ↔ pair ∈ loose.flatMap Event.pairs := by
    intro pair
    simp only [packed, loose, List.flatMap_cons, List.flatMap_nil, Event.pairs, BatchEntry.pairs, List.map_cons,
      List.map_nil, List.mem_append, List.mem_cons, List.not_mem_nil]
    grind
  obtain ⟨same, groups, left, evicted⟩ := invalidation_order_free stocked rfl packed loose alike
  refine ⟨same, groups.trans (by decide), ?_, ?_⟩
  · rw [left, Option.map_map]
    simp only [Function.comp_def, ExtTreeSet.toList_filter]
    decide
  · obtain ⟨next, taken, _, counted⟩ := evicted [] _ (.batch [⟨"g", ["y", "y"]⟩, ⟨"k", ["x"]⟩]) rfl
    exact ⟨next, taken, counted.trans (by decide)⟩

end Registry

end Coherence
