import Coherence.Proofs.Legibility

set_option autoImplicit false

namespace Coherence

open Std

namespace Announcement

variable {key : String} {bytes : Bytes}

theorem owner_of_decoded {announcement : Announcement} (decoded : decode key bytes = .ok announcement) :
    announcement.owner = key := by
  rw [decode] at decoded
  split at decoded
  · cases decoded
  · rename_i node named
    split at decoded
    · cases decoded
    · split at decoded
      · rename_i own
        cases decoded
        exact own.trans (NodeId.ofKey?_eq_some_iff.mp named).2
      · cases decoded

theorem blamed_of_undecoded {error : Error} (undecoded : decode key bytes = .error error) :
    ∃ why, error = .malformed key why := by
  rw [decode] at undecoded
  split at undecoded
  · exact ⟨_, (Except.error.inj undecoded).symm⟩
  · split at undecoded
    · exact ⟨_, (Except.error.inj undecoded).symm⟩
    · split at undecoded
      · cases undecoded
      · exact ⟨_, (Except.error.inj undecoded).symm⟩

end Announcement

namespace Entries

def Announces (entries : Entries) (key : String) (announcement : Announcement) : Prop :=
  ∃ bytes, entries[key]? = some (some bytes) ∧ Announcement.decode key bytes = .ok announcement

def Readable (entries : Entries) (key : String) : Prop := ∃ announcement, entries.Announces key announcement

def Garbles (entries : Entries) (key : String) (why : Malformation) : Prop :=
  ∃ bytes, entries[key]? = some (some bytes) ∧ Announcement.decode key bytes = .error (.malformed key why)

theorem announces_congr {entries other : Entries} {key : String} (same : other[key]? = entries[key]?)
    (announcement : Announcement) : other.Announces key announcement ↔ entries.Announces key announcement := by
  rw [Announces, Announces, same]

theorem present_cases (entries : Entries) (key : String) (present : key ∈ entries) :
    entries.Readable key ∧ (∀ why, ¬ entries.Garbles key why) ∧ entries[key]? ≠ some none ∨
    ¬ entries.Readable key ∧ (∃ why, entries.Garbles key why) ∧ entries[key]? ≠ some none ∨
    ¬ entries.Readable key ∧ (∀ why, ¬ entries.Garbles key why) ∧ entries[key]? = some none := by
  obtain ⟨value, found⟩ := Option.isSome_iff_exists.mp (ExtTreeMap.mem_iff_isSome_getElem?.mp present)
  simp only [Readable, Announces, Garbles, found, Option.some.injEq]
  cases value with
  | none => simp
  | some bytes =>
      cases decoded : Announcement.decode key bytes with
      | ok announcement => simp [decoded]
      | error error =>
          obtain ⟨why, rfl⟩ := Announcement.blamed_of_undecoded decoded
          simp [decoded]

end Entries

namespace Reading

def blame? : Reading → Option (String × Malformation)
  | .malformed (.malformed key why) => some (key, why)
  | _ => none

variable (key name : String) (value : Option Bytes)

theorem blame_of_entry (why : Malformation) : (ofEntry (key, value)).blame? = some (name, why) ↔
    name = key ∧ ∃ bytes, value = some bytes ∧ Announcement.decode key bytes = .error (.malformed key why) := by
  cases value with
  | none => simp [ofEntry, blame?]
  | some bytes =>
      rw [ofEntry]
      cases decoded : Announcement.decode key bytes with
      | ok announcement => simp [blame?, decoded]
      | error error =>
          obtain ⟨reason, rfl⟩ := Announcement.blamed_of_undecoded decoded
          simp [blame?, decoded, eq_comm]

theorem error_of_entry : (ofEntry (key, value)).error? =
    (ofEntry (key, value)).blame?.map fun blame => .malformed blame.1 blame.2 := by
  cases value with
  | none => rfl
  | some bytes =>
      rw [ofEntry]
      cases decoded : Announcement.decode key bytes with
      | ok announcement => rfl
      | error error =>
          obtain ⟨why, rfl⟩ := Announcement.blamed_of_undecoded decoded
          rfl

theorem absent_of_entry : (ofEntry (key, value)).absent? = some name ↔ name = key ∧ value = none := by
  cases value with
  | none => simp [ofEntry, absent?, eq_comm]
  | some bytes =>
      rw [ofEntry]
      cases Announcement.decode key bytes <;> simp [absent?]

end Reading

namespace Recomputation

variable (own : NodeId) (entries : Entries)

def blamed : List (String × Malformation) := (readings own entries).filterMap Reading.blame?

variable (generation : UInt64)

theorem malformed_eq : (ofEntries own entries generation).malformed =
    (blamed own entries).map fun blame => .malformed blame.1 blame.2 := by
  change (readings own entries).filterMap Reading.error? = _
  rw [blamed, List.map_filterMap, readings, List.filterMap_map, List.filterMap_map]
  exact List.filterMap_congr fun entry _ => Reading.error_of_entry entry.1 entry.2

theorem ascending_entries : (entries.toList.filter (·.1 ≠ own)).Pairwise fun first second =>
    compare first.1 second.1 = .lt :=
  entries.ordered_keys_toList.filter _

theorem ascending_aspect {α : Type} (aspect : Reading → Option α) (name : α → String)
    (named : ∀ key value result, aspect (Reading.ofEntry (key, value)) = some result → name result = key) :
    ((readings own entries).filterMap aspect).Pairwise fun first second => compare (name first) (name second) = .lt := by
  rw [readings, List.filterMap_map, List.pairwise_filterMap]
  refine (ascending_entries own entries).imp ?_
  intro first second before result seen other found
  rw [named first.1 first.2 result seen, named second.1 second.2 other found]
  exact before

theorem mem_aspect {α : Type} (aspect : Reading → Option α) (result : α) :
    result ∈ (readings own entries).filterMap aspect ↔
      ∃ key value, key ≠ own ∧ entries[key]? = some value ∧ aspect (Reading.ofEntry (key, value)) = some result := by
  simp only [readings, List.mem_filterMap, List.mem_map, List.mem_filter, decide_eq_true_eq, Prod.exists,
    ExtTreeMap.mem_toList_iff_getElem?_eq_some]
  constructor
  · rintro ⟨_, ⟨key, value, ⟨found, other⟩, rfl⟩, seen⟩
    exact ⟨key, value, other, found, seen⟩
  · rintro ⟨key, value, other, found, seen⟩
    exact ⟨_, ⟨key, value, ⟨found, other⟩, rfl⟩, seen⟩

theorem mem_blamed (key : String) (why : Malformation) :
    (key, why) ∈ blamed own entries ↔ key ≠ own ∧ entries.Garbles key why := by
  rw [blamed, mem_aspect]
  constructor
  · rintro ⟨name, value, other, found, seen⟩
    obtain ⟨rfl, bytes, rfl, undecoded⟩ := (Reading.blame_of_entry name key value why).mp seen
    exact ⟨other, bytes, found, undecoded⟩
  · rintro ⟨other, bytes, found, undecoded⟩
    exact ⟨key, some bytes, other, found, (Reading.blame_of_entry key key (some bytes) why).mpr ⟨rfl, bytes, rfl, undecoded⟩⟩

theorem mem_malformed (key : String) (why : Malformation) :
    .malformed key why ∈ (ofEntries own entries generation).malformed ↔ key ≠ own ∧ entries.Garbles key why := by
  rw [malformed_eq, List.mem_map, ← mem_blamed]
  constructor
  · rintro ⟨blame, member, ⟨⟩⟩
    exact member
  · exact fun member => ⟨(key, why), member, rfl⟩

theorem mem_absent (key : String) :
    key ∈ (ofEntries own entries generation).absent ↔ key ≠ own ∧ entries[key]? = some none := by
  change key ∈ (readings own entries).filterMap Reading.absent? ↔ _
  rw [mem_aspect]
  constructor
  · rintro ⟨name, value, other, found, seen⟩
    obtain ⟨rfl, rfl⟩ := (Reading.absent_of_entry name key value).mp seen
    exact ⟨other, found⟩
  · rintro ⟨other, found⟩
    exact ⟨key, none, other, found, (Reading.absent_of_entry key key none).mpr ⟨rfl, rfl⟩⟩

theorem mem_groups (group : Group) : group ∈ (ofEntries own entries generation).snapshot.groups ↔
    ∃ key announcement, key ≠ own ∧ entries.Announces key announcement ∧ group ∈ announcement.groups := by
  change group ∈ bridged own entries ↔ _
  rw [mem_bridged]
  constructor
  · rintro ⟨key, bytes, announcement, other, found, decoded, member⟩
    exact ⟨key, announcement, other, ⟨bytes, found, decoded⟩, member⟩
  · rintro ⟨key, announcement, other, ⟨bytes, found, decoded⟩, member⟩
    exact ⟨key, bytes, announcement, other, found, decoded, member⟩

variable {own entries generation}

theorem groups_congr {other : Entries} {later : UInt64}
    (same : ∀ key, key = own ∨ other[key]? = entries[key]? ∨ ¬ entries.Readable key ∧ ¬ other.Readable key) :
    (ofEntries own other later).snapshot.groups = (ofEntries own entries generation).snapshot.groups := by
  have announces (key : String) (announcement : Announcement) (foreign : key ≠ own) :
      other.Announces key announcement ↔ entries.Announces key announcement := by
    rcases same key with mine | kept | ⟨before, after⟩
    · exact absurd mine foreign
    · exact Entries.announces_congr kept announcement
    · exact iff_of_false (fun read => after ⟨announcement, read⟩) (fun read => before ⟨announcement, read⟩)
  apply ExtTreeSet.ext_mem
  intro group
  rw [mem_groups, mem_groups]
  constructor
  · rintro ⟨key, announcement, foreign, read, member⟩
    exact ⟨key, announcement, foreign, (announces key announcement foreign).mp read, member⟩
  · rintro ⟨key, announcement, foreign, read, member⟩
    exact ⟨key, announcement, foreign, (announces key announcement foreign).mpr read, member⟩

theorem groups_insert {key : String} {bytes : Bytes} {announcement : Announcement} {later : UInt64} (foreign : key ≠ own)
    (unread : ¬ entries.Readable key) (decoded : Announcement.decode key bytes = .ok announcement) (group : Group) :
    group ∈ (ofEntries own (entries.insert key (some bytes)) later).snapshot.groups ↔
      group ∈ (ofEntries own entries generation).snapshot.groups ∨ group ∈ announcement.groups := by
  have without : (ofEntries own ((entries.insert key (some bytes)).erase key) later).snapshot.groups =
      (ofEntries own entries generation).snapshot.groups := by
    refine groups_congr fun name => ?_
    by_cases same : key = name
    · subst same
      refine .inr (.inr ⟨unread, ?_⟩)
      simp [Entries.Readable, Entries.Announces]
    · exact .inr (.inl ((found_erase_other _ key name same).trans (found_insert_other _ key name _ same)))
  rw [groups_erase own later foreign ExtTreeMap.getElem?_insert_self decoded, without]

/-- A reading has the groups of every readable announcement of others, and blames each other entry by its key. -/
theorem union_of_readable (own : NodeId) (entries : Entries) (generation : UInt64) :
    let read := ofEntries own entries generation
    read.snapshot.generation = generation ∧
    (∀ group, group ∈ read.snapshot.groups ↔ ∃ key announcement, key ≠ own ∧ entries.Announces key announcement ∧
      announcement.owner = key ∧ group ∈ announcement.groups) ∧
    (∃ blamed : List (String × Malformation), read.malformed = blamed.map (fun blame => .malformed blame.1 blame.2) ∧
      blamed.Pairwise (fun first second => compare first.1 second.1 = .lt) ∧
      ∀ key why, (key, why) ∈ blamed ↔ key ≠ own ∧ entries.Garbles key why) ∧
    (read.absent.Pairwise (fun first second => compare first second = .lt) ∧
      ∀ key, key ∈ read.absent ↔ key ≠ own ∧ entries[key]? = some none) ∧
    (∀ key ∈ entries, key ≠ own →
      entries.Readable key ∧ (∀ why, .malformed key why ∉ read.malformed) ∧ key ∉ read.absent ∨
      ¬ entries.Readable key ∧ (∃ why, .malformed key why ∈ read.malformed) ∧ key ∉ read.absent ∨
      ¬ entries.Readable key ∧ (∀ why, .malformed key why ∉ read.malformed) ∧ key ∈ read.absent) ∧
    (∀ (other : Entries) (later : UInt64),
      (∀ key, key = own ∨ other[key]? = entries[key]? ∨ ¬ entries.Readable key ∧ ¬ other.Readable key) →
      (ofEntries own other later).snapshot.groups = read.snapshot.groups) ∧
    ∀ (key : String) (bytes : Bytes) (announcement : Announcement) (later : UInt64), key ≠ own → ¬ entries.Readable key →
      Announcement.decode key bytes = .ok announcement → ∀ group,
        group ∈ (ofEntries own (entries.insert key (some bytes)) later).snapshot.groups ↔
          group ∈ read.snapshot.groups ∨ group ∈ announcement.groups := by
  intro read
  refine ⟨rfl, fun group => ?_, ⟨blamed own entries, malformed_eq own entries generation, ?_, mem_blamed own entries⟩,
    ⟨?_, mem_absent own entries generation⟩, fun key present other => ?_, fun other later same => groups_congr same,
    fun key bytes announcement later foreign unread decoded => groups_insert foreign unread decoded⟩
  · rw [mem_groups]
    constructor
    · rintro ⟨key, announcement, other, announces, member⟩
      obtain ⟨bytes, _, decoded⟩ := id announces
      exact ⟨key, announcement, other, announces, Announcement.owner_of_decoded decoded, member⟩
    · rintro ⟨key, announcement, other, announces, _, member⟩
      exact ⟨key, announcement, other, announces, member⟩
  · refine ascending_aspect own entries Reading.blame? Prod.fst fun key value blame seen => ?_
    exact ((Reading.blame_of_entry key blame.1 value blame.2).mp seen).1
  · refine ascending_aspect own entries Reading.absent? id fun key value name seen => ?_
    exact ((Reading.absent_of_entry key name value).mp seen).1
  · have cases := entries.present_cases key present
    simpa only [read, mem_malformed, mem_absent, other, ne_eq, not_false_eq_true, true_and] using cases

/-- Own, good, without a value, unreadable, of another owner, and under an unfit key. -/
def medley : Entries := ExtTreeMap.ofList
  [("a", some [0]), ("b", some (Announcement.encode ⟨"b", ExtTreeSet.ofList ["g"]⟩)), ("c", none), ("d", some [0]),
    ("e", some (Announcement.encode ⟨"b", ExtTreeSet.ofList ["h"]⟩)),
    (" f", some (Announcement.encode ⟨" f", ExtTreeSet.ofList ["h"]⟩))]

theorem medley_united :
    let read := ofEntries "a" medley 7
    read.snapshot.groups.toList = ["g"] ∧ read.absent = ["c"] ∧
    read.malformed = [.malformed " f" .invalidKey, .malformed "d" .unreadable, .malformed "e" (.foreignOwner "b")] ∧
    (ofEntries "a" ((medley.erase "a").insert "d" none) 8).snapshot.groups = read.snapshot.groups ∧
    ∀ group, group ∈ (ofEntries "a" (medley.insert "i" (some (Announcement.encode ⟨"i", ExtTreeSet.ofList ["k"]⟩))) 9
      ).snapshot.groups ↔ group ∈ read.snapshot.groups ∨ group ∈ ExtTreeSet.ofList ["k"] := by
  intro read
  obtain ⟨_, _, _, _, _, unchanged, added⟩ := union_of_readable "a" medley 7
  have unread : ¬ medley.Readable "d" := by
    rintro ⟨announcement, bytes, found, decoded⟩
    rw [show medley["d"]? = some (some [0]) by decide +kernel, Option.some.injEq, Option.some.injEq] at found
    have refused : (Announcement.decode "d" [0]).toBool = false := by decide +kernel
    rw [found, decoded] at refused
    cases refused
  refine ⟨by decide +kernel, by decide +kernel, by decide +kernel, unchanged _ 8 fun key => ?_, added "i" _ _ 9 (by decide)
    ?_ (Announcement.decode_encode "i" _ (by decide))⟩
  · by_cases own : key = "a"
    · exact .inl own
    · by_cases bad : key = "d"
      · subst bad
        refine .inr (.inr ⟨unread, ?_⟩)
        simp [Entries.Readable, Entries.Announces]
      · exact .inr (.inl ((found_insert_other _ "d" key _ (Ne.symm bad)).trans (found_erase_other _ "a" key (Ne.symm own))))
  · rintro ⟨announcement, bytes, found, _⟩
    rw [show medley["i"]? = none by decide +kernel] at found
    cases found

end Recomputation

end Coherence
