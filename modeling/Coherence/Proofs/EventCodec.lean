import Coherence.Event.Codec
import Coherence.Proofs.AnnouncementCodec

set_option autoImplicit false

namespace Coherence

namespace Json

mutual

theorem decodable_raw (json : Json) (textual : json.isTextual = true) : json.raw.isDecodable = true := by
  cases json with
  | number n => cases textual
  | string text => rfl
  | array items => exact decodable_raw_items items textual
  | object fields => exact decodable_raw_fields fields textual

theorem decodable_raw_items (items : List Json) (textual : allTextual items = true) :
    Raw.allDecodable (rawItems items) = true := by
  cases items with
  | nil => rfl
  | cons item items =>
      rw [allTextual, Bool.and_eq_true] at textual
      rw [rawItems, Raw.allDecodable, Bool.and_eq_true]
      exact ⟨decodable_raw item textual.1, decodable_raw_items items textual.2⟩

theorem decodable_raw_fields (fields : List (String × Json)) (textual : allFieldsTextual fields = true) :
    Raw.allFieldsDecodable (rawFields fields) = true := by
  cases fields with
  | nil => rfl
  | cons field fields =>
      obtain ⟨key, value⟩ := field
      rw [allFieldsTextual, Bool.and_eq_true] at textual
      rw [rawFields, Raw.allFieldsDecodable, Option.isSome_some, Bool.true_and, Bool.and_eq_true]
      exact ⟨decodable_raw value textual.1, decodable_raw_fields fields textual.2⟩

end

theorem raw_items_eq_map (items : List Json) : rawItems items = items.map raw := by
  induction items with
  | nil => rfl
  | cons item items ih => rw [rawItems, ih, List.map_cons]

theorem items_depth_le (items : List Raw) (bound : Nat) (shallow : ∀ item ∈ items, item.depth ≤ bound) :
    Raw.itemsDepth items ≤ bound := by
  induction items with
  | nil => exact Nat.zero_le _
  | cons item items ih =>
      rw [Raw.itemsDepth]
      exact Nat.max_le.mpr ⟨shallow item (List.mem_cons_self ..), ih fun other member =>
        shallow other (List.mem_cons_of_mem item member)⟩

theorem strings_depth (texts : List String) : (strings texts).raw.depth ≤ 1 := by
  rw [strings_raw, Raw.depth]
  refine Nat.succ_le_succ (items_depth_le _ 0 ?_)
  intro item member
  obtain ⟨text, _, rfl⟩ := List.mem_map.mp member
  exact Nat.le_refl 0

end Json

namespace BatchEntry

theorem to_json_textual (entry : BatchEntry) : entry.toJson.isTextual = true := by
  simp [toJson, Json.isTextual, Json.allFieldsTextual, Json.strings_textual]

theorem to_json_depth (entry : BatchEntry) : entry.toJson.raw.depth ≤ 2 := by
  have keys := Json.strings_depth entry.keys
  simp only [toJson, Json.raw, Json.rawFields, Json.Raw.depth, Json.Raw.fieldsDepth]
  omega

theorem of_raw_to_json (entry : BatchEntry) : ofRaw? entry.toJson.raw = some entry := by
  have fields : entry.toJson.raw.record? ["group", "keys"] =
      some [some (.string (some entry.group)), some (Json.strings entry.keys).raw] := by
    simp [toJson, Json.raw, Json.rawFields, Json.Raw.record?, Json.Raw.keyed?, Json.Raw.field?]
  rw [ofRaw?, fields]
  simp [Json.Raw.text?, Json.texts_of_strings]

end BatchEntry

namespace Event

def kind : Event → String
  | single .. => "single"
  | many .. => "many"
  | batch _ => "batch"

def fieldNames : Event → List String
  | single .. => ["group", "key"]
  | many .. => ["group", "keys"]
  | batch _ => ["entries"]

theorem to_json_textual (event : Event) : event.toJson.isTextual = true := by
  cases event with
  | single group key => rfl
  | many group keys => simp [toJson, Json.isTextual, Json.allFieldsTextual, Json.strings_textual]
  | batch entries =>
      have inner : Json.allTextual (entries.map BatchEntry.toJson) = true := by
        induction entries with
        | nil => rfl
        | cons entry entries ih => simpa [Json.allTextual, entry.to_json_textual] using ih
      simp [toJson, Json.isTextual, Json.allFieldsTextual, inner]

theorem to_json_depth (event : Event) : event.toJson.raw.depth ≤ 4 := by
  cases event with
  | single group key => exact (by decide : 1 ≤ 4)
  | many group keys =>
      have inner := Json.strings_depth keys
      simp only [toJson, Json.raw, Json.rawFields, Json.Raw.depth, Json.Raw.fieldsDepth]
      omega
  | batch entries =>
      have inner : Json.Raw.itemsDepth (Json.rawItems (entries.map BatchEntry.toJson)) ≤ 2 := by
        rw [Json.raw_items_eq_map, List.map_map]
        refine Json.items_depth_le _ 2 ?_
        intro item member
        obtain ⟨entry, _, rfl⟩ := List.mem_map.mp member
        exact entry.to_json_depth
      simp only [toJson, Json.raw, Json.rawFields, Json.Raw.depth, Json.Raw.fieldsDepth]
      omega

theorem entries_of_raw (entries : List BatchEntry) :
    entries? (Json.array (entries.map BatchEntry.toJson)).raw = some entries := by
  rw [Json.raw, Json.raw_items_eq_map, List.map_map, entries?]
  induction entries with
  | nil => rfl
  | cons entry entries ih =>
      rw [List.map_cons, List.mapM_cons, ih]
      exact congrArg (fun read => read.bind fun entry => some (entry :: entries)) entry.of_raw_to_json

theorem of_fields_to_json (event : Event) : ofFields? event.kind event.toJson.raw = some event := by
  cases event with
  | single group key =>
      simp [kind, ofFields?, toJson, Json.raw, Json.rawFields, Json.Raw.record?, Json.Raw.keyed?, Json.Raw.field?,
        Json.Raw.text?]
  | many group keys =>
      simp [kind, ofFields?, toJson, Json.raw, Json.rawFields, Json.Raw.record?, Json.Raw.keyed?, Json.Raw.field?,
        Json.Raw.text?, Json.texts_of_strings]
  | batch entries =>
      have read := entries_of_raw entries
      rw [Json.raw] at read
      simp [kind, ofFields?, toJson, Json.raw, Json.rawFields, Json.Raw.record?, Json.Raw.keyed?, Json.Raw.field?, read]

theorem raw_to_json (event : Event) : ∃ fields,
    event.toJson.raw = .object ((some "kind", .string (some event.kind)) :: fields) ∧
      fields.map (·.1) = event.fieldNames.map some := by
  cases event with
  | single group key => exact ⟨_, rfl, rfl⟩
  | many group keys => exact ⟨_, rfl, rfl⟩
  | batch entries => exact ⟨_, rfl, rfl⟩

theorem kind_of_raw (event : Event) (fields : List (Option String × Json.Raw))
    (shape : event.toJson.raw = .object fields) :
    (Json.Raw.keyed? fields).bind (Json.Raw.field? · "kind") = some (some (.string (some event.kind))) := by
  cases event with
  | single group key =>
      cases shape
      simp [Json.rawFields, Json.Raw.keyed?, Json.Raw.field?, Json.raw, kind]
  | many group keys =>
      cases shape
      simp [Json.rawFields, Json.Raw.keyed?, Json.Raw.field?, Json.raw, kind]
  | batch entries =>
      cases shape
      simp [Json.rawFields, Json.Raw.keyed?, Json.Raw.field?, Json.raw, kind]

theorem of_raw_to_json (event : Event) : ofRaw? event.toJson.raw = some event := by
  have held : event.toJson.raw.isDecodable = true ∧ event.toJson.raw.depth ≤ maxDepth :=
    ⟨Json.decodable_raw _ event.to_json_textual, Nat.le_trans event.to_json_depth (by decide)⟩
  obtain ⟨fields, shape, _⟩ := raw_to_json event
  have tagged := kind_of_raw event _ shape
  have read := of_fields_to_json event
  rw [shape] at held read
  rw [shape, ofRaw?, if_pos held]
  simp only [tagged]
  exact read

def read? (bytes : Bytes) : Option Event := (Json.Raw.ofBytes? bytes).bind ofRaw?

def written (event : Event) : Bytes := Bytes.ofText event.toJson.text

theorem of_bytes_written (event : Event) : Json.Raw.ofBytes? event.written = some event.toJson.raw :=
  Json.of_bytes_written event.toJson event.to_json_textual

theorem read_written (event : Event) : read? event.written = some event := by
  rw [read?, of_bytes_written, Option.bind_some, of_raw_to_json]

/-- What is written of an event is read back as it was, with its kind first and its fields in order. -/
theorem event_round_trip (event : Event) :
    read? event.written = some event ∧
    (∀ bytes, read? bytes = some event → ((read? bytes).map written).bind read? = read? bytes) ∧
    ((read? event.written).map written = some event.written) ∧
    ∃ fields, Json.Raw.ofBytes? event.written = some (.object ((some "kind", .string (some event.kind)) :: fields)) ∧
      fields.map (·.1) = event.fieldNames.map some := by
  refine ⟨event.read_written, ?_, ?_, ?_⟩
  · intro bytes read
    rw [read, Option.map_some, Option.bind_some, read_written]
  · rw [read_written, Option.map_some]
  · rw [of_bytes_written]
    obtain ⟨fields, shape, names⟩ := event.raw_to_json
    exact ⟨fields, congrArg some shape, names⟩

/-- An event with its kind last, and with a field that nobody asks for. -/
def rearranged : Bytes :=
  .ofText "\x7b\"entries\":[[\"g\",[\"\\u00e9\",\"é\"]],\x7b\"keys\":[],\"group\":\"g\"\x7d],\"x\":[null],\"kind\":\"batch\"\x7d"

/-- The same event as an array. -/
def listed : Bytes := .ofText "[ \"batch\", [[\"g\", [\"é\", \"\\u00E9\"]], [\"g\", []]] ]"

theorem rearranged_round_trip : let event := Event.batch [⟨"g", ["é", "é"]⟩, ⟨"g", []⟩]
    read? rearranged = some event ∧ ((read? rearranged).map written).bind read? = read? rearranged ∧
    read? listed = some event ∧ ((read? listed).map written).bind read? = read? listed := by
  intro event
  have first : read? rearranged = some event := by decide +kernel
  have second : read? listed = some event := by decide +kernel
  exact ⟨first, (event_round_trip event).2.1 _ first, second, (event_round_trip event).2.1 _ second⟩

end Event

end Coherence
