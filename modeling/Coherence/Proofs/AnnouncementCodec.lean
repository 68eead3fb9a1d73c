import Coherence.Announcement
import Coherence.Proofs.Document

set_option autoImplicit false

namespace Coherence

open Std

namespace Json

theorem strings_textual (texts : List String) : (strings texts).isTextual = true := by
  rw [strings, isTextual]
  induction texts with
  | nil => rfl
  | cons text texts ih => simpa [allTextual, isTextual] using ih

theorem strings_raw (texts : List String) : (strings texts).raw = .array (texts.map fun text => .string (some text)) := by
  rw [strings, raw]
  congr 1
  induction texts with
  | nil => rfl
  | cons text texts ih => simpa [rawItems, raw] using ih

theorem texts_of_strings (texts : List String) : (strings texts).raw.texts? = some texts := by
  rw [strings_raw, Raw.texts?]
  induction texts with
  | nil => rfl
  | cons text texts ih => simp [Raw.text?, ih]

end Json

namespace Announcement

theorem to_json_textual (announcement : Announcement) : announcement.toJson.isTextual = true := by
  simp [toJson, Json.isTextual, Json.allFieldsTextual, Json.strings_textual]

theorem of_list_to_list (groups : ExtTreeSet Group) : ExtTreeSet.ofList groups.toList = groups := by
  apply ExtTreeSet.ext_mem
  intro group
  simp [ExtTreeSet.mem_ofList]

theorem of_raw_to_json (announcement : Announcement) : ofRaw? announcement.toJson.raw = some announcement := by
  have fields : announcement.toJson.raw.record? ["owner", "groups"] =
      some [some (.string (some announcement.owner)), some (Json.strings announcement.groups.toList).raw] := by
    simp [toJson, Json.raw, Json.rawFields, Json.Raw.record?, Json.Raw.keyed?, Json.Raw.field?]
  rw [ofRaw?, fields]
  simp [Json.Raw.text?, Json.texts_of_strings, of_list_to_list]

theorem read_encoded (announcement : Announcement) :
    (Json.Raw.ofBytes? announcement.encode).bind ofRaw? = some announcement := by
  rw [encode, Json.of_bytes_written _ (to_json_textual announcement), Option.bind_some, of_raw_to_json]

theorem decode_encode (owner : NodeId) (groups : ExtTreeSet Group) (trimmed : Text.isTrimmed owner = true) :
    decode owner (encode ⟨owner, groups⟩) = .ok ⟨owner, groups⟩ := by
  have named : NodeId.ofKey? owner = some owner := NodeId.ofKey?_eq_some_iff.mpr ⟨trimmed, rfl⟩
  rw [decode, named]
  simp only [read_encoded, if_true]

theorem decode_encode_invalid (announcement : Announcement) (key : String) (invalid : NodeId.ofKey? key = none) :
    decode key announcement.encode = .error (.malformed key .invalidKey) := by
  rw [decode, invalid]

theorem decode_encode_foreign (announcement : Announcement) (key : String) (trimmed : Text.isTrimmed key = true)
    (foreign : announcement.owner ≠ key) :
    decode key announcement.encode = .error (.malformed key (.foreignOwner announcement.owner)) := by
  have named : NodeId.ofKey? key = some key := NodeId.ofKey?_eq_some_iff.mpr ⟨trimmed, rfl⟩
  rw [decode, named]
  simp only [read_encoded, if_neg foreign]

theorem encode_injective (first second : Announcement) (same : first.encode = second.encode) : first = second := by
  have read := congrArg (fun bytes => (Json.Raw.ofBytes? bytes).bind ofRaw?) same
  simpa only [read_encoded, Option.some.injEq] using read

/-- An announcement is read back under its owner's name, if that is fit for a key, and refused under any other key. -/
theorem announcement_round_trip (owner : NodeId) (groups : ExtTreeSet Group) (key : String) :
    let bytes := encode ⟨owner, groups⟩
    (∀ node, NodeId.ofKey? key = some node → key = owner → decode key bytes = .ok ⟨owner, groups⟩) ∧
    (NodeId.ofKey? key = none → decode key bytes = .error (.malformed key .invalidKey)) ∧
    (∀ node, NodeId.ofKey? key = some node → key ≠ owner →
      decode key bytes = .error (.malformed key (.foreignOwner owner))) ∧
    Malformation.invalidKey.reason = "invalid node id" ∧
    (Malformation.foreignOwner owner).reason = "owner " ++ owner ++ " does not match store key" ∧
    ∀ other : Announcement, other.encode = bytes → other = ⟨owner, groups⟩ := by
  refine ⟨?_, decode_encode_invalid _ key, ?_, rfl, rfl, fun other => encode_injective other _⟩
  · rintro node named rfl
    exact decode_encode key groups (NodeId.ofKey?_eq_some_iff.mp named).1
  · intro node named foreign
    exact decode_encode_foreign ⟨owner, groups⟩ key (NodeId.ofKey?_eq_some_iff.mp named).1 (Ne.symm foreign)

theorem quoted_round_trip : let groups := ExtTreeSet.ofList ["", "\"\\", "é\n\t\x01", "𝔸"]
    decode "a \"b\"" (encode ⟨"a \"b\"", groups⟩) = .ok ⟨"a \"b\"", groups⟩ ∧
    decode " a" (encode ⟨" a", groups⟩) = .error (.malformed " a" .invalidKey) ∧
    decode "b" (encode ⟨"a \"b\"", groups⟩) = .error (.malformed "b" (.foreignOwner "a \"b\"")) := by
  intro groups
  refine ⟨?_, ?_, ?_⟩
  · exact (announcement_round_trip "a \"b\"" groups "a \"b\"").1 _ (by decide : _ = some "a \"b\"") rfl
  · exact (announcement_round_trip " a" groups " a").2.1 (by decide)
  · exact (announcement_round_trip "a \"b\"" groups "b").2.2.1 _ (by decide : _ = some "b") (by decide)

end Announcement

end Coherence
