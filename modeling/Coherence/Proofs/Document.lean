import Coherence.Proofs.Literal

set_option autoImplicit false

namespace Coherence.Json

mutual

def isTextual : Json → Bool
  | .number _ => false
  | .string _ => true
  | .array items => allTextual items
  | .object fields => allFieldsTextual fields

def allTextual : List Json → Bool
  | [] => true
  | item :: items => isTextual item && allTextual items

def allFieldsTextual : List (String × Json) → Bool
  | [] => true
  | (_, value) :: fields => isTextual value && allFieldsTextual fields

end

mutual

def raw : Json → Raw
  | .number _ => .number true
  | .string text => .string (some text)
  | .array items => .array (rawItems items)
  | .object fields => .object (rawFields fields)

def rawItems : List Json → List Raw
  | [] => []
  | item :: items => raw item :: rawItems items

def rawFields : List (String × Json) → List (Option String × Raw)
  | [] => []
  | (key, value) :: fields => (some key, raw value) :: rawFields fields

end

theorem skip_blanks_stop (b : UInt8) (rest : Bytes) (visible : Raw.isBlank b = false) :
    Raw.skipBlanks (b :: rest) = b :: rest := by
  simp [Raw.skipBlanks, visible]

theorem written_literal (text : String) (rest : Bytes) :
    written (literalChars text) ++ rest =
      '"'.toUInt8 :: (written (text.toList.flatMap escapeChar) ++ '"'.toUInt8 :: rest) := by
  have quote : String.utf8EncodeChar '"' = ['"'.toUInt8] := by decide
  simp [literalChars, quote]

theorem written_head (json : Json) (textual : json.isTextual = true) :
    ∃ b rest, written json.chars = b :: rest ∧ Raw.isBlank b = false ∧ b ≠ ']'.toUInt8 := by
  cases json with
  | number n => simp [isTextual] at textual
  | string text =>
      have shape := written_literal text []
      rw [List.append_nil] at shape
      exact ⟨_, _, by rw [chars, shape], by decide, by decide⟩
  | array items => exact ⟨'['.toUInt8, _, by rw [chars]; rfl, by decide, by decide⟩
  | object fields => exact ⟨'\x7b'.toUInt8, _, by rw [chars]; rfl, by decide, by decide⟩

theorem items_written_last (item : Json) : written (itemsChars [item]) = written item.chars := rfl

theorem items_written_more (item next : Json) (items : List Json) :
    written (itemsChars (item :: next :: items)) =
      written item.chars ++ ','.toUInt8 :: written (itemsChars (next :: items)) := by
  rw [itemsChars, written_append]
  · rfl
  · intro impossible
    cases impossible

theorem fields_written_last (key : String) (value : Json) :
    written (fieldsChars [(key, value)]) = written (literalChars key) ++ ':'.toUInt8 :: written value.chars := by
  rw [fieldsChars, written_append]
  rfl

theorem fields_written_more (key : String) (value : Json) (next : String × Json) (fields : List (String × Json)) :
    written (fieldsChars ((key, value) :: next :: fields)) =
      written (literalChars key) ++ ':'.toUInt8 ::
        (written value.chars ++ ','.toUInt8 :: written (fieldsChars (next :: fields))) := by
  rw [fieldsChars, List.append_assoc, written_append]
  · rw [List.cons_append, written_cons, written_append]
    rfl
  · intro impossible
    cases impossible

theorem items_head (item : Json) (items : List Json) (textual : item.isTextual = true) :
    ∃ b rest, written (itemsChars (item :: items)) = b :: rest ∧ Raw.isBlank b = false ∧ b ≠ ']'.toUInt8 := by
  obtain ⟨b, rest, shape, visible, notClosing⟩ := written_head item textual
  cases items with
  | nil => exact ⟨b, rest, shape, visible, notClosing⟩
  | cons next later =>
      refine ⟨b, rest ++ ','.toUInt8 :: written (itemsChars (next :: later)), ?_, visible, notClosing⟩
      rw [items_written_more, shape, List.cons_append]

theorem fields_head (key : String) (value : Json) (fields : List (String × Json)) :
    ∃ rest, written (fieldsChars ((key, value) :: fields)) = '"'.toUInt8 :: rest := by
  cases fields with
  | nil => exact ⟨_, (fields_written_last key value).trans (written_literal key _)⟩
  | cons next later => exact ⟨_, (fields_written_more key value next later).trans (written_literal key _)⟩

theorem key_written (key : String) (rest : Bytes) :
    Raw.key? (written (literalChars key) ++ ':'.toUInt8 :: rest) = some (some key, rest) := by
  rw [written_literal, Raw.key?, skip_blanks_stop _ _ (by decide)]
  simp only [if_true, literal_written]
  rw [skip_blanks_stop _ _ (by decide)]
  simp

-- Each reader gets a bound in the length of what it reads, so that the bound of a document covers every nested call.
mutual

theorem value_written (json : Json) (textual : json.isTextual = true) (rest : Bytes) (bound : Nat)
    (enough : 2 * (written json.chars).length + 1 ≤ bound) :
    Raw.value? bound (written json.chars ++ rest) = some (json.raw, rest) := by
  obtain ⟨bound, rfl⟩ : ∃ smaller, bound = smaller + 1 := ⟨bound - 1, by omega⟩
  cases json with
  | number n => simp [isTextual] at textual
  | string text =>
      rw [chars, written_literal, Raw.value?, skip_blanks_stop _ _ (by decide)]
      simp only [if_true, literal_written]
      rfl
  | array items =>
      cases items with
      | nil => rfl
      | cons item items =>
          rw [isTextual] at textual
          have first : item.isTextual = true := by
            rw [allTextual, Bool.and_eq_true] at textual
            exact textual.1
          obtain ⟨b, tail, shape, visible, notClosing⟩ := items_head item items first
          have size : (written (chars (.array (item :: items)))).length =
              (written (itemsChars (item :: items))).length + 2 := by
            rw [chars, List.cons_append, written_cons, written_append, List.length_append, List.length_append]
            have one : (String.utf8EncodeChar '[').length = 1 := by decide
            have closing : (written [']']).length = 1 := by decide
            omega
          have inner := items_written (item :: items) (by simp) textual rest bound (by omega)
          have split : written (chars (.array (item :: items))) ++ rest =
              '['.toUInt8 :: (written (itemsChars (item :: items)) ++ ']'.toUInt8 :: rest) := by
            rw [chars, List.cons_append, written_cons, written_append, List.append_assoc, List.append_assoc]
            rfl
          rw [split, Raw.value?, skip_blanks_stop _ _ (by decide)]
          simp only [show '['.toUInt8 ≠ '"'.toUInt8 by decide, if_false, if_true]
          rw [shape, List.cons_append, skip_blanks_stop _ _ visible]
          simp only [if_neg notClosing]
          rw [← List.cons_append, ← shape, inner]
          rfl
  | object fields =>
      cases fields with
      | nil => rfl
      | cons field fields =>
          obtain ⟨key, value⟩ := field
          rw [isTextual] at textual
          obtain ⟨tail, shape⟩ := fields_head key value fields
          have size : (written (chars (.object ((key, value) :: fields)))).length =
              (written (fieldsChars ((key, value) :: fields))).length + 2 := by
            rw [chars, List.cons_append, written_cons, written_append, List.length_append, List.length_append]
            have one : (String.utf8EncodeChar '\x7b').length = 1 := by decide
            have closing : (written ['\x7d']).length = 1 := by decide
            omega
          have inner := fields_written ((key, value) :: fields) (by simp) textual rest bound (by omega)
          have split : written (chars (.object ((key, value) :: fields))) ++ rest =
              '\x7b'.toUInt8 :: (written (fieldsChars ((key, value) :: fields)) ++ '\x7d'.toUInt8 :: rest) := by
            rw [chars, List.cons_append, written_cons, written_append, List.append_assoc, List.append_assoc]
            rfl
          rw [split, Raw.value?, skip_blanks_stop _ _ (by decide)]
          simp only [show '\x7b'.toUInt8 ≠ '"'.toUInt8 by decide, show '\x7b'.toUInt8 ≠ '['.toUInt8 by decide,
            if_false, if_true]
          rw [shape, List.cons_append, skip_blanks_stop _ _ (by decide)]
          simp only [show '"'.toUInt8 ≠ '\x7d'.toUInt8 by decide, if_false]
          rw [← List.cons_append, ← shape, inner]
          rfl

theorem items_written (items : List Json) (some_ : items ≠ []) (textual : allTextual items = true) (rest : Bytes)
    (bound : Nat) (enough : 2 * (written (itemsChars items)).length + 2 ≤ bound) :
    Raw.items? bound (written (itemsChars items) ++ ']'.toUInt8 :: rest) = some (rawItems items, rest) := by
  obtain ⟨bound, rfl⟩ : ∃ smaller, bound = smaller + 1 := ⟨bound - 1, by omega⟩
  match items with
  | [] => exact absurd rfl some_
  | [item] =>
      rw [allTextual, Bool.and_eq_true] at textual
      rw [items_written_last] at enough ⊢
      rw [Raw.items?, value_written item textual.1 _ bound (by omega)]
      simp only
      rw [skip_blanks_stop _ _ (by decide)]
      simp only [show ']'.toUInt8 ≠ ','.toUInt8 by decide, if_false, if_true]
      rfl
  | item :: next :: items =>
      rw [allTextual, Bool.and_eq_true] at textual
      rw [items_written_more, List.length_append, List.length_cons] at enough
      rw [items_written_more, List.append_assoc, Raw.items?, value_written item textual.1 _ bound (by omega)]
      simp only [List.cons_append]
      rw [skip_blanks_stop _ _ (by decide)]
      simp only [if_true]
      rw [items_written (next :: items) (by simp) textual.2 rest bound (by omega)]
      rfl

theorem fields_written (fields : List (String × Json)) (some_ : fields ≠ []) (textual : allFieldsTextual fields = true)
    (rest : Bytes) (bound : Nat) (enough : 2 * (written (fieldsChars fields)).length + 2 ≤ bound) :
    Raw.fields? bound (written (fieldsChars fields) ++ '\x7d'.toUInt8 :: rest) = some (rawFields fields, rest) := by
  obtain ⟨bound, rfl⟩ : ∃ smaller, bound = smaller + 1 := ⟨bound - 1, by omega⟩
  match fields with
  | [] => exact absurd rfl some_
  | [(key, value)] =>
      rw [allFieldsTextual, Bool.and_eq_true] at textual
      rw [fields_written_last, List.length_append, List.length_cons] at enough
      rw [fields_written_last, List.append_assoc, List.cons_append, Raw.fields?, key_written]
      simp only
      rw [value_written value textual.1 _ bound (by omega)]
      simp only
      rw [skip_blanks_stop _ _ (by decide)]
      simp only [show '\x7d'.toUInt8 ≠ ','.toUInt8 by decide, if_false, if_true]
      rfl
  | (key, value) :: next :: fields =>
      rw [allFieldsTextual, Bool.and_eq_true] at textual
      rw [fields_written_more, List.length_append, List.length_cons, List.length_append, List.length_cons] at enough
      rw [fields_written_more, List.append_assoc, List.cons_append, List.append_assoc, Raw.fields?, key_written]
      simp only
      rw [value_written value textual.1 _ bound (by omega)]
      simp only [List.cons_append]
      rw [skip_blanks_stop _ _ (by decide)]
      simp only [if_true]
      rw [fields_written (next :: fields) (by simp) textual.2 rest bound (by omega)]
      rfl

end

theorem of_bytes_written (json : Json) (textual : json.isTextual = true) :
    Raw.ofBytes? (Bytes.ofText json.text) = some json.raw := by
  have bytes : Bytes.ofText json.text = written json.chars := of_text_of_chars json.chars
  have read := value_written json textual [] (2 * (written json.chars).length + 2) (by omega)
  rw [List.append_nil] at read
  rw [bytes, Raw.ofBytes?, read]
  rfl

end Coherence.Json
