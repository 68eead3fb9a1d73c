import Coherence.Json.Literal
import Coherence.Json.Number

set_option autoImplicit false

namespace Coherence.Json

-- A string literal has no text if it spells none, and a number is only told to be finite or not.
inductive Raw where
  | null
  | bool (b : Bool)
  | number (finite : Bool)
  | string (text : Option String)
  | array (items : List Raw)
  | object (fields : List (Option String × Raw))

namespace Raw

def isBlank (b : UInt8) : Bool := b = 0x20 || b = 0x09 || b = 0x0A || b = 0x0D

def skipBlanks (bytes : Bytes) : Bytes := bytes.dropWhile isBlank

def word? : List Char → Bytes → Option Bytes
  | [], rest => some rest
  | _ :: _, [] => none
  | c :: word, b :: rest => if b = c.toUInt8 then word? word rest else none

def literal? (bytes : Bytes) : Option (Option String × Bytes) :=
  (scanLiteral .plain bytes).map fun (pieces, rest) => (literalText? pieces, rest)

def key? (bytes : Bytes) : Option (Option String × Bytes) :=
  match skipBlanks bytes with
  | [] => none
  | b :: rest =>
      if b = '"'.toUInt8 then
        match literal? rest with
        | none => none
        | some (key, rest) =>
            match skipBlanks rest with
            | [] => none
            | b :: rest => if b = ':'.toUInt8 then some (key, rest) else none
      else none

mutual

def value? : Nat → Bytes → Option (Raw × Bytes)
  | 0, _ => none
  | bound + 1, bytes =>
      match skipBlanks bytes with
      | [] => none
      | b :: rest =>
          if b = '"'.toUInt8 then (literal? rest).map fun (text, rest) => (.string text, rest)
          else if b = '['.toUInt8 then
            match skipBlanks rest with
            | [] => none
            | c :: after =>
                if c = ']'.toUInt8 then some (.array [], after)
                else (items? bound rest).map fun (items, rest) => (.array items, rest)
          else if b = '\x7b'.toUInt8 then
            match skipBlanks rest with
            | [] => none
            | c :: after =>
                if c = '\x7d'.toUInt8 then some (.object [], after)
                else (fields? bound rest).map fun (fields, rest) => (.object fields, rest)
          else if b = 'n'.toUInt8 then (word? ['u', 'l', 'l'] rest).map fun rest => (.null, rest)
          else if b = 't'.toUInt8 then (word? ['r', 'u', 'e'] rest).map fun rest => (.bool true, rest)
          else if b = 'f'.toUInt8 then (word? ['a', 'l', 's', 'e'] rest).map fun rest => (.bool false, rest)
          else (Number.scan (b :: rest)).map fun (written, rest) => (.number written.isFinite, rest)

def items? : Nat → Bytes → Option (List Raw × Bytes)
  | 0, _ => none
  | bound + 1, bytes =>
      match value? bound bytes with
      | none => none
      | some (item, rest) =>
          match skipBlanks rest with
          | [] => none
          | b :: rest =>
              if b = ','.toUInt8 then (items? bound rest).map fun (items, rest) => (item :: items, rest)
              else if b = ']'.toUInt8 then some ([item], rest)
              else none

def fields? : Nat → Bytes → Option (List (Option String × Raw) × Bytes)
  | 0, _ => none
  | bound + 1, bytes =>
      match key? bytes with
      | none => none
      | some (key, rest) =>
          match value? bound rest with
          | none => none
          | some (value, rest) =>
              match skipBlanks rest with
              | [] => none
              | b :: rest =>
                  if b = ','.toUInt8 then
                    (fields? bound rest).map fun (fields, rest) => ((key, value) :: fields, rest)
                  else if b = '\x7d'.toUInt8 then some ([(key, value)], rest)
                  else none

end

-- Every second nested call consumes a byte, so the bound is never what stops a reading.
def ofBytes? (bytes : Bytes) : Option Raw :=
  match value? (2 * bytes.length + 2) bytes with
  | some (value, rest) => if skipBlanks rest = [] then some value else none
  | none => none

def text? : Raw → Option String
  | .string text => text
  | _ => none

def texts? : Raw → Option (List String)
  | .array items => items.mapM text?
  | _ => none

def variant? : Raw → Option String
  | .string text => text
  | .object [(name, .null)] => name
  | _ => none

def field? (fields : List (String × Raw)) (name : String) : Option (Option Raw) :=
  match fields.filter (·.1 = name) with
  | [] => some none
  | [(_, value)] => some (some value)
  | _ => none

def keyed? (fields : List (Option String × Raw)) : Option (List (String × Raw)) :=
  fields.mapM fun (key, value) => key.map (·, value)

-- Unknown names are skipped; an array must not be longer than the record.
def record? (names : List String) : Raw → Option (List (Option Raw))
  | .object fields => do
      let fields ← keyed? fields
      names.mapM (field? fields)
  | .array items =>
      if items.length ≤ names.length then
        some (items.map some ++ List.replicate (names.length - items.length) none)
      else none
  | _ => none

mutual

def isDecodable : Raw → Bool
  | .null => true
  | .bool _ => true
  | .number finite => finite
  | .string text => text.isSome
  | .array items => allDecodable items
  | .object fields => allFieldsDecodable fields

def allDecodable : List Raw → Bool
  | [] => true
  | item :: items => isDecodable item && allDecodable items

def allFieldsDecodable : List (Option String × Raw) → Bool
  | [] => true
  | (key, value) :: fields => key.isSome && isDecodable value && allFieldsDecodable fields

end

mutual

def depth : Raw → Nat
  | .array items => itemsDepth items + 1
  | .object fields => fieldsDepth fields + 1
  | _ => 0

def itemsDepth : List Raw → Nat
  | [] => 0
  | item :: items => max (depth item) (itemsDepth items)

def fieldsDepth : List (Option String × Raw) → Nat
  | [] => 0
  | (_, value) :: fields => max (depth value) (fieldsDepth fields)

end

end Raw

end Coherence.Json
