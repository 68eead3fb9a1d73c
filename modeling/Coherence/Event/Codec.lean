import Coherence.Event
import Coherence.Json.Raw
import Coherence.Json.Writer

set_option autoImplicit false

namespace Coherence

namespace BatchEntry

def toJson (entry : BatchEntry) : Json :=
  .object [("group", .string entry.group), ("keys", Json.strings entry.keys)]

def ofRaw? (raw : Json.Raw) : Option BatchEntry :=
  match raw.record? ["group", "keys"] with
  | some [some group, some keys] => do
      let group ← group.text?
      let keys ← keys.texts?
      some ⟨group, keys⟩
  | _ => none

end BatchEntry

namespace Event

def toJson : Event → Json
  | single group key => .object [("kind", .string "single"), ("group", .string group), ("key", .string key)]
  | many group keys => .object [("kind", .string "many"), ("group", .string group), ("keys", Json.strings keys)]
  | batch entries => .object [("kind", .string "batch"), ("entries", .array (entries.map BatchEntry.toJson))]

def entries? : Json.Raw → Option (List BatchEntry)
  | .array items => items.mapM BatchEntry.ofRaw?
  | _ => none

def ofFields? (kind : String) (raw : Json.Raw) : Option Event :=
  if kind = "single" then
    match raw.record? ["group", "key"] with
    | some [some group, some key] => do
        let group ← group.text?
        let key ← key.text?
        some (.single group key)
    | _ => none
  else if kind = "many" then
    match raw.record? ["group", "keys"] with
    | some [some group, some keys] => do
        let group ← group.text?
        let keys ← keys.texts?
        some (.many group keys)
    | _ => none
  else if kind = "batch" then
    match raw.record? ["entries"] with
    | some [some entries] => (entries? entries).map .batch
    | _ => none
  else none

-- An event is held whole before its kind is known, so all of it must be decodable and not too deep.
def maxDepth : Nat := 127

-- The kind is a field that may stand anywhere in an object, or the first item of an array.
def ofRaw? (raw : Json.Raw) : Option Event :=
  if raw.isDecodable ∧ raw.depth ≤ maxDepth then
    match raw with
    | .object fields =>
        match (Json.Raw.keyed? fields).bind (Json.Raw.field? · "kind") with
        | some (some kind) => do
            let kind ← kind.text?
            ofFields? kind raw
        | _ => none
    | .array (kind :: rest) => do
        let kind ← kind.text?
        ofFields? kind (.array rest)
    | _ => none
  else none

end Event

end Coherence
