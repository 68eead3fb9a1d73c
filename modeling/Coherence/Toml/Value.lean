set_option autoImplicit false

namespace Coherence.Toml

inductive Value where
  | text (written : String)
  | scalar
  | dateTime
  | array (items : List Value)
  | table (fields : List (String × Value))

namespace Value

def text? : Value → Option String
  | .text written => some written
  | _ => none

def texts? : Value → Option (List String)
  | .array items => items.mapM text?
  | _ => none

def isEmpty : Value → Bool
  | .array items => items.isEmpty
  | .table fields => fields.isEmpty
  | _ => false

def variant? : Value → Option String
  | .text name => some name
  | .table [(name, value)] => if value.isEmpty then some name else none
  | _ => none

-- What has no place is ignored, and a date has none of the names.
def record? (names : List String) : Value → Option (List (Option Value))
  | .table fields => some (names.map (fields.lookup ·))
  | .array items => some (names.zipIdx.map fun (_, index) => items[index]?)
  | .dateTime => some (names.map fun _ => none)
  | _ => none

end Value

end Coherence.Toml
