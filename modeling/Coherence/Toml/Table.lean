import Coherence.Toml.Value

set_option autoImplicit false

namespace Coherence.Toml

-- A table is implicit if it was only passed on the way to another one, and dotted if that was in a key.
inductive Item where
  | value (written : Value)
  | table (implicit dotted : Bool) (fields : List (String × Item))
  | tables (elements : List (List (String × Item)))

abbrev Fields := List (String × Item)

namespace Item

mutual

def toValue : Item → Value
  | .value written => written
  | .table _ _ fields => .table (fieldValues fields)
  | .tables elements => .array (elementValues elements)

def fieldValues : List (String × Item) → List (String × Value)
  | [] => []
  | (key, item) :: fields => (key, item.toValue) :: fieldValues fields

def elementValues : List (List (String × Item)) → List Value
  | [] => []
  | fields :: elements => .table (fieldValues fields) :: elementValues elements

end

end Item

namespace Fields

def replace (fields : Fields) (key : String) (item : Item) : Fields :=
  fields.map fun field => if field.1 = key then (key, item) else field

-- Missing tables are made, of several the last is meant, and a dotted path does not go through one with a header.
def descend (dotted : Bool) (change : Bool → Fields → Option Fields) :
    List String → Bool → Fields → Option Fields
  | [], own, fields => change own fields
  | key :: path, _, fields =>
      match fields.lookup key with
      | none => (descend dotted change path dotted []).map fun inner => fields ++ [(key, .table true dotted inner)]
      | some (.value _) => none
      | some (.table implicit own inner) =>
          if dotted && !implicit then none
          else (descend dotted change path own inner).map fun inner => fields.replace key (.table implicit own inner)
      | some (.tables elements) =>
          match elements.getLast? with
          | none => none
          | some last =>
              (descend dotted change path false last).map fun inner =>
                fields.replace key (.tables (elements.dropLast ++ [inner]))

end Fields

structure Pair where
  path : List String
  key : String
  value : Value

namespace Pair

def insert? (fields : Fields) (pair : Pair) : Option Fields :=
  let change (own : Bool) (inner : Fields) : Option Fields :=
    if own = pair.path.isEmpty || (inner.lookup pair.key).isSome then none
    else some (inner ++ [(pair.key, .value pair.value)])
  fields.descend true change pair.path false

def insertAll? (fields : Fields) : List Pair → Option Fields
  | [] => some fields
  | pair :: pairs => (insert? fields pair).bind (insertAll? · pairs)

def inline? (pairs : List Pair) : Option Value :=
  (insertAll? [] pairs).map fun fields => .table (Item.fieldValues fields)

end Pair

-- The header of a table appears once; that of an element of an array appends one.
structure Section where
  path : List String
  key : String
  isElement : Bool
  pairs : List Pair

namespace Section

def insert? (root : Fields) (part : Section) : Option Fields :=
  let change (_ : Bool) (parent : Fields) : Option Fields :=
    match part.isElement, parent.lookup part.key with
    | false, none =>
        (Pair.insertAll? [] part.pairs).map fun fields => parent ++ [(part.key, .table false false fields)]
    | false, some (.table true false inner) =>
        (Pair.insertAll? inner part.pairs).map fun fields => parent.replace part.key (.table false false fields)
    | true, none => (Pair.insertAll? [] part.pairs).map fun fields => parent ++ [(part.key, .tables [fields])]
    | true, some (.tables elements) =>
        (Pair.insertAll? [] part.pairs).map fun fields => parent.replace part.key (.tables (elements ++ [fields]))
    | _, _ => none
  root.descend false change part.path false

def insertAll? (root : Fields) : List Section → Option Fields
  | [] => some root
  | part :: parts => (insert? root part).bind (insertAll? · parts)

end Section

end Coherence.Toml
