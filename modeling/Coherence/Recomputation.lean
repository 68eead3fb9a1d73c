import Std.Data.ExtTreeMap
import Coherence.Announcement
import Coherence.Snapshot

set_option autoImplicit false

namespace Coherence

open Std

-- What one channel of the store holds. A key may be present without a value.
abbrev Entries := ExtTreeMap String (Option Bytes)

inductive Reading where
  | announced (announcement : Announcement)
  | malformed (error : Error)
  | absent (key : String)

namespace Reading

def ofEntry : String × Option Bytes → Reading
  | (key, none) => .absent key
  | (key, some bytes) =>
      match Announcement.decode key bytes with
      | .ok announcement => .announced announcement
      | .error error => .malformed error

def groups : Reading → List Group
  | .announced announcement => announcement.groups.toList
  | _ => []

def error? : Reading → Option Error
  | .malformed error => some error
  | _ => none

def absent? : Reading → Option String
  | .absent key => some key
  | _ => none

end Reading

structure Recomputation where
  snapshot : Snapshot
  malformed : List Error
  absent : List String

namespace Recomputation

def readings (own : NodeId) (entries : Entries) : List Reading :=
  (entries.toList.filter (·.1 ≠ own)).map Reading.ofEntry

def ofEntries (own : NodeId) (entries : Entries) (generation : UInt64) : Recomputation :=
  let read := readings own entries
  { snapshot := { groups := ExtTreeSet.ofList (read.flatMap Reading.groups), generation }
    malformed := read.filterMap Reading.error?
    absent := read.filterMap Reading.absent? }

end Recomputation

end Coherence
