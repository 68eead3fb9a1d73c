import Std.Data.ExtTreeSet
import Coherence.Event

set_option autoImplicit false

namespace Coherence

open Std

structure Snapshot where
  groups : ExtTreeSet Group := ∅
  generation : UInt64 := 0

namespace Snapshot

def contains (snapshot : Snapshot) (group : Group) : Bool := snapshot.groups.contains group

def filterBatch (snapshot : Snapshot) (entries : List BatchEntry) : List BatchEntry :=
  entries.filter fun entry => !entry.keys.isEmpty && snapshot.contains entry.group

def gate (snapshot : Snapshot) : Event → Option Event
  | .single group key => if snapshot.contains group then some (.single group key) else none
  | .many group keys => if !keys.isEmpty && snapshot.contains group then some (.many group keys) else none
  | .batch entries =>
      match snapshot.filterBatch entries with
      | [] => none
      | wanted => some (.batch wanted)

def install (current next : Snapshot) : Snapshot :=
  if next.generation < current.generation then current else next

end Snapshot

end Coherence
