import Coherence.NodeId

set_option autoImplicit false

namespace Coherence

structure BatchEntry where
  group : Group
  keys : List Key
deriving DecidableEq

inductive Event where
  | single (group : Group) (key : Key)
  | many (group : Group) (keys : List Key)
  | batch (entries : List BatchEntry)
deriving DecidableEq

inductive Mode where
  | sync
  | async
deriving DecidableEq

namespace Mode

def name : Mode → String
  | sync => "sync"
  | async => "async"

def ofName? (text : String) : Option Mode := [sync, async].find? (·.name = text)

def standard : Mode := async

end Mode

namespace BatchEntry

def pairs (entry : BatchEntry) : List (Group × Key) := entry.keys.map (entry.group, ·)

end BatchEntry

namespace Event

def method : Event → String
  | single .. => "invalidate_one"
  | many .. => "invalidate_many"
  | batch _ => "invalidate_batch"

def groups : Event → List Group
  | single group _ => [group]
  | many group _ => [group]
  | batch entries => entries.map (·.group)

def pairs : Event → List (Group × Key)
  | single group key => [(group, key)]
  | many group keys => keys.map (group, ·)
  | batch entries => entries.flatMap BatchEntry.pairs

def keyCount (event : Event) : Nat := event.pairs.length

end Event

end Coherence
