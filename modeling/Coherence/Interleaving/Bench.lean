import Coherence.Cluster.Enrolment
import Coherence.Interleaving.Task

set_option autoImplicit false

namespace Coherence.Interleaving

open Std

-- Tasks run one at a time, in the order in which they became ready, and a lock goes to whoever waits longest.
structure Bench where
  cluster : Cluster := {}
  tasks : ExtTreeMap Nat Task := ∅
  spawned : Nat := 0
  ready : List Nat := []
  locks : List (Lock × List Nat) := []
  holds : List (Incarnation × Service) := []
  parked : List ((Incarnation × Service) × Nat) := []
  refusals : List (Incarnation × Service) := []
  doomed : List Incarnation := []
  answered : ExtTreeMap Nat Reply := ∅

namespace Bench

def refused (bench : Bench) (k : Incarnation) (service : Service) : Bool := (k, service) ∈ bench.refusals

def withCluster (bench : Bench) (cluster : Cluster) : Bench := { bench with cluster }

def amend (bench : Bench) (k : Incarnation) (change : Node → Node × Log) : Bench :=
  bench.withCluster (bench.cluster.amend k change)

def note (bench : Bench) (k : Incarnation) (entry : LogEntry) : Bench :=
  bench.withCluster (bench.cluster.note k [entry])

def setTask (bench : Bench) (id : Nat) (task : Task) : Bench := { bench with tasks := bench.tasks.insert id task }

def spawn (bench : Bench) (task : Task) : Bench :=
  { bench with
    tasks := bench.tasks.insert bench.spawned task
    ready := bench.ready ++ [bench.spawned]
    spawned := bench.spawned + 1 }

def wake (bench : Bench) (task : Nat) : Bench := { bench with ready := bench.ready ++ [task] }

def acquire (bench : Bench) (task : Nat) (lock : Lock) : Bench × Bool :=
  if bench.locks.any (·.1 = lock) then
    let locks := bench.locks.map fun (held, line) => if held = lock then (held, line ++ [task]) else (held, line)
    ({ bench with locks }, false)
  else ({ bench with locks := (lock, []) :: bench.locks }, true)

def release (bench : Bench) (lock : Lock) : Bench :=
  match bench.locks.find? (·.1 = lock) with
  | some (_, next :: line) =>
      let locks := bench.locks.map fun (held, old) => if held = lock then (held, line) else (held, old)
      { bench with locks }.wake next
  | _ => { bench with locks := bench.locks.filter (·.1 ≠ lock) }

-- Go on with a call, or park there if it is held: each hold stops one call.
def pass (bench : Bench) (task : Nat) (place : Incarnation × Service) : Bench × Bool :=
  if place ∈ bench.holds then
    ({ bench with holds := bench.holds.erase place, parked := bench.parked ++ [(place, task)] }, false)
  else (bench, true)

def unpark (bench : Bench) (place : Incarnation × Service) : Bench × Bool :=
  match bench.parked.find? (·.1 = place) with
  | none => (bench, false)
  | some entry => ({ bench with parked := bench.parked.filter (·.2 ≠ entry.2) }.wake entry.2, true)

def isKept (bench : Bench) (k : Incarnation) : Bool := bench.tasks.values.any (·.keeps = some k)

def bury (bench : Bench) : Bench :=
  let (kept, free) := bench.doomed.partition bench.isKept
  let discard (bench : Bench) (k : Incarnation) := bench.withCluster (bench.cluster.discard (bench.refused k) k)
  free.foldl discard { bench with doomed := kept }

def finish (bench : Bench) (task : Nat) : Bench := { bench with tasks := bench.tasks.erase task }.bury

-- A node goes at once, its bridge as soon as no task keeps it.
def lose (bench : Bench) (id : NodeId) (k : Incarnation) : Bench :=
  { bench with
    cluster := { bench.cluster with current := bench.cluster.current.erase id }
    doomed := bench.doomed ++ [k] }.bury

def waiting (bench : Bench) : List Nat := bench.tasks.values.filterMap (·.request)

end Bench

end Coherence.Interleaving
