set_option autoImplicit false

namespace Coherence

structure Counters where
  broadcastsSent : UInt64 := 0
  broadcastsSuppressed : UInt64 := 0
  broadcastFailures : UInt64 := 0
  remoteEventsApplied : UInt64 := 0
  remoteApplyFailures : UInt64 := 0
  publishes : UInt64 := 0
  publishFailures : UInt64 := 0
  recomputations : UInt64 := 0
  malformedAnnouncements : UInt64 := 0
  prunedAnnouncements : UInt64 := 0
  pruneFailures : UInt64 := 0
deriving DecidableEq, Inhabited

inductive Counter where
  | broadcastsSent
  | broadcastsSuppressed
  | broadcastFailures
  | remoteEventsApplied
  | remoteApplyFailures
  | publishes
  | publishFailures
  | recomputations
  | malformedAnnouncements
  | prunedAnnouncements
  | pruneFailures
deriving DecidableEq

namespace Counter

def all : List Counter :=
  [broadcastsSent, broadcastsSuppressed, broadcastFailures, remoteEventsApplied, remoteApplyFailures, publishes,
    publishFailures, recomputations, malformedAnnouncements, prunedAnnouncements, pruneFailures]

def name : Counter → String
  | broadcastsSent => "broadcasts_sent"
  | broadcastsSuppressed => "broadcasts_suppressed"
  | broadcastFailures => "broadcast_failures"
  | remoteEventsApplied => "remote_events_applied"
  | remoteApplyFailures => "remote_apply_failures"
  | publishes => "publishes"
  | publishFailures => "publish_failures"
  | recomputations => "recomputations"
  | malformedAnnouncements => "malformed_announcements"
  | prunedAnnouncements => "pruned_announcements"
  | pruneFailures => "prune_failures"

def ofName? (text : String) : Option Counter := all.find? (·.name = text)

end Counter

namespace Counters

def get (counters : Counters) : Counter → UInt64
  | .broadcastsSent => counters.broadcastsSent
  | .broadcastsSuppressed => counters.broadcastsSuppressed
  | .broadcastFailures => counters.broadcastFailures
  | .remoteEventsApplied => counters.remoteEventsApplied
  | .remoteApplyFailures => counters.remoteApplyFailures
  | .publishes => counters.publishes
  | .publishFailures => counters.publishFailures
  | .recomputations => counters.recomputations
  | .malformedAnnouncements => counters.malformedAnnouncements
  | .prunedAnnouncements => counters.prunedAnnouncements
  | .pruneFailures => counters.pruneFailures

def add (counters : Counters) (counter : Counter) (n : UInt64) : Counters :=
  match counter with
  | .broadcastsSent => { counters with broadcastsSent := counters.broadcastsSent + n }
  | .broadcastsSuppressed => { counters with broadcastsSuppressed := counters.broadcastsSuppressed + n }
  | .broadcastFailures => { counters with broadcastFailures := counters.broadcastFailures + n }
  | .remoteEventsApplied => { counters with remoteEventsApplied := counters.remoteEventsApplied + n }
  | .remoteApplyFailures => { counters with remoteApplyFailures := counters.remoteApplyFailures + n }
  | .publishes => { counters with publishes := counters.publishes + n }
  | .publishFailures => { counters with publishFailures := counters.publishFailures + n }
  | .recomputations => { counters with recomputations := counters.recomputations + n }
  | .malformedAnnouncements => { counters with malformedAnnouncements := counters.malformedAnnouncements + n }
  | .prunedAnnouncements => { counters with prunedAnnouncements := counters.prunedAnnouncements + n }
  | .pruneFailures => { counters with pruneFailures := counters.pruneFailures + n }

def bump (counters : Counters) (counter : Counter) : Counters := counters.add counter 1

def values (counters : Counters) : List UInt64 := Counter.all.map counters.get

theorem get_add (counters : Counters) (counter other : Counter) (n : UInt64) :
    (counters.add counter n).get other = if counter = other then counters.get other + n else counters.get other := by
  cases counter <;> cases other <;> rfl

theorem get_bump (counters : Counters) (counter other : Counter) :
    (counters.bump counter).get other = if counter = other then counters.get other + 1 else counters.get other :=
  get_add counters counter other 1

end Counters

end Coherence
