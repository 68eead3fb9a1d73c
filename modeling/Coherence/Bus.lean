import Std.Data.ExtTreeMap
import Std.Data.ExtTreeSet
import Coherence.Event
import Coherence.Fault

set_option autoImplicit false

namespace Coherence

open Std

structure Call where
  sender : NodeId
  channel : Channel
  event : Event
  mode : Mode
  targets : List NodeId

structure Delivery (η : Type) where
  id : Nat
  handler : η
  event : Event
  delay : Nat

-- Time moves only while someone waits. Deliveries that nobody waited for stand in a queue; those that
-- sleep stand under the time they are due.
structure Bus (η : Type) where
  handlers : ExtTreeMap Channel (ExtTreeMap NodeId η) := ∅
  unreachable : ExtTreeSet NodeId := ∅
  delays : ExtTreeMap NodeId Nat := ∅
  sent : List Call := []
  timeout : Nat := 5000
  now : Nat := 0
  queue : List (Delivery η) := []
  timers : List (Nat × Delivery η) := []
  pending : List Nat := []
  numbered : Nat := 0

namespace Bus

variable {η : Type}

def handlersOn (bus : Bus η) (channel : Channel) : ExtTreeMap NodeId η := bus.handlers[channel]?.getD ∅

def isRegistered (bus : Bus η) (channel : Channel) (node : NodeId) : Bool := (bus.handlersOn channel).contains node

def register (bus : Bus η) (channel : Channel) (node : NodeId) (handler : η) : Except Fault (Bus η) :=
  if bus.isRegistered channel node then .error (.nameCollision channel)
  else .ok { bus with handlers := bus.handlers.insert channel ((bus.handlersOn channel).insert node handler) }

def unregister (bus : Bus η) (channel : Channel) (node : NodeId) : Except Fault (Bus η) :=
  if bus.isRegistered channel node then
    .ok { bus with handlers := bus.handlers.modify channel (·.erase node) }
  else .error (.notRegistered channel)

def setUnreachable (bus : Bus η) (node : NodeId) (on : Bool) : Bus η :=
  { bus with unreachable := if on then bus.unreachable.insert node else bus.unreachable.erase node }

def setDelay (bus : Bus η) (node : NodeId) (delay : Nat) : Bus η :=
  { bus with delays := bus.delays.insert node delay }

def delayOf (bus : Bus η) (node : NodeId) : Nat := bus.delays[node]?.getD 0

def targets (bus : Bus η) (channel : Channel) (sender : NodeId) : List (NodeId × η) :=
  (bus.handlersOn channel).toList.filter (·.1 ≠ sender)

def sentBy (bus : Bus η) (node : NodeId) : List Call := bus.sent.filter (·.sender = node)

def insertTimer (due : Nat) (delivery : Delivery η) : List (Nat × Delivery η) → List (Nat × Delivery η)
  | [] => [(due, delivery)]
  | timer :: timers =>
      if timer.1 ≤ due then timer :: insertTimer due delivery timers else (due, delivery) :: timer :: timers

def runQueue (now : Nat) (timers : List (Nat × Delivery η)) :
    List (Delivery η) → List (Nat × Delivery η) × List (Delivery η)
  | [] => (timers, [])
  | delivery :: queue =>
      if 0 < delivery.delay then
        runQueue now (insertTimer (now + delivery.delay) { delivery with delay := 0 } timers) queue
      else
        let (timers, arrived) := runQueue now timers queue
        (timers, delivery :: arrived)

-- Those that are due at that very time are woken, but run only at the next wait.
def waitUntil (bus : Bus η) (time : Nat) : Bus η × List (Delivery η) :=
  let (timers, arrived) := runQueue bus.now bus.timers bus.queue
  let early := timers.filter (·.1 < time)
  let onTime := timers.filter (·.1 = time)
  let late := timers.filter (time < ·.1)
  ({ bus with now := time, queue := onTime.map (·.2), timers := late }, arrived ++ early.map (·.2))

def advance (bus : Bus η) (millis : Nat) : Bus η × List (Delivery η) :=
  if millis = 0 then (bus, []) else bus.waitUntil (bus.now + millis)

def flush (bus : Bus η) : Bus η × List (Delivery η) :=
  let (timers, arrived) := runQueue bus.now bus.timers bus.queue
  let now := timers.foldl (fun now timer => max now timer.1) bus.now
  ({ bus with now, queue := [], timers := [], pending := [] }, arrived ++ timers.map (·.2))

def isUnfinished (bus : Bus η) (id : Nat) : Bool :=
  bus.queue.any (·.id = id) || bus.timers.any (·.2.id = id)

def spawn (bus : Bus η) (delivery : Delivery η) : Bus η :=
  { bus with
    queue := bus.queue ++ [delivery]
    pending := bus.pending.filter bus.isUnfinished ++ [delivery.id] }

def deliver (bus : Bus η) (delivery : Delivery η) : Bus η × List (Delivery η) × Except Fault Unit :=
  if delivery.delay = 0 then (bus, [delivery], .ok ())
  else
    let (bus, arrived) := bus.advance (min delivery.delay bus.timeout)
    if delivery.delay ≤ bus.timeout then (bus, arrived ++ [delivery], .ok ())
    else (bus, arrived, .error (.timeout (.ofMillis bus.timeout)))

def sendTo (bus : Bus η) (event : Event) (mode : Mode) (target : NodeId × η) :
    Bus η × List (Delivery η) × Except Fault Unit :=
  let delivery := ⟨bus.numbered, target.2, event, bus.delayOf target.1⟩
  let bus := { bus with numbered := bus.numbered + 1 }
  if target.1 ∈ bus.unreachable then (bus, [], .error (.unreachable target.1))
  else
    match mode with
    | .sync => bus.deliver delivery
    | .async => (bus.spawn delivery, [], .ok ())

def sendAll (bus : Bus η) (event : Event) (mode : Mode) :
    List (NodeId × η) → Bus η × List (Delivery η) × Except Fault Unit
  | [] => (bus, [], .ok ())
  | target :: targets =>
      let (bus, here, first) := bus.sendTo event mode target
      let (bus, there, later) := bus.sendAll event mode targets
      (bus, here ++ there, match first with
        | .error fault => .error fault
        | .ok () => later)

def record (bus : Bus η) (call : Call) : Bus η := { bus with sent := bus.sent ++ [call] }

def broadcast (bus : Bus η) (sender : NodeId) (channel : Channel) (event : Event) (mode : Mode) :
    Bus η × List (Delivery η) × Except Fault Unit :=
  let targets := bus.targets channel sender
  let (bus, arrived, result) :=
    (bus.record ⟨sender, channel, event, mode, targets.map (·.1)⟩).sendAll event mode targets
  (bus, arrived, match mode with
    | .sync => result
    | .async => .ok ())

end Bus

end Coherence
