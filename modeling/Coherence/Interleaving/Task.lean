import Coherence.Node
import Coherence.Service

set_option autoImplicit false

namespace Coherence.Interleaving

-- The locks of one bridge: one lets it start or stop, the other lets it write its announcement.
inductive Lock where
  | lifecycle (k : Incarnation)
  | publishing (k : Incarnation)
deriving DecidableEq

inductive Writing where
  | announcing
  | withdrawing
  | sweeping (owner : NodeId)

inductive Inquiry where
  | recomputing (generation : UInt64)
  | sweeping (view : View)

inductive Work where
  | start
  | admission
  | stop
  | endStop
  | publish
  | write (mutation : Mutation) (writing : Writing)
  | written (writing : Writing) (result : Except Fault Unit)
  | recompute
  | read (reading : Inquiry)
  | entries (reading : Inquiry) (result : Except Fault Entries)
  | storeChanged
  | groupsChanged
  | membershipChanged (view : View)
  | primaryCheck (view : View)
  | invalidated (event : Event) (mode : Mode)
  | send (event : Event) (mode : Mode) (answering : Bool)
  | broadcast (event : Event) (mode : Mode) (answering : Bool)
  | conclude (event : Event) (result : Except Fault Unit) (answering : Bool)
  | apply (event : Event)

inductive Action where
  | acquire (lock : Lock)
  | release (lock : Lock)
  | pass (k : Incarnation) (service : Service)
  | work (k : Incarnation) (work : Work)
  | tellCircle (circle : NodeId × Nat) (view : View)
  | install (id : NodeId)
  | answer (reply : Reply)
  | sleep

structure Task where
  request : Option Nat := none
  keeps : Option Incarnation := none
  agenda : List Action

namespace Action

def publishing (k : Incarnation) : List Action :=
  [.acquire (.publishing k), .work k .publish, .release (.publishing k)]

def writing (k : Incarnation) (mutation : Mutation) (why : Writing) : List Action :=
  [.pass k (.ofMutation mutation), .work k (.write mutation why)]

def reading (k : Incarnation) (why : Inquiry) : List Action := [.pass k .getAll, .work k (.read why)]

def receiving (k : Incarnation) (event : Event) : List Action := [.pass k .apply, .work k (.apply event)]

end Action

end Coherence.Interleaving
