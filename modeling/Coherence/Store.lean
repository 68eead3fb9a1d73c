import Coherence.Fault
import Coherence.Listeners
import Coherence.Recomputation

set_option autoImplicit false

namespace Coherence

open Std

structure Store (ℓ : Type) where
  channels : ExtTreeMap Channel Entries := ∅
  listeners : ExtTreeMap Channel (Listeners ℓ) := ∅

namespace Store

structure Handle where
  channel : Channel
  id : UInt64
deriving DecidableEq

variable {ℓ : Type}

def entries (store : Store ℓ) (channel : Channel) : Entries := store.channels[channel]?.getD ∅

def put (store : Store ℓ) (channel : Channel) (key : String) (value : Option Bytes) : Store ℓ :=
  { store with channels := store.channels.insert channel ((store.entries channel).insert key value) }

def erase (store : Store ℓ) (channel : Channel) (key : String) : Store ℓ :=
  { store with channels := store.channels.modify channel (·.erase key) }

def listenersOf (store : Store ℓ) (channel : Channel) : Listeners ℓ := store.listeners[channel]?.getD {}

def audience (store : Store ℓ) (channel : Channel) : List ℓ := (store.listenersOf channel).toList

def subscribe (store : Store ℓ) (channel : Channel) (listener : ℓ) : Store ℓ × Handle :=
  let (listeners, id) := (store.listenersOf channel).add listener
  ({ store with listeners := store.listeners.insert channel listeners }, ⟨channel, id⟩)

def release (store : Store ℓ) (handle : Handle) : Store ℓ :=
  { store with listeners := store.listeners.modify handle.channel (·.remove handle.id) }

end Store

inductive Mutation where
  | set (key : String) (value : Bytes)
  | remove (key : String)

inductive Issued where
  | set (key : String)
  | remove (key : String)
deriving DecidableEq

namespace Mutation

def key : Mutation → String
  | set key _ => key
  | remove key => key

def issued : Mutation → Issued
  | set key _ => .set key
  | remove key => .remove key

end Mutation

structure Replica where
  node : NodeId
  issued : List Issued := []
  unreachable : Bool := false
  rejected : ExtTreeSet String := ∅

namespace Replica

variable {ℓ : Type}

def removals (replica : Replica) : List String :=
  replica.issued.filterMap fun
    | .remove key => some key
    | .set _ => none

def reach (replica : Replica) : Except Fault Unit :=
  if replica.unreachable then .error (.unreachable ("store replica on " ++ replica.node)) else .ok ()

def permit (replica : Replica) (key : String) : Except Fault Unit :=
  match replica.reach with
  | .error fault => .error fault
  | .ok () => if key ∈ replica.rejected then .error (.rejected ("write to " ++ key)) else .ok ()

def read (replica : Replica) (store : Store ℓ) (channel : Channel) : Except Fault Entries :=
  replica.reach.map fun _ => store.entries channel

-- Every attempt is remembered. The answer names those who are to hear of a change.
def write (replica : Replica) (store : Store ℓ) (channel : Channel) (mutation : Mutation) :
    Replica × Store ℓ × Except Fault (List ℓ) :=
  let tried := { replica with issued := replica.issued ++ [mutation.issued] }
  match replica.permit mutation.key with
  | .error fault => (tried, store, .error fault)
  | .ok () =>
      match mutation with
      | .set key value => (tried, store.put channel key (some value), .ok (store.audience channel))
      | .remove key =>
          if key ∈ store.entries channel then (tried, store.erase channel key, .ok (store.audience channel))
          else (tried, store, .ok [])

def label (replica : Replica) (channel : Channel) : String := "store:" ++ channel ++ ":" ++ replica.node

def subscribe (replica : Replica) (store : Store ℓ) (channel : Channel) (listener : ℓ) :
    Except Fault (Store ℓ × Store.Handle) :=
  replica.reach.map fun _ => store.subscribe channel listener

end Replica

end Coherence
