import Coherence.Store

set_option autoImplicit false

namespace Coherence

inductive Service where
  | currentMembers
  | set
  | remove
  | getAll
  | getAllAfter
  | broadcast
  | apply
  | membershipSubscribe
  | storeSubscribe
  | registrySubscribe
  | register
  | unregister
deriving DecidableEq

namespace Service

def name : Service → String
  | currentMembers => "current_members"
  | set => "set"
  | remove => "remove"
  | getAll => "get_all"
  | getAllAfter => "get_all_after"
  | broadcast => "broadcast"
  | apply => "apply"
  | membershipSubscribe => "membership_subscribe"
  | storeSubscribe => "store_subscribe"
  | registrySubscribe => "registry_subscribe"
  | register => "register"
  | unregister => "unregister"

def all : List Service :=
  [currentMembers, set, remove, getAll, getAllAfter, broadcast, apply, membershipSubscribe, storeSubscribe,
    registrySubscribe, register, unregister]

def ofName? (text : String) : Option Service := all.find? (·.name = text)

def ofMutation : Mutation → Service
  | .set .. => set
  | .remove _ => remove

def refusal (service : Service) : Fault := .rejected service.name

def attempt {α : Type} (refused : Service → Bool) (service : Service) (real : Except Fault α) : Except Fault α :=
  if refused service then .error service.refusal else real

def granted (_ : Service) : Bool := false

end Service

end Coherence
