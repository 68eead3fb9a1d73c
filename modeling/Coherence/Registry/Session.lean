import Coherence.Registry
import Coherence.Reply

set_option autoImplicit false

namespace Coherence.Registry

open Std

inductive Operation where
  | createGroup (group : Group)
  | dropGroup (group : Group)
  | put (group : Group) (key : Key)
  | invalidate (event : Event) (mode : Mode)
  | apply (event : Event)
  | setRejecting (on : Bool)
  | subscribe (name : String)
  | unsubscribe (name : String)

structure Session where
  registry : Registry String := {}
  held : ExtTreeMap String UInt64 := ∅

namespace Session

def tell (session : Session) (notice : Notice) : List (String × Notice) := session.registry.audience.map (·, notice)

def step (session : Session) : Operation → Session × Reply × List (String × Notice)
  | .createGroup group =>
      match session.registry.createGroup? group with
      | none => (session, .done, [])
      | some registry => ({ session with registry }, .done, session.tell (.created group))
  | .dropGroup group =>
      match session.registry.dropGroup? group with
      | none => (session, .done, [])
      | some registry => ({ session with registry }, .done, session.tell (.dropped group))
  | .put group key =>
      match session.registry.put? group key with
      | none => (session, .flag false, [])
      | some registry => ({ session with registry }, .flag true, [])
  | .invalidate event mode =>
      ({ session with registry := session.registry.evict event }, .done, session.tell (.invalidated event mode))
  | .apply event =>
      let (registry, result) := session.registry.apply event
      ({ session with registry }, .ofFault result, [])
  | .setRejecting on => ({ session with registry := { session.registry with rejecting := on } }, .done, [])
  | .subscribe name =>
      let (registry, id) := session.registry.subscribe name
      let registry := match session.held[name]? with
        | some old => registry.release old
        | none => registry
      ({ registry, held := session.held.insert name id }, .subscribed label, [])
  | .unsubscribe name =>
      match session.held[name]? with
      | none => (session, .flag false, [])
      | some id => ({ registry := session.registry.release id, held := session.held.erase name }, .flag true, [])

def run (session : Session) : List Operation → Session × List (String × Notice)
  | [] => (session, [])
  | operation :: operations =>
      let (session, _, told) := session.step operation
      let (session, later) := session.run operations
      (session, told ++ later)

end Session

end Coherence.Registry
