import Coherence.Reply
import Coherence.Store

set_option autoImplicit false

namespace Coherence.Store

open Std

inductive Operation where
  | put (channel : Channel) (key : String) (value : Option Bytes)
  | write (node : NodeId) (channel : Channel) (mutation : Mutation)
  | setUnreachable (node : NodeId) (on : Bool)
  | rejectKey (node : NodeId) (key : String)
  | subscribe (node : NodeId) (channel : Channel) (name : String)
  | unsubscribe (name : String)

structure Session where
  store : Store String := {}
  replicas : ExtTreeMap NodeId Replica := ∅
  held : ExtTreeMap String Handle := ∅

namespace Session

def replica (session : Session) (node : NodeId) : Replica := session.replicas[node]?.getD { node }

def setReplica (session : Session) (replica : Replica) : Session :=
  { session with replicas := session.replicas.insert replica.node replica }

def step (session : Session) : Operation → Session × Reply × List String
  | .put channel key value =>
      ({ session with store := session.store.put channel key value }, .done, session.store.audience channel)
  | .write node channel mutation =>
      let (replica, store, result) := (session.replica node).write session.store channel mutation
      let session := { session.setReplica replica with store }
      match result with
      | .ok called => (session, .done, called)
      | .error fault => (session, .fault fault, [])
  | .setUnreachable node on => (session.setReplica { session.replica node with unreachable := on }, .done, [])
  | .rejectKey node key =>
      let replica := session.replica node
      (session.setReplica { replica with rejected := replica.rejected.insert key }, .done, [])
  | .subscribe node channel name =>
      let replica := session.replica node
      match replica.subscribe session.store channel name with
      | .error fault => (session, .fault fault, [])
      | .ok (store, handle) =>
          let store := match session.held[name]? with
            | some old => store.release old
            | none => store
          ({ session with store, held := session.held.insert name handle }, .subscribed (replica.label channel), [])
  | .unsubscribe name =>
      match session.held[name]? with
      | none => (session, .flag false, [])
      | some handle =>
          ({ session with store := session.store.release handle, held := session.held.erase name }, .flag true, [])

def run (session : Session) : List Operation → Session × List String
  | [] => (session, [])
  | operation :: operations =>
      let (session, _, told) := session.step operation
      let (session, later) := session.run operations
      (session, told ++ later)

end Session

end Coherence.Store
