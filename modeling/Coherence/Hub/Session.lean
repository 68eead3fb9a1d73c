import Coherence.Hub
import Coherence.Reply

set_option autoImplicit false

namespace Coherence.Hub

open Std

inductive Operation where
  | join (node : NodeId)
  | leave (node : NodeId)
  | setUnreachable (node : NodeId) (on : Bool)
  | appoint (node : Option NodeId)
  | subscribe (node : NodeId) (channel : Channel) (name : String)
  | unsubscribe (name : String)
  | notify (members : List NodeId)

structure Session where
  hub : Hub String := {}
  held : ExtTreeMap String Handle := ∅

abbrev Told := List (String × View)

namespace Session

def tell (session : Session) (view : View) : Told := session.hub.audience.map (·, view)

def step (session : Session) : Operation → Session × Reply × Told
  | .join node =>
      let session := { session with hub := session.hub.join node }
      (session, .joined node, session.tell session.hub.view)
  | .leave node =>
      match session.hub.leave? node with
      | none => (session, .done, [])
      | some hub =>
          let session := { session with hub }
          (session, .done, session.tell hub.view)
  | .setUnreachable node on => ({ session with hub := session.hub.setUnreachable node on }, .done, [])
  | .appoint node => ({ session with hub := session.hub.appoint node }, .done, [])
  | .subscribe node channel name =>
      let (hub, handle) := session.hub.subscribe node name
      let hub := match session.held[name]? with
        | some old => hub.release old
        | none => hub
      ({ hub, held := session.held.insert name handle }, .subscribed (label channel), [])
  | .unsubscribe name =>
      match session.held[name]? with
      | none => (session, .flag false, [])
      | some handle => ({ hub := session.hub.release handle, held := session.held.erase name }, .flag true, [])
  | .notify members => (session, .done, session.tell (View.ofList members))

def run (session : Session) : List Operation → Session × Told
  | [] => (session, [])
  | operation :: operations =>
      let (session, _, told) := session.step operation
      let (session, later) := session.run operations
      (session, told ++ later)

end Session

end Coherence.Hub
