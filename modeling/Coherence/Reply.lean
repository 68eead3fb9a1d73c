import Coherence.Config
import Coherence.Error
import Coherence.Store

set_option autoImplicit false

namespace Coherence

inductive Outcome where
  | suppressed
  | sent
  | failed
deriving DecidableEq

namespace Outcome

def name : Outcome → String
  | suppressed => "suppressed"
  | sent => "sent"
  | failed => "failed"

def attempted (outcome : Outcome) : Bool := outcome ≠ suppressed

end Outcome

inductive Reply where
  | done
  | flag (value : Bool)
  | joined (node : NodeId)
  | added (node : NodeId) (config : Config)
  | subscribed (label : String)
  | outcome (what : Outcome)
  | issued (mutations : List Issued)
  | fault (why : Fault)
  | error (why : Error)
  | noSuchNode

namespace Reply

def ofFault : Except Fault Unit → Reply
  | .ok () => .done
  | .error why => .fault why

def ofError : Except Error Unit → Reply
  | .ok () => .done
  | .error why => .error why

end Reply

end Coherence
