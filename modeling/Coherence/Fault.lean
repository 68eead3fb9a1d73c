import Coherence.Duration

set_option autoImplicit false

namespace Coherence

inductive Fault where
  | unreachable (who : String)
  | nameCollision (channel : String)
  | notRegistered (channel : String)
  | timeout (limit : Duration)
  | rejected (what : String)
deriving DecidableEq

namespace Fault

def message : Fault → String
  | unreachable who => "Collaborator unreachable: " ++ who
  | nameCollision channel => "Channel name collision: " ++ channel
  | notRegistered channel => "Channel not registered: " ++ channel
  | timeout limit => "Timed out after " ++ limit.text
  | rejected what => "Rejected: " ++ what

end Fault

end Coherence
