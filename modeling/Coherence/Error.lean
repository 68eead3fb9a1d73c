import Coherence.Fault
import Coherence.Lifecycle
import Coherence.NodeId
import Coherence.Text.Quoted

set_option autoImplicit false

namespace Coherence

inductive Stage where
  | membership
  | registration
  | registrySubscription
  | storeSubscription
  | membershipSubscription
deriving DecidableEq

namespace Stage

def label : Stage → String
  | membership => "membership check"
  | registration => "rpc handler registration"
  | registrySubscription => "local registry subscription"
  | storeSubscription => "announcement store subscription"
  | membershipSubscription => "membership subscription"

end Stage

inductive Malformation where
  | invalidKey
  | unreadable
  | foreignOwner (owner : NodeId)
deriving DecidableEq

namespace Malformation

def reason : Malformation → String
  | invalidKey => "invalid node id"
  | unreadable => "<json>"
  | foreignOwner owner => "owner " ++ owner ++ " does not match store key"

end Malformation

inductive ConfigFault where
  | blankChannel
  | unreadableFile (path : String) (cause : String)
  | malformed
deriving DecidableEq

namespace ConfigFault

def message : ConfigFault → String
  | blankChannel => "channel_name must not be empty"
  | unreadableFile path cause => path ++ ": " ++ cause
  | malformed => "<toml>"

end ConfigFault

inductive Error where
  | startup (stage : Stage) (source : Fault)
  | publish (source : Fault)
  | broadcast (groups : List Group) (source : Fault)
  | cleanup (node : NodeId) (source : Fault)
  | malformed (key : String) (why : Malformation)
  | invalidState (state : Lifecycle) (operation : String)
  | config (why : ConfigFault)
deriving DecidableEq

namespace Error

def malformedMessage (key reason : String) : String :=
  "Malformed announcement under key " ++ Text.quoted key ++ ": " ++ reason

def configMessage (text : String) : String := "Configuration error: " ++ text

def message : Error → String
  | startup stage source => "Bridge startup failed at " ++ stage.label ++ ": " ++ source.message
  | publish source => "Announcement publish failed: " ++ source.message
  | broadcast groups source =>
      "Invalidation broadcast failed for " ++ Text.quotedList groups ++ ": " ++ source.message
  | cleanup node source => "Cleanup of announcement for " ++ node ++ " failed: " ++ source.message
  | malformed key why => malformedMessage key why.reason
  | invalidState state operation => "Cannot " ++ operation ++ " while bridge is " ++ state.label
  | config why => configMessage why.message

end Error

end Coherence
