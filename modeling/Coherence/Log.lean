import Coherence.Error

set_option autoImplicit false

namespace Coherence

inductive LogEntry where
  | startupFailed (error : Error)
  | rollbackFailed (fault : Fault)
  | unregisterFailed (fault : Fault)
  | withdrawFailed (error : Error)
  | droppedWhileActive
  | dropUnregisterFailed (fault : Fault)
  | publishFailed (error : Error)
  | readFailed (fault : Fault)
  | malformedSkipped (error : Error)
  | primaryCheckFailed (fault : Fault)
  | sweepReadFailed (fault : Fault)
  | sweepFailed (error : Error)
  | broadcastDropped (error : Error)
  | remoteRejected (fault : Fault)
deriving DecidableEq

abbrev Log := List LogEntry

namespace LogEntry

def line (level message cause : String) : String := level ++ " [bridge] " ++ message ++ " error=" ++ cause

def text : LogEntry → String
  | startupFailed error => line "ERROR" "Startup failed" error.message
  | rollbackFailed fault => line "WARN" "Rollback could not unregister RPC handler" fault.message
  | unregisterFailed fault => line "WARN" "Failed to unregister RPC handler" fault.message
  | withdrawFailed error => line "WARN" "Could not withdraw announcement on shutdown" error.message
  | droppedWhileActive => "WARN [bridge] Controller dropped without stop()"
  | dropUnregisterFailed fault => line "DEBUG" "Failed to unregister RPC handler on drop" fault.message
  | publishFailed error => line "WARN" "Announcement publish failed" error.message
  | readFailed fault =>
      line "WARN" "Could not read announcements, keeping previous bridged groups" fault.message
  | malformedSkipped error => line "WARN" "Skipping malformed announcement" error.message
  | primaryCheckFailed fault => line "WARN" "Primary check failed, skipping cleanup" fault.message
  | sweepReadFailed fault => line "WARN" "Could not read announcements for cleanup" fault.message
  | sweepFailed error => line "WARN" "Stale announcement cleanup failed, continuing" error.message
  | broadcastDropped error => line "DEBUG" "Broadcast dropped" error.message
  | remoteRejected fault => line "WARN" "Local registry rejected remote invalidation" fault.message

end LogEntry

end Coherence
