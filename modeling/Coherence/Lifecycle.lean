set_option autoImplicit false

namespace Coherence

inductive Lifecycle where
  | stopped
  | starting
  | running
  | stopping
deriving DecidableEq, Inhabited

namespace Lifecycle

def name : Lifecycle → String
  | stopped => "Stopped"
  | starting => "Starting"
  | running => "Running"
  | stopping => "Stopping"

def label : Lifecycle → String
  | stopped => "STOPPED"
  | starting => "STARTING"
  | running => "RUNNING"
  | stopping => "STOPPING"

def all : List Lifecycle := [stopped, starting, running, stopping]

def ofName? (text : String) : Option Lifecycle := all.find? (·.name = text)

def canBecome : Lifecycle → Lifecycle → Bool
  | stopped, starting => true
  | starting, running => true
  | starting, stopped => true
  | running, stopping => true
  | stopping, stopped => true
  | _, _ => false

def acceptsCallbacks (state : Lifecycle) : Bool := state = running

end Lifecycle

end Coherence
