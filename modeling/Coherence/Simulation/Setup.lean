import Coherence.Config.Load

set_option autoImplicit false

namespace Coherence.Simulation

structure Setup where
  config : Config := {}
  nodes : List NodeId := ["x", "y"]

inductive Failure where
  | reading (path : String)
  | parsing (path : String)
  | invalid (error : Error)
  | tooFewNodes
  | starting
  | firstMissing

namespace Failure

def message : Failure → String
  | reading path => "Error: reading " ++ path
  | parsing path => "Error: parsing " ++ path
  | invalid error => "Error: " ++ error.message
  | tooFewNodes => "Error: simulation needs at least two nodes"
  | starting => "Error: starting bridges"
  | firstMissing => "Error: first node missing"

end Failure

namespace Setup

def nodesOf? (value : Toml.Value) : Option (List NodeId) :=
  match value.record? ["nodes"] with
  | some [some nodes] => nodes.texts?
  | some [none] => some ({} : Setup).nodes
  | _ => none

def ofDocument? (document : Toml.Value) : Option Setup :=
  match document.record? ["bridge", "simulation"] with
  | some [bridge, simulation] => do
      let config ← match bridge with
        | some value => Config.ofToml? value
        | none => some {}
      let nodes ← match simulation with
        | some value => nodesOf? value
        | none => some ({} : Setup).nodes
      some { config, nodes }
  | _ => none

def load (path : String) (source : Source) : Except Failure Setup :=
  match source.text with
  | .error _ => .error (.reading path)
  | .ok text =>
      match (Toml.ofText? text).bind ofDocument? with
      | none => .error (.parsing path)
      | some setup =>
          match setup.config.validate with
          | .error error => .error (.invalid error)
          | .ok () => .ok setup

def check (setup : Setup) : Except Failure Setup :=
  if setup.nodes.length < 2 then .error .tooFewNodes else .ok setup

end Setup

end Coherence.Simulation
