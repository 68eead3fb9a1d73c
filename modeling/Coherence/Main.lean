import Coherence.Simulation.Report

set_option autoImplicit false

namespace Coherence.Source

def ofPath (path : String) : IO Source := do
  try
    let bytes ← IO.FS.readBinFile path
    return .file bytes.data.toList
  catch _ =>
    return .missing

end Coherence.Source

def main (args : List String) : IO UInt32 := do
  let input ← match args with
    | [] => pure none
    | path :: _ => do
        let source ← Coherence.Source.ofPath path
        pure (some (path, source))
  match Coherence.Simulation.output input with
  | .ok text =>
      IO.print text
      return 0
  | .error failure =>
      IO.eprintln failure.message
      return 1
