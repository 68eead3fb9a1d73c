import Coherence.Cluster.Operation
import Coherence.Cluster.Report
import Coherence.Simulation.Setup

set_option autoImplicit false

namespace Coherence.Simulation

structure Invocation where
  node : NodeId
  group : Group
  key : Key
  outcome : Outcome

structure Report where
  converged : List NodeReport
  invocations : List Invocation
  afterCrash : List NodeReport

open Cluster (Operation NodeOperation)

def preparation (id : NodeId) (index : Nat) : List Operation :=
  let orders : List NodeOperation := [.createGroup "orders", .put "orders" "42"]
  let users : List NodeOperation := [.createGroup "users", .put "users" "7"]
  .addNode id :: (if index = 0 then orders else orders ++ users).map (.node id)

def preparations (setup : Setup) : List Operation :=
  setup.nodes.zipIdx.flatMap fun (id, index) => preparation id index

def attempt (cluster : Cluster) : List Operation → Except Error Cluster
  | [] => .ok cluster
  | operation :: operations =>
      match cluster.step operation with
      | (_, .error error) => .error error
      | (cluster, _) => attempt cluster operations

def started (setup : Setup) : Except Failure Cluster :=
  match attempt { config := setup.config } (preparations setup) with
  | .error error => .error (.invalid error)
  | .ok cluster =>
      match attempt cluster [.startAll] with
      | .error _ => .error .starting
      | .ok cluster => .ok cluster

-- The first node's bridge is asked through a handle, which keeps it whatever becomes of the node.
structure Progress where
  sender : Incarnation
  cluster : Cluster
  invocations : List Invocation

namespace Progress

def invoke (progress : Progress) (id : NodeId) (group : Group) (key : Key) : Progress :=
  let (cluster, outcome) := progress.cluster.send progress.sender (.single group key) .async
  { progress with cluster, invocations := progress.invocations ++ [⟨id, group, key, outcome⟩] }

def settle (progress : Progress) : Progress := { progress with cluster := progress.cluster.run [.control .flush] }

def crash (progress : Progress) (id : NodeId) : Cluster :=
  if progress.cluster.current[id]? = some progress.sender then progress.cluster.detach id else progress.cluster.crash id

end Progress

def converged (setup : Setup) : Except Failure Progress :=
  let first := setup.nodes.headD ""
  match started setup with
  | .error failure => .error failure
  | .ok cluster =>
      match cluster.current[first]? with
      | none => .error .firstMissing
      | some sender =>
          let asked : Progress := { sender, cluster, invocations := [] }
          .ok ((asked.invoke first "orders" "42").invoke first "inventory" "7").settle

def run (setup : Setup) : Except Failure Report :=
  (converged setup).map fun progress =>
    { converged := progress.cluster.report
      invocations := progress.invocations
      afterCrash := (progress.crash (setup.nodes.getLastD "")).report }

namespace Invocation

def toJson (invocation : Invocation) : Json :=
  .object [("node", .string invocation.node), ("group", .string invocation.group), ("key", .string invocation.key),
    ("outcome", .string invocation.outcome.name)]

end Invocation

namespace Report

def toJson (report : Report) : Json :=
  .object [("converged", .array (report.converged.map NodeReport.toJson)),
    ("invocations", .array (report.invocations.map Invocation.toJson)),
    ("after_crash", .array (report.afterCrash.map NodeReport.toJson))]

end Report

def output (input : Option (String × Source)) : Except Failure String := do
  let setup ← match input with
    | none => .ok {}
    | some (path, source) => Setup.load path source
  let setup ← setup.check
  let report ← run setup
  .ok (report.toJson.prettyText ++ "\n")

end Coherence.Simulation
