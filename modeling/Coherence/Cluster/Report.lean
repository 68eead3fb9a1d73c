import Coherence.Cluster.Basic
import Coherence.Summary

set_option autoImplicit false

namespace Coherence

structure NodeReport where
  id : NodeId
  state : Lifecycle
  groups : List Group
  bridged : List Group
  counters : Counters

namespace NodeReport

def ofNode (node : Node) : NodeReport :=
  ⟨node.id, node.state, node.registry.groupNames, node.snapshot.groups.toList, node.counters⟩

def toJson (report : NodeReport) : Json :=
  .object [("node", .string report.id), ("state", .string report.state.label),
    ("local_groups", Json.strings report.groups), ("bridged_groups", Json.strings report.bridged),
    ("metrics", report.counters.toJson)]

end NodeReport

namespace Cluster

def report (cluster : Cluster) : List NodeReport := cluster.members.map fun (_, node) => NodeReport.ofNode node

end Cluster

end Coherence
