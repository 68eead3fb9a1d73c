import Mathlib.Algebra.GroupWithZero.Nat
import Mathlib.Algebra.Order.BigOperators.Group.Finset
import Coherence.Proofs.Following

set_option autoImplicit false

namespace Coherence.Cluster

open Std

-- How many numbers have been drawn for readings and clearings, by all nodes that there ever were.
def draws (cluster : Cluster) : Nat := (cluster.nodes.toList.map fun (_, node) => node.draws).sum

theorem draws_eq_sum (cluster : Cluster) : cluster.draws = ∑ k ∈ cluster.nodes.keys.toFinset, cluster.drawsOf k := by
  have distinct : cluster.nodes.keys.Nodup := by
    have separate := cluster.nodes.distinct_keys
    exact separate.imp fun different same => different (Std.compare_eq_iff_eq.mpr same)
  rw [List.sum_toFinset _ distinct, draws, ← ExtTreeMap.map_fst_toList_eq_keys, List.map_map]
  congr 1
  apply List.map_congr_left
  intro entry member
  obtain ⟨k, node⟩ := entry
  have found : cluster.nodes[k]? = some node := ExtTreeMap.mem_toList_iff_getElem?_eq_some.mp member
  exact (draws_of_found cluster k node found).symm

theorem draws_of_missing (cluster : Cluster) (k : Incarnation) (missing : k ∉ cluster.nodes.keys.toFinset) :
    cluster.drawsOf k = 0 := by
  have absent : k ∉ cluster.nodes := by simpa using missing
  simp [drawsOf, absent]

theorem draws_of_le (cluster : Cluster) (k : Incarnation) : cluster.drawsOf k ≤ cluster.draws := by
  by_cases member : k ∈ cluster.nodes.keys.toFinset
  · rw [draws_eq_sum]
    exact Finset.single_le_sum (f := cluster.drawsOf) (fun _ _ => Nat.zero_le _) member
  · rw [draws_of_missing cluster k member]
    exact Nat.zero_le _

theorem draws_eq_sum_over (cluster : Cluster) (more : Finset Incarnation) :
    cluster.draws = ∑ k ∈ cluster.nodes.keys.toFinset ∪ more, cluster.drawsOf k := by
  rw [draws_eq_sum]
  apply Finset.sum_subset Finset.subset_union_left
  intro k _ missing
  exact draws_of_missing cluster k missing

theorem draws_le_of_aged (before after : Cluster) (aged : ∀ k, before.drawsOf k ≤ after.drawsOf k) :
    before.draws ≤ after.draws := by
  -- Both sums range over the nodes of either cluster; who is missing has drawn nothing.
  rw [draws_eq_sum_over before after.nodes.keys.toFinset, draws_eq_sum_over after before.nodes.keys.toFinset,
    Finset.union_comm]
  exact Finset.sum_le_sum fun k _ => aged k

theorem draws_lt_of_aged (before after : Cluster) (aged : ∀ k, before.drawsOf k ≤ after.drawsOf k) (k : Incarnation)
    (more : before.drawsOf k < after.drawsOf k) : before.draws < after.draws := by
  have member : k ∈ after.nodes.keys.toFinset := by
    by_contra missing
    rw [draws_of_missing after k missing] at more
    exact Nat.not_lt_zero _ more
  rw [draws_eq_sum_over before after.nodes.keys.toFinset, draws_eq_sum_over after before.nodes.keys.toFinset,
    Finset.union_comm]
  exact Finset.sum_lt_sum (fun k _ => aged k) ⟨k, Finset.mem_union_left _ member, more⟩

theorem draws_congr (before after : Cluster) (same : ∀ k, after.drawsOf k = before.drawsOf k) :
    after.draws = before.draws :=
  Nat.le_antisymm (draws_le_of_aged after before fun k => Nat.le_of_eq (same k))
    (draws_le_of_aged before after fun k => Nat.le_of_eq (same k).symm)

theorem draws_of_set_node (cluster : Cluster) (k j : Incarnation) (node : Node) :
    (cluster.setNode k node).drawsOf j = if k = j then node.draws else cluster.drawsOf j := by
  rw [drawsOf, nodes_set_node]
  split <;> rfl

theorem draws_le_set_node (cluster : Cluster) (k : Incarnation) (fresh : Node) (aged : cluster.drawsOf k ≤ fresh.draws) :
    cluster.draws ≤ (cluster.setNode k fresh).draws := by
  apply draws_le_of_aged
  intro j
  rw [draws_of_set_node]
  by_cases same : k = j
  · subst same
    rw [if_pos rfl]
    exact aged
  · rw [if_neg same]

theorem draws_set_node (cluster : Cluster) (k : Incarnation) (fresh : Node) (drawn : fresh.draws = cluster.drawsOf k) :
    (cluster.setNode k fresh).draws = cluster.draws := by
  apply draws_congr
  intro j
  rw [draws_of_set_node]
  by_cases same : k = j
  · subst same
    rw [if_pos rfl]
    exact drawn
  · rw [if_neg same]

end Coherence.Cluster
