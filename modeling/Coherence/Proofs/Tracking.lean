import Coherence.Proofs.Adjusting
import Coherence.Proofs.Attention
import Coherence.Proofs.Draws

set_option autoImplicit false

namespace Coherence

open Std

theorem Node.is_running_iff (node : Node) : node.isRunning = true ↔ node.state = .running := by
  rw [Node.isRunning, Lifecycle.acceptsCallbacks, decide_eq_true_eq]

namespace Cluster

-- Every running node has read the store since its last change, provided that no number was used twice.
structure Tracking (cluster : Cluster) : Prop where
  allLinked : cluster.frame.AllLinked
  dated : ∀ k, cluster.Dated k
  attentive : cluster.draws < UInt64.size → cluster.frame.Attentive cluster.draws
  agrees : cluster.draws < UInt64.size → ∀ (id : NodeId) (k : Incarnation), cluster.current[id]? = some k → cluster.Agrees k

variable {cluster : Cluster}

theorem dated_set_node (cluster : Cluster) (k : Incarnation) (fresh : Node) (dated : ∀ j, cluster.Dated j)
    (here : fresh.snapshot.generation.toNat ≤ fresh.draws) (j : Incarnation) : (cluster.setNode k fresh).Dated j := by
  intro node found
  rw [nodes_set_node] at found
  split at found
  · cases found
    exact here
  · exact dated j node found

theorem Tracking.follow {before after : Cluster} (tracking : before.Tracking) (follows : Follows before after) :
    after.Tracking := by
  have older : before.draws ≤ after.draws := draws_le_of_aged before after follows.aged
  refine ⟨follows.frame ▸ tracking.allLinked, fun k => follows.dated k (tracking.dated k), ?_, ?_⟩
  · intro capacity
    rw [follows.frame]
    exact (tracking.attentive (Nat.lt_of_le_of_lt older capacity)).mono _ older
  · intro capacity id k located node found running
    have few := Nat.lt_of_le_of_lt older capacity
    have there : before.current[id]? = some k := by
      rw [← frame_current, ← follows.frame]
      exact located
    have standing : before.frame.nodes[k]? = some node.standing := by
      rw [← follows.frame]
      exact after.standing_of_found k node found
    have hears := (tracking.attentive few).hears tracking.allLinked id k _ there standing ((node.is_running_iff).mp running)
    have drawn : after.drawsOf k < UInt64.size := Nat.lt_of_le_of_lt (draws_of_le after k) capacity
    exact follows.agrees k drawn hears (tracking.dated k) (tracking.agrees few id k there) node found running

theorem Tracking.furnish (tracking : cluster.Tracking) (bus : Bus Incarnation) (hub : Hub Incarnation)
    (log : List (Incarnation × LogEntry)) : { cluster with bus, hub, log }.Tracking where
  allLinked := tracking.allLinked.furnish hub bus cluster.store.listeners
  dated := tracking.dated
  attentive capacity := ⟨(tracking.attentive capacity).listening, (tracking.attentive capacity).earlier,
    (tracking.attentive capacity).few⟩
  agrees := tracking.agrees

theorem Tracking.replace (tracking : cluster.Tracking) (k : Incarnation) (node fresh : Node)
    (found : cluster.nodes[k]? = some node) (named : fresh.id = node.id) (aged : node.draws ≤ fresh.draws)
    (dated : node.snapshot.generation.toNat ≤ node.draws → fresh.snapshot.generation.toNat ≤ fresh.draws)
    (linked : node.standing.Linked k → fresh.standing.Linked k)
    (kept : fresh.state = .running → node.state = .running ∧ fresh.held = node.held ∧ fresh.snapshot = node.snapshot) :
    (cluster.setNode k fresh).Tracking := by
  have standing := cluster.standing_of_found k node found
  have older : cluster.draws ≤ (cluster.setNode k fresh).draws :=
    draws_le_set_node cluster k fresh (draws_of_found cluster k node found ▸ aged)
  refine ⟨?_, ?_, ?_, ?_⟩
  · rw [frame_set_node]
    exact tracking.allLinked.place k node.standing fresh.standing standing named fun _ _ => linked
  · exact cluster.dated_set_node k fresh tracking.dated (dated (tracking.dated k node found))
  · intro capacity
    have attentive := (tracking.attentive (Nat.lt_of_le_of_lt older capacity)).mono _ older
    rw [frame_set_node]
    exact attentive.place k node.standing fresh.standing standing fun _ _ running =>
      ⟨(kept running).1, (kept running).2.1⟩
  · intro capacity id j located
    have before := tracking.agrees (Nat.lt_of_le_of_lt older capacity) id j located
    intro other there running
    rw [nodes_set_node] at there
    split at there
    · rename_i same
      subst same
      cases there
      obtain ⟨ran, _, snapshot⟩ := kept ((fresh.is_running_iff).mp running)
      rw [snapshot, named]
      exact before node found ((node.is_running_iff).mpr ran)
    · exact before other there running

theorem Tracking.retain (tracking : cluster.Tracking) (k : Incarnation) (node fresh : Node)
    (found : cluster.nodes[k]? = some node) (retains : node.Retains fresh) : (cluster.setNode k fresh).Tracking := by
  refine tracking.replace k node fresh found retains.id (Nat.le_of_eq retains.draws.symm) ?_ ?_ ?_
  · rw [retains.draws, retains.snapshot]
    exact id
  · intro linked
    exact linked.adjust fresh.standing (retains.reachable linked.reachable) retains.state retains.held retains.listeners
  · intro running
    exact ⟨retains.state ▸ running, retains.held, retains.snapshot⟩

theorem Tracking.dismiss (tracking : cluster.Tracking) (k : Incarnation) (node : Node) (state : Lifecycle) (held : Held)
    (log : List (Incarnation × LogEntry)) (found : cluster.nodes[k]? = some node)
    (listens : cluster.draws < UInt64.size → cluster.frame.Listens k held)
    (gone : ∀ id : NodeId, cluster.current[id]? = some k →
      state ≠ .running ∧ ((node.setState state).dismissed held).standing.Linked k) :
    (cluster.dismissal k (node.setState state) held log).Tracking := by
  have drawn : (cluster.dismissal k (node.setState state) held log).draws = cluster.draws :=
    draws_set_node _ k _ (draws_of_found cluster k node found).symm
  refine ⟨?_, ?_, ?_, ?_⟩
  · rw [frame_dismissal]
    exact (tracking.allLinked.furnish _ _ _).place k node.standing _ (cluster.standing_of_found k node found) rfl
      fun id located _ => (gone id located).2
  · exact dated_set_node _ k _ tracking.dated (tracking.dated k node found)
  · rw [drawn, frame_dismissal]
    intro capacity
    exact (tracking.attentive capacity).dismiss k _ held _ _ (listens capacity) fun id located => (gone id located).1
  · rw [drawn]
    intro capacity id j located
    by_cases same : k = j
    · subst same
      intro other there running
      rw [dismissal, nodes_set_node, if_pos rfl, Option.some.injEq] at there
      subst there
      exact absurd ((Node.is_running_iff _).mp running) (gone id located).1
    · refine agrees_congr cluster _ j ?_ rfl (tracking.agrees capacity id j located)
      rw [dismissal, nodes_set_node, if_neg same]

theorem Tracking.forget (tracking : cluster.Tracking) (id : NodeId) :
    { cluster with current := cluster.current.erase id }.Tracking where
  allLinked := tracking.allLinked.forget id
  dated := tracking.dated
  attentive capacity := (tracking.attentive capacity).forget id
  agrees capacity other j located := tracking.agrees capacity other j (Frame.located_of_erased id other j located).2

end Cluster

end Coherence
