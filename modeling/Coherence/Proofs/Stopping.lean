import Coherence.Proofs.Starting

set_option autoImplicit false

namespace Coherence

open Std

namespace Hub

variable {ℓ : Type}

theorem members_release (hub : Hub ℓ) (handle : Handle) : (hub.release handle).members = hub.members := by
  rw [release]
  split
  · split <;> rfl
  · rfl

end Hub

namespace Cluster

def dismissal (cluster : Cluster) (k : Incarnation) (node : Node) (held : Held) (log : List (Incarnation × LogEntry)) :
    Cluster :=
  { cluster with
    bus := cluster.bus.without cluster.channel node.id
    store := cluster.store.release held.store
    hub := cluster.hub.release held.hub
    log }.setNode k (node.dismissed held)

theorem release_held (cluster : Cluster) (k : Incarnation) (node : Node) (held : Held)
    (found : cluster.nodes[k]? = some node) (holding : node.held = some held) :
    cluster.release k =
      { cluster with store := cluster.store.release held.store, hub := cluster.hub.release held.hub }.setNode k
        (node.dismissed held) := by
  rw [release, found]
  dsimp only
  rw [holding]
  rfl

theorem begin_stop_eq (cluster : Cluster) (k : Incarnation) (node : Node) (held : Held)
    (holding : node.held = some held) :
    ∃ log, cluster.beginStop Service.granted k node = cluster.dismissal k (node.setState .stopping) held log := by
  obtain ⟨log, unregistered⟩ :=
    unregister_granted (cluster.setNode k (node.setState .stopping)) k node.id .unregisterFailed
  refine ⟨log, ?_⟩
  rw [beginStop, unregistered, release_held _ k (node.setState .stopping) held (by
    change (cluster.setNode k (node.setState .stopping)).nodes[k]? = _
    rw [nodes_set_node, if_pos rfl]) holding]
  simp only [dismissal, setNode, insert_again]
  rfl

theorem stop_stopped (cluster : Cluster) (k : Incarnation) (node : Node) (found : cluster.nodes[k]? = some node)
    (stopped : node.state = .stopped) : cluster.stop k = cluster := by
  rw [stop, found]
  simp [stopped]

theorem stop_running (cluster : Cluster) (k : Incarnation) (node : Node) (held : Held)
    (found : cluster.nodes[k]? = some node) (running : node.state = .running) (holding : node.held = some held) :
    ∃ log, let written := (cluster.dismissal k (node.setState .stopping) held log).mutate k (.remove node.id)
      cluster.stop k = (written.1.amend k (·.withdrawn written.2)).endStop k := by
  obtain ⟨log, left⟩ := begin_stop_eq cluster k node held holding
  refine ⟨log, ?_⟩
  rw [stop, found]
  simp only [running, if_neg (show ¬ Lifecycle.running = Lifecycle.stopped by decide), left]

theorem frame_dismissal (cluster : Cluster) (k : Incarnation) (node : Node) (held : Held)
    (log : List (Incarnation × LogEntry)) :
    (cluster.dismissal k node held log).frame =
      { cluster.frame with
        bus := cluster.bus.without cluster.channel node.id
        hub := cluster.hub.release held.hub
        listeners := cluster.frame.listeners.modify held.store.channel (·.remove held.store.id) }.place k
          (node.dismissed held).standing :=
  frame_set_node _ k _

-- Between giving up its places and the end of a stop, a bridge only withdraws its announcement.
theorem stop_withdraws (cluster : Cluster) (k : Incarnation) (node : Node) (held : Held)
    (found : cluster.nodes[k]? = some node) (running : node.state = .running) (holding : node.held = some held) :
    ∃ log withdrawn last, Follows (cluster.dismissal k (node.setState .stopping) held log) withdrawn ∧
      withdrawn.nodes[k]? = some last ∧ last.standing = ((node.setState .stopping).dismissed held).standing ∧
      cluster.stop k = withdrawn.endStop k := by
  obtain ⟨log, stopped⟩ := stop_running cluster k node held found running holding
  have follows := (follows_mutate (cluster.dismissal k (node.setState .stopping) held log) k (.remove node.id)).trans
    (follows_withdrawn _ k ((cluster.dismissal k (node.setState .stopping) held log).mutate k (.remove node.id)).2)
  rw [stopped]
  generalize Cluster.amend _ k _ = withdrawn at follows
  have here : withdrawn.frame.nodes[k]? = some ((node.setState .stopping).dismissed held).standing := by
    rw [follows.frame, frame_dismissal, Frame.nodes_place, if_pos rfl]
  obtain ⟨last, there, standing⟩ := node_of_standing withdrawn k _ here
  exact ⟨log, withdrawn, last, follows, there, standing, rfl⟩

theorem frame_stop (cluster : Cluster) (k : Incarnation) (node : Node) (held : Held) (found : cluster.nodes[k]? = some node)
    (running : node.state = .running) (holding : node.held = some held) :
    (cluster.stop k).frame = (cluster.dismissal k (node.setState .stopped) held []).frame := by
  obtain ⟨log, withdrawn, last, follows, there, standing, stopped⟩ :=
    stop_withdraws cluster k node held found running holding
  rw [stopped]
  have cleared : (last.clear.setState .stopped).standing = ((node.setState .stopped).dismissed held).standing := by
    change { last.standing with state := .stopped } = _
    rw [standing]
    rfl
  rw [endStop, modify, amend_found withdrawn k _ last there, frame_note, frame_set_node, cleared, follows.frame,
    frame_dismissal, frame_dismissal, Frame.place_place]
  rfl

theorem discard_stopped (cluster : Cluster) (k : Incarnation) (node : Node) (found : cluster.nodes[k]? = some node)
    (stopped : node.state = .stopped) : cluster.discard Service.granted k = cluster := by
  rw [discard, found]
  simp [stopped]

theorem discard_running (cluster : Cluster) (k : Incarnation) (node : Node) (held : Held)
    (found : cluster.nodes[k]? = some node) (running : node.state = .running) (holding : node.held = some held) :
    ∃ log, cluster.discard Service.granted k = cluster.dismissal k node held log := by
  obtain ⟨log, unregistered⟩ :=
    unregister_granted (cluster.note k [.droppedWhileActive]) k node.id .dropUnregisterFailed
  refine ⟨log, ?_⟩
  rw [discard, found]
  simp only [running, if_neg (show ¬ Lifecycle.running = Lifecycle.stopped by decide), unregistered]
  exact release_held _ k node held found holding

-- Whoever is lost takes its subscriptions along, but neither its membership nor its announcement.
theorem discard_keeps (cluster : Cluster) (k : Incarnation) :
    (cluster.discard Service.granted k).current = cluster.current ∧
      (cluster.discard Service.granted k).hub.members = cluster.hub.members ∧
      (cluster.discard Service.granted k).entries = cluster.entries := by
  rw [Cluster.discard]
  split
  · exact ⟨rfl, rfl, rfl⟩
  · split
    · exact ⟨rfl, rfl, rfl⟩
    · rw [release]
      obtain ⟨log, unregistered⟩ := unregister_granted (cluster.note k [.droppedWhileActive]) k _ .dropUnregisterFailed
      rw [unregistered]
      split
      · exact ⟨rfl, rfl, rfl⟩
      · split
        · exact ⟨rfl, rfl, rfl⟩
        · exact ⟨rfl, Hub.members_release _ _, rfl⟩

theorem current_discard (cluster : Cluster) (k : Incarnation) :
    (cluster.discard Service.granted k).current = cluster.current :=
  (discard_keeps cluster k).1

end Cluster

end Coherence
