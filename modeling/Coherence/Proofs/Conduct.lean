import Coherence.Proofs.ResourceSteps

set_option autoImplicit false

namespace Coherence

namespace Cluster

-- Every bridge stays in its state, or changes it as it may.
def Moves (before after : Cluster) : Prop :=
  ∀ k, after.lifecycle k = before.lifecycle k ∨ (before.lifecycle k).canBecome (after.lifecycle k) = true

-- The clusters passed on the way from one to another, the last one included.
inductive Traverses : Cluster → List Cluster → Cluster → Prop
  | done (cluster : Cluster) : Traverses cluster [] cluster
  | pass (before next after : Cluster) (passed : List Cluster) (moves : Moves before next)
      (rest : Traverses next passed after) : Traverses before (next :: passed) after

-- It is about to start, it has been admitted or turned away, and it has announced its groups and read the store.
def startTrail (cluster : Cluster) (k : Incarnation) : List Cluster :=
  match cluster.nodes[k]? with
  | none => []
  | some node =>
      match cluster.beginStart k node with
      | .error _ => []
      | .ok begun =>
          match begun.admission Service.granted k (node.setState .starting) with
          | (refused, .error _) => [begun, refused]
          | (admitted, .ok ()) => [begun, admitted, (admitted.publish k).recompute k]

-- It has given up its places, it has withdrawn its announcement, and it is at rest.
def stopTrail (cluster : Cluster) (k : Incarnation) : List Cluster :=
  match cluster.nodes[k]? with
  | none => []
  | some node =>
      if node.state = .stopped then []
      else
        let begun := cluster.beginStop Service.granted k node
        let (written, result) := begun.mutate k (.remove node.id)
        let withdrawn := written.amend k (·.withdrawn result)
        [begun, withdrawn, withdrawn.endStop k]

def startAllTrail (cluster : Cluster) : List Incarnation → List Cluster
  | [] => []
  | k :: rest =>
      match cluster.start k with
      | (_, .error _) => cluster.startTrail k
      | (next, .ok ()) => cluster.startTrail k ++ next.startAllTrail rest

def stopAllTrail (cluster : Cluster) : List Incarnation → List Cluster
  | [] => []
  | k :: rest => cluster.stopTrail k ++ (cluster.stop k).stopAllTrail rest

def trail (cluster : Cluster) : Operation → List Cluster
  | .startAll => cluster.startAllTrail cluster.incarnations
  | .stopAll => cluster.stopAllTrail cluster.incarnations
  | .node id .start => (cluster.find? id).elim [] fun place => cluster.startTrail place.1
  | .node id .stop => (cluster.find? id).elim [] fun place => cluster.stopTrail place.1
  | operation => [(cluster.step operation).1]

variable {cluster : Cluster} {loyal : Prop}

theorem Traverses.trans {first second third : Cluster} {here there : List Cluster} (earlier : Traverses first here second)
    (later : Traverses second there third) : Traverses first (here ++ there) third := by
  induction earlier with
  | done => exact later
  | pass before next after passed moves _ ih => exact .pass before next third _ moves (ih later)

theorem lifecycle_frame (k : Incarnation) :
    cluster.lifecycle k = cluster.frame.nodes[k]?.elim .stopped Standing.state := by
  rw [lifecycle, frame_nodes]
  cases cluster.nodes[k]? <;> rfl

theorem moves_frame {before after : Cluster} (frame : after.frame = before.frame) : Moves before after := by
  intro k
  rw [lifecycle_frame, lifecycle_frame, frame]
  exact .inl rfl

theorem moves_one {before after : Cluster} (k : Incarnation) (may : (before.lifecycle k).canBecome (after.lifecycle k) = true)
    (others : ∀ j, k ≠ j → after.lifecycle j = before.lifecycle j) : Moves before after := by
  intro j
  by_cases same : k = j
  · exact .inr (same ▸ may)
  · exact .inl (others j same)

theorem Failed.lifecycle {k : Incarnation} {node : Node} {result : Cluster × Except Error Unit}
    (failed : Failed cluster k node result) (found : cluster.nodes[k]? = some node) (j : Incarnation) :
    result.1.lifecycle j = cluster.lifecycle j := by
  cases failed with
  | refused error log => rfl
  | retried error log bus stopped registered => exact lifecycle_replace k j node (node.retried k) found rfl

theorem lifecycle_starting (k j : Incarnation) (node : Node) :
    (cluster.setNode k (node.setState .starting)).lifecycle j = if k = j then .starting else cluster.lifecycle j :=
  lifecycle_set_node k j _

theorem lifecycle_enrolled (k j : Incarnation) (node : Node) (bus : Bus Incarnation) :
    (cluster.enrolled k node bus).lifecycle j = if k = j then .running else cluster.lifecycle j :=
  lifecycle_set_node k j _

theorem moves_starting (k : Incarnation) (node : Node) (found : cluster.nodes[k]? = some node)
    (stopped : node.state = .stopped) : Moves cluster (cluster.setNode k (node.setState .starting)) := by
  refine moves_one k ?_ fun j different => (lifecycle_starting k j node).trans (if_neg different)
  rw [lifecycle_starting, if_pos rfl, lifecycle_found k node found, stopped]
  rfl

theorem moves_turned_away {after : Cluster} (k : Incarnation) (node : Node) (found : cluster.nodes[k]? = some node)
    (stopped : node.state = .stopped) (back : ∀ j, after.lifecycle j = cluster.lifecycle j) :
    Moves (cluster.setNode k (node.setState .starting)) after := by
  refine moves_one k ?_ fun j different => ?_
  · rw [lifecycle_starting, if_pos rfl, back, lifecycle_found k node found, stopped]
    rfl
  · rw [lifecycle_starting, if_neg different]
    exact back j

theorem moves_admitted (k : Incarnation) (node : Node) (bus : Bus Incarnation) :
    Moves (cluster.setNode k (node.setState .starting)) (cluster.enrolled k node bus) := by
  refine moves_one k ?_ fun j different => ?_
  · rw [lifecycle_starting, if_pos rfl, lifecycle_enrolled, if_pos rfl]
    rfl
  · rw [lifecycle_starting, if_neg different, lifecycle_enrolled, if_neg different]

theorem traverses_start (cluster : Cluster) (k : Incarnation) :
    Traverses cluster (cluster.startTrail k) (cluster.start k).1 := by
  cases found : cluster.nodes[k]? with
  | none =>
      rw [startTrail, start, found]
      exact .done cluster
  | some node =>
      by_cases may : node.state.canBecome .starting = true
      · have stopped := can_become_starting node.state may
        have failed := fun error => start_error cluster k node error found
        have begins := begin_start_eq cluster k node stopped
        have begun := moves_starting k node found stopped
        rw [start, found] at failed
        rw [startTrail, start, found]
        simp only [begins] at failed ⊢
        cases admitted : (cluster.setNode k (node.setState .starting)).admission Service.granted k
            (node.setState .starting) with
        | mk after result =>
            rw [admitted] at failed
            cases result with
            | error error =>
                have back := moves_turned_away k node found stopped ((failed error rfl).lifecycle found)
                exact .pass _ _ _ _ begun (.pass _ _ _ _ back (.done after))
            | ok =>
                obtain ⟨bus, rfl⟩ := admission_ok cluster after k node admitted
                have follows := (follows_publish (cluster.enrolled k node bus) k).trans (follows_recompute _ k)
                exact .pass _ _ _ _ begun (.pass _ _ _ _ (moves_admitted k node bus)
                  (.pass _ _ _ _ (moves_frame follows.frame) (.done _)))
      · rw [start_unready cluster k node found may, startTrail, found]
        simp only [beginStart, if_neg may]
        exact .done cluster

theorem lifecycle_stopping (k j : Incarnation) (node : Node) (held : Held) (log : List (Incarnation × LogEntry)) :
    (cluster.dismissal k (node.setState .stopping) held log).lifecycle j =
      if k = j then .stopping else cluster.lifecycle j :=
  lifecycle_set_node k j _

theorem lifecycle_end_stop (k j : Incarnation) :
    (cluster.endStop k).lifecycle j = if k = j then .stopped else cluster.lifecycle j := by
  rw [endStop, modify, lifecycle, nodes_amend, lifecycle]
  split
  · cases cluster.nodes[j]? <;> rfl
  · rfl

theorem moves_stopping (k : Incarnation) (node : Node) (held : Held) (log : List (Incarnation × LogEntry))
    (found : cluster.nodes[k]? = some node) (running : node.state = .running) :
    Moves cluster (cluster.dismissal k (node.setState .stopping) held log) := by
  refine moves_one k ?_ fun j different => (lifecycle_stopping k j node held log).trans (if_neg different)
  rw [lifecycle_stopping, if_pos rfl, lifecycle_found k node found, running]
  rfl

theorem moves_end_stop (k : Incarnation) (stopping : cluster.lifecycle k = .stopping) :
    Moves cluster (cluster.endStop k) := by
  refine moves_one k ?_ fun j different => (lifecycle_end_stop k j).trans (if_neg different)
  rw [stopping, lifecycle_end_stop, if_pos rfl]
  rfl

theorem traverses_stop (hubSound : cluster.frame.HubSoundIf loyal) (id : NodeId) (k : Incarnation)
    (located : cluster.current[id]? = some k) : Traverses cluster (cluster.stopTrail k) (cluster.stop k) := by
  obtain ⟨node, found, _⟩ := node_of_located hubSound.toAddressed id k located
  have standing := cluster.standing_of_found k node found
  cases hubSound.settled id k node.standing located standing with
  | inl stopped =>
      have atRest : node.state = .stopped := stopped
      rw [stop_stopped cluster k node found stopped, stopTrail, found]
      simp only [if_pos atRest]
      exact .done cluster
  | inr runs =>
      have running : node.state = .running := runs
      obtain ⟨held, holding, _⟩ := hubSound.holding id k node.standing located standing running
      obtain ⟨log, left⟩ := begin_stop_eq cluster k node held holding
      have follows := (follows_mutate (cluster.dismissal k (node.setState .stopping) held log) k (.remove node.id)).trans
        (follows_withdrawn _ k ((cluster.dismissal k (node.setState .stopping) held log).mutate k (.remove node.id)).2)
      rw [stopTrail, stop, found]
      simp only [running, if_neg (show ¬ Lifecycle.running = Lifecycle.stopped by decide), left]
      generalize Cluster.amend _ k _ = withdrawn at follows
      have stopping : withdrawn.lifecycle k = .stopping := by
        rw [lifecycle_frame, follows.frame, ← lifecycle_frame, lifecycle_stopping, if_pos rfl]
      exact .pass _ _ _ _ (moves_stopping k node held log found running)
        (.pass _ _ _ _ (moves_frame follows.frame) (.pass _ _ _ _ (moves_end_stop k stopping) (.done _)))

theorem traverses_start_all (cluster : Cluster) (ks : List Incarnation) :
    Traverses cluster (cluster.startAllTrail ks) (cluster.startAll ks).1 := by
  induction ks generalizing cluster with
  | nil => exact .done cluster
  | cons k rest ih =>
      have first := cluster.traverses_start k
      rw [startAllTrail, startAll]
      generalize cluster.start k = result at first
      obtain ⟨next, result⟩ := result
      cases result with
      | error error => exact first
      | ok => exact first.trans (ih next)

theorem traverses_stop_all (ks : List Incarnation) (hubSound : cluster.frame.HubSoundIf loyal)
    (located : ∀ k ∈ ks, ∃ id : NodeId, cluster.current[id]? = some k) :
    Traverses cluster (cluster.stopAllTrail ks) (ks.foldl Cluster.stop cluster) := by
  induction ks generalizing cluster with
  | nil => exact .done cluster
  | cons k rest ih =>
      obtain ⟨id, here⟩ := located k (List.mem_cons_self ..)
      obtain ⟨later, current⟩ := hub_sound_stop hubSound id k here
      refine (traverses_stop hubSound id k here).trans (ih later fun j member => ?_)
      rw [current]
      exact located j (List.mem_cons_of_mem k member)

theorem traverses_trail (upheld : cluster.Upheld loyal) (operation : Operation) (kept : loyal → operation.meddles = false) :
    Traverses cluster (cluster.trail operation) (cluster.step operation).1 := by
  cases steers : operation.steers with
  | false =>
      have drifts := drifts_step upheld.hubSound operation steers kept
      have single : cluster.trail operation = [(cluster.step operation).1] := by
        cases operation with
        | startAll => cases steers
        | stopAll => cases steers
        | node id operation =>
            cases operation with
            | start => cases steers
            | stop => cases steers
            | _ => rfl
        | _ => rfl
      rw [single]
      exact .pass _ _ _ _ (fun k => .inl (drifts.lifecycle upheld.sound k)) (.done _)
  | true =>
      cases operation with
      | startAll => exact cluster.traverses_start_all cluster.incarnations
      | stopAll => exact traverses_stop_all cluster.incarnations upheld.hubSound cluster.located_of_incarnation
      | node id operation =>
          rw [Cluster.step]
          cases operation with
          | start =>
              rw [trail]
              cases found : cluster.find? id with
              | none => exact .done cluster
              | some place => exact cluster.traverses_start place.1
          | stop =>
              rw [trail]
              cases found : cluster.find? id with
              | none => exact .done cluster
              | some place =>
                  exact traverses_stop upheld.hubSound id place.1 ((cluster.find_eq_some_iff id place.1 place.2).mp found).1
          | _ => cases steers
      | _ => cases steers

end Cluster

end Coherence
