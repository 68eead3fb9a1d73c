import Coherence.Cluster.Enrolment
import Coherence.Proofs.Following

set_option autoImplicit false

namespace Coherence

open Std

namespace Bus

variable {η : Type}

def without (bus : Bus η) (channel : Channel) (node : NodeId) : Bus η :=
  { bus with handlers := bus.handlers.modify channel (·.erase node) }

theorem handlers_on_without (bus : Bus η) (channel : Channel) (node : NodeId) :
    (bus.without channel node).handlersOn channel = (bus.handlersOn channel).erase node := by
  rw [handlersOn, without, ExtTreeMap.getElem?_modify_self, handlersOn]
  cases bus.handlers[channel]? with
  | none =>
      apply ExtTreeMap.ext_getElem?
      intro other
      simp
  | some kept => rfl

theorem without_unregistered (bus : Bus η) (channel : Channel) (node : NodeId)
    (unregistered : ¬ bus.isRegistered channel node = true) : bus.without channel node = bus := by
  have handlers : bus.handlers.modify channel (·.erase node) = bus.handlers := by
    apply modify_same
    intro kept here
    rw [isRegistered, handlersOn, here, Option.getD_some, ExtTreeMap.contains_iff_mem] at unregistered
    exact erase_absent kept node unregistered
  rw [without, handlers]

end Bus

namespace Node

def enlisted (node : Node) (k : Incarnation) (store : Store.Handle) (hub : Hub.Handle) : Node :=
  { node.setRegistry (node.registry.subscribe k).1 with
    state := .running
    held := some ⟨(node.registry.subscribe k).2, store, hub⟩ }

-- A node whose bridge subscribed to its registry and left again.
def retried (node : Node) (k : Incarnation) : Node :=
  node.setRegistry ((node.registry.subscribe k).1.release (node.registry.subscribe k).2)

def dismissed (node : Node) (held : Held) : Node :=
  { node.setRegistry (node.registry.release held.registry) with held := none }

end Node

namespace Cluster

def enrolled (cluster : Cluster) (k : Incarnation) (node : Node) (bus : Bus Incarnation) : Cluster :=
  let (store, inStore) := cluster.store.subscribe cluster.channel k
  let (hub, inHub) := cluster.hub.subscribe node.id k
  { cluster with bus, store, hub }.setNode k (node.enlisted k inStore inHub)

-- A start is refused and only logged, or the bridge is enrolled, announces its groups and reads the store.
inductive Started (cluster : Cluster) (k : Incarnation) (node : Node) : Cluster × Except Error Unit → Prop
  | refused (error : Error) (log : List (Incarnation × LogEntry)) :
      Started cluster k node ({ cluster with log }, .error error)
  | running (bus : Bus Incarnation) (stopped : node.state = .stopped)
      (registered : cluster.bus.register cluster.channel node.id k = .ok bus) :
      Started cluster k node (((cluster.enrolled k node bus).publish k).recompute k, .ok ())

theorem can_become_starting (state : Lifecycle) (may : state.canBecome .starting = true) : state = .stopped := by
  cases state with
  | stopped => rfl
  | starting => cases may
  | running => cases may
  | stopping => cases may

theorem start_failed_eq (cluster : Cluster) (k : Incarnation) (node : Node) (error : Error)
    (found : cluster.nodes[k]? = some node) (stopped : node.state = .stopped) :
    (cluster.setNode k (node.setState .starting)).startFailed k error =
      { cluster with log := cluster.log ++ [(k, .startupFailed error)] } := by
  have here : ((cluster.setNode k (node.setState .starting)).note k [.startupFailed error]).nodes[k]? =
      some (node.setState .starting) := by
    change (cluster.setNode k (node.setState .starting)).nodes[k]? = _
    rw [nodes_set_node, if_pos rfl]
  have back : (node.setState .starting).setState .stopped = node := by
    cases node
    cases stopped
    rfl
  rw [startFailed, modify, amend_found _ _ _ _ here]
  simp only [back]
  simp [setNode, note, insert_again, insert_found _ _ _ found]

theorem subscribe_reachable (cluster : Cluster) (k : Incarnation) (node : Node)
    (reachable : node.replica.unreachable = false) :
    cluster.subscribe Service.granted k node =
      ({ cluster with
          store := (cluster.store.subscribe cluster.channel k).1
          hub := (cluster.hub.subscribe node.id k).1 }.setNode k (node.setRegistry (node.registry.subscribe k).1),
        .ok ⟨(node.registry.subscribe k).2, (cluster.store.subscribe cluster.channel k).2,
          (cluster.hub.subscribe node.id k).2⟩) := by
  have inStore : node.replica.subscribe cluster.store cluster.channel k =
      .ok (cluster.store.subscribe cluster.channel k) := by
    simp [Replica.subscribe, Replica.reach, reachable, Except.map]
  simp [subscribe, Service.attempt, Service.granted, inStore]

theorem enroll_registered (cluster : Cluster) (k : Incarnation) (node : Node) (bus : Bus Incarnation)
    (reachable : node.replica.unreachable = false)
    (registered : cluster.bus.register cluster.channel node.id k = .ok bus) :
    cluster.enroll Service.granted k node = { cluster with bus }.subscribe Service.granted k node := by
  simp [enroll, Service.attempt, Service.granted, registered, subscribe_reachable _ k node reachable]

theorem enroll_collision (cluster : Cluster) (k : Incarnation) (node : Node) (fault : Fault)
    (collision : cluster.bus.register cluster.channel node.id k = .error fault) :
    cluster.enroll Service.granted k node = (cluster, .error (.startup .registration fault)) := by
  simp [enroll, Service.attempt, Service.granted, collision]

theorem admission_unanswered (cluster : Cluster) (k : Incarnation) (node : Node) (fault : Fault)
    (unanswered : cluster.hub.currentMembers node.id cluster.channel = .error fault) :
    cluster.admission Service.granted k node =
      (cluster.startFailed k (.startup .membership fault), .error (.startup .membership fault)) := by
  simp [admission, Service.attempt, Service.granted, unanswered]

theorem admission_collision (cluster : Cluster) (k : Incarnation) (node : Node) (members : ExtTreeSet NodeId)
    (fault : Fault) (answered : cluster.hub.currentMembers node.id cluster.channel = .ok members)
    (collision : cluster.bus.register cluster.channel node.id k = .error fault) :
    cluster.admission Service.granted k node =
      (cluster.startFailed k (.startup .registration fault), .error (.startup .registration fault)) := by
  simp [admission, Service.attempt, Service.granted, answered, enroll_collision cluster k node fault collision]

theorem admission_registered (cluster : Cluster) (k : Incarnation) (node : Node) (members : ExtTreeSet NodeId)
    (bus : Bus Incarnation) (reachable : node.replica.unreachable = false)
    (answered : cluster.hub.currentMembers node.id cluster.channel = .ok members)
    (registered : cluster.bus.register cluster.channel node.id k = .ok bus) :
    cluster.admission Service.granted k node = (cluster.enrolled k node bus, .ok ()) := by
  simp only [admission, Service.attempt, Service.granted, answered, Bool.false_eq_true, if_false,
    enroll_registered cluster k node bus reachable registered, subscribe_reachable _ k node reachable]
  rw [modify, amend_found _ _ _ _ (by rw [nodes_set_node, if_pos rfl])]
  simp [enrolled, setNode, note, insert_again, Node.enlisted, Node.setRegistry, channel]

theorem enrolled_starting (cluster : Cluster) (k : Incarnation) (node : Node) (bus : Bus Incarnation) :
    (cluster.setNode k (node.setState .starting)).enrolled k (node.setState .starting) bus =
      cluster.enrolled k node bus := by
  simp [enrolled, setNode, insert_again, Node.enlisted, Node.setRegistry, Node.setState, Node.registry, channel]

theorem begin_start_eq (cluster : Cluster) (k : Incarnation) (node : Node) (stopped : node.state = .stopped) :
    cluster.beginStart k node = .ok (cluster.setNode k (node.setState .starting)) := by
  rw [beginStart, stopped]
  rfl

theorem start_unready (cluster : Cluster) (k : Incarnation) (node : Node) (found : cluster.nodes[k]? = some node)
    (unready : ¬ node.state.canBecome .starting = true) :
    cluster.start k = (cluster, .error (.invalidState node.state "start")) := by
  rw [start, found]
  dsimp only
  rw [beginStart, if_neg unready]

theorem start_unanswered (cluster : Cluster) (k : Incarnation) (node : Node) (fault : Fault)
    (found : cluster.nodes[k]? = some node) (stopped : node.state = .stopped)
    (unanswered : cluster.hub.currentMembers node.id cluster.channel = .error fault) :
    cluster.start k = ({ cluster with log := cluster.log ++ [(k, .startupFailed (.startup .membership fault))] },
      .error (.startup .membership fault)) := by
  rw [start, found]
  dsimp only
  rw [begin_start_eq cluster k node stopped]
  dsimp only
  rw [admission_unanswered (cluster.setNode k (node.setState .starting)) k (node.setState .starting) fault unanswered,
    start_failed_eq cluster k node _ found stopped]

theorem start_collision (cluster : Cluster) (k : Incarnation) (node : Node) (members : ExtTreeSet NodeId) (fault : Fault)
    (found : cluster.nodes[k]? = some node) (stopped : node.state = .stopped)
    (answered : cluster.hub.currentMembers node.id cluster.channel = .ok members)
    (collision : cluster.bus.register cluster.channel node.id k = .error fault) :
    cluster.start k = ({ cluster with log := cluster.log ++ [(k, .startupFailed (.startup .registration fault))] },
      .error (.startup .registration fault)) := by
  rw [start, found]
  dsimp only
  rw [begin_start_eq cluster k node stopped]
  dsimp only
  rw [admission_collision (cluster.setNode k (node.setState .starting)) k (node.setState .starting) members fault answered
    collision, start_failed_eq cluster k node _ found stopped]

theorem start_granted (cluster : Cluster) (k : Incarnation) (node : Node) (members : ExtTreeSet NodeId)
    (bus : Bus Incarnation) (found : cluster.nodes[k]? = some node) (stopped : node.state = .stopped)
    (reachable : node.replica.unreachable = false)
    (answered : cluster.hub.currentMembers node.id cluster.channel = .ok members)
    (registered : cluster.bus.register cluster.channel node.id k = .ok bus) :
    cluster.start k = (((cluster.enrolled k node bus).publish k).recompute k, .ok ()) := by
  rw [start, found]
  dsimp only
  rw [begin_start_eq cluster k node stopped]
  dsimp only
  rw [admission_registered (cluster.setNode k (node.setState .starting)) k (node.setState .starting) members bus reachable
    answered registered, enrolled_starting]

theorem start_started (cluster : Cluster) (k : Incarnation) (node : Node) (found : cluster.nodes[k]? = some node)
    (reachable : node.replica.unreachable = false) : Started cluster k node (cluster.start k) := by
  by_cases may : node.state.canBecome .starting = true
  · have stopped := can_become_starting node.state may
    cases answered : cluster.hub.currentMembers node.id cluster.channel with
    | error fault =>
        rw [start_unanswered cluster k node fault found stopped answered]
        exact .refused _ _
    | ok members =>
        cases registered : cluster.bus.register cluster.channel node.id k with
        | error fault =>
            rw [start_collision cluster k node members fault found stopped answered registered]
            exact .refused _ _
        | ok bus =>
            rw [start_granted cluster k node members bus found stopped reachable answered registered]
            exact .running bus stopped registered
  · rw [start_unready cluster k node found may]
    exact .refused _ _

theorem unregister_granted (cluster : Cluster) (k : Incarnation) (id : NodeId) (complaint : Fault → LogEntry) :
    ∃ log, cluster.unregister Service.granted k id complaint =
      { cluster with bus := cluster.bus.without cluster.channel id, log } := by
  by_cases registered : cluster.bus.isRegistered cluster.channel id = true
  · refine ⟨cluster.log, ?_⟩
    simp [unregister, Service.attempt, Service.granted, Bus.unregister, registered, Bus.without]
  · refine ⟨(cluster.note k [complaint (.notRegistered cluster.channel)]).log, ?_⟩
    simp only [unregister, Service.attempt, Service.granted, Bus.unregister, registered,
      Bus.without_unregistered _ _ _ registered, Bool.false_eq_true, if_false]
    rfl

theorem subscribe_unreachable (cluster : Cluster) (k : Incarnation) (node : Node)
    (cut : node.replica.unreachable = true) :
    ∃ error, cluster.subscribe Service.granted k node = (cluster.setNode k (node.retried k), .error error) := by
  simp [subscribe, Service.attempt, Service.granted, Replica.subscribe, Replica.reach, cut, Except.map, Node.retried]

theorem enroll_unreachable (cluster : Cluster) (k : Incarnation) (node : Node) (bus : Bus Incarnation)
    (cut : node.replica.unreachable = true) (registered : cluster.bus.register cluster.channel node.id k = .ok bus) :
    ∃ log error, cluster.enroll Service.granted k node =
      ({ cluster with bus := bus.without cluster.channel node.id, log }.setNode k (node.retried k), .error error) := by
  obtain ⟨error, refused⟩ := subscribe_unreachable { cluster with bus } k node cut
  obtain ⟨log, unregistered⟩ :=
    unregister_granted ({ cluster with bus }.setNode k (node.retried k)) k node.id .rollbackFailed
  refine ⟨log, error, ?_⟩
  have rolledBack : cluster.enroll Service.granted k node =
      (({ cluster with bus }.setNode k (node.retried k)).unregister Service.granted k node.id .rollbackFailed,
        .error error) := by
    simp [enroll, Service.attempt, Service.granted, registered, refused]
  rw [rolledBack, unregistered]
  rfl

theorem admission_refused (cluster after : Cluster) (k : Incarnation) (node : Node) (members : ExtTreeSet NodeId)
    (error : Error) (answered : cluster.hub.currentMembers node.id cluster.channel = .ok members)
    (refused : cluster.enroll Service.granted k node = (after, .error error)) :
    cluster.admission Service.granted k node = (after.startFailed k error, .error error) := by
  simp [admission, Service.attempt, Service.granted, answered, refused]

theorem start_failed_retried (cluster : Cluster) (k : Incarnation) (node : Node) (error : Error) (bus : Bus Incarnation)
    (log : List (Incarnation × LogEntry)) (stopped : node.state = .stopped) :
    ∃ log', ({ cluster.setNode k (node.setState .starting) with bus, log }.setNode k
        ((node.setState .starting).retried k)).startFailed k error =
      { cluster with bus, log := log' }.setNode k (node.retried k) := by
  refine ⟨log ++ [(k, .startupFailed error)] ++ [], ?_⟩
  have back : ((node.setState .starting).retried k).setState .stopped = node.retried k := by
    cases node
    cases stopped
    rfl
  rw [startFailed, modify, amend_found _ k _ ((node.setState .starting).retried k)]
  · rw [back]
    simp only [setNode, note, insert_again]
    rfl
  · exact (nodes_set_node _ k k _).trans (if_pos rfl)

-- If the store cannot be reached, places on the bus and in the registry were taken before, and are given up again.
inductive Failed (cluster : Cluster) (k : Incarnation) (node : Node) : Cluster × Except Error Unit → Prop
  | refused (error : Error) (log : List (Incarnation × LogEntry)) :
      Failed cluster k node ({ cluster with log }, .error error)
  | retried (error : Error) (log : List (Incarnation × LogEntry)) (bus : Bus Incarnation) (stopped : node.state = .stopped)
      (registered : cluster.bus.register cluster.channel node.id k = .ok bus) :
      Failed cluster k node
        ({ cluster with bus := bus.without cluster.channel node.id, log }.setNode k (node.retried k), .error error)

theorem start_unreachable (cluster : Cluster) (k : Incarnation) (node : Node) (found : cluster.nodes[k]? = some node)
    (cut : node.replica.unreachable = true) : Failed cluster k node (cluster.start k) := by
  by_cases may : node.state.canBecome .starting = true
  · have stopped := can_become_starting node.state may
    cases answered : cluster.hub.currentMembers node.id cluster.channel with
    | error fault =>
        rw [start_unanswered cluster k node fault found stopped answered]
        exact .refused _ _
    | ok members =>
        cases registered : cluster.bus.register cluster.channel node.id k with
        | error fault =>
            rw [start_collision cluster k node members fault found stopped answered registered]
            exact .refused _ _
        | ok bus =>
            obtain ⟨log, error, refused⟩ := enroll_unreachable (cluster.setNode k (node.setState .starting)) k
              (node.setState .starting) bus cut registered
            obtain ⟨last, failed⟩ := start_failed_retried cluster k node error (bus.without cluster.channel node.id) log
              stopped
            have admission := (admission_refused (cluster.setNode k (node.setState .starting)) _ k (node.setState .starting)
              members error answered refused).trans (congrArg (·, Except.error error) failed)
            rw [start, found]
            dsimp only
            rw [begin_start_eq cluster k node stopped]
            dsimp only
            rw [admission]
            exact .retried error last bus stopped registered
  · rw [start_unready cluster k node found may]
    exact .refused _ _

theorem start_error (cluster : Cluster) (k : Incarnation) (node : Node) (error : Error)
    (found : cluster.nodes[k]? = some node)
    (refused : (cluster.start k).2 = .error error) : Failed cluster k node (cluster.start k) := by
  by_cases cut : node.replica.unreachable = true
  · exact start_unreachable cluster k node found cut
  · have started := start_started cluster k node found (by simpa using cut)
    generalize cluster.start k = result at started refused
    cases started with
    | refused error log => exact .refused error log
    | running bus stopped registered => cases refused

theorem admission_ok (cluster after : Cluster) (k : Incarnation) (node : Node)
    (admitted : (cluster.setNode k (node.setState .starting)).admission Service.granted k (node.setState .starting) =
      (after, .ok ())) : ∃ bus, after = cluster.enrolled k node bus := by
  generalize begun : cluster.setNode k (node.setState .starting) = starting at admitted
  cases answered : starting.hub.currentMembers node.id starting.channel with
  | error fault =>
      rw [admission_unanswered starting k (node.setState .starting) fault answered] at admitted
      cases admitted
  | ok members =>
      cases registered : starting.bus.register starting.channel node.id k with
      | error fault =>
          rw [admission_collision starting k (node.setState .starting) members fault answered registered] at admitted
          cases admitted
      | ok bus =>
          by_cases cut : node.replica.unreachable = true
          · obtain ⟨log, error, refused⟩ := enroll_unreachable starting k (node.setState .starting) bus cut registered
            rw [admission_refused starting _ k (node.setState .starting) members error answered refused] at admitted
            cases admitted
          · have reachable : node.replica.unreachable = false := by simpa using cut
            rw [admission_registered starting k (node.setState .starting) members bus reachable answered registered, ← begun,
              enrolled_starting] at admitted
            cases admitted
            exact ⟨bus, rfl⟩

theorem frame_enrolled (cluster : Cluster) (k : Incarnation) (node : Node) (bus : Bus Incarnation) :
    (cluster.enrolled k node bus).frame =
      { cluster.frame with
        bus
        hub := (cluster.hub.subscribe node.id k).1
        listeners := cluster.frame.listeners.insert cluster.frame.config.channel (cluster.frame.subscribers.add k).1 }.place k
          (node.enlisted k ⟨cluster.channel, cluster.frame.subscribers.next⟩ (cluster.hub.subscribe node.id k).2).standing :=
  frame_set_node _ k _

end Cluster

end Coherence
