import Coherence.Interleaving.Turn
import Coherence.Proofs.Adjusting
import Coherence.Proofs.Starting

set_option autoImplicit false

namespace Coherence

open Std

-- What matters of a node to its bridge: neither what it counts and caches, nor what it has written.
structure Gist where
  id : NodeId
  state : Lifecycle
  held : Option Held
  draws : Nat
  snapshot : Snapshot
  listeners : Listeners Incarnation
  groups : List Group
  unreachable : Bool
  rejected : ExtTreeSet String

structure Memory where
  id : NodeId
  draws : Nat
  snapshot : Snapshot

def Gist.memory (gist : Gist) : Memory := ⟨gist.id, gist.draws, gist.snapshot⟩

namespace Node

def gist (node : Node) : Gist :=
  ⟨node.id, node.state, node.held, node.draws, node.snapshot, node.registry.listeners, node.registry.groupNames,
    node.replica.unreachable, node.replica.rejected⟩

def memory (node : Node) : Memory := node.gist.memory

def released (node : Node) : Node :=
  match node.held with
  | none => node
  | some held => node.dismissed held

def left (node : Node) (k : Incarnation) : Node :=
  node.setRegistry ((node.registry.subscribe k).1.release (node.registry.subscribe k).2)

theorem Alike.gist {node fresh : Node} (alike : node.Alike fresh)
    (unreachable : fresh.replica.unreachable = node.replica.unreachable) : fresh.gist = node.gist := by
  simp only [Node.gist, alike.id, alike.state, alike.held, alike.draws, alike.snapshot, alike.listeners, alike.groups,
    alike.rejected, unreachable]

theorem gist_accounted (node : Node) (result : Except Fault Unit) (writing : Interleaving.Writing) :
    (writing.account result node).1.gist = node.gist := by
  cases writing <;> cases result <;> rfl

end Node

theorem Registry.audience_subscribe (registry : Registry Incarnation) (k : Incarnation) :
    k ∈ (registry.subscribe k).1.audience := by
  have added : (registry.listeners.next, k) ∈ (registry.subscribe k).1.listeners.entries.toList :=
    ExtTreeMap.mem_toList_iff_getElem?_eq_some.mpr ExtTreeMap.getElem?_insert_self
  exact List.mem_map_of_mem added

namespace Cluster

-- One node became another; the entries of the store and the names stay.
structure Replaced (before : Cluster) (k : Incarnation) (fresh : Node) (after : Cluster) : Prop where
  nodes : after.nodes = before.nodes.insert k fresh
  config : after.config = before.config
  current : after.current = before.current
  channels : after.store.channels = before.store.channels

namespace Replaced

variable {first second third : Cluster} {k : Incarnation} {node fresh last : Node}

theorem found (replaced : first.Replaced k fresh second) (j : Incarnation) :
    second.nodes[j]? = if k = j then some fresh else first.nodes[j]? := by
  rw [replaced.nodes]
  exact nodes_set_node first k j fresh

theorem entries (replaced : first.Replaced k fresh second) : second.entries = first.entries := by
  rw [Cluster.entries, Cluster.entries, Store.entries, Store.entries, channel, channel, replaced.config,
    replaced.channels]

theorem set (cluster : Cluster) (k : Incarnation) (fresh : Node) : cluster.Replaced k fresh (cluster.setNode k fresh) :=
  ⟨rfl, rfl, rfl, rfl⟩

theorem unchanged (here : first.nodes[k]? = some node) (nodes : second.nodes = first.nodes)
    (config : second.config = first.config) (current : second.current = first.current)
    (channels : second.store.channels = first.store.channels) : first.Replaced k node second :=
  ⟨nodes.trans (insert_found first.nodes k node here).symm, config, current, channels⟩

theorem refl (here : first.nodes[k]? = some node) : first.Replaced k node first :=
  .unchanged here rfl rfl rfl rfl

theorem trans (earlier : first.Replaced k fresh second) (later : second.Replaced k last third) :
    first.Replaced k last third where
  nodes := by rw [later.nodes, earlier.nodes, insert_again]
  config := later.config.trans earlier.config
  current := later.current.trans earlier.current
  channels := later.channels.trans earlier.channels

theorem amend (cluster : Cluster) (change : Node → Node × Log) (here : cluster.nodes[k]? = some node) :
    cluster.Replaced k (change node).1 (cluster.amend k change) := by
  rw [amend_found cluster k change node here]
  exact ⟨rfl, rfl, rfl, rfl⟩

theorem modify (cluster : Cluster) (change : Node → Node) (here : cluster.nodes[k]? = some node) :
    cluster.Replaced k (change node) (cluster.modify k change) :=
  .amend cluster (fun node => (change node, [])) here

end Replaced

variable (cluster : Cluster) (refused : Service → Bool) (k : Incarnation) (node : Node)

theorem replaced_unregister (here : cluster.nodes[k]? = some node) (id : NodeId) (complaint : Fault → LogEntry) :
    cluster.Replaced k node (cluster.unregister refused k id complaint) := by
  rw [unregister]
  split <;> exact .unchanged here rfl rfl rfl rfl

theorem replaced_release (here : cluster.nodes[k]? = some node) :
    cluster.Replaced k node.released (cluster.release k) := by
  rw [release, here, Node.released]
  dsimp only
  cases node.held with
  | none => exact .refl here
  | some held => exact ⟨rfl, rfl, rfl, rfl⟩

theorem replaced_begin_stop :
    cluster.Replaced k (node.setState .stopping).released (cluster.beginStop refused k node) := by
  rw [beginStop]
  have stopping := Replaced.set cluster k (node.setState .stopping)
  have here : (cluster.setNode k (node.setState .stopping)).nodes[k]? = some (node.setState .stopping) := by
    rw [nodes_set_node, if_pos rfl]
  have unregistered := replaced_unregister _ refused k _ here node.id .unregisterFailed
  exact (stopping.trans unregistered).trans (replaced_release _ k _ ((unregistered.found k).trans (if_pos rfl)))

theorem replaced_discard (here : cluster.nodes[k]? = some node) :
    cluster.Replaced k (if node.state = .stopped then node else node.released) (cluster.discard refused k) := by
  rw [discard, here]
  dsimp only
  split
  · exact .refl here
  · have noted : cluster.Replaced k node (cluster.note k [.droppedWhileActive]) := .unchanged here rfl rfl rfl rfl
    have unregistered := replaced_unregister (cluster.note k [.droppedWhileActive]) refused k node here node.id
      .dropUnregisterFailed
    exact (noted.trans unregistered).trans (replaced_release _ k node ((unregistered.found k).trans (if_pos rfl)))

theorem channels_subscribed (store : Store Incarnation) (handle : Store.Handle)
    (subscribed : Service.attempt refused .storeSubscribe (node.replica.subscribe cluster.store cluster.channel k) =
      .ok (store, handle)) : store.channels = cluster.store.channels := by
  rw [Service.attempt] at subscribed
  split at subscribed
  · cases subscribed
  · rw [Replica.subscribe, Replica.reach] at subscribed
    split at subscribed
    · cases subscribed
    · cases subscribed
      rfl

theorem replaced_subscribe (here : cluster.nodes[k]? = some node) :
    (∃ held, (cluster.subscribe refused k node).2 = .ok held ∧ held.registry = (node.registry.subscribe k).2 ∧
      cluster.Replaced k (node.setRegistry (node.registry.subscribe k).1) (cluster.subscribe refused k node).1) ∨
    ∃ error fresh, (cluster.subscribe refused k node).2 = .error error ∧ (fresh = node ∨ fresh = node.left k) ∧
      cluster.Replaced k fresh (cluster.subscribe refused k node).1 := by
  rw [subscribe, Service.attempt]
  by_cases unlisted : refused .registrySubscribe = true
  · rw [if_pos unlisted]
    exact .inr ⟨_, node, rfl, .inl rfl, .refl here⟩
  · rw [if_neg unlisted]
    dsimp only
    split
    · exact .inr ⟨_, node.left k, rfl, .inr rfl, ⟨rfl, rfl, rfl, rfl⟩⟩
    · rename_i store inStore subscribed
      have channels := channels_subscribed cluster refused k node store inStore subscribed
      split
      · exact .inr ⟨_, node.left k, rfl, .inr rfl, ⟨rfl, rfl, rfl, channels⟩⟩
      · exact .inl ⟨_, rfl, rfl, ⟨rfl, rfl, rfl, channels⟩⟩

theorem replaced_enroll (here : cluster.nodes[k]? = some node) :
    (∃ held, (cluster.enroll refused k node).2 = .ok held ∧ held.registry = (node.registry.subscribe k).2 ∧
      cluster.Replaced k (node.setRegistry (node.registry.subscribe k).1) (cluster.enroll refused k node).1) ∨
    ∃ error fresh, (cluster.enroll refused k node).2 = .error error ∧ (fresh = node ∨ fresh = node.left k) ∧
      cluster.Replaced k fresh (cluster.enroll refused k node).1 := by
  rw [enroll]
  split
  · exact .inr ⟨_, node, rfl, .inl rfl, .refl here⟩
  · rename_i bus registered
    have wired : cluster.Replaced k node { cluster with bus } := .unchanged here rfl rfl rfl rfl
    have subscribed := replaced_subscribe { cluster with bus } refused k node here
    generalize { cluster with bus }.subscribe refused k node = outcome at subscribed
    obtain ⟨after, result⟩ := outcome
    cases subscribed with
    | inl admitted =>
        obtain ⟨held, rfl, given, replaced⟩ := admitted
        exact .inl ⟨held, rfl, given, wired.trans replaced⟩
    | inr refusal =>
        obtain ⟨error, fresh, rfl, either, replaced⟩ := refusal
        have unregistered := replaced_unregister after refused k fresh ((replaced.found k).trans (if_pos rfl)) node.id
          .rollbackFailed
        exact .inr ⟨error, fresh, rfl, either, (wired.trans replaced).trans unregistered⟩

theorem replaced_start_failed (here : cluster.nodes[k]? = some node) (error : Error) :
    cluster.Replaced k (node.setState .stopped) (cluster.startFailed k error) := by
  have noted : cluster.Replaced k node (cluster.note k [.startupFailed error]) := .unchanged here rfl rfl rfl rfl
  exact noted.trans (.modify (cluster.note k [.startupFailed error]) (·.setState .stopped) here)

theorem replaced_admission (here : cluster.nodes[k]? = some node) :
    (∃ store hub, (cluster.admission refused k node).2 = .ok () ∧
      cluster.Replaced k (node.enlisted k store hub) (cluster.admission refused k node).1) ∨
    ∃ error fresh, (cluster.admission refused k node).2 = .error error ∧ (fresh = node ∨ fresh = node.left k) ∧
      cluster.Replaced k (fresh.setState .stopped) (cluster.admission refused k node).1 := by
  rw [admission]
  split
  · exact .inr ⟨_, node, rfl, .inl rfl, replaced_start_failed cluster k node here _⟩
  · have enrolled := replaced_enroll cluster refused k node here
    generalize cluster.enroll refused k node = outcome at enrolled
    obtain ⟨after, result⟩ := outcome
    cases enrolled with
    | inl admitted =>
        obtain ⟨held, rfl, given, replaced⟩ := admitted
        refine .inl ⟨held.store, held.hub, rfl, replaced.trans ?_⟩
        rw [Node.enlisted, ← given]
        exact .modify after (fun node => { node with state := .running, held := some held })
          ((replaced.found k).trans (if_pos rfl))
    | inr refusal =>
        obtain ⟨error, fresh, rfl, either, replaced⟩ := refusal
        have there := (replaced.found k).trans (if_pos rfl)
        exact .inr ⟨error, fresh, rfl, either, replaced.trans (replaced_start_failed after k fresh there error)⟩

theorem write_tried (cluster : Cluster) (k : Incarnation) (node : Node) (mutation : Mutation) :
    ∃ store result, cluster.write k node mutation =
        ({ cluster with store }.setNode k { node with replica := node.replica.tried mutation }, result) ∧
      node.replica.Wrote cluster.store cluster.channel mutation (node.replica.tried mutation, store, result) := by
  have wrote := node.replica.write_wrote cluster.store cluster.channel mutation
  rw [write]
  generalize node.replica.write cluster.store cluster.channel mutation = outcome at wrote
  obtain ⟨replica, store, result⟩ := outcome
  have tried : replica = node.replica.tried mutation := by cases wrote <;> rfl
  subst tried
  exact ⟨store, result, rfl, wrote⟩

end Cluster

namespace Interleaving

-- Work that neither starts or stops a bridge, nor makes it read the store for itself or write to it.
def Work.isCalm : Work → Bool
  | .start | .admission | .stop | .endStop | .recompute | .write .. => false
  | .entries (.recomputing _) (.ok _) => false
  | _ => true

-- What needs no lock and is no part of a start, a stop, an announcement or a recomputation under way.
def Work.isRoutine : Work → Bool
  | .start | .admission | .stop | .endStop | .publish | .groupsChanged => false
  | .write _ .announcing | .write _ .withdrawing => false
  | .read (.recomputing _) | .entries (.recomputing _) _ => false
  | _ => true

def Action.isRoutine : Action → Bool
  | .pass .. | .answer _ | .sleep => true
  | .work _ own => own.isRoutine
  | _ => false

def Action.isDelivery : Action → Bool
  | .pass _ .apply | .work _ (.apply _) | .sleep => true
  | _ => false

theorem Action.delivery_cases (action : Action) (delivery : action.isDelivery = true) :
    (∃ k, action = .pass k .apply) ∨ (∃ k event, action = .work k (.apply event)) ∨ action = .sleep := by
  cases action with
  | pass k service =>
      cases service with
      | apply => exact .inl ⟨k, rfl⟩
      | _ => cases delivery
  | work k work =>
      cases work with
      | apply event => exact .inr (.inl ⟨k, event, rfl⟩)
      | _ => cases delivery
  | sleep => exact .inr (.inr rfl)
  | _ => cases delivery

theorem Action.routine_of_delivery (action : Action) (delivery : action.isDelivery = true) : action.isRoutine = true := by
  obtain ⟨k, rfl⟩ | ⟨k, event, rfl⟩ | rfl := action.delivery_cases delivery
  · rfl
  · rfl
  · rfl

-- Work after which there is only routine left to do.
def Work.isHarmless : Work → Bool
  | .start | .admission | .stop | .publish | .recompute | .groupsChanged => false
  | .read (.recomputing _) => false
  | _ => true

def Work.recomputes : Work → Bool
  | .recompute | .endStop => true
  | .entries (.recomputing _) (.ok _) => true
  | _ => false

-- A node comes to run only when it is let in, and as long as it runs its groups and their listeners stay.
structure Turned (k : Incarnation) (node fresh : Node) (work : Work) : Prop where
  id : fresh.id = node.id
  unreachable : fresh.replica.unreachable = node.replica.unreachable
  rejected : fresh.replica.rejected = node.replica.rejected
  running : fresh.state = .running → node.state = .running ∧ fresh.registry.listeners = node.registry.listeners ∧
    fresh.registry.groupNames = node.registry.groupNames ∨ work = .admission ∧ k ∈ fresh.registry.audience
  stopping : work = .stop → fresh.state ≠ .running
  memory : work.recomputes = false → fresh.memory = node.memory

theorem Turned.of_gist {k : Incarnation} {node fresh : Node} {work : Work} (same : fresh.gist = node.gist)
    (other : work ≠ .stop) : Turned k node fresh work where
  id := congrArg Gist.id same
  unreachable := congrArg Gist.unreachable same
  rejected := congrArg Gist.rejected same
  running runs := .inl ⟨(congrArg Gist.state same).symm.trans runs, congrArg Gist.listeners same,
    congrArg Gist.groups same⟩
  stopping stops := absurd stops other
  memory _ := congrArg Gist.memory same

theorem Turned.of_rest {k : Incarnation} {node fresh : Node} {work : Work} (id : fresh.id = node.id)
    (unreachable : fresh.replica.unreachable = node.replica.unreachable)
    (rejected : fresh.replica.rejected = node.replica.rejected) (rests : fresh.state ≠ .running)
    (memory : work.recomputes = false → fresh.memory = node.memory) : Turned k node fresh work :=
  ⟨id, unreachable, rejected, fun running => absurd running rests, fun _ => rests, memory⟩

def Action.recomputing? : Action → Option (Incarnation × UInt64)
  | .work k (.read (.recomputing generation)) => some (k, generation)
  | .work k (.entries (.recomputing generation) _) => some (k, generation)
  | _ => none

namespace Bench

def delivering (bench : Bench) (agendas : List (List Action)) : Bench :=
  agendas.foldl (fun bench agenda => bench.spawn { agenda }) bench

theorem cluster_delivering (agendas : List (List Action)) (bench : Bench) :
    (bench.delivering agendas).cluster = bench.cluster := by
  induction agendas generalizing bench with
  | nil => rfl
  | cons agenda agendas ih => exact ih (bench.spawn { agenda })

-- Apart from the cluster nothing changes but that deliveries may be on their way.
def Delivers (before after : Bench) : Prop :=
  ∃ cluster agendas, after = (before.withCluster cluster).delivering agendas ∧
    ∀ agenda ∈ agendas, ∀ action ∈ agenda, action.isDelivery = true

theorem delivers_nothing (bench : Bench) (cluster : Cluster) : bench.Delivers (bench.withCluster cluster) :=
  ⟨cluster, [], rfl, fun _ member => absurd member List.not_mem_nil⟩

theorem delivery_ok (bus : Bus Incarnation) (event : Event) (mode : Mode) (target : NodeId × Incarnation)
    (agenda : List Action) (delivered : delivery bus event mode target = .ok agenda) :
    ∀ action ∈ agenda, action.isDelivery = true := by
  rw [delivery] at delivered
  split at delivered
  · cases delivered
  · split at delivered
    · cases delivered
      simp [Action.receiving, Action.isDelivery]
    · split at delivered
      · cases delivered
      · cases delivered
        simp [Action.isDelivery]

theorem agenda_delivery (bus : Bus Incarnation) (event : Event) (mode : Mode) (targets : List (NodeId × Incarnation))
    (agenda : List Action) (member : agenda ∈ (targets.map (delivery bus event mode)).filterMap Except.toOption) :
    ∀ action ∈ agenda, action.isDelivery = true := by
  obtain ⟨result, among, granted⟩ := List.mem_filterMap.mp member
  obtain ⟨target, _, rfl⟩ := List.mem_map.mp among
  cases delivered : delivery bus event mode target with
  | error fault =>
      rw [delivered] at granted
      cases granted
  | ok own =>
      rw [delivered] at granted
      cases granted
      exact delivery_ok bus event mode target agenda delivered

theorem delivers_broadcast (bench : Bench) (node : Node) (event : Event) (mode : Mode) :
    bench.Delivers (bench.broadcast node event mode).1 := by
  cases mode with
  | sync => exact bench.delivers_nothing _
  | async => exact ⟨_, _, rfl, fun agenda member => agenda_delivery _ event .async _ agenda member⟩

theorem delivers_act (bench : Bench) (k : Incarnation) (node : Node) (work : Work) :
    bench.Delivers (bench.act k node work).1 := by
  have unchanged : bench.Delivers bench := bench.delivers_nothing bench.cluster
  cases work with
  | publish | storeChanged | groupsChanged | invalidated => exact unchanged
  | start =>
      rw [act]
      split
      · exact unchanged
      · exact bench.delivers_nothing _
  | admission =>
      rw [act]
      split <;> exact bench.delivers_nothing _
  | stop =>
      rw [act]
      split
      · exact unchanged
      · exact bench.delivers_nothing _
  | endStop => exact bench.delivers_nothing _
  | recompute => exact bench.delivers_nothing _
  | write mutation why =>
      rw [act]
      split
      · exact unchanged
      · split <;> exact bench.delivers_nothing _
  | written why result => exact bench.delivers_nothing _
  | read why =>
      rw [act]
      split <;> exact unchanged
  | entries why result =>
      rw [act]
      cases why <;> cases result
      · exact bench.delivers_nothing _
      · exact bench.delivers_nothing _
      · exact bench.delivers_nothing _
      · exact unchanged
  | membershipChanged view =>
      rw [act]
      split
      · split <;> exact unchanged
      · exact unchanged
  | primaryCheck view =>
      rw [act]
      split
      · exact bench.delivers_nothing _
      · exact unchanged
  | send event mode answering =>
      rw [act]
      split
      · exact bench.delivers_nothing _
      · exact unchanged
  | broadcast event mode answering =>
      rw [act]
      split
      · exact unchanged
      · exact bench.delivers_broadcast node event mode
  | conclude event result answering => exact bench.delivers_nothing _
  | apply event =>
      rw [act]
      split <;> exact bench.delivers_nothing _

theorem cluster_broadcast (bench : Bench) (node : Node) (event : Event) (mode : Mode) :
    ∃ bus, (bench.broadcast node event mode).1.cluster = { bench.cluster with bus } := by
  cases mode with
  | sync => exact ⟨_, rfl⟩
  | async => exact ⟨_, cluster_delivering _ _⟩

variable (bench : Bench) (k : Incarnation) (node : Node)

theorem replaced_calm (here : bench.cluster.nodes[k]? = some node) (work : Work) (calm : work.isCalm = true) :
    ∃ fresh, fresh.gist = node.gist ∧ bench.cluster.Replaced k fresh (bench.act k node work).1.cluster := by
  have unchanged : ∃ fresh, fresh.gist = node.gist ∧ bench.cluster.Replaced k fresh bench.cluster :=
    ⟨node, rfl, .refl here⟩
  have amended (change : Node → Node × Log) (same : (change node).1.gist = node.gist) :
      ∃ fresh, fresh.gist = node.gist ∧ bench.cluster.Replaced k fresh (bench.cluster.amend k change) :=
    ⟨_, same, .amend bench.cluster change here⟩
  cases work with
  | start | admission | stop | endStop | recompute | write => cases calm
  | publish | storeChanged | groupsChanged | invalidated => exact unchanged
  | written why result =>
      exact amended (fun node => why.account result node) (node.gist_accounted result why)
  | read why =>
      rw [act]
      split <;> exact unchanged
  | entries why result =>
      cases why with
      | recomputing generation =>
          cases result with
          | error fault => exact ⟨node, rfl, .unchanged here rfl rfl rfl rfl⟩
          | ok entries => cases calm
      | sweeping view =>
          cases result with
          | error fault => exact ⟨node, rfl, .unchanged here rfl rfl rfl rfl⟩
          | ok entries => exact unchanged
  | membershipChanged view =>
      rw [act]
      split
      · split <;> exact unchanged
      · exact unchanged
  | primaryCheck view =>
      rw [act]
      split
      · exact ⟨node, rfl, .unchanged here rfl rfl rfl rfl⟩
      · exact unchanged
  | send event mode answering =>
      rw [act]
      split
      · exact amended (fun node => (node.count .broadcastsSuppressed, [])) ((node.alike_counted _).gist rfl)
      · exact unchanged
  | broadcast event mode answering =>
      rw [act]
      split
      · exact unchanged
      · obtain ⟨bus, recorded⟩ := bench.cluster_broadcast node event mode
        refine ⟨node, rfl, .unchanged here ?_ ?_ ?_ ?_⟩ <;> exact recorded ▸ rfl
  | conclude event result answering =>
      exact amended (fun _ => ({ node with relay := (node.relay.conclude event result).1 }, _))
        ((node.alike_concluded event result).gist rfl)
  | apply event =>
      rw [act]
      split
      · exact amended (fun _ => ({ node with relay := node.relay.count .remoteApplyFailures }, _)) rfl
      · refine amended (·.dispatch event) ?_
        rw [node.dispatch_eq event]
        exact (node.alike_received event).gist rfl

theorem replaced_act (here : bench.cluster.nodes[k]? = some node) (work : Work)
    (unwritten : ∀ mutation why, work ≠ .write mutation why) :
    ∃ fresh, bench.cluster.Replaced k fresh (bench.act k node work).1.cluster ∧ Turned k node fresh work := by
  by_cases calm : work.isCalm = true
  · obtain ⟨fresh, same, replaced⟩ := bench.replaced_calm k node here work calm
    refine ⟨fresh, replaced, .of_gist same ?_⟩
    rintro rfl
    cases calm
  · cases work with
    | start =>
        rw [act, Cluster.beginStart]
        by_cases free : node.state.canBecome .starting = true
        · rw [if_pos free]
          exact ⟨node.setState .starting, .set bench.cluster k _, .of_rest rfl rfl rfl (by simp [Node.setState]) fun _ => rfl⟩
        · rw [if_neg free]
          exact ⟨node, .refl here, .of_gist rfl (by simp)⟩
    | admission =>
        have admitted := bench.cluster.replaced_admission (bench.refused k) k node here
        rw [act]
        generalize bench.cluster.admission (bench.refused k) k node = outcome at admitted
        obtain ⟨after, result⟩ := outcome
        cases admitted with
        | inl joined =>
            obtain ⟨store, hub, rfl, replaced⟩ := joined
            refine ⟨_, replaced, rfl, rfl, rfl, fun _ => .inr ⟨rfl, node.registry.audience_subscribe k⟩, ?_, fun _ => rfl⟩
            rintro ⟨⟩
        | inr failed =>
            obtain ⟨error, fresh, rfl, rfl | rfl, replaced⟩ := failed
            · exact ⟨_, replaced, .of_rest rfl rfl rfl (by simp [Node.setState]) fun _ => rfl⟩
            · exact ⟨_, replaced, .of_rest rfl rfl rfl (by simp [Node.setState]) fun _ => rfl⟩
    | stop =>
        rw [act]
        split
        · rename_i stopped
          exact ⟨node, .refl here, .of_rest rfl rfl rfl (by simp [stopped]) fun _ => rfl⟩
        · refine ⟨_, bench.cluster.replaced_begin_stop _ k node, ?_⟩
          rw [Node.released]
          split <;> exact .of_rest rfl rfl rfl (by simp [Node.setState, Node.dismissed, Node.setRegistry]) fun _ => rfl
    | endStop =>
        refine ⟨_, .modify bench.cluster (fun node => node.clear.setState .stopped) here, ?_⟩
        exact .of_rest rfl rfl rfl (by simp [Node.setState]) (by simp [Work.recomputes])
    | recompute =>
        refine ⟨node.drawGeneration, .set bench.cluster k _, rfl, rfl, rfl, ?_, by simp, by simp [Work.recomputes]⟩
        exact fun running => .inl ⟨running, rfl, rfl⟩
    | entries why result =>
        cases why with
        | sweeping view => exact absurd rfl calm
        | recomputing generation =>
            cases result with
            | error fault => exact absurd rfl calm
            | ok contents =>
                refine ⟨_, .amend bench.cluster (·.adopt generation contents) here, rfl, rfl, rfl, ?_, by simp,
                  by simp [Work.recomputes]⟩
                exact fun running => .inl ⟨running, rfl, rfl⟩
    | write mutation why => exact absurd rfl (unwritten mutation why)
    | _ => exact absurd rfl calm

theorem written_act (here : bench.cluster.nodes[k]? = some node) (mutation : Mutation) (why : Writing) :
    ∃ fresh, fresh.gist = node.gist ∧
      (bench.act k node (.write mutation why)).1.cluster.nodes = bench.cluster.nodes.insert k fresh ∧
      (bench.act k node (.write mutation why)).1.cluster.current = bench.cluster.current ∧
      ((bench.act k node (.write mutation why)).1.cluster.entries = mutation.apply bench.cluster.entries ∨
        (bench.act k node (.write mutation why)).1.cluster.entries = bench.cluster.entries ∧
          (bench.refused k (.ofMutation mutation) = true ∨ ∃ fault, node.replica.permit mutation.key = .error fault)) := by
  rw [act]
  by_cases refused : bench.refused k (.ofMutation mutation) = true
  · rw [if_pos refused]
    exact ⟨node, rfl, (insert_found bench.cluster.nodes k node here).symm, rfl, .inr ⟨rfl, .inl refused⟩⟩
  · rw [if_neg refused]
    obtain ⟨store, result, written, wrote⟩ := bench.cluster.write_tried k node mutation
    rw [written]
    have entries : store.entries bench.cluster.channel = mutation.apply bench.cluster.entries ∨
        store.entries bench.cluster.channel = bench.cluster.entries ∧
          (bench.refused k (.ofMutation mutation) = true ∨ ∃ fault, node.replica.permit mutation.key = .error fault) := by
      cases wrote with
      | refused fault why => exact .inr ⟨rfl, .inr ⟨fault, why⟩⟩
      | changed _ _ entries => exact .inl entries
      | unchanged _ entries => exact .inl entries
    refine ⟨{ node with replica := node.replica.tried mutation }, rfl, ?_⟩
    cases result with
    | error fault => exact ⟨rfl, rfl, entries⟩
    | ok audience => exact ⟨rfl, rfl, entries⟩

theorem routine_sweep_if (k : Incarnation) (view : View) (primary : Bool) :
    ∀ action ∈ sweepIf k view primary, action.isRoutine = true := by
  cases primary <;> simp [sweepIf, Action.reading, Action.isRoutine, Work.isRoutine]

theorem routine_sweeping (k : Incarnation) (owner : NodeId) :
    ∀ action ∈ Action.writing k (.remove owner) (.sweeping owner), action.isRoutine = true := by
  simp [Action.writing, Action.isRoutine, Work.isRoutine]

theorem delivery_broadcast (bench : Bench) (node : Node) (event : Event) (mode : Mode) :
    ∀ action ∈ (bench.broadcast node event mode).2.1, action.isDelivery = true := by
  intro action member
  cases mode with
  | async => cases member
  | sync =>
      obtain ⟨agenda, among, there⟩ := List.mem_flatten.mp member
      exact agenda_delivery _ event .sync _ agenda among action there

theorem routine_act (work : Work) (harmless : work.isHarmless = true) :
    ∀ action ∈ (bench.act k node work).2, action.isRoutine = true := by
  cases work with
  | start | admission | stop | publish | recompute | groupsChanged => cases harmless
  | endStop => simp [act]
  | write mutation why =>
      rw [act]
      split
      · simp [Action.isRoutine, Work.isRoutine]
      · split <;> simp [Action.isRoutine, Work.isRoutine, or_imp, forall_and]
  | written why result => simp [act]
  | read why =>
      cases why with
      | recomputing generation => cases harmless
      | sweeping view =>
          rw [act]
          split <;> simp [Action.isRoutine, Work.isRoutine]
  | entries why result =>
      cases why with
      | recomputing generation => cases result <;> simp [act, useEntries]
      | sweeping view =>
          cases result with
          | error fault => simp [act, useEntries]
          | ok entries =>
              intro action member
              obtain ⟨owner, _, written⟩ := List.mem_flatMap.mp member
              exact routine_sweeping k owner action written
  | storeChanged =>
      rw [act]
      split <;> simp [Action.isRoutine, Work.isRoutine]
  | membershipChanged view =>
      rw [act]
      split
      · split
        · exact routine_sweep_if k view _
        · simp [Action.isRoutine, Work.isRoutine]
      · simp
  | primaryCheck view =>
      rw [act]
      split
      · simp
      · exact routine_sweep_if k view _
  | invalidated event mode =>
      rw [act]
      split <;> simp [Action.isRoutine, Work.isRoutine]
  | send event mode answering =>
      rw [act]
      split
      · simp [Action.isRoutine, answerIf]
      · simp [Action.isRoutine, Work.isRoutine]
  | broadcast event mode answering =>
      rw [act]
      split
      · simp [Action.isRoutine, Work.isRoutine]
      · intro action member
        cases List.mem_append.mp member with
        | inl delivered => exact action.routine_of_delivery (delivery_broadcast bench node event mode action delivered)
        | inr concluded =>
            rw [List.mem_singleton.mp concluded]
            rfl
  | conclude event result answering => simp [act, answerIf, Action.isRoutine]
  | apply event =>
      rw [act]
      split <;> simp

end Bench

end Interleaving

end Coherence
