import Coherence.Proofs.Accounts
import Coherence.Proofs.Invalidation

set_option autoImplicit false

namespace Coherence

open Std

namespace Registry

variable (registry after : Registry Incarnation)

theorem applied_create (group : Group) (created : registry.createGroup? group = some after) :
    after.applied = registry.applied := by
  rw [createGroup?] at created
  split at created
  · cases created
  · cases created
    rfl

theorem applied_drop (group : Group) (dropped : registry.dropGroup? group = some after) :
    after.applied = registry.applied := by
  rw [dropGroup?] at dropped
  split at dropped
  · cases dropped
    rfl
  · cases dropped

theorem applied_put (group : Group) (key : Key) (cached : registry.put? group key = some after) :
    after.applied = registry.applied := by
  rw [put?] at cached
  split at cached
  · cases cached
    rfl
  · cases cached

end Registry

namespace Bus

variable {η : Type} {P : η → Prop} {bus : Bus η}

-- All handlers are of a kind, those that something is on its way to included.
structure HandlersSatisfy (P : η → Prop) (bus : Bus η) : Prop where
  handlers : ∀ (channel : Channel) (name : NodeId) (handler : η),
    (bus.handlersOn channel)[name]? = some handler → P handler
  onWay : ∀ delivery ∈ bus.onWay, P delivery.handler

theorem HandlersSatisfy.posted (satisfied : bus.HandlersSatisfy P) (operation : Operation η) (posting : Posting η)
    (member : posting ∈ bus.posted operation) : P posting.handler := by
  cases operation with
  | broadcast sender channel event mode =>
      obtain ⟨⟨⟨name, handler⟩, number⟩, entry, rfl⟩ := List.mem_map.mp member
      have target := List.fst_mem_of_mem_zipIdx entry
      exact satisfied.handlers channel name handler ((bus.mem_targets channel sender name handler).mp target).1
  | _ => cases member

theorem HandlersSatisfy.step (satisfied : bus.HandlersSatisfy P) (operation : Operation η)
    (traffic : operation.rewires = false) :
    (bus.step operation).1.HandlersSatisfy P ∧ ∀ delivery ∈ (bus.step operation).2.2, P delivery.handler := by
  have carried (delivery : Delivery η) (member : delivery ∈ (bus.step operation).2.2 ++ (bus.step operation).1.onWay) :
      P delivery.handler := by
    have stamped := (carries_step bus operation).subset (List.mem_map_of_mem member)
    rcases List.mem_append.mp stamped with before | fresh
    · obtain ⟨earlier, there, same⟩ := List.mem_map.mp before
      have handler : earlier.handler = delivery.handler := congrArg (·.2.1) same
      exact handler ▸ satisfied.onWay earlier there
    · obtain ⟨posting, there, same⟩ := List.mem_map.mp fresh
      have handler : posting.handler = delivery.handler := congrArg (·.2.1) same
      exact handler ▸ satisfied.posted operation posting (List.mem_of_mem_filter there)
  refine ⟨⟨fun channel name handler found => ?_, fun delivery member => ?_⟩, fun delivery member => ?_⟩
  · rw [handlersOn, handlers_step bus operation traffic] at found
    exact satisfied.handlers channel name handler found
  · exact carried delivery (List.mem_append_right _ member)
  · exact carried delivery (List.mem_append_left _ member)

theorem HandlersSatisfy.broadcast (satisfied : bus.HandlersSatisfy P) (sender : NodeId) (channel : Channel)
    (event : Event) (mode : Mode) :
    (bus.broadcast sender channel event mode).1.HandlersSatisfy P ∧
      ∀ delivery ∈ (bus.broadcast sender channel event mode).2.1, P delivery.handler :=
  satisfied.step (.broadcast sender channel event mode) rfl

theorem HandlersSatisfy.control (satisfied : bus.HandlersSatisfy P) (control : Control) :
    (bus.control control).1.HandlersSatisfy P ∧ ∀ delivery ∈ (bus.control control).2, P delivery.handler :=
  satisfied.step (.control control) rfl

end Bus

namespace Cluster

def callers (before after : Cluster) : List Incarnation :=
  (after.bus.sent.drop before.bus.sent.length).filterMap fun call => before.current[call.sender]?

-- A bridge hears of what its own node invalidates while it runs.
def outgoing (cluster : Cluster) : Operation → List (Incarnation × Event × Mode)
  | .node id (.send event mode) => cluster.current[id]?.toList.map (·, event, mode)
  | .node id (.invalidate event mode) => (cluster.current[id]?.toList.filter cluster.isRunning).map (·, event, mode)
  | _ => []

def arriving (cluster : Cluster) (k : Incarnation) (event : Event) (mode : Mode) : List (Delivery Incarnation) :=
  match cluster.nodes[k]? with
  | none => []
  | some node =>
      match node.snapshot.gate event with
      | none => []
      | some wanted => (cluster.bus.broadcast node.id cluster.channel wanted mode).2.1

def incoming (cluster : Cluster) (operation : Operation) : List Incarnation :=
  match operation with
  | .control control => (cluster.bus.control control).2.map (·.handler)
  | .node id (.receive _) => cluster.current[id]?.toList
  | operation =>
      (cluster.outgoing operation).flatMap fun (k, event, mode) => (cluster.arriving k event mode).map (·.handler)

def writers (cluster : Cluster) : Operation → List Incarnation
  | .node id (.write _) => cluster.current[id]?.toList
  | _ => []

def halted (before after : Cluster) : List Incarnation :=
  before.nodes.keys.filter fun k => before.lifecycle k ≠ .stopped ∧ after.lifecycle k = .stopped

def deeds (cluster : Cluster) (operation : Operation) : List (Incarnation × Deed) :=
  let after := (cluster.step operation).1
  Deed.incoming.doneBy (cluster.incoming operation) ++ Deed.call.doneBy (cluster.callers after) ++
    Deed.outgoing.doneBy ((cluster.outgoing operation).map (·.1)) ++ Deed.write.doneBy (cluster.writers operation) ++
    Deed.stop.doneBy (cluster.halted after)

def history (cluster : Cluster) : List Operation → List (Incarnation × Deed)
  | [] => []
  | operation :: operations => cluster.deeds operation ++ (cluster.step operation).1.history operations

variable {cluster : Cluster}

abbrev HandlersHosted (cluster : Cluster) : Prop := cluster.bus.HandlersSatisfy cluster.Hosts

theorem Idles.handlersHosted {before after : Cluster} (idles : Idles before after)
    (handlersHosted : before.HandlersHosted) : after.HandlersHosted where
  handlers channel name k found :=
    (idles.handlers channel name k found).elim
      (fun earlier => idles.hosts k (handlersHosted.handlers channel name k earlier)) id
  onWay delivery member := idles.hosts _ (handlersHosted.onWay delivery (idles.onWay ▸ member))

theorem callers_of_sent {before after : Cluster} (calls : List Call) (sent : after.bus.sent = before.bus.sent ++ calls) :
    before.callers after = calls.filterMap fun call => before.current[call.sender]? := by
  rw [callers, sent, List.drop_left]

theorem callers_idle {before after : Cluster} (idles : Idles before after) : before.callers after = [] :=
  callers_of_sent [] (by rw [idles.sent, List.append_nil])

theorem halted_none {before after : Cluster} (steady : ∀ k, after.lifecycle k = .stopped → before.lifecycle k = .stopped) :
    before.halted after = [] := by
  rw [halted, List.filter_eq_nil_iff]
  intro k _ halts
  simp only [ne_eq, decide_eq_true_eq] at halts
  exact halts.1 (steady k halts.2)

theorem halted_none_of_running {before after : Cluster}
    (runs : ∀ k, after.lifecycle k = before.lifecycle k ∨ after.lifecycle k = .running) : before.halted after = [] := by
  refine halted_none fun k stopped => ?_
  cases runs k with
  | inl same => exact same.symm.trans stopped
  | inr running => cases running.symm.trans stopped

section Sending

theorem send_amend (k : Incarnation) (node : Node) (event wanted : Event) (mode : Mode)
    (found : cluster.nodes[k]? = some node) (passed : node.snapshot.gate event = some wanted) :
    let traffic := cluster.bus.broadcast node.id cluster.channel wanted mode
    (cluster.send k event mode).1 =
      ({ cluster with bus := traffic.1 }.deliver traffic.2.1).amend k (Node.concluded wanted traffic.2.2) := by
  intro traffic
  rw [send, found]
  dsimp only
  rw [passed]
  dsimp only
  rw [amend]
  cases ({ cluster with bus := traffic.1 }.deliver traffic.2.1).nodes[k]? <;> rfl

theorem tallies_wire (bus : Bus Incarnation) : Tallies cluster { cluster with bus } [] :=
  fun _ _ => (UInt64.add_zero _).symm

theorem tallies_send (handlersHosted : cluster.HandlersHosted) (k : Incarnation) (node : Node) (event : Event) (mode : Mode)
    (found : cluster.nodes[k]? = some node) (located : cluster.current[node.id]? = some k) :
    Tallies cluster (cluster.send k event mode).1
        (Deed.incoming.doneBy ((cluster.arriving k event mode).map (·.handler)) ++
          Deed.call.doneBy (cluster.callers (cluster.send k event mode).1) ++ Deed.outgoing.doneBy [k]) ∧
      (cluster.send k event mode).1.HandlersHosted := by
  rw [arriving, found]
  dsimp only
  cases passed : node.snapshot.gate event with
  | none =>
      have records := records_set_node cluster k node _ [.outgoing] found
        (node.posts_counted .broadcastsSuppressed [] _ rfl fun deed => by cases deed <;> rfl)
      rw [send_suppressed cluster k node event mode found passed, callers_idle records.toIdles]
      exact ⟨records.tallies, records.toIdles.handlersHosted handlersHosted⟩
  | some wanted =>
      have sent := cluster.bus.sent_broadcast node.id cluster.channel wanted mode
      obtain ⟨wired, hosted⟩ := handlersHosted.broadcast node.id cluster.channel wanted mode
      have conclusion := send_amend k node event wanted mode found passed
      dsimp only at conclusion ⊢
      generalize cluster.bus.broadcast node.id cluster.channel wanted mode = traffic at sent wired hosted conclusion ⊢
      have delivered := records_deliver { cluster with bus := traffic.1 } traffic.2.1 hosted
      obtain ⟨last, there⟩ := delivered.hosts k ⟨node, found⟩
      have records := delivered.trans
        (records_amend _ k (Node.concluded wanted traffic.2.2) _ last there (last.posts_concluded wanted traffic.2.2))
      rw [← conclusion] at records
      have calls : cluster.callers (cluster.send k event mode).1 = [k] := by
        rw [callers_of_sent _ (records.sent.trans sent)]
        simp [located]
      rw [calls, List.append_assoc]
      exact ⟨(tallies_wire traffic.1).trans records.tallies, records.toIdles.handlersHosted wired⟩

theorem tallies_invalidate (handlersHosted : cluster.HandlersHosted) (k : Incarnation) (node : Node) (event : Event)
    (mode : Mode) (found : cluster.nodes[k]? = some node) (located : cluster.current[node.id]? = some k)
    (audience : node.registry.audience = [k]) (running : node.state = .running) :
    Tallies cluster (cluster.invalidate k event mode)
        (Deed.incoming.doneBy ((cluster.arriving k event mode).map (·.handler)) ++
          Deed.call.doneBy (cluster.callers (cluster.invalidate k event mode)) ++ Deed.outgoing.doneBy [k]) ∧
      (cluster.invalidate k event mode).HandlersHosted := by
  have here := (nodes_set_node cluster k k (node.setRegistry (node.registry.evict event))).trans (if_pos rfl)
  have evicted := records_set_registry cluster k node (node.registry.evict event) found rfl
  have sends := tallies_send (evicted.toIdles.handlersHosted handlersHosted) k _ event mode here located
  have same : (cluster.setNode k (node.setRegistry (node.registry.evict event))).arriving k event mode =
      cluster.arriving k event mode := by
    rw [arriving, arriving, here, found]
    rfl
  rw [invalidate_heard cluster k node event mode found audience running, ← same]
  exact ⟨evicted.tallies.trans sends.1, sends.2⟩

theorem invalidate_unheard (k : Incarnation) (node : Node) (event : Event) (mode : Mode)
    (found : cluster.nodes[k]? = some node) (unheard : node.registry.audience = []) :
    cluster.invalidate k event mode = cluster.setNode k (node.setRegistry (node.registry.evict event)) := by
  have nobody : (node.registry.evict event).audience = [] := unheard
  rw [invalidate, found]
  dsimp only
  rw [nobody, List.foldl_nil]

end Sending

section Stopping

theorem count_halted (before after : Cluster) (k : Incarnation) :
    (before.halted after).count k = if before.lifecycle k ≠ .stopped ∧ after.lifecycle k = .stopped then 1 else 0 := by
  split
  · rename_i halts
    have known : k ∈ before.nodes.keys := by
      rw [ExtTreeMap.mem_keys, ExtTreeMap.mem_iff_isSome_getElem?]
      cases found : before.nodes[k]? with
      | none => exact absurd (by rw [lifecycle, found]; rfl) halts.1
      | some node => rfl
    rw [halted, List.count_filter (by simpa using halts)]
    exact List.count_eq_one_of_mem ExtTreeMap.nodup_keys known
  · rename_i rests
    rw [List.count_eq_zero, halted, List.mem_filter]
    rintro ⟨_, halts⟩
    exact rests (by simpa using halts)

structure Halts (before after : Cluster) : Prop extends Idles before after where
  rest : ∀ k, after.lifecycle k = before.lifecycle k ∨ after.lifecycle k = .stopped
  tallies : Tallies before after (Deed.stop.doneBy (before.halted after))

theorem Halts.refl (cluster : Cluster) : Halts cluster cluster := by
  refine ⟨(Records.refl cluster).toIdles, fun _ => .inl rfl, ?_⟩
  rw [halted_none fun _ stopped => stopped]
  exact (Records.refl cluster).tallies

theorem Halts.trans {first second third : Cluster} (earlier : Halts first second) (later : Halts second third) :
    Halts first third := by
  refine ⟨earlier.toIdles.trans later.toIdles, fun k => ?_, fun k deed => ?_⟩
  · rcases later.rest k with same | stopped
    · exact same ▸ earlier.rest k
    · exact .inr stopped
  · have once : (first.halted third).count k = (first.halted second).count k + (second.halted third).count k := by
      rw [count_halted, count_halted, count_halted]
      rcases earlier.rest k with same | stopped <;> rcases later.rest k with still | rested <;> simp [*]
    rw [earlier.tallies.trans later.tallies, List.count_append, count_done_by, count_done_by, count_done_by]
    split
    · rw [once]
    · rfl

theorem lifecycle_stop (k j : Incarnation) (node : Node) (held : Held) (found : cluster.nodes[k]? = some node)
    (running : node.state = .running) (holding : node.held = some held) :
    (cluster.stop k).lifecycle j = if k = j then .stopped else cluster.lifecycle j := by
  rw [lifecycle_frame, frame_stop cluster k node held found running holding, ← lifecycle_frame]
  exact lifecycle_set_node k j _

theorem halts_stop (upheld : cluster.Upheld False) (id : NodeId) (k : Incarnation) (located : cluster.current[id]? = some k) :
    Halts cluster (cluster.stop k) := by
  obtain ⟨node, found, rfl⟩ := node_of_located upheld.sound.addressed id k located
  have standing := cluster.standing_of_found k node found
  cases upheld.hubSound.settled node.id k node.standing located standing with
  | inl stopped =>
      rw [stop_stopped cluster k node found stopped]
      exact .refl cluster
  | inr running =>
      have runs : node.state = .running := running
      obtain ⟨held, holding, _⟩ := upheld.hubSound.holding node.id k node.standing located standing running
      have records := records_stop cluster k node found (by simp [runs])
      have rests (j : Incarnation) := lifecycle_stop k j node held found running holding
      refine ⟨records.toIdles, fun j => ?_, fun j deed => ?_⟩
      · rw [rests]
        split
        · exact .inr rfl
        · exact .inl rfl
      · have once : (cluster.halted (cluster.stop k)).count j = [k].count j := by
          rw [count_halted, rests]
          by_cases same : k = j
          · subst same
            simp [lifecycle_found k node found, runs]
          · simp [same]
        have done := records.tallies j deed
        rw [show [(k, Deed.stop)] = Deed.stop.doneBy [k] from rfl, count_done_by] at done
        rw [done, count_done_by, once]

theorem halts_stop_all (upheld : cluster.Upheld False) :
    Halts cluster (cluster.incarnations.foldl Cluster.stop cluster) := by
  refine (stop_all_keeps (P := fun later => later.Upheld False ∧ Halts cluster later) ?_ cluster.incarnations cluster
    ⟨upheld, .refl cluster⟩ cluster.located_of_incarnation).2
  rintro later id k ⟨upheld, halts⟩ located
  have stopped := upheld.stop id k located
  exact ⟨⟨stopped.1, halts.trans (halts_stop upheld id k located)⟩, stopped.2⟩

end Stopping

section Starting

theorem lifecycle_start (cluster : Cluster) (k j : Incarnation) :
    (cluster.start k).1.lifecycle j = cluster.lifecycle j ∨ (cluster.start k).1.lifecycle j = .running := by
  cases found : cluster.nodes[k]? with
  | none =>
      rw [start, found]
      exact .inl rfl
  | some node =>
      by_cases cut : node.replica.unreachable = true
      · exact .inl ((start_unreachable cluster k node found cut).lifecycle found j)
      · have started := start_started cluster k node found (by simpa using cut)
        generalize cluster.start k = result at started
        cases started with
        | refused error log => exact .inl rfl
        | running bus stopped registered =>
            have follows := (follows_publish (cluster.enrolled k node bus) k).trans (follows_recompute _ k)
            rw [lifecycle_frame, follows.frame, ← lifecycle_frame, lifecycle_enrolled]
            split
            · exact .inr rfl
            · exact .inl rfl

theorem records_start_all (cluster : Cluster) (ks : List Incarnation) : Records cluster (cluster.startAll ks).1 [] := by
  induction ks generalizing cluster with
  | nil => exact .refl cluster
  | cons k rest ih =>
      have started := records_start cluster k
      rw [startAll]
      generalize cluster.start k = result at started
      obtain ⟨after, result⟩ := result
      cases result with
      | error error => exact started
      | ok => exact started.trans (ih after)

theorem lifecycle_start_all (cluster : Cluster) (ks : List Incarnation) (j : Incarnation) :
    (cluster.startAll ks).1.lifecycle j = cluster.lifecycle j ∨ (cluster.startAll ks).1.lifecycle j = .running := by
  induction ks generalizing cluster with
  | nil => exact .inl rfl
  | cons k rest ih =>
      have started := lifecycle_start cluster k j
      rw [startAll]
      generalize cluster.start k = result at started
      obtain ⟨after, result⟩ := result
      cases result with
      | error error => exact started
      | ok =>
          cases ih after with
          | inl same => exact same ▸ started
          | inr running => exact .inr running

end Starting

section Stepping

structure Conserves (cluster : Cluster) (operation : Operation) : Prop where
  tallies : Tallies cluster (cluster.step operation).1 (cluster.deeds operation)
  handlersHosted : (cluster.step operation).1.HandlersHosted

theorem Upheld.steady (upheld : cluster.Upheld False) (operation : Operation) (free : operation.steers = false) :
    cluster.halted (cluster.step operation).1 = [] := by
  have drifts := drifts_step upheld.hubSound operation free fun wrong => wrong.elim
  exact halted_none fun k stopped => (drifts.lifecycle upheld.sound k).symm.trans stopped

theorem conserves_quiet (handlersHosted : cluster.HandlersHosted) (operation : Operation)
    (records : Records cluster (cluster.step operation).1 []) (halted : cluster.halted (cluster.step operation).1 = [])
    (incoming : cluster.incoming operation = []) (outgoing : cluster.outgoing operation = [])
    (writers : cluster.writers operation = []) : cluster.Conserves operation := by
  refine ⟨?_, records.toIdles.handlersHosted handlersHosted⟩
  rw [deeds, incoming, outgoing, writers, halted, callers_idle records.toIdles]
  exact records.tallies

theorem conserves_halting (handlersHosted : cluster.HandlersHosted) (operation : Operation)
    (halts : Halts cluster (cluster.step operation).1) (incoming : cluster.incoming operation = [])
    (outgoing : cluster.outgoing operation = []) (writers : cluster.writers operation = []) :
    cluster.Conserves operation := by
  refine ⟨?_, halts.toIdles.handlersHosted handlersHosted⟩
  rw [deeds, incoming, outgoing, writers, callers_idle halts.toIdles]
  exact halts.tallies

theorem conserves_control (upheld : cluster.Upheld False) (handlersHosted : cluster.HandlersHosted) (control : Bus.Control) :
    cluster.Conserves (.control control) := by
  obtain ⟨wired, hosted⟩ := handlersHosted.control control
  have records := records_deliver { cluster with bus := (cluster.bus.control control).1 } _ hosted
  have calls : cluster.callers (cluster.step (.control control)).1 = [] := by
    refine callers_of_sent [] (records.sent.trans ?_)
    rw [List.append_nil]
    exact cluster.bus.sent_control control
  refine ⟨?_, records.toIdles.handlersHosted wired⟩
  have tallies := (tallies_wire (cluster.bus.control control).1).trans records.tallies
  rw [deeds, upheld.steady (.control control) rfl, calls, show cluster.outgoing (.control control) = [] from rfl,
    show cluster.writers (.control control) = [] from rfl]
  simp only [List.map_nil, done_by_nobody, List.append_nil]
  exact tallies

section NodeOperations

variable {id : NodeId} {k : Incarnation} {node : Node}

theorem step_node_found (found : cluster.find? id = some (k, node)) (operation : NodeOperation) :
    cluster.step (.node id operation) = cluster.stepNode k node operation := by
  rw [step, found]

theorem conserves_speaking (operation : Operation) (event : Event) (mode : Mode)
    (halted : cluster.halted (cluster.step operation).1 = []) (outgoing : cluster.outgoing operation = [(k, event, mode)])
    (incoming : cluster.incoming operation = (cluster.arriving k event mode).map (·.handler))
    (writers : cluster.writers operation = [])
    (tallies : Tallies cluster (cluster.step operation).1
      (Deed.incoming.doneBy ((cluster.arriving k event mode).map (·.handler)) ++
        Deed.call.doneBy (cluster.callers (cluster.step operation).1) ++ Deed.outgoing.doneBy [k]))
    (handlersHosted : (cluster.step operation).1.HandlersHosted) : cluster.Conserves operation := by
  refine ⟨?_, handlersHosted⟩
  rw [deeds, halted, incoming, outgoing, writers]
  simpa only [List.map_cons, List.map_nil, done_by_nobody, List.append_nil] using tallies

theorem conserves_send (upheld : cluster.Upheld False) (handlersHosted : cluster.HandlersHosted)
    (found : cluster.find? id = some (k, node)) (event : Event) (mode : Mode) :
    cluster.Conserves (.node id (.send event mode)) := by
  obtain ⟨located, here⟩ := (cluster.find_eq_some_iff id k node).mp found
  have named : node.id = id := upheld.sound.addressed.id_of_located id k _ located (cluster.standing_of_found k node here)
  have sends := tallies_send handlersHosted k node event mode here (named.symm ▸ located)
  have speaks : cluster.outgoing (.node id (.send event mode)) = [(k, event, mode)] := by
    change cluster.current[id]?.toList.map _ = _
    rw [located]
    rfl
  have hears : cluster.incoming (.node id (.send event mode)) = (cluster.arriving k event mode).map (·.handler) := by
    change (cluster.outgoing (.node id (.send event mode))).flatMap _ = _
    rw [speaks, List.flatMap_singleton]
  have steps : (cluster.step (.node id (.send event mode))).1 = (cluster.send k event mode).1 :=
    congrArg Prod.fst (step_node_found found _)
  exact conserves_speaking _ event mode (upheld.steady _ rfl) speaks hears rfl (steps ▸ sends.1) (steps ▸ sends.2)

theorem conserves_invalidate (upheld : cluster.Upheld False) (handlersHosted : cluster.HandlersHosted)
    (found : cluster.find? id = some (k, node)) (event : Event) (mode : Mode) :
    cluster.Conserves (.node id (.invalidate event mode)) := by
  obtain ⟨located, here⟩ := (cluster.find_eq_some_iff id k node).mp found
  have standing := cluster.standing_of_found k node here
  have named : node.id = id := upheld.sound.addressed.id_of_located id k _ located standing
  have registryMatches := upheld.sound.registryMatches k node here
  have steps : (cluster.step (.node id (.invalidate event mode))).1 = cluster.invalidate k event mode :=
    congrArg Prod.fst (step_node_found found _)
  have speaks : cluster.outgoing (.node id (.invalidate event mode)) =
      if cluster.isRunning k then [(k, event, mode)] else [] := by
    change (cluster.current[id]?.toList.filter _).map _ = _
    rw [located, Option.toList_some, List.filter_singleton]
    cases cluster.isRunning k <;> rfl
  have hears : cluster.incoming (.node id (.invalidate event mode)) =
      (cluster.outgoing (.node id (.invalidate event mode))).flatMap fun (k, event, mode) =>
        (cluster.arriving k event mode).map (·.handler) := rfl
  have runs : cluster.isRunning k = true ↔ node.state = .running := by
    rw [isRunning, here, Option.any_some, node.is_running_iff]
  by_cases running : node.state = .running
  · obtain ⟨held, holding, _⟩ := upheld.hubSound.holding id k node.standing located standing running
    have audience := node.registry.audience_sole held.registry k (registryMatches.taken held holding).2
    have tells := tallies_invalidate handlersHosted k node event mode here (named.symm ▸ located) audience running
    rw [if_pos (runs.mpr running)] at speaks
    rw [speaks, List.flatMap_singleton] at hears
    exact conserves_speaking _ event mode (upheld.steady _ rfl) speaks hears rfl (steps ▸ tells.1) (steps ▸ tells.2)
  · have unheard : node.registry.audience = [] := by
      rw [Registry.audience, Listeners.toList, registryMatches.empty running]
      rfl
    have evicted := records_set_registry cluster k node (node.registry.evict event) here rfl
    rw [if_neg (mt runs.mp running)] at speaks
    rw [speaks] at hears
    refine conserves_quiet handlersHosted _ ?_ (upheld.steady _ rfl) hears speaks rfl
    rw [steps, invalidate_unheard k node event mode here unheard]
    exact evicted

theorem conserves_receive (upheld : cluster.Upheld False) (handlersHosted : cluster.HandlersHosted)
    (found : cluster.find? id = some (k, node)) (event : Event) : cluster.Conserves (.node id (.receive event)) := by
  obtain ⟨located, here⟩ := (cluster.find_eq_some_iff id k node).mp found
  have records := records_receive cluster k event ⟨node, here⟩
  have steps : (cluster.step (.node id (.receive event))).1 = cluster.receive k event :=
    congrArg Prod.fst (step_node_found found _)
  have hears : cluster.incoming (.node id (.receive event)) = [k] := by
    change cluster.current[id]?.toList = _
    rw [located]
    rfl
  refine ⟨?_, steps ▸ records.toIdles.handlersHosted handlersHosted⟩
  rw [deeds, upheld.steady (.node id (.receive event)) rfl, steps, callers_idle records.toIdles, hears,
    show cluster.outgoing (.node id (.receive event)) = [] from rfl,
    show cluster.writers (.node id (.receive event)) = [] from rfl]
  exact records.tallies

theorem conserves_write (upheld : cluster.Upheld False) (handlersHosted : cluster.HandlersHosted)
    (found : cluster.find? id = some (k, node)) (mutation : Mutation) : cluster.Conserves (.node id (.write mutation)) := by
  obtain ⟨located, here⟩ := (cluster.find_eq_some_iff id k node).mp found
  have records := records_mutate cluster k node mutation here
  have steps : (cluster.step (.node id (.write mutation))).1 = (cluster.mutate k mutation).1 :=
    congrArg Prod.fst (step_node_found found _)
  have writes : cluster.writers (.node id (.write mutation)) = [k] := by
    change cluster.current[id]?.toList = _
    rw [located]
    rfl
  refine ⟨?_, steps ▸ records.toIdles.handlersHosted handlersHosted⟩
  rw [deeds, upheld.steady (.node id (.write mutation)) rfl, steps, callers_idle records.toIdles, writes,
    show cluster.outgoing (.node id (.write mutation)) = [] from rfl,
    show cluster.incoming (.node id (.write mutation)) = [] from rfl]
  exact records.tallies

theorem conserves_absent (handlersHosted : cluster.HandlersHosted) (addressed : cluster.frame.Addressed)
    (absent : cluster.find? id = none) (operation : NodeOperation) : cluster.Conserves (.node id operation) := by
  have nowhere : cluster.current[id]? = none := by
    cases located : cluster.current[id]? with
    | none => rfl
    | some k =>
        obtain ⟨node, here, _⟩ := node_of_located addressed id k located
        rw [(cluster.find_eq_some_iff id k node).mpr ⟨located, here⟩] at absent
        cases absent
  have steps : (cluster.step (.node id operation)).1 = cluster := by
    rw [step, absent]
  have halted : cluster.halted (cluster.step (.node id operation)).1 = [] := by
    rw [steps]
    exact halted_none fun _ stopped => stopped
  refine conserves_quiet handlersHosted _ (steps.symm ▸ .refl cluster) halted ?_ ?_ ?_
  · cases operation <;> simp [incoming, outgoing, nowhere]
  · cases operation <;> simp [outgoing, nowhere]
  · cases operation <;> simp [writers, nowhere]

theorem records_modify_replica (cluster : Cluster) (k : Incarnation) (change : Replica → Replica)
    (issued : ∀ replica, (change replica).issued = replica.issued) : Records cluster (cluster.modifyReplica k change) [] := by
  rw [modifyReplica]
  exact records_modify cluster k _ fun node => node.posts_nothing _ [] rfl (issued _) rfl rfl rfl

theorem records_squat (here : cluster.nodes[k]? = some node) :
    Records cluster (cluster.stepNode k node .squat).1 [] := by
  rw [stepNode]
  cases registered : cluster.bus.register cluster.channel node.id k with
  | error fault => exact .refl cluster
  | ok bus => exact records_register cluster k node node.id bus here registered

theorem records_unregister_step : Records cluster (cluster.stepNode k node .unregister).1 [] := by
  rw [stepNode, Bus.unregister]
  by_cases registered : cluster.bus.isRegistered cluster.channel node.id = true
  · rw [if_pos registered]
    exact records_without cluster node.id
  · rw [if_neg registered]
    exact .refl cluster

theorem records_put (here : cluster.nodes[k]? = some node) (group : Group) (key : Key) :
    Records cluster (cluster.stepNode k node (.put group key)).1 [] := by
  rw [stepNode]
  split
  · exact .refl cluster
  · rename_i registry cached
    exact records_set_registry cluster k node registry here (node.registry.applied_put registry group key cached)

theorem conserves_step_node (upheld : cluster.Upheld False) (handlersHosted : cluster.HandlersHosted)
    (found : cluster.find? id = some (k, node)) (operation : NodeOperation) : cluster.Conserves (.node id operation) := by
  obtain ⟨located, here⟩ := (cluster.find_eq_some_iff id k node).mp found
  have steps := congrArg Prod.fst (step_node_found found operation)
  have steady := upheld.steady (.node id operation)
  have quiet := conserves_quiet handlersHosted (.node id operation)
  rw [steps] at quiet steady
  cases operation with
  | start =>
      exact quiet (records_start cluster k) (halted_none_of_running (lifecycle_start cluster k)) rfl rfl rfl
  | stop =>
      refine conserves_halting handlersHosted _ ?_ rfl rfl rfl
      rw [steps]
      exact halts_stop upheld id k located
  | createGroup group =>
      exact quiet (records_change_groups cluster k _ fun registry changed created =>
        registry.applied_create changed group created) (steady rfl) rfl rfl rfl
  | dropGroup group =>
      exact quiet (records_change_groups cluster k _ fun registry changed dropped =>
        registry.applied_drop changed group dropped) (steady rfl) rfl rfl rfl
  | put group key => exact quiet (records_put here group key) (steady rfl) rfl rfl rfl
  | setRejecting on => exact quiet (records_set_registry cluster k node _ here rfl) (steady rfl) rfl rfl rfl
  | send event mode => exact conserves_send upheld handlersHosted found event mode
  | invalidate event mode => exact conserves_invalidate upheld handlersHosted found event mode
  | receive event => exact conserves_receive upheld handlersHosted found event
  | publish => exact quiet (records_publish cluster k) (steady rfl) rfl rfl rfl
  | storeChanged => exact quiet (records_store_changed cluster k) (steady rfl) rfl rfl rfl
  | membershipChanged members => exact quiet (records_membership_changed _ cluster k) (steady rfl) rfl rfl rfl
  | setStoreUnreachable on =>
      exact quiet (records_modify_replica cluster k (fun replica => { replica with unreachable := on }) fun _ => rfl)
        (steady rfl) rfl rfl rfl
  | rejectKey key =>
      exact quiet (records_modify_replica cluster k
        (fun replica => { replica with rejected := replica.rejected.insert key }) fun _ => rfl) (steady rfl) rfl rfl rfl
  | write mutation => exact conserves_write upheld handlersHosted found mutation
  | squat => exact quiet (records_squat here) (steady rfl) rfl rfl rfl
  | unregister => exact quiet records_unregister_step (steady rfl) rfl rfl rfl

end NodeOperations

theorem conserves_step (upheld : cluster.Upheld False) (handlersHosted : cluster.HandlersHosted) (operation : Operation) :
    cluster.Conserves operation := by
  have steady := upheld.steady operation
  cases operation with
  | addNode id =>
      refine conserves_quiet handlersHosted _ ?_ (steady rfl) rfl rfl rfl
      rw [step_add_node]
      exact records_add_node cluster id ((drifts_join cluster id).sound upheld.sound).vacancy
  | crash id => exact conserves_quiet handlersHosted _ (records_crash cluster id) (steady rfl) rfl rfl rfl
  | startAll =>
      exact conserves_quiet handlersHosted _ (records_start_all cluster _)
        (halted_none_of_running (lifecycle_start_all cluster _)) rfl rfl rfl
  | stopAll => exact conserves_halting handlersHosted _ (halts_stop_all upheld) rfl rfl rfl
  | join id => exact conserves_quiet handlersHosted _ (records_join cluster id) (steady rfl) rfl rfl rfl
  | leave id => exact conserves_quiet handlersHosted _ (records_leave cluster id) (steady rfl) rfl rfl rfl
  | notify members => exact conserves_quiet handlersHosted _ (records_notify cluster _) (steady rfl) rfl rfl rfl
  | setMembershipUnreachable id on =>
      exact conserves_quiet handlersHosted _ (records_wire rfl rfl rfl) (steady rfl) rfl rfl rfl
  | appoint id => exact conserves_quiet handlersHosted _ (records_wire rfl rfl rfl) (steady rfl) rfl rfl rfl
  | putRaw channel key value =>
      exact conserves_quiet handlersHosted _ (records_put_raw cluster channel key value) (steady rfl) rfl rfl rfl
  | control control => exact conserves_control upheld handlersHosted control
  | node id operation =>
      cases found : cluster.find? id with
      | none => exact conserves_absent handlersHosted upheld.sound.addressed found operation
      | some place => exact conserves_step_node upheld handlersHosted found operation

theorem handlers_hosted_initial (config : Config) (timeout : Nat) : (initial config timeout).HandlersHosted := by
  refine ⟨fun channel name handler found => ?_, fun delivery member => ?_⟩
  · simp [initial, Bus.handlersOn] at found
  · cases member

theorem tallies_run (upheld : cluster.Upheld False) (handlersHosted : cluster.HandlersHosted) (operations : List Operation) :
    Tallies cluster (cluster.run operations) (cluster.history operations) := by
  induction operations generalizing cluster with
  | nil => exact (Records.refl cluster).tallies
  | cons operation operations ih =>
      have conserves := conserves_step upheld handlersHosted operation
      exact conserves.tallies.trans (ih (upheld.step operation fun wrong => wrong.elim) conserves.handlersHosted)

end Stepping

theorem count_apply (cluster : Cluster) (operations : List Operation) (k : Incarnation) :
    (cluster.history operations).count (k, .apply) = 0 := by
  induction operations generalizing cluster with
  | nil => rfl
  | cons operation operations ih =>
      rw [history, deeds, List.count_append, ih]
      simp [count_done_by]

theorem balance_run (config : Config) (timeout : Nat) (operations : List Operation) (k : Incarnation) (node : Node)
    (found : ((initial config timeout).run operations).nodes[k]? = some node) (deed : Deed) :
    node.balance (((initial config timeout).run operations).failedReads k) deed =
      UInt64.ofNat (((initial config timeout).history operations).count (k, deed)) := by
  have upheld : (initial config timeout).Upheld False := upheld_run False config timeout [] fun wrong => wrong.elim
  have tallies := tallies_run upheld (handlers_hosted_initial config timeout) operations k deed
  have nothing : (initial config timeout).balance k deed = 0 := by
    rw [balance, initial_nodes, show (initial config timeout).failedReads k = 0 from rfl]
    cases deed <;> rfl
  rw [nothing, UInt64.zero_add, balance, found] at tallies
  exact tallies

/-- After every run the counters of a bridge add up to what it did, as far as 64 bits go. -/
theorem counters_conserved (config : Config) (timeout : Nat) (operations : List Operation) (k : Incarnation) (node : Node)
    (found : ((initial config timeout).run operations).nodes[k]? = some node)
    (driven : (k, Deed.write) ∉ (initial config timeout).history operations) :
    let seen (deed : Deed) := UInt64.ofNat (((initial config timeout).history operations).count (k, deed))
    let failed := UInt64.ofNat (((initial config timeout).run operations).failedReads k)
    let counters := node.counters
    counters.broadcastsSent + counters.broadcastFailures = seen .call ∧
    counters.broadcastsSent + counters.broadcastFailures + counters.broadcastsSuppressed = seen .outgoing ∧
    counters.publishes + counters.publishFailures + counters.prunedAnnouncements + counters.pruneFailures =
      UInt64.ofNat node.replica.issued.length ∧
    counters.remoteEventsApplied = UInt64.ofNat node.registry.applied.length ∧
    counters.remoteEventsApplied + counters.remoteApplyFailures = seen .incoming ∧
    counters.recomputations + failed + seen .stop = node.generation := by
  intro seen failed counters
  have balance := balance_run config timeout operations k node found
  have written := balance .write
  have applied := balance .apply
  have drawn := balance .stop
  rw [List.count_eq_zero.mpr driven] at written
  rw [count_apply] at applied
  simp only [Node.balance] at written applied drawn
  refine ⟨balance .call, balance .outgoing, ?_, ?_, balance .incoming, ?_⟩
  · grind
  · grind
  · grind

/-- One node sends, sweeps, loses the store and stops; the other one rejects events and cannot be reached. -/
def wearing : List Operation :=
  [.addNode "a", .addNode "b", .appoint (some "a"), .startAll, .node "a" (.createGroup "g"), .node "b" (.createGroup "g"),
    .node "b" (.setRejecting true), .node "a" (.invalidate (.single "g" "x") .sync), .control (.setUnreachable "b" true),
    .node "a" (.send (.single "g" "y") .sync), .node "a" (.send (.single "h" "x") .sync),
    .node "b" (.invalidate (.single "g" "z") .async), .control .flush, .putRaw "cache-invalidation" "c" none,
    .node "a" (.membershipChanged ["a", "b"]), .node "a" (.rejectKey "d"), .putRaw "cache-invalidation" "d" none,
    .node "a" (.membershipChanged ["a", "b"]), .node "a" (.setStoreUnreachable true), .node "a" .storeChanged,
    .node "a" .stop, .node "a" (.receive (.single "g" "z"))]

theorem wearing_conserved : ∃ node : Node,
    ((initial { election := .membershipService } 5000).run wearing).nodes[0]? = some node ∧
    node.counters.broadcastsSent + node.counters.broadcastFailures = 2 ∧
    node.counters.broadcastsSent + node.counters.broadcastFailures + node.counters.broadcastsSuppressed = 3 ∧
    node.counters.publishes + node.counters.publishFailures + node.counters.prunedAnnouncements +
      node.counters.pruneFailures = UInt64.ofNat node.replica.issued.length ∧ node.replica.issued.length = 5 ∧
    node.counters.remoteEventsApplied = UInt64.ofNat node.registry.applied.length ∧
    node.counters.recomputations + 1 + 1 = node.generation := by
  let before := initial { election := .membershipService } 5000
  have facts : (before.run wearing).nodes[0]?.any (·.replica.issued.length = 5) ∧
      (before.run wearing).failedReads 0 = 1 ∧ (0, .write) ∉ before.history wearing ∧
      (before.history wearing).count (0, .call) = 2 ∧ (before.history wearing).count (0, .outgoing) = 3 ∧
      (before.history wearing).count (0, .stop) = 1 := by
    decide +kernel
  obtain ⟨seen, failed, driven, called, given, stopped⟩ := facts
  obtain ⟨node, found, issued⟩ := (Option.any_eq_true _ _).mp seen
  obtain ⟨calls, handled, written, applied, _, drawn⟩ := counters_conserved _ _ wearing 0 node found driven
  change _ + UInt64.ofNat ((before.run wearing).failedReads 0) +
    UInt64.ofNat ((before.history wearing).count (0, .stop)) = _ at drawn
  rw [failed, stopped] at drawn
  exact ⟨node, found, calls.trans (congrArg UInt64.ofNat called), handled.trans (congrArg UInt64.ofNat given), written,
    of_decide_eq_true issued, applied, drawn⟩

end Cluster

end Coherence
