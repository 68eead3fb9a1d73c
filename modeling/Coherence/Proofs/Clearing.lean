import Coherence.Proofs.Gating

set_option autoImplicit false

namespace Coherence

open Std

namespace Bus

variable {η : Type}

def due (bus : Bus η) (waiting : Bool) : List (Delivery η) := if waiting then bus.onWay else []

theorem Passes.due {before after : Bus η} {arrived : List (Delivery η)} (passes : Passes before after arrived)
    (waiting : Bool) (handler : η) (pair : Group × Key) (clears : Clears (before.due waiting) handler pair) :
    Clears (arrived ++ after.due waiting) handler pair := by
  cases waiting with
  | true => exact passes handler pair clears
  | false => exact absurd clears clears_nil

theorem due_registered (bus after : Bus η) (channel : Channel) (node : NodeId) (handler : η) (waiting : Bool)
    (registered : bus.register channel node handler = .ok after) : after.due waiting = bus.due waiting := by
  rw [register] at registered
  split at registered
  · cases registered
  · cases registered
    rfl

end Bus

namespace Frame

-- If the node of this name still holds the pair, an event that makes it forget the pair is due.
def Awaits (frame : Frame) (due : List (Delivery Incarnation)) (id : NodeId) (pair : Group × Key) : Prop :=
  frame.Every fun other k standing => other = id → standing.registry.cache.holds pair.1 pair.2 = true →
    standing.registry.rejecting = false ∧ Clears due k pair

variable {frame : Frame} {due : List (Delivery Incarnation)} {id : NodeId} {pair : Group × Key}

theorem Awaits.more (awaits : frame.Awaits due id pair) (all : List (Delivery Incarnation))
    (subset : ∀ k, Clears due k pair → Clears all k pair) : frame.Awaits all id pair :=
  awaits.imp fun _ k _ clearing named holds => ⟨(clearing named holds).1, subset k (clearing named holds).2⟩

theorem Awaits.place (awaits : frame.Awaits due id pair) (k : Incarnation) (fresh : Standing)
    (here : frame.current[id]? = some k → fresh.registry.cache.holds pair.1 pair.2 = true →
      fresh.registry.rejecting = false ∧ Clears due k pair) : (frame.place k fresh).Awaits due id pair := by
  refine Every.place awaits k fresh (fun _ _ _ _ _ clearing => clearing) ?_
  intro other located named
  exact here (named ▸ located)

theorem Awaits.shrink (awaits : frame.Awaits due id pair) (k : Incarnation) (old fresh : Standing)
    (found : frame.nodes[k]? = some old)
    (kept : fresh.registry.cache.holds pair.1 pair.2 = true → old.registry.cache.holds pair.1 pair.2 = true)
    (rejecting : fresh.registry.rejecting = old.registry.rejecting) : (frame.place k fresh).Awaits due id pair := by
  refine awaits.place k fresh fun located holds => ?_
  rw [rejecting]
  exact awaits id k old located found rfl (kept holds)

end Frame

namespace Cluster

variable {cluster : Cluster} {id : NodeId} {pair : Group × Key} {waiting : Bool}

theorem awaits_receive (cluster : Cluster) (delivery : Delivery Incarnation) (rest : List (Delivery Incarnation))
    (awaits : cluster.frame.Awaits (delivery :: rest) id pair) :
    (cluster.receive delivery.handler delivery.event).frame.Awaits rest id pair := by
  have elsewhere (k : Incarnation) (other : delivery.handler ≠ k) (clears : Clears (delivery :: rest) k pair) :
      Clears rest k pair := by
    refine ((clears_cons delivery rest).mp clears).resolve_left ?_
    rintro ⟨only, member, handler, _⟩
    exact other (List.mem_singleton.mp member ▸ handler)
  rw [receive]
  cases found : cluster.nodes[delivery.handler]? with
  | none =>
      rw [amend_missing cluster _ _ found]
      intro other k standing located seen named holds
      have clearing := awaits other k standing located seen named holds
      refine ⟨clearing.1, elsewhere k ?_ clearing.2⟩
      rintro rfl
      rw [frame_nodes, found] at seen
      cases seen
  | some node =>
      have standing := cluster.standing_of_found _ node found
      rw [amend_found cluster _ _ node found, frame_note, frame_set_node]
      refine Frame.Every.place awaits delivery.handler _ ?_ ?_
      · intro other k there _ different clearing named holds
        exact ⟨(clearing named holds).1, elsewhere k (Ne.symm different) (clearing named holds).2⟩
      · intro other located named
        have clearing := awaits other _ node.standing located standing named
        change (node.receive delivery.event).1.registry.cache.holds pair.1 pair.2 = true → _
        change _ → (node.receive delivery.event).1.registry.rejecting = false ∧ _
        rw [node.registry_received, Registry.apply]
        intro holds
        -- A registry that rejects the event holds nothing that is awaited; one that takes it forgets the pair.
        cases rejecting : node.registry.rejecting with
        | true =>
            rw [rejecting] at holds
            have before := (clearing holds).1
            change node.registry.rejecting = false at before
            rw [rejecting] at before
            cases before
        | false =>
            rw [rejecting] at holds
            simp only [Bool.false_eq_true, if_false, Registry.evict] at holds ⊢
            rw [Cache.holds_evict, Bool.and_eq_true, decide_eq_true_eq] at holds
            refine ⟨rejecting, ((clears_cons delivery rest).mp (clearing holds.2).2).resolve_left ?_⟩
            rintro ⟨only, member, _, forgets⟩
            exact holds.1 (List.mem_singleton.mp member ▸ forgets)

theorem awaits_deliver (cluster : Cluster) (arrived rest : List (Delivery Incarnation))
    (awaits : cluster.frame.Awaits (arrived ++ rest) id pair) : (cluster.deliver arrived).frame.Awaits rest id pair := by
  induction arrived generalizing cluster with
  | nil => exact awaits
  | cons delivery arrived ih =>
      rw [deliver_cons]
      exact ih _ (awaits_receive cluster delivery (arrived ++ rest) awaits)

def Pending (cluster : Cluster) (waiting : Bool) (id : NodeId) (pair : Group × Key) : Prop :=
  cluster.frame.Awaits (cluster.bus.due waiting) id pair

theorem Pending.follow {before after : Cluster} (pending : before.Pending waiting id pair)
    (follows : Follows before after) : after.Pending waiting id pair := by
  have bus : after.bus = before.bus := congrArg Frame.bus follows.frame
  rw [Pending, follows.frame, bus]
  exact pending

theorem Pending.traffic (pending : cluster.Pending waiting id pair) (bus : Bus Incarnation)
    (arrived : List (Delivery Incarnation)) (passes : Bus.Passes cluster.bus bus arrived) :
    ({ cluster with bus }.deliver arrived).Pending waiting id pair := by
  rw [Pending, bus_deliver]
  apply awaits_deliver
  exact Frame.Awaits.more pending _ fun k clears => passes.due waiting k pair clears

theorem Pending.shrink (pending : cluster.Pending waiting id pair) (k : Incarnation) (node fresh : Node)
    (found : cluster.nodes[k]? = some node)
    (kept : fresh.registry.cache.holds pair.1 pair.2 = true → node.registry.cache.holds pair.1 pair.2 = true)
    (rejecting : fresh.registry.rejecting = node.registry.rejecting) :
    (cluster.setNode k fresh).Pending waiting id pair := by
  rw [Pending, frame_set_node]
  exact Frame.Awaits.shrink pending k node.standing fresh.standing (cluster.standing_of_found k node found) kept rejecting

theorem registry_concluded (node : Node) (event : Event) (result : Except Fault Unit) :
    (node.relay.conclude event result).1.registry = node.registry := by
  cases result <;> rfl

theorem Pending.conclude (pending : cluster.Pending waiting id pair) (k : Incarnation) (last : Node) (event : Event)
    (result : Except Fault Unit) (found : cluster.nodes[k]? = some last) :
    (cluster.setNode k { last with relay := (last.relay.conclude event result).1 }).Pending waiting id pair := by
  have registry := registry_concluded last event result
  refine pending.shrink k last _ found ?_ (congrArg Registry.rejecting registry)
  change (Relay.registry _).cache.holds pair.1 pair.2 = true → _
  rw [registry]
  exact fun holds => holds

theorem Pending.send (pending : cluster.Pending waiting id pair) (k : Incarnation) (event : Event) (mode : Mode) :
    (cluster.send k event mode).1.Pending waiting id pair := by
  cases found : cluster.nodes[k]? with
  | none =>
      rw [Cluster.send, found]
      exact pending
  | some node =>
      cases passed : node.snapshot.gate event with
      | none =>
          rw [send_suppressed cluster k node event mode found passed]
          exact pending.shrink k node _ found (fun holds => holds) rfl
      | some wanted =>
          obtain ⟨last, log, outcome, _, there, after⟩ := send_wanted cluster k node event wanted mode found passed
          have traffic := pending.traffic _ _ (cluster.bus.passes_broadcast node.id cluster.channel wanted mode)
          rw [after]
          exact traffic.conclude k last wanted _ there

theorem Pending.invalidate (pending : cluster.Pending waiting id pair) (k : Incarnation) (event : Event) (mode : Mode) :
    (cluster.invalidate k event mode).Pending waiting id pair := by
  rw [Cluster.invalidate]
  cases found : cluster.nodes[k]? with
  | none => exact pending
  | some node =>
      have evicted := pending.shrink k node (node.setRegistry (node.registry.evict event)) found (fun holds => by
        change (node.registry.cache.evict event).1.holds pair.1 pair.2 = true at holds
        rw [Cache.holds_evict, Bool.and_eq_true] at holds
        exact holds.2) rfl
      -- Nothing is known of the listeners here, so each of them may send in turn.
      dsimp only
      generalize (node.registry.evict event).audience = audience
      generalize cluster.setNode k (node.setRegistry (node.registry.evict event)) = after at evicted
      induction audience generalizing after with
      | nil => exact evicted
      | cons j audience ih =>
          refine ih _ ?_
          rw [invalidated]
          split
          · exact evicted.send j event mode
          · exact evicted

theorem Pending.receive (pending : cluster.Pending waiting id pair) (k : Incarnation) (event : Event) :
    (cluster.receive k event).Pending waiting id pair := by
  rw [Pending, show (cluster.receive k event).bus = cluster.bus from bus_amend cluster k _]
  refine awaits_receive cluster ⟨0, k, event, 0⟩ _ (Frame.Awaits.more pending _ fun j clears => ?_)
  exact (clears_cons _ _).mpr (.inr clears)

theorem Pending.start (pending : cluster.Pending waiting id pair) (orderly : cluster.Orderly) (name : NodeId)
    (k : Incarnation) (located : cluster.current[name]? = some k) : (cluster.start k).1.Pending waiting id pair := by
  obtain ⟨node, found, _, linked⟩ := orderly.node_of_located name k located
  have started := start_started cluster k node found linked.reachable
  generalize cluster.start k = result at started
  cases started with
  | refused error log => exact pending
  | running bus stopped registered =>
      have enrolled : (cluster.enrolled k node bus).Pending waiting id pair := by
        rw [Pending, frame_enrolled, show (cluster.enrolled k node bus).bus = bus from rfl,
          cluster.bus.due_registered bus _ _ _ waiting registered]
        exact Frame.Awaits.shrink (Frame.Every.furnish pending _ _ _) k node.standing _
          (cluster.standing_of_found k node found) (fun holds => holds) rfl
      exact (enrolled.follow (follows_publish _ k)).follow (follows_recompute _ k)

theorem Pending.dismiss (pending : cluster.Pending waiting id pair) (k : Incarnation) (node : Node) (state : Lifecycle)
    (held : Held) (log : List (Incarnation × LogEntry)) (found : cluster.nodes[k]? = some node) :
    (cluster.dismissal k (node.setState state) held log).Pending waiting id pair := by
  rw [Pending, frame_dismissal]
  exact Frame.Awaits.shrink (Frame.Every.furnish pending _ _ _) k node.standing _
    (cluster.standing_of_found k node found) (fun holds => holds) rfl

theorem Pending.stop (pending : cluster.Pending waiting id pair) (orderly : cluster.Orderly) (name : NodeId)
    (k : Incarnation) (located : cluster.current[name]? = some k) : (cluster.stop k).Pending waiting id pair := by
  obtain ⟨node, found, _, linked⟩ := orderly.node_of_located name k located
  cases orderly.settled name k node.standing located (cluster.standing_of_found k node found) with
  | inl stopped =>
      rw [stop_stopped cluster k node found stopped]
      exact pending
  | inr running =>
      obtain ⟨held, holding, _⟩ := linked.enrolled running
      have frame := frame_stop cluster k node held found running holding
      rw [Pending, frame, show (cluster.stop k).bus = _ from congrArg Frame.bus frame]
      exact pending.dismiss k node .stopped held [] found

theorem Pending.leave (pending : cluster.Pending waiting id pair) (name : NodeId) :
    (cluster.leave name).Pending waiting id pair := by
  rw [Cluster.leave]
  split
  · exact pending
  · rename_i hub _
    have left : { cluster with hub }.Pending waiting id pair := pending
    exact left.follow (follows_notify _ _)

theorem Pending.crash (pending : cluster.Pending waiting id pair) (orderly : cluster.Orderly) (name : NodeId) :
    (cluster.crash name).Pending waiting id pair := by
  rw [Cluster.crash]
  cases located : cluster.current[name]? with
  | none => exact pending.leave name
  | some k =>
      obtain ⟨node, found, _, linked⟩ := orderly.node_of_located name k located
      have left : { cluster with current := cluster.current.erase name }.Pending waiting id pair :=
        Frame.Every.forget pending name
      cases orderly.settled name k node.standing located (cluster.standing_of_found k node found) with
      | inl stopped =>
          dsimp only
          rw [discard_stopped { cluster with current := cluster.current.erase name } k node found stopped]
          exact left.leave name
      | inr running =>
          obtain ⟨held, holding, _⟩ := linked.enrolled running
          obtain ⟨log, discarded⟩ := discard_running { cluster with current := cluster.current.erase name } k node held
            found running holding
          dsimp only
          rw [discarded]
          exact (left.dismiss k node node.state held log found).leave name

theorem Pending.add_node (pending : cluster.Pending waiting id pair) (orderly : cluster.Orderly) (name : NodeId) :
    (cluster.addNode name).1.Pending waiting id pair := by
  have addressed := (orderly.join name).orderly.allLinked.addressed
  have joined : (cluster.join name).Pending waiting id pair := by
    have entered : { cluster with hub := cluster.hub.join name }.Pending waiting id pair := pending
    exact entered.follow (follows_notify _ _)
  rw [addNode]
  dsimp only
  split
  · exact joined
  · split
    · exact joined
    · change ((cluster.join name).added name).Pending waiting id pair
      rw [Pending, frame_added]
      refine Frame.Every.create joined addressed name _ fun _ holds => ?_
      cases holds

theorem Pending.change_groups (pending : cluster.Pending waiting id pair) (k : Incarnation)
    (change : Registry Incarnation → Option (Registry Incarnation))
    (kept : ∀ registry changed, change registry = some changed → changed.rejecting = registry.rejecting ∧
      (changed.cache.holds pair.1 pair.2 = true → registry.cache.holds pair.1 pair.2 = true)) :
    (cluster.changeGroups k change).Pending waiting id pair := by
  rw [changeGroups]
  split
  · exact pending
  · rename_i node found
    split
    · exact pending
    · rename_i registry changed
      obtain ⟨rejecting, holds⟩ := kept _ _ changed
      exact (pending.shrink k node (node.setRegistry registry) found holds rejecting).follow
        (follows_foldl groupsChanged follows_groups_changed _ _)

end Cluster

namespace Registry

variable (registry changed : Registry Incarnation) (group : Group) (pair : Group × Key)

theorem create_group_holds (created : registry.createGroup? group = some changed) :
    changed.rejecting = registry.rejecting ∧
      (changed.cache.holds pair.1 pair.2 = true → registry.cache.holds pair.1 pair.2 = true) := by
  rw [createGroup?] at created
  split at created
  · cases created
  · cases created
    refine ⟨rfl, fun holds => ?_⟩
    rw [Cache.holds, Cache.keysOf, ExtTreeMap.getElem?_insert] at holds
    split at holds
    · cases holds
    · exact holds

theorem drop_group_holds (dropped : registry.dropGroup? group = some changed) :
    changed.rejecting = registry.rejecting ∧
      (changed.cache.holds pair.1 pair.2 = true → registry.cache.holds pair.1 pair.2 = true) := by
  rw [dropGroup?] at dropped
  split at dropped
  · cases dropped
    refine ⟨rfl, fun holds => ?_⟩
    rw [Cache.holds, Cache.keysOf, ExtTreeMap.getElem?_erase] at holds
    split at holds
    · cases holds
    · exact holds
  · cases dropped

end Registry

namespace Cluster

variable {cluster : Cluster} {id : NodeId} {pair : Group × Key} {waiting : Bool}

theorem Pending.start_all (pending : cluster.Pending waiting id pair) (orderly : cluster.Orderly) :
    (cluster.startAll cluster.incarnations).1.Pending waiting id pair := by
  refine (start_all_keeps (P := fun after => after.Orderly ∧ after.Pending waiting id pair) ?_ cluster.incarnations
    cluster ⟨orderly, pending⟩ cluster.located_of_incarnation).2
  rintro middle name k ⟨orderly, pending⟩ located
  exact ⟨⟨(orderly.start name k located).orderly, pending.start orderly name k located⟩,
    orderly.current_start name k located⟩

theorem Pending.stop_all (pending : cluster.Pending waiting id pair) (orderly : cluster.Orderly) :
    (cluster.incarnations.foldl Cluster.stop cluster).Pending waiting id pair := by
  refine (stop_all_keeps (P := fun after => after.Orderly ∧ after.Pending waiting id pair) ?_ cluster.incarnations
    cluster ⟨orderly, pending⟩ cluster.located_of_incarnation).2
  rintro middle name k ⟨orderly, pending⟩ located
  exact ⟨⟨(orderly.stop name k located).orderly, pending.stop orderly name k located⟩,
    orderly.current_stop name k located⟩

theorem Pending.elsewhere (pending : cluster.Pending waiting id pair) (k : Incarnation) (fresh : Node)
    (other : cluster.current[id]? ≠ some k) : (cluster.setNode k fresh).Pending waiting id pair := by
  rw [Pending, frame_set_node]
  exact Frame.Awaits.place pending k fresh.standing fun located => absurd located other

theorem Pending.set_rejecting (pending : cluster.Pending waiting id pair) (k : Incarnation) (node : Node)
    (located : cluster.current[id]? = some k) (found : cluster.nodes[k]? = some node) (on : Bool)
    (calm : waiting = true → on = false) :
    (cluster.setNode k (node.setRegistry { node.registry with rejecting := on })).Pending waiting id pair := by
  rw [Pending, frame_set_node]
  refine Frame.Awaits.place pending k _ fun _ holds => ?_
  have clearing := pending id k node.standing located (cluster.standing_of_found k node found) rfl holds
  cases waiting with
  | true => exact ⟨calm rfl, clearing.2⟩
  | false => exact absurd clearing.2 clears_nil

def Operation.isPut : Operation → Bool
  | .node _ (.put _ _) => true
  | _ => false

theorem Pending.step_node (pending : cluster.Pending waiting id pair) (orderly : cluster.Orderly) (name : NodeId)
    (k : Incarnation) (node : Node) (located : cluster.current[name]? = some k) (found : cluster.nodes[k]? = some node)
    (operation : NodeOperation) (ordinary : operation.isOrdinary = true)
    (noPut : (Operation.node name operation).isPut = false)
    (calm : waiting = true → Operation.node name operation ≠ .node id (.setRejecting true)) :
    (cluster.stepNode k node operation).1.Pending waiting id pair := by
  cases operation with
  | start => exact pending.start orderly name k located
  | stop => exact pending.stop orderly name k located
  | createGroup group =>
      exact pending.change_groups k _ fun registry changed created =>
        registry.create_group_holds changed group pair created
  | dropGroup group =>
      exact pending.change_groups k _ fun registry changed dropped =>
        registry.drop_group_holds changed group pair dropped
  | put group key => cases noPut
  | setRejecting on =>
      by_cases same : name = id
      · subst same
        refine pending.set_rejecting k node located found on fun expects => ?_
        cases on with
        | false => rfl
        | true => exact absurd rfl (calm expects)
      · exact pending.elsewhere k _ fun there => same (orderly.allLinked.addressed.name_unique name id k located there)
  | send event mode => exact pending.send k event mode
  | invalidate event mode => exact pending.invalidate k event mode
  | receive event => exact pending.receive k event
  | publish => exact pending.follow (follows_publish cluster k)
  | storeChanged => exact pending.follow (follows_store_changed cluster k)
  | setStoreUnreachable on =>
      rw [stepNode, modifyReplica, modify, amend_found cluster k _ node found]
      exact pending.shrink k node _ found (fun holds => holds) rfl
  | membershipChanged _ => cases ordinary
  | rejectKey _ => cases ordinary
  | write _ => cases ordinary
  | squat => cases ordinary
  | unregister => cases ordinary

theorem Pending.step (pending : cluster.Pending waiting id pair) (orderly : cluster.Orderly) (operation : Operation)
    (ordinary : operation.isOrdinary = true) (noPut : operation.isPut = false)
    (calm : waiting = true → operation ≠ .node id (.setRejecting true)) :
    (cluster.step operation).1.Pending waiting id pair := by
  cases operation with
  | addNode name =>
      rw [step_add_node]
      exact pending.add_node orderly name
  | crash name => exact pending.crash orderly name
  | startAll => exact pending.start_all orderly
  | stopAll => exact pending.stop_all orderly
  | setMembershipUnreachable name on => exact pending
  | appoint name => exact pending
  | control control => exact pending.traffic _ _ (cluster.bus.passes_control control)
  | node name operation =>
      rw [Cluster.step]
      cases found : cluster.find? name with
      | none => exact pending
      | some place =>
          obtain ⟨k, node⟩ := place
          obtain ⟨located, here⟩ := (cluster.find_eq_some_iff name k node).mp found
          exact pending.step_node orderly name k node located here operation ordinary noPut calm
  | join _ => cases ordinary
  | leave _ => cases ordinary
  | notify _ => cases ordinary
  | putRaw _ _ _ => cases ordinary

theorem Pending.run (pending : cluster.Pending waiting id pair) (orderly : cluster.Orderly) (operations : List Operation)
    (ordinary : ∀ operation ∈ operations, operation.isOrdinary = true)
    (noPut : ∀ operation ∈ operations, operation.isPut = false)
    (calm : waiting = true → .node id (.setRejecting true) ∉ operations) :
    (cluster.run operations).Pending waiting id pair := by
  induction operations generalizing cluster with
  | nil => exact pending
  | cons operation operations ih =>
      have here := ordinary operation (List.mem_cons_self ..)
      have next := pending.step orderly operation here (noPut operation (List.mem_cons_self ..)) fun expects same =>
        calm expects (same ▸ List.mem_cons_self ..)
      exact ih next (orderly.step operation here).1
        (fun later member => ordinary later (List.mem_cons_of_mem operation member))
        (fun later member => noPut later (List.mem_cons_of_mem operation member))
        fun expects member => calm expects (List.mem_cons_of_mem operation member)

theorem Pending.flush (pending : cluster.Pending true id pair) :
    (cluster.step (.control .flush)).1.Pending false id pair := by
  have traffic := pending.traffic _ _ (cluster.bus.passes_control .flush)
  rw [Pending, bus_deliver] at traffic
  rw [Pending, show (cluster.step (.control .flush)).1.bus = cluster.bus.flush.1 from bus_deliver _ _]
  exact traffic

end Cluster

end Coherence
