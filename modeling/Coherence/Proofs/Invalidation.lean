import Coherence.Proofs.Clearing

set_option autoImplicit false

namespace Coherence

open Std

namespace Cluster

variable {cluster : Cluster}

def Forgot (cluster : Cluster) (id : NodeId) (event : Event) : Prop :=
  ∀ k node, cluster.find? id = some (k, node) → ∀ pair ∈ event.pairs, node.registry.cache.holds pair.1 pair.2 = false

theorem forgot_of_pending (id : NodeId) (event : Event) (pending : ∀ pair ∈ event.pairs, cluster.Pending false id pair) :
    cluster.Forgot id event := by
  intro k node found pair named
  obtain ⟨located, here⟩ := (cluster.find_eq_some_iff id k node).mp found
  have clearing := pending pair named id k node.standing located (cluster.standing_of_found k node here) rfl
  cases holds : node.registry.cache.holds pair.1 pair.2 with
  | false => rfl
  | true => exact absurd (clearing holds).2 clears_nil

theorem invalidate_heard (cluster : Cluster) (k : Incarnation) (node : Node) (event : Event) (mode : Mode)
    (found : cluster.nodes[k]? = some node) (audience : node.registry.audience = [k]) (running : node.state = .running) :
    cluster.invalidate k event mode =
      ((cluster.setNode k (node.setRegistry (node.registry.evict event))).send k event mode).1 := by
  have heard : (node.registry.evict event).audience = [k] := audience
  have runs : (cluster.setNode k (node.setRegistry (node.registry.evict event))).isRunning k = true := by
    rw [isRunning, nodes_set_node, if_pos rfl, Option.any_some, Node.is_running_iff]
    exact running
  rw [invalidate, found]
  dsimp only
  rw [heard, List.foldl_cons, List.foldl_nil, invalidated, if_pos runs]

theorem invalidate_running (cluster : Cluster) (k : Incarnation) (node : Node) (event : Event) (mode : Mode)
    (found : cluster.nodes[k]? = some node) (linked : node.standing.Linked k) (running : node.state = .running) :
    cluster.invalidate k event mode =
      ((cluster.setNode k (node.setRegistry (node.registry.evict event))).send k event mode).1 :=
  invalidate_heard cluster k node event mode found (linked.audience_running running) running

theorem pending_evicted (cluster : Cluster) (id : NodeId) (k : Incarnation) (node : Node) (event : Event)
    (pair : Group × Key) (located : cluster.current[id]? = some k) (named : pair ∈ event.pairs) :
    (cluster.setNode k (node.setRegistry (node.registry.evict event))).Pending false id pair := by
  intro other j standing there seen same holds
  subst same
  have equal : j = k := Option.some.inj (there.symm.trans located)
  rw [equal, frame_nodes, nodes_set_node, if_pos rfl] at seen
  cases seen
  change (node.registry.cache.evict event).1.holds pair.1 pair.2 = true at holds
  rw [Cache.holds_evict, Bool.and_eq_true, decide_eq_true_eq] at holds
  exact absurd named holds.1

theorem pending_of_send (cluster : Cluster) (k j : Incarnation) (node other : Node) (name : NodeId) (pair : Group × Key)
    (event : Event) (mode : Mode) (waiting : Bool) (found : cluster.nodes[k]? = some node)
    (place : cluster.current[name]? = some j) (present : cluster.nodes[j]? = some other)
    (covers : ∀ group ∈ other.registry.cache, node.snapshot.contains group = true)
    (accepting : other.registry.rejecting = false) (named : pair ∈ event.pairs)
    (reaches : ∀ wanted : Event, pair ∈ wanted.pairs →
      Clears ((cluster.bus.broadcast node.id cluster.channel wanted mode).2.1 ++
        (cluster.bus.broadcast node.id cluster.channel wanted mode).1.due waiting) j pair) :
    (cluster.send k event mode).1.Pending waiting name pair := by
  have sole (i : Incarnation) (standing : Standing) (located : cluster.current[name]? = some i)
      (seen : cluster.frame.nodes[i]? = some standing) : i = j ∧ standing = other.standing := by
    have same : i = j := Option.some.inj (located.symm.trans place)
    rw [same, cluster.standing_of_found j other present, Option.some.injEq] at seen
    exact ⟨same, seen.symm⟩
  cases passed : node.snapshot.gate event with
  | none =>
      -- If evicting the whole event changes nothing there, the pair was never cached.
      have nothing : cluster.Pending waiting name pair := by
        intro called i standing located seen same holds
        subst same
        obtain ⟨rfl, rfl⟩ := sole i standing located seen
        change other.registry.cache.holds pair.1 pair.2 = true at holds
        rw [← Snapshot.evict_suppressed covers passed, Cache.holds_evict, Bool.and_eq_true, decide_eq_true_eq] at holds
        exact absurd named holds.1
      rw [send_suppressed cluster k node event mode found passed]
      exact nothing.shrink k node _ found (fun holds => holds) rfl
  | some wanted =>
      obtain ⟨last, log, outcome, _, there, after⟩ := send_wanted cluster k node event wanted mode found passed
      have pairs := node.snapshot.gate_pairs event
      rw [passed, Option.elim_some] at pairs
      have arrives : Frame.Awaits { cluster with bus := (cluster.bus.broadcast node.id cluster.channel wanted mode).1 }.frame
          ((cluster.bus.broadcast node.id cluster.channel wanted mode).2.1 ++
            (cluster.bus.broadcast node.id cluster.channel wanted mode).1.due waiting) name pair := by
        intro called i standing located seen same holds
        subst same
        obtain ⟨rfl, rfl⟩ := sole i standing located seen
        have bridged := covers pair.1 (Cache.mem_of_holds _ pair.1 pair.2 holds)
        refine ⟨accepting, reaches wanted ?_⟩
        rw [pairs]
        exact List.mem_filter.mpr ⟨named, bridged⟩
      have delivered : ({ cluster with bus := (cluster.bus.broadcast node.id cluster.channel wanted mode).1 }.deliver
          (cluster.bus.broadcast node.id cluster.channel wanted mode).2.1).Pending waiting name pair := by
        rw [Pending, bus_deliver]
        exact awaits_deliver _ _ _ arrives
      rw [after]
      exact delivered.conclude k last wanted _ there

structure Peers (cluster : Cluster) (id name : NodeId) (k j : Incarnation) (node other : Node) : Prop where
  found : cluster.find? id = some (k, node)
  running : node.isRunning = true
  there : cluster.find? name = some (j, other)
  runs : other.isRunning = true
  different : id ≠ name
  accepted : NodeId.ofKey? name = some name
  reached : name ∉ cluster.bus.unreachable
  accepting : other.registry.rejecting = false

theorem Orderly.pending_peer (orderly : cluster.Orderly) (capacity : cluster.draws < UInt64.size) (id name : NodeId)
    (k j : Incarnation) (node other : Node) (peers : cluster.Peers id name k j node other) (event : Event) (mode : Mode)
    (waiting : Bool) (pair : Group × Key) (named : pair ∈ event.pairs)
    (reaches : (cluster.bus.handlersOn cluster.channel)[name]? = some j → name ≠ node.id → ∀ wanted : Event,
      pair ∈ wanted.pairs → Clears ((cluster.bus.broadcast node.id cluster.channel wanted mode).2.1 ++
        (cluster.bus.broadcast node.id cluster.channel wanted mode).1.due waiting) j pair) :
    (cluster.invalidate k event mode).Pending waiting name pair := by
  obtain ⟨located, here⟩ := (cluster.find_eq_some_iff id k node).mp peers.found
  obtain ⟨place, present⟩ := (cluster.find_eq_some_iff name j other).mp peers.there
  have standing := cluster.standing_of_found k node here
  have called : node.id = id := orderly.allLinked.id_of_located id k node.standing located standing
  have linked := orderly.allLinked.linked id k node.standing located standing
  have apart : k ≠ j := by
    rintro rfl
    exact peers.different (orderly.allLinked.addressed.name_unique id name k located place)
  have handled := orderly.ordered.handled name j other.standing place (cluster.standing_of_found j other present)
    (other.is_running_iff.mp peers.runs)
  have covers := orderly.covers capacity id name k j node other peers.found peers.running peers.there peers.runs
    peers.different peers.accepted
  rw [invalidate_running cluster k node event mode here linked (node.is_running_iff.mp peers.running)]
  refine pending_of_send _ k j (node.setRegistry (node.registry.evict event)) other name pair event mode waiting ?_ place
    ?_ covers peers.accepting named (reaches handled (called ▸ peers.different.symm))
  · rw [nodes_set_node, if_pos rfl]
  · rw [nodes_set_node, if_neg apart]
    exact present

theorem Orderly.pending_self (orderly : cluster.Orderly) (id : NodeId) (k : Incarnation) (node : Node)
    (found : cluster.find? id = some (k, node)) (running : node.isRunning = true) (event : Event) (mode : Mode)
    (pair : Group × Key) (named : pair ∈ event.pairs) : (cluster.invalidate k event mode).Pending false id pair := by
  obtain ⟨located, here⟩ := (cluster.find_eq_some_iff id k node).mp found
  have linked := orderly.allLinked.linked id k node.standing located (cluster.standing_of_found k node here)
  rw [invalidate_running cluster k node event mode here linked (node.is_running_iff.mp running)]
  exact (pending_evicted cluster id k node event pair located named).send k event mode

theorem step_invalidate (cluster : Cluster) (id : NodeId) (k : Incarnation) (node : Node) (event : Event) (mode : Mode)
    (found : cluster.find? id = some (k, node)) :
    (cluster.step (.node id (.invalidate event mode))).1 = cluster.invalidate k event mode := by
  rw [step, found]
  rfl

theorem find_invalidate (cluster : Cluster) (k : Incarnation) (event : Event) (mode : Mode) (name : NodeId)
    (j : Incarnation) (other : Node) (there : cluster.find? name = some (j, other)) :
    ∃ last, (cluster.invalidate k event mode).find? name = some (j, last) := by
  have adjusted := adjusted_invalidate cluster k event mode
  obtain ⟨place, present⟩ := (cluster.find_eq_some_iff name j other).mp there
  obtain ⟨last, found⟩ := adjusted.found j other present
  exact ⟨last, (find_eq_some_iff _ name j last).mpr ⟨adjusted.current ▸ place, found⟩⟩

/-- No node keeps what another one has invalidated, once it was waited for or everything has arrived. -/
theorem cache_coherence (cluster : Cluster) (attained : cluster.Attained) (capacity : cluster.draws < UInt64.size)
    (id : NodeId) (k : Incarnation) (node : Node) (found : cluster.find? id = some (k, node))
    (running : node.isRunning = true) (event : Event) :
    (∀ mode, (∃ last, (cluster.run [.node id (.invalidate event mode)]).find? id = some (k, last)) ∧
      (cluster.run [.node id (.invalidate event mode)]).Forgot id event) ∧
    (∀ between, (∀ operation ∈ between, operation.isOrdinary = true ∧ operation.isPut = false) →
      (cluster.run (.node id (.invalidate event .async) :: (between ++ [.control .flush]))).Forgot id event) ∧
    ∀ name j other, cluster.Peers id name k j node other →
      (cluster.bus.delayOf name ≤ cluster.bus.timeout →
        (∃ last, (cluster.run [.node id (.invalidate event .sync)]).find? name = some (j, last)) ∧
          (cluster.run [.node id (.invalidate event .sync)]).Forgot name event) ∧
      ∀ between, (∀ operation ∈ between, operation.isOrdinary = true ∧ operation.isPut = false) →
        .node name (.setRejecting true) ∉ between →
        (cluster.run (.node id (.invalidate event .async) :: (between ++ [.control .flush]))).Forgot name event := by
  have orderly := attained.orderly
  have step (mode : Mode) := step_invalidate cluster id k node event mode found
  have next : (cluster.invalidate k event .async).Orderly :=
    (orderly.adjust (adjusted_invalidate cluster k event .async)).orderly
  have after (between : List Operation) :
      cluster.run (.node id (.invalidate event .async) :: (between ++ [.control .flush])) =
        (((cluster.invalidate k event .async).run between).step (.control .flush)).1 := by
    rw [← step .async]
    exact run_append (cluster.step (.node id (.invalidate event .async))).1 between [.control .flush]
  refine ⟨?_, ?_, ?_⟩
  · intro mode
    rw [show cluster.run [.node id (.invalidate event mode)] = _ from step mode]
    refine ⟨find_invalidate cluster k event mode id k node found, forgot_of_pending id event fun pair named => ?_⟩
    exact orderly.pending_self id k node found running event mode pair named
  · intro between calm
    refine forgot_of_pending id event fun pair named => ?_
    have ordinary := fun operation member => (calm operation member).1
    have gone := (orderly.pending_self id k node found running event .async pair named).run next between ordinary
      (fun operation member => (calm operation member).2) (fun expects => nomatch expects)
    rw [after between]
    exact gone.step (next.run between ordinary) (.control .flush) rfl rfl fun expects => nomatch expects
  · intro name j other peers
    refine ⟨?_, ?_⟩
    · intro prompt
      rw [show cluster.run [.node id (.invalidate event .sync)] = _ from step .sync]
      refine ⟨find_invalidate cluster k event .sync name j other peers.there,
        forgot_of_pending name event fun pair named => ?_⟩
      refine orderly.pending_peer capacity id name k j node other peers event .sync false pair named ?_
      intro handled different wanted member
      rw [clears_append]
      exact .inl (cluster.bus.broadcast_arrives node.id name _ wanted j pair handled different peers.reached prompt member)
    · intro between calm accepting
      refine forgot_of_pending name event fun pair named => ?_
      have onWay := orderly.pending_peer capacity id name k j node other peers event .async true pair named
        fun handled different wanted member =>
          cluster.bus.broadcast_departs node.id name _ wanted j pair handled different peers.reached member
      rw [after between]
      exact (onWay.run next between (fun operation member => (calm operation member).1)
        (fun operation member => (calm operation member).2) fun _ => accepting).flush

/-- Two nodes cache the same pair. The wire to one of them is slow, and to a third it is cut. -/
def gathering : List Operation :=
  [.addNode "a", .addNode "b", .addNode "c", .startAll, .node "a" (.createGroup "g"), .node "b" (.createGroup "g"),
    .node "a" (.put "g" "x"), .node "b" (.put "g" "x"), .control (.setUnreachable "c" true),
    .control (.setDelay "b" 10)]

theorem gathering_coherent : ∃ j other, ((initial {} 5000).run gathering).find? "b" = some (j, other) ∧
    other.registry.cache.holds "g" "x" = true ∧
    (((initial {} 5000).run gathering).run [.node "a" (.invalidate (.single "g" "x") .sync)]).Forgot "b" (.single "g" "x") ∧
    (((initial {} 5000).run gathering).run (.node "a" (.invalidate (.single "g" "x") .async) ::
      ([.node "b" .stop, .crash "c", .control (.setUnreachable "b" true)] ++ [.control .flush]))).Forgot "b"
        (.single "g" "x") := by
  have attained : ((initial {} 5000).run gathering).Attained := ⟨{}, 5000, gathering, by decide, rfl⟩
  have first : (((initial {} 5000).run gathering).find? "a").any (fun found => found.2.isRunning) = true := by
    decide +kernel
  have second : (((initial {} 5000).run gathering).find? "b").any (fun found => found.2.isRunning &&
      found.2.registry.cache.holds "g" "x" && !found.2.registry.rejecting) = true := by
    decide +kernel
  obtain ⟨⟨k, node⟩, found, running⟩ := (Option.any_eq_true _ _).mp first
  obtain ⟨⟨j, other⟩, there, facts⟩ := (Option.any_eq_true _ _).mp second
  rw [Bool.and_eq_true, Bool.and_eq_true, Bool.not_eq_true'] at facts
  obtain ⟨⟨runs, holds⟩, accepting⟩ := facts
  have peers : ((initial {} 5000).run gathering).Peers "a" "b" k j node other :=
    ⟨found, running, there, runs, by decide, by decide, by decide +kernel, accepting⟩
  have coherent := (cache_coherence _ attained (by decide +kernel) "a" k node found running (.single "g" "x")).2.2 "b" j
    other peers
  exact ⟨j, other, there, holds, (coherent.1 (by decide +kernel)).2, coherent.2 _ (by decide) (by simp)⟩

end Cluster

end Coherence
