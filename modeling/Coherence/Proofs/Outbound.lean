import Coherence.Proofs.Gating

set_option autoImplicit false

namespace Coherence

open Std

namespace Snapshot

variable (snapshot : Snapshot) (event : Event)

-- The part of an event that another node can use.
def share : List (Group × Key) := event.pairs.filter fun pair => snapshot.contains pair.1

-- Of the same kind, with all that others can use and nothing else; a batch keeps whole entries.
structure Narrows (wanted : Event) : Prop where
  pairs : wanted.pairs = snapshot.share event
  kind : wanted.method = event.method
  batch : ∀ entries, event = .batch entries →
    wanted = .batch (entries.filter fun entry => entry.keys ≠ [] ∧ entry.group ∈ snapshot.groups)

theorem filter_batch_eq (entries : List BatchEntry) :
    snapshot.filterBatch entries = entries.filter fun entry => entry.keys ≠ [] ∧ entry.group ∈ snapshot.groups := by
  apply List.filter_congr
  intro entry _
  rw [contains, Bool.eq_iff_iff]
  simp

variable {snapshot event}

theorem gated_cases {wanted : Event} (passed : snapshot.gate event = some wanted) :
    (event.pairs ≠ [] ∧ (∀ entries, event ≠ .batch entries) ∧ wanted = event) ∨
      ∃ entries, event = .batch entries ∧ snapshot.filterBatch entries ≠ [] ∧
        wanted = .batch (snapshot.filterBatch entries) := by
  cases event with
  | single group key =>
      rw [gate, Option.ite_none_right_eq_some] at passed
      exact .inl ⟨List.cons_ne_nil _ _, by simp, (Option.some.inj passed.2).symm⟩
  | many group keys =>
      rw [gate, Option.ite_none_right_eq_some, Bool.and_eq_true, Bool.not_eq_true', List.isEmpty_eq_false_iff] at passed
      obtain ⟨⟨occupied, _⟩, same⟩ := passed
      exact .inl ⟨fun nothing => occupied (List.map_eq_nil_iff.mp nothing), by simp, (Option.some.inj same).symm⟩
  | batch entries =>
      rw [gate] at passed
      split at passed
      · cases passed
      · rename_i occupied
        exact .inr ⟨entries, rfl, occupied, (Option.some.inj passed).symm⟩

theorem pairs_filter_batch_ne_nil {entries : List BatchEntry} (occupied : snapshot.filterBatch entries ≠ []) :
    (snapshot.filterBatch entries).flatMap BatchEntry.pairs ≠ [] := by
  obtain ⟨entry, member⟩ := List.exists_mem_of_ne_nil _ occupied
  have keyed := (List.mem_filter.mp member).2
  intro nothing
  have bare : entry.keys = [] := List.map_eq_nil_iff.mp (List.flatMap_eq_nil_iff.mp nothing entry member)
  simp [bare] at keyed

theorem pairs_gated_ne_nil {wanted : Event} (passed : snapshot.gate event = some wanted) : wanted.pairs ≠ [] := by
  rcases gated_cases passed with ⟨occupied, _, rfl⟩ | ⟨entries, _, occupied, rfl⟩
  · exact occupied
  · exact pairs_filter_batch_ne_nil occupied

theorem gate_eq_none_iff : snapshot.gate event = none ↔ snapshot.share event = [] := by
  rw [share, ← gate_pairs]
  cases passed : snapshot.gate event with
  | none => simp
  | some wanted => simpa using pairs_gated_ne_nil passed

theorem narrows_gated {wanted : Event} (passed : snapshot.gate event = some wanted) : snapshot.Narrows event wanted := by
  have pairs := snapshot.gate_pairs event
  rw [passed] at pairs
  rcases gated_cases passed with ⟨_, other, rfl⟩ | ⟨entries, rfl, _, rfl⟩
  · exact ⟨pairs, rfl, fun entries batch => absurd batch (other entries)⟩
  · refine ⟨pairs, rfl, ?_⟩
    rintro _ ⟨⟩
    rw [filter_batch_eq]

end Snapshot

variable {η : Type}

-- Nothing leaves if nobody else can use any of it, and else one call, which fails just if the wire says so.
structure Forwards (snapshot : Snapshot) (own : NodeId) (channel : Channel) (event : Event) (mode : Mode)
    (before after : Bus η) (outcome : Outcome) : Prop where
  suppressed : outcome = .suppressed ↔ snapshot.share event = []
  silent : after.sent = before.sent ↔ snapshot.share event = []
  untouched : snapshot.share event = [] → after = before
  called : snapshot.share event ≠ [] → ∃ wanted : Event, snapshot.Narrows event wanted ∧
    after = (before.broadcast own channel wanted mode).1 ∧
    after.sent = before.sent ++ [⟨own, channel, wanted, mode, (before.targets channel own).map (·.1)⟩] ∧
    (outcome = .failed ↔ ∃ fault, (before.broadcast own channel wanted mode).2.2 = .error fault)

section Forwarding

variable (snapshot : Snapshot) (own : NodeId) (channel : Channel) (event : Event) (mode : Mode) (bus : Bus η)

theorem forwards_nothing (nothing : snapshot.gate event = none) :
    Forwards snapshot own channel event mode bus bus .suppressed := by
  have unused := Snapshot.gate_eq_none_iff.mp nothing
  exact ⟨iff_of_true rfl unused, iff_of_true rfl unused, fun _ => rfl, fun used => absurd unused used⟩

theorem forwards_wanted (wanted : Event) (passed : snapshot.gate event = some wanted) (outcome : Outcome)
    (attempted : outcome ≠ .suppressed)
    (failed : outcome = .failed ↔ ∃ fault, (bus.broadcast own channel wanted mode).2.2 = .error fault) :
    Forwards snapshot own channel event mode bus (bus.broadcast own channel wanted mode).1 outcome := by
  have used : snapshot.share event ≠ [] := by
    rw [Ne, ← Snapshot.gate_eq_none_iff, passed]
    exact Option.some_ne_none wanted
  have sent := bus.sent_broadcast own channel wanted mode
  refine ⟨iff_of_false attempted used, iff_of_false ?_ used, fun unused => absurd unused used,
    fun _ => ⟨wanted, Snapshot.narrows_gated passed, rfl, sent, failed⟩⟩
  rw [sent, List.append_right_eq_self]
  exact List.cons_ne_nil _ _

end Forwarding

namespace Relay

variable {ℓ : Type}

theorem attempted_conclude (relay : Relay ℓ) (event : Event) (result : Except Fault Unit) :
    (relay.conclude event result).2.1 ≠ .suppressed := by
  cases result <;> simp [conclude]

theorem failed_conclude (relay : Relay ℓ) (event : Event) (result : Except Fault Unit) :
    (relay.conclude event result).2.1 = .failed ↔ ∃ fault, result = .error fault := by
  cases result with
  | ok => simp [conclude]
  | error fault => simp [conclude]

theorem forwards_send (relay : Relay ℓ) (bus : Bus η) (own : NodeId) (channel : Channel) (event : Event) (mode : Mode) :
    Forwards relay.snapshot own channel event mode bus (relay.send bus own channel event mode).2.1
      (relay.send bus own channel event mode).2.2.1 := by
  rw [send]
  cases passed : relay.snapshot.gate event with
  | none => exact forwards_nothing _ own channel event mode bus passed
  | some wanted =>
      exact forwards_wanted _ own channel event mode bus wanted passed _ (relay.attempted_conclude wanted _)
        (relay.failed_conclude wanted _)

end Relay

namespace Cluster

theorem forwards_send (cluster : Cluster) (k : Incarnation) (node : Node) (found : cluster.nodes[k]? = some node)
    (event : Event) (mode : Mode) :
    Forwards node.snapshot node.id cluster.channel event mode cluster.bus (cluster.send k event mode).1.bus
      (cluster.send k event mode).2 := by
  cases passed : node.snapshot.gate event with
  | none =>
      rw [send_suppressed cluster k node event mode found passed]
      exact forwards_nothing _ node.id cluster.channel event mode cluster.bus passed
  | some wanted =>
      have wanting := forwards_wanted _ node.id cluster.channel event mode cluster.bus wanted passed
      rw [send, found]
      dsimp only
      rw [passed]
      dsimp only
      generalize cluster.bus.broadcast node.id cluster.channel wanted mode = traffic at wanting ⊢
      obtain ⟨last, there⟩ := (adjusted_deliver { cluster with bus := traffic.1 } traffic.2.1).found k node found
      have kept := (bus_deliver { cluster with bus := traffic.1 } traffic.2.1).symm
      rw [there]
      change traffic.1 = _ at kept
      rw [kept] at wanting
      exact wanting _ (last.relay.attempted_conclude wanted _) (last.relay.failed_conclude wanted _)

/-- Just the pairs of groups that others are known to have are sent, in one call of the same kind, or nothing. -/
theorem outbound_gating (ℓ η : Type) :
    (∀ (relay : Relay ℓ) (bus : Bus η) (own : NodeId) (channel : Channel) (event : Event) (mode : Mode),
      Forwards relay.snapshot own channel event mode bus (relay.send bus own channel event mode).2.1
        (relay.send bus own channel event mode).2.2.1) ∧
    ∀ (cluster : Cluster) (k : Incarnation) (node : Node), cluster.nodes[k]? = some node → ∀ (event : Event) (mode : Mode),
      Forwards node.snapshot node.id cluster.channel event mode cluster.bus (cluster.send k event mode).1.bus
        (cluster.send k event mode).2 :=
  ⟨Relay.forwards_send, forwards_send⟩

/-- Two nodes that share one group, and the second can no longer be reached. -/
def severed : Cluster := (initial {} 5000).run (narrowing ++ [.control (.setUnreachable "b" true)])

theorem mixed_batch_narrowed :
    let event : Event := .batch [⟨"h", ["x"]⟩, ⟨"g", ["y", "x"]⟩, ⟨"g", []⟩, ⟨"g", ["x"]⟩]
    ∃ node, severed.nodes[0]? = some node ∧ node.snapshot.share event = [("g", "y"), ("g", "x"), ("g", "x")] ∧
      (severed.send 0 event .sync).2 = .failed ∧ ∃ wanted, node.snapshot.Narrows event wanted ∧
        (severed.send 0 event .sync).1.bus.sent =
          severed.bus.sent ++ [⟨"a", "cache-invalidation", wanted, .sync, ["b"]⟩] := by
  intro event
  have seen : (severed.nodes[0]?).any (fun node => node.id = "a" ∧
      node.snapshot.share event = [("g", "y"), ("g", "x"), ("g", "x")]) = true := by
    decide +kernel
  obtain ⟨node, found, facts⟩ := (Option.any_eq_true _ _).mp seen
  obtain ⟨named, share⟩ := of_decide_eq_true facts
  have forwards := (outbound_gating Nat Nat).2 severed 0 node found event .sync
  obtain ⟨wanted, narrows, _, sent, _⟩ := forwards.called (by simp [share])
  have targets : (severed.bus.targets "cache-invalidation" "a").map (·.1) = ["b"] := by decide +kernel
  have channel : severed.channel = "cache-invalidation" := by decide +kernel
  rw [named, channel, targets] at sent
  exact ⟨node, found, share, by decide +kernel, wanted, narrows, sent⟩

end Cluster

end Coherence
