import Coherence.Proofs.Census
import Coherence.Proofs.Gating

set_option autoImplicit false

namespace Coherence

open Std

namespace Cluster

variable {cluster : Cluster} {present : List NodeId} {groups : NodeId → List Group}

-- Nobody waits for an answer, so nothing that is handed to the bus fails.
theorem send_async (cluster : Cluster) (k : Incarnation) (node : Node) (event wanted : Event)
    (found : cluster.nodes[k]? = some node) (passed : node.snapshot.gate event = some wanted) :
    (cluster.send k event .async).2 = .sent := by
  rw [send, found]
  dsimp only
  rw [passed]
  dsimp only
  have result : (cluster.bus.broadcast node.id cluster.channel wanted .async).2.2 = .ok () := rfl
  generalize cluster.bus.broadcast node.id cluster.channel wanted .async = traffic at result
  obtain ⟨last, there⟩ := (adjusted_deliver { cluster with bus := traffic.1 } traffic.2.1).found k node found
  rw [there, result]
  rfl

theorem Steady.send (steady : cluster.Steady present groups) (id : NodeId) (k : Incarnation)
    (located : cluster.current[id]? = some k) (group : Group) (key : Key) :
    (cluster.step (.node id (.send (.single group key) .async))).1 = (cluster.send k (.single group key) .async).1 ∧
      (cluster.send k (.single group key) .async).2 =
        if (heard present groups id).contains group then .sent else .suppressed := by
  obtain ⟨node, found, _, _, _, knows⟩ := steady.found id k located
  rw [step_found ((cluster.find_eq_some_iff id k node).mpr ⟨located, found⟩), stepNode]
  refine ⟨rfl, ?_⟩
  have gate : node.snapshot.gate (.single group key) =
      if (heard present groups id).contains group then some (.single group key) else none := by
    rw [Snapshot.gate, Snapshot.contains, knows]
  split
  · rename_i wanted
    rw [if_pos wanted] at gate
    exact send_async cluster k node _ _ found gate
  · rename_i unwanted
    rw [if_neg unwanted] at gate
    rw [send_suppressed cluster k node _ .async found gate]

end Cluster

namespace Simulation

open Cluster

-- Whoever is listed after the first place has a second group.
def Setup.groups (setup : Setup) (id : NodeId) : List Group :=
  if id ∈ setup.nodes.tail then ["orders", "users"] else ["orders"]

theorem mem_tail_iff (nodes : List NodeId) (id : NodeId) :
    id ∈ nodes.tail ↔ ∃ index, (id, index) ∈ nodes.zipIdx ∧ index ≠ 0 := by
  cases nodes with
  | nil => simp
  | cons first rest =>
      rw [List.tail_cons, List.mem_iff_getElem?]
      constructor
      · rintro ⟨index, found⟩
        exact ⟨index + 1, List.mem_zipIdx_iff_getElem?.mpr found, index.succ_ne_zero⟩
      · rintro ⟨index, listed, later⟩
        obtain ⟨index, rfl⟩ := Nat.exists_eq_succ_of_ne_zero later
        exact ⟨index, List.mem_zipIdx_iff_getElem?.mp listed⟩

theorem mem_nodes_iff (nodes : List NodeId) (id : NodeId) : id ∈ nodes ↔ ∃ index, (id, index) ∈ nodes.zipIdx := by
  rw [List.mem_iff_getElem?]
  exact exists_congr fun index => (List.mem_zipIdx_iff_getElem? (x := (id, index))).symm

variable {setup : Setup}

theorem mem_groups (id : NodeId) (group : Group) :
    id ∈ setup.nodes ∧ group ∈ setup.groups id ↔
      ∃ index, (id, index) ∈ setup.nodes.zipIdx ∧ (group = "orders" ∨ index ≠ 0 ∧ group = "users") := by
  have later := mem_tail_iff setup.nodes id
  simp only [and_or_left, exists_or, exists_and_right, ← and_assoc, ← mem_nodes_iff, ← later]
  rw [Setup.groups]
  by_cases second : id ∈ setup.nodes.tail
  · simp [second, List.mem_of_mem_tail second]
  · simp [second]

theorem groups_ordered (id : NodeId) : (ExtTreeSet.ofList (setup.groups id)).toList = setup.groups id := by
  rw [Setup.groups]
  split
  · decide +kernel
  · decide +kernel

theorem preparation_plain (id : NodeId) (index : Nat) (operation : Operation) (member : operation ∈ preparation id index) :
    operation.isOrdinary = true ∧ operation.meddles = false := by
  rw [Unstarted.preparation_eq] at member
  revert operation
  split <;> simp [Operation.isOrdinary, Operation.meddles, NodeOperation.isOrdinary, NodeOperation.meddles]

def prepared (setup : Setup) : Cluster := (Cluster.initial setup.config 5000).run (preparations setup)

theorem prepared_undisturbed (setup : Setup) : (prepared setup).Orderly ∧ (prepared setup).Upheld True := by
  have plain (operation : Operation) (member : operation ∈ preparations setup) :
      operation.isOrdinary = true ∧ operation.meddles = false := by
    obtain ⟨⟨id, index⟩, _, listed⟩ := List.mem_flatMap.mp member
    exact preparation_plain id index operation listed
  constructor
  · exact (orderly_initial setup.config 5000).run _ fun operation member => (plain operation member).1
  · exact upheld_run True setup.config 5000 _ fun _ operation member => (plain operation member).2

theorem prepared_unstarted (setup : Setup) (valid : setup.config.validate = .ok ()) :
    (Cluster.initial setup.config 5000).Succeeds (preparations setup) ∧
      (prepared setup).Unstarted setup.config (fun id => id ∈ setup.nodes)
        fun id group => id ∈ setup.nodes ∧ group ∈ setup.groups id := by
  obtain ⟨smooth, unstarted⟩ := (Unstarted.initial setup.config 5000).prepare_all setup.nodes.zipIdx valid
  refine ⟨smooth, unstarted.congr (fun id => ?_) fun id group => ?_⟩
  · rw [false_or, mem_nodes_iff]
  · rw [false_or, mem_groups]

theorem prepared_groups (setup : Setup) (valid : setup.config.validate = .ok ()) :
    (prepared setup).frame.Every fun id _ standing => standing.registry.groupNames = setup.groups id := by
  intro id k standing located found
  have unstarted := (prepared_unstarted setup valid).2
  have member : id ∈ setup.nodes := (unstarted.named id).mp ((mem_current_iff _ id).mpr ⟨k, located⟩)
  rw [Registry.groupNames, keys_eq_to_list _ (ExtTreeSet.ofList (setup.groups id)), groups_ordered]
  intro group
  rw [unstarted.cached id k standing located found group, ExtTreeSet.mem_ofList, List.contains_iff_mem]
  exact and_iff_right member

-- All who are listed run, and nothing has happened since that would have changed that.
structure Launched (setup : Setup) (count : Nat) (base cluster : Cluster) : Prop where
  rising : Rising base setup.groups count [] cluster
  named : ∀ id, id ∈ base.current ↔ id ∈ setup.nodes
  members : ∀ id, id ∈ base.hub.members ↔ id ∈ setup.nodes
  vacant : ∀ key, key ∉ base.entries
  few : count ≤ setup.nodes.length

theorem launched (setup : Setup) (valid : setup.config.validate = .ok ())
    (capacity : 2 * setup.nodes.length < UInt64.size) :
    ({ config := setup.config } : Cluster).Succeeds (preparations setup ++ [.startAll]) ∧
      ∃ count base cluster, started setup = .ok cluster ∧ Launched setup count base cluster := by
  obtain ⟨smooth, unstarted⟩ := prepared_unstarted setup valid
  obtain ⟨orderly, upheld⟩ := prepared_undisturbed setup
  have few : (prepared setup).incarnations.length ≤ setup.nodes.length := by
    rw [incarnations_length]
    refine (List.Nodup.subperm (prepared setup).current.nodup_keys fun id member => ?_).length_le
    exact (unstarted.named id).mp (ExtTreeMap.mem_keys.mp member)
  obtain ⟨granted, risen⟩ := (unstarted.rising orderly upheld (prepared_groups setup valid)).start_all
    (prepared setup).incarnations (incarnations_nodup unstarted.addressed) (prepared setup).located_of_incarnation (by omega)
  rw [Nat.zero_add] at risen
  have accepted : (prepared setup).Succeeds [.startAll] := by
    refine .cons ?_ .nil
    rw [step]
    dsimp only
    rw [granted]
    rfl
  have starts : started setup = .ok ((prepared setup).step .startAll).1 := by
    rw [started, show attempt { config := setup.config } (preparations setup) = .ok (prepared setup) from
      smooth.attempt]
    dsimp only
    rw [accepted.attempt]
    rfl
  refine ⟨smooth.append accepted, _, prepared setup, _, starts, risen, unstarted.named, unstarted.members, fun key => ?_, few⟩
  rw [Cluster.entries, unstarted.store]
  exact ExtTreeMap.not_mem_empty

namespace Launched

variable {count : Nat} {base cluster : Cluster}

theorem steady (launched : Launched setup count base cluster) : cluster.Steady setup.nodes setup.groups :=
  launched.rising.steady launched.named launched.vacant

theorem adjust (launched : Launched setup count base cluster) (operation : Operation) (plain : operation.meddles = false)
    (adjusted : Adjusted cluster (cluster.step operation).1) :
    Launched setup count base (cluster.step operation).1 :=
  { launched with
    rising := launched.rising.adjust adjusted (launched.rising.upheld.step operation fun _ => plain) }

theorem located (launched : Launched setup count base cluster) (id : NodeId) (member : id ∈ setup.nodes) :
    ∃ k, base.current[id]? = some k :=
  (base.mem_current_iff id).mp ((launched.named id).mpr member)

theorem invoke {progress : Progress} (launched : Launched setup count base progress.cluster) (id : NodeId)
    (located : base.current[id]? = some progress.sender) (group : Group) (key : Key) :
    Launched setup count base (progress.invoke id group key).cluster ∧
      (progress.invoke id group key).invocations = progress.invocations ++
        [⟨id, group, key, if (heard setup.nodes setup.groups id).contains group then .sent else .suppressed⟩] := by
  rw [← launched.rising.current] at located
  obtain ⟨stepped, outcome⟩ := launched.steady.send id progress.sender located group key
  have adjusted := adjusted_send progress.cluster progress.sender (.single group key) .async
  rw [← stepped] at adjusted
  refine ⟨?_, ?_⟩
  · change Launched setup count base (progress.cluster.send progress.sender (.single group key) .async).1
    rw [← stepped]
    exact launched.adjust _ rfl adjusted
  · rw [← outcome]
    rfl

theorem settle {progress : Progress} (launched : Launched setup count base progress.cluster) :
    Launched setup count base progress.settle.cluster :=
  launched.adjust (.control .flush) rfl (adjusted_control progress.cluster .flush)

-- The sender's bridge runs on, even if it was the last node's.
theorem crash {progress : Progress} (launched : Launched setup count base progress.cluster) (first last : NodeId)
    (located : base.current[first]? = some progress.sender) (ends : last ∈ setup.nodes)
    (capacity : 2 * setup.nodes.length < UInt64.size) :
    (progress.crash last).Steady (setup.nodes.filter (· ≠ last)) setup.groups ∧
      (progress.crash last).current[first]? = (if first = last then none else some progress.sender) ∧
      (progress.crash last).Active progress.sender first (heard (setup.nodes.filter (· ≠ last)) setup.groups first) := by
  have rising := launched.rising
  have steady := launched.steady
  have members (id : NodeId) : id ∈ progress.cluster.hub.members ↔ id ∈ setup.nodes := by
    rw [rising.members, launched.members]
  have room : 2 * count + 1 < UInt64.size := by
    have few := launched.few
    rw [UInt64.size] at *
    omega
  rw [← rising.current] at located
  rw [Progress.crash]
  by_cases same : first = last
  · subst same
    rw [if_pos located]
    obtain ⟨hub, departure⟩ := rising.detach first progress.sender located
    have active := steady.active rising.upToDate first progress.sender located
    refine ⟨departure.steady steady members ends room, ?_,
      departure.detached steady members ends room progress.sender located active⟩
    rw [if_pos rfl, ← frame_current, departure.frame, frame_current, departure.current]
    exact ExtTreeMap.getElem?_erase_self
  · obtain ⟨k, there⟩ := (progress.cluster.mem_current_iff last).mp ((steady.named last).mpr ends)
    have apart : progress.cluster.current[last]? ≠ some progress.sender := fun shared =>
      same (steady.orderly.allLinked.addressed.name_unique first last progress.sender located shared)
    rw [if_neg apart]
    obtain ⟨left, departure⟩ := rising.crash last k there
    have rest := departure.steady steady members ends room
    obtain ⟨limit, upToDate⟩ := departure.up_to_date_after (steady.owners members (List.ne_nil_of_mem ends)) room
    have stays : (progress.cluster.crash last).current[first]? = some progress.sender := by
      rw [← frame_current, departure.frame, frame_current, departure.current]
      exact (found_erase_other _ last first (Ne.symm same)).trans located
    refine ⟨rest, ?_, rest.active upToDate first progress.sender stays⟩
    rw [if_neg same, stays]

end Launched

theorem heard_orders (id : NodeId) :
    (heard setup.nodes setup.groups id).contains "orders" = true ↔
      ∃ other ∈ setup.nodes, other ≠ id ∧ (NodeId.ofKey? other).isSome = true := by
  have owned (other : NodeId) : "orders" ∈ setup.groups other := by
    rw [Setup.groups]
    split <;> decide
  rw [ExtTreeSet.contains_iff_mem, mem_heard]
  simp only [owned, and_true]

theorem heard_inventory (id : NodeId) : ¬ (heard setup.nodes setup.groups id).contains "inventory" = true := by
  rw [ExtTreeSet.contains_iff_mem, mem_heard]
  rintro ⟨other, _, _, _, owned⟩
  rw [Setup.groups] at owned
  split at owned
  · exact absurd owned (by decide)
  · exact absurd owned (by decide)

theorem output_loaded (setup : Setup) (enough : 2 ≤ setup.nodes.length) (report : Report) (ran : run setup = .ok report)
    (input : Option (String × Source)) (loaded : input.elim (.ok {}) (fun file => Setup.load file.1 file.2) = .ok setup) :
    output input = .ok (report.toJson.prettyText ++ "\n") := by
  have checked : setup.check = .ok setup := if_neg (Nat.not_lt.mpr enough)
  have printed : (do
      let setup ← setup.check
      let report ← run setup
      Except.ok (report.toJson.prettyText ++ "\n")) = Except.ok (report.toJson.prettyText ++ "\n") := by
    rw [checked]
    change (run setup).bind _ = _
    rw [ran]
    rfl
  cases input with
  | none =>
      cases loaded
      exact printed
  | some file =>
      rw [output]
      dsimp only
      rw [show Setup.load file.1 file.2 = .ok setup from loaded]
      exact printed

/-- Nothing fails on the way, and everyone is reported as listed; a bridge that is held outlives its node. -/
theorem simulation_report_law (setup : Setup) (enough : 2 ≤ setup.nodes.length)
    (channel : Text.allBlank setup.config.channel = false) (capacity : 2 * setup.nodes.length < UInt64.size) :
    let first := setup.nodes.headD ""
    let last := setup.nodes.getLastD ""
    ({ config := setup.config } : Cluster).Succeeds (preparations setup ++ [.startAll]) ∧
    ∃ progress report, converged setup = .ok progress ∧ run setup = .ok report ∧
      (∀ input : Option (String × Source), input.elim (.ok {}) (fun file => Setup.load file.1 file.2) = .ok setup →
        output input = .ok (report.toJson.prettyText ++ "\n")) ∧
      report.converged.map NodeReport.summary = census setup.nodes setup.groups ∧
      report.invocations =
        [⟨first, "orders", "42",
            if ∃ other ∈ setup.nodes, other ≠ first ∧ (NodeId.ofKey? other).isSome = true then .sent else .suppressed⟩,
          ⟨first, "inventory", "7", .suppressed⟩] ∧
      report.afterCrash.map NodeReport.summary = census (setup.nodes.filter (· ≠ last)) setup.groups ∧
      (progress.crash last).current[first]? = (if first = last then none else some progress.sender) ∧
      (progress.crash last).Active progress.sender first
        (heard (setup.nodes.filter (· ≠ last)) setup.groups first) := by
  intro first last
  have someone : setup.nodes ≠ [] := List.ne_nil_of_length_pos (by omega)
  have heads : first ∈ setup.nodes := by
    change setup.nodes.headD "" ∈ setup.nodes
    rw [List.headD_eq_head?_getD, List.head?_eq_some_head someone]
    exact List.head_mem someone
  have ends : last ∈ setup.nodes := by
    change setup.nodes.getLastD "" ∈ setup.nodes
    rw [List.getLastD_eq_getLast?, List.getLast?_eq_some_getLast someone]
    exact List.getLast_mem someone
  have valid : setup.config.validate = .ok () := by
    rw [Config.validate, channel]
    rfl
  obtain ⟨smooth, count, base, cluster, starts, start⟩ := launched setup valid capacity
  obtain ⟨sender, located⟩ := start.located first heads
  let asked : Progress := { sender, cluster, invocations := [] }
  let progress := ((asked.invoke first "orders" "42").invoke first "inventory" "7").settle
  have start : Launched setup count base asked.cluster := start
  obtain ⟨ordered, orders⟩ := start.invoke first located "orders" "42"
  obtain ⟨stocked, inventory⟩ := ordered.invoke first located "inventory" "7"
  have reached : converged setup = .ok progress := by
    rw [← start.rising.current] at located
    rw [converged, starts]
    dsimp only
    rw [show cluster.current[setup.nodes.headD ""]? = some sender from located]
  have ran : run setup = .ok
      { converged := progress.cluster.report
        invocations := progress.invocations
        afterCrash := (progress.crash last).report } := by
    rw [run, reached]
    rfl
  obtain ⟨rest, named, active⟩ := stocked.settle.crash first last located ends capacity
  refine ⟨smooth, progress, _, reached, ran, output_loaded setup enough _ ran, stocked.settle.steady.report, ?_, rest.report,
    named, active⟩
  change (((asked.invoke first "orders" "42").invoke first "inventory" "7").invocations) = _
  rw [inventory, orders, if_neg (heard_inventory first)]
  simp only [heard_orders]
  rfl

/-- One node is listed twice, and the name of the last is unfit for a key. -/
def oddNames : Setup := { config := { election := .membershipService }, nodes := ["c", "a", "a", " b"] }

/-- The first node is also the last. -/
def fullCircle : Setup := { nodes := ["a", "b", "a"] }

theorem odd_names_reported :
    (∃ report, run oddNames = .ok report ∧
      report.converged.map NodeReport.summary =
        [(" b", .running, ["orders", "users"], ["orders", "users"]), ("a", .running, ["orders", "users"], ["orders"]),
          ("c", .running, ["orders"], ["orders", "users"])] ∧
      report.invocations = [⟨"c", "orders", "42", .sent⟩, ⟨"c", "inventory", "7", .suppressed⟩] ∧
      report.afterCrash.map NodeReport.summary =
        [("a", .running, ["orders", "users"], ["orders"]), ("c", .running, ["orders"], ["orders", "users"])]) ∧
    (∃ progress report, converged fullCircle = .ok progress ∧ run fullCircle = .ok report ∧
      report.afterCrash.map NodeReport.summary = [("b", .running, ["orders", "users"], [])] ∧
      (progress.crash "a").current["a"]? = none ∧
      (progress.crash "a").Active progress.sender "a" (heard ["b"] fullCircle.groups "a")) ∧
    ∃ report, run {} = .ok report ∧ output none = .ok (report.toJson.prettyText ++ "\n") := by
  obtain ⟨_, _, odd, _, ran, _, settled, invocations, afterwards, _⟩ :=
    simulation_report_law oddNames (by decide) (by decide) (by decide)
  obtain ⟨_, progress, circle, reached, circled, _, _, _, left, gone, active⟩ :=
    simulation_report_law fullCircle (by decide) (by decide) (by decide)
  obtain ⟨_, _, plain, _, passed, printed, _⟩ := simulation_report_law {} (by decide) (by decide) (by decide)
  refine ⟨⟨odd, ran, settled.trans (by decide +kernel), invocations.trans ?_, afterwards.trans (by decide +kernel)⟩,
    ⟨progress, circle, reached, circled, left.trans (by decide +kernel), gone, active⟩, plain, passed, printed none rfl⟩
  rw [if_pos (by decide)]
  rfl

end Simulation

end Coherence
