import Coherence.Simulation.Report
import Coherence.Proofs.Syncing

set_option autoImplicit false

namespace Coherence

open Std

def Reply.isError : Reply → Bool
  | .fault _ | .error _ | .noSuchNode => true
  | _ => false

namespace Cluster

def replies (cluster : Cluster) : List Operation → List Reply
  | [] => []
  | operation :: operations => (cluster.step operation).2 :: (cluster.step operation).1.replies operations

def Succeeds (cluster : Cluster) (operations : List Operation) : Prop :=
  ∀ reply ∈ cluster.replies operations, reply.isError = false

variable {cluster : Cluster}

theorem Succeeds.nil : cluster.Succeeds [] := fun _ member => absurd member List.not_mem_nil

theorem Succeeds.cons {operation : Operation} {operations : List Operation}
    (here : (cluster.step operation).2.isError = false) (later : (cluster.step operation).1.Succeeds operations) :
    cluster.Succeeds (operation :: operations) := by
  intro reply member
  cases List.mem_cons.mp member with
  | inl first => exact first ▸ here
  | inr rest => exact later reply rest

theorem Succeeds.append {first second : List Operation} (earlier : cluster.Succeeds first)
    (later : (cluster.run first).Succeeds second) : cluster.Succeeds (first ++ second) := by
  induction first generalizing cluster with
  | nil => exact later
  | cons operation first ih =>
      refine .cons (earlier _ (List.mem_cons_self ..)) (ih ?_ later)
      exact fun reply member => earlier reply (List.mem_cons_of_mem _ member)

theorem run_cons (cluster : Cluster) (operation : Operation) (operations : List Operation) :
    cluster.run (operation :: operations) = (cluster.step operation).1.run operations := rfl

theorem Succeeds.attempt {operations : List Operation} (smooth : cluster.Succeeds operations) :
    Simulation.attempt cluster operations = .ok (cluster.run operations) := by
  induction operations generalizing cluster with
  | nil => rfl
  | cons operation operations ih =>
      have here := smooth _ (List.mem_cons_self ..)
      have later := ih fun reply member => smooth reply (List.mem_cons_of_mem _ member)
      rw [run_cons, ← later, Simulation.attempt]
      split
      · rename_i error stepped
        rw [stepped] at here
        cases here
      · rename_i after reply stepped
        rw [stepped]

theorem step_found {id : NodeId} {k : Incarnation} {node : Node} (found : cluster.find? id = some (k, node))
    (operation : NodeOperation) : cluster.step (.node id operation) = cluster.stepNode k node operation := by
  rw [step, found]

theorem mem_current_iff (cluster : Cluster) (id : NodeId) :
    id ∈ cluster.current ↔ ∃ k, cluster.current[id]? = some k := by
  rw [ExtTreeMap.mem_iff_isSome_getElem?, Option.isSome_iff_exists]

-- Nobody has been started. Those who were added have the groups that were created for them.
structure Unstarted (settings : Config) (known : NodeId → Prop) (groups : NodeId → Group → Prop) (cluster : Cluster) :
    Prop where
  config : cluster.config = settings
  store : cluster.store = {}
  circles : cluster.hub.circles = ∅
  reachable : cluster.hub.unreachable = ∅
  unappointed : cluster.hub.appointed = none
  addressed : cluster.frame.Addressed
  members : ∀ id, id ∈ cluster.hub.members ↔ known id
  named : ∀ id, id ∈ cluster.current ↔ known id
  resting : cluster.frame.Every fun _ _ standing => standing.state = .stopped ∧ standing.registry.listeners = {}
  unread : ∀ k, cluster.drawsOf k = 0
  cached : cluster.frame.Every fun id _ standing => ∀ group, group ∈ standing.registry.cache ↔ groups id group
  owned : ∀ id group, groups id group → known id

namespace Unstarted

variable {settings : Config} {known more : NodeId → Prop} {groups owns : NodeId → Group → Prop}

theorem congr (unstarted : cluster.Unstarted settings known groups) (same : ∀ id, known id ↔ more id)
    (alike : ∀ id group, groups id group ↔ owns id group) : cluster.Unstarted settings more owns := by
  rwa [show more = known from (funext fun id => propext (same id)).symm,
    show owns = groups from (funext fun id => funext fun group => propext (alike id group)).symm]

theorem find (unstarted : cluster.Unstarted settings known groups) (id : NodeId) (here : known id) :
    ∃ k node, cluster.find? id = some (k, node) := by
  obtain ⟨k, located⟩ := (cluster.mem_current_iff id).mp ((unstarted.named id).mpr here)
  obtain ⟨standing, found, _⟩ := unstarted.addressed.located id k located
  obtain ⟨node, there, _⟩ := cluster.node_of_standing k standing found
  exact ⟨k, node, (cluster.find_eq_some_iff id k node).mpr ⟨located, there⟩⟩

theorem audience (unstarted : cluster.Unstarted settings known groups) : cluster.hub.audience = [] := by
  rw [Hub.audience, Hub.circleKeys, unstarted.circles]
  rfl

theorem join (unstarted : cluster.Unstarted settings known groups) (id : NodeId) :
    cluster.join id = { cluster with hub := cluster.hub.join id } := by
  have nobody : (cluster.hub.join id).audience = [] := unstarted.audience
  rw [Cluster.join, notifyMembership, nobody, List.foldl_nil]

theorem step_add (unstarted : cluster.Unstarted settings known groups) (valid : settings.validate = .ok ()) (id : NodeId) :
    cluster.step (.addNode id) =
      (if id ∈ cluster.current then { cluster with hub := cluster.hub.join id }
      else { cluster with hub := cluster.hub.join id }.added id, .added id settings) := by
  rw [← unstarted.config] at valid ⊢
  rw [step, addNode, unstarted.join id]
  dsimp only
  rw [valid]
  by_cases taken : id ∈ cluster.current
  · simp only [if_pos taken]
  · simp only [if_neg taken]
    rfl

theorem add_node (unstarted : cluster.Unstarted settings known groups) (valid : settings.validate = .ok ()) (id : NodeId) :
    (cluster.step (.addNode id)).2 = .added id settings ∧
      (cluster.step (.addNode id)).1.Unstarted settings (fun other => known other ∨ other = id) groups := by
  have members (other : NodeId) : other ∈ (cluster.hub.join id).members ↔ known other ∨ other = id := by
    rw [Hub.join, ExtTreeSet.mem_insert, Std.compare_eq_iff_eq, unstarted.members, or_comm, eq_comm]
  have owned (other : NodeId) (group : Group) (owns : groups other group) : known other ∨ other = id :=
    .inl (unstarted.owned other group owns)
  have addressed := unstarted.addressed.furnish (cluster.hub.join id) cluster.bus cluster.store.listeners
  rw [unstarted.step_add valid id]
  refine ⟨rfl, ?_⟩
  by_cases taken : id ∈ cluster.current
  · rw [if_pos taken]
    refine ⟨unstarted.config, unstarted.store, unstarted.circles, unstarted.reachable,
      unstarted.unappointed, addressed, members, fun other => ?_, unstarted.resting, unstarted.unread,
        unstarted.cached, owned⟩
    rw [show other ∈ cluster.current ↔ known other from unstarted.named other]
    refine ⟨.inl, fun either => either.elim (fun before => before) ?_⟩
    rintro rfl
    exact (unstarted.named other).mp taken
  · rw [if_neg taken]
    have fresh : ¬ known id := fun before => taken ((unstarted.named id).mpr before)
    have frame : ({ cluster with hub := cluster.hub.join id }.added id).frame =
        { cluster.frame with hub := cluster.hub.join id }.added id (Node.create id).standing := frame_added _ id
    refine ⟨unstarted.config, unstarted.store, unstarted.circles, unstarted.reachable,
      unstarted.unappointed, ?_, members, fun other => ?_, ?_, fun k => ?_, ?_, owned⟩
    · exact frame ▸ addressed.create id _ rfl
    · change other ∈ cluster.current.insert id cluster.nodes.size ↔ _
      rw [ExtTreeMap.mem_insert, Std.compare_eq_iff_eq, unstarted.named, or_comm, eq_comm]
    · exact frame ▸ (unstarted.resting.furnish _ _ _).create addressed id _ ⟨rfl, rfl⟩
    · change (cluster.setNode cluster.nodes.size (.create id)).drawsOf k = 0
      rw [draws_of_set_node]
      split
      · rfl
      · exact unstarted.unread k
    · refine frame ▸ (unstarted.cached.furnish _ _ _).create addressed id _ fun group => iff_of_false ?_ ?_
      · exact ExtTreeMap.not_mem_empty
      · exact fun owns => fresh (unstarted.owned id group owns)

theorem restock (unstarted : cluster.Unstarted settings known groups) (id : NodeId) (k : Incarnation) (node : Node)
    (found : cluster.find? id = some (k, node)) (registry : Registry Incarnation)
    (listeners : registry.listeners = node.registry.listeners)
    (own : ∀ group, group ∈ registry.cache ↔ owns id group)
    (others : ∀ other group, other ≠ id → (owns other group ↔ groups other group)) :
    (cluster.setNode k (node.setRegistry registry)).Unstarted settings known owns := by
  obtain ⟨located, here⟩ := (cluster.find_eq_some_iff id k node).mp found
  have standing := cluster.standing_of_found k node here
  refine ⟨unstarted.config, unstarted.store, unstarted.circles, unstarted.reachable, unstarted.unappointed,
    ?_, unstarted.members, unstarted.named, ?_, fun j => ?_, ?_, fun other group owns => ?_⟩
  · rw [frame_set_node]
    exact unstarted.addressed.place k node.standing _ standing rfl
  · rw [frame_set_node]
    exact unstarted.resting.replace k node.standing _ standing fun _ resting => ⟨resting.1, listeners.trans resting.2⟩
  · rw [draws_of_set_node]
    split
    · exact (draws_of_found cluster k node here).symm.trans (unstarted.unread k)
    · exact unstarted.unread j
  · rw [frame_set_node]
    refine unstarted.cached.place k _ (fun other j _ there different cached group => ?_) fun other there group => ?_
    · have apart : other ≠ id := by
        rintro rfl
        exact different (Option.some.inj (there.symm.trans located))
      exact (cached group).trans (others other group apart).symm
    · rw [unstarted.addressed.name_unique other id k there located]
      exact own group
  · by_cases same : other = id
    · rw [same, ← unstarted.named]
      exact (cluster.mem_current_iff id).mpr ⟨k, located⟩
    · exact unstarted.owned other group ((others other group same).mp owns)

theorem create_group (unstarted : cluster.Unstarted settings known groups) (id : NodeId) (here : known id) (group : Group) :
    (cluster.step (.node id (.createGroup group))).2.isError = false ∧
      (cluster.step (.node id (.createGroup group))).1.Unstarted settings known
        fun other name => groups other name ∨ other = id ∧ name = group := by
  obtain ⟨k, node, found⟩ := unstarted.find id here
  obtain ⟨located, there⟩ := (cluster.find_eq_some_iff id k node).mp found
  have standing := cluster.standing_of_found k node there
  have listeners : node.registry.listeners = {} := (unstarted.resting id k node.standing located standing).2
  have cached : ∀ name, name ∈ node.registry.cache ↔ groups id name := unstarted.cached id k node.standing located standing
  rw [step_found found, stepNode, changeGroups, there]
  refine ⟨rfl, ?_⟩
  dsimp only
  rw [Registry.createGroup?]
  by_cases present : group ∈ node.registry.cache
  · rw [if_pos present]
    refine unstarted.congr (fun _ => Iff.rfl) fun other name => ⟨.inl, fun either => either.elim (fun before => before) ?_⟩
    rintro ⟨rfl, rfl⟩
    exact (cached name).mp present
  · have nobody : { node.registry with cache := node.registry.cache.insert group ∅ }.audience = [] := by
      rw [Registry.audience, listeners]
      rfl
    rw [if_neg present]
    dsimp only
    rw [nobody, List.foldl_nil]
    refine unstarted.restock id k node found _ rfl (fun name => ?_) fun other name apart => ?_
    · rw [ExtTreeMap.mem_insert, Std.compare_eq_iff_eq, or_comm, eq_comm]
      simpa using or_congr_left (cached name)
    · simp [apart]

theorem put (unstarted : cluster.Unstarted settings known groups) (id : NodeId) (group : Group) (key : Key)
    (owns : groups id group) :
    (cluster.step (.node id (.put group key))).2.isError = false ∧
      (cluster.step (.node id (.put group key))).1.Unstarted settings known groups := by
  obtain ⟨k, node, found⟩ := unstarted.find id (unstarted.owned id group owns)
  obtain ⟨located, there⟩ := (cluster.find_eq_some_iff id k node).mp found
  have cached : ∀ name, name ∈ node.registry.cache ↔ groups id name :=
    unstarted.cached id k node.standing located (cluster.standing_of_found k node there)
  rw [step_found found, stepNode, Registry.put?, if_pos ((cached group).mpr owns)]
  refine ⟨rfl, unstarted.restock id k node found _ rfl (fun name => ?_) fun _ _ _ => Iff.rfl⟩
  rw [ExtTreeMap.mem_modify]
  exact cached name

theorem create (unstarted : cluster.Unstarted settings known groups) (id : NodeId) (here : known id) (group : Group)
    (key : Key) :
    cluster.Succeeds [.node id (.createGroup group), .node id (.put group key)] ∧
      (cluster.run [.node id (.createGroup group), .node id (.put group key)]).Unstarted settings known
        fun other name => groups other name ∨ other = id ∧ name = group := by
  obtain ⟨created, stocked⟩ := unstarted.create_group id here group
  obtain ⟨stored, filled⟩ := stocked.put id group key (.inr ⟨rfl, rfl⟩)
  exact ⟨.cons created (.cons stored .nil), filled⟩

theorem preparation_eq (id : NodeId) (index : Nat) :
    Simulation.preparation id index =
      .addNode id :: ([.node id (.createGroup "orders"), .node id (.put "orders" "42")] ++
        if index = 0 then [] else [.node id (.createGroup "users"), .node id (.put "users" "7")]) := by
  rw [Simulation.preparation]
  split <;> rfl

theorem prepare (unstarted : cluster.Unstarted settings known groups) (valid : settings.validate = .ok ()) (id : NodeId)
    (index : Nat) :
    cluster.Succeeds (Simulation.preparation id index) ∧
      (cluster.run (Simulation.preparation id index)).Unstarted settings (fun other => known other ∨ other = id)
        fun other group => groups other group ∨ other = id ∧ (group = "orders" ∨ index ≠ 0 ∧ group = "users") := by
  obtain ⟨reply, added⟩ := unstarted.add_node valid id
  obtain ⟨smooth, ordered⟩ := added.create id (.inr rfl) "orders" "42"
  have accepted : (cluster.step (.addNode id)).2.isError = false := by
    rw [reply]
    rfl
  rw [preparation_eq, run_cons]
  by_cases first : index = 0
  · rw [if_pos first, List.append_nil]
    refine ⟨.cons accepted smooth, ordered.congr (fun _ => Iff.rfl) fun other group => ?_⟩
    simp [first]
  · obtain ⟨onward, used⟩ := ordered.create id (.inr rfl) "users" "7"
    rw [if_neg first, run_append]
    refine ⟨.cons accepted (smooth.append onward), used.congr (fun _ => Iff.rfl) fun other group => ?_⟩
    simp only [ne_eq, first, not_false_eq_true, true_and]
    rw [and_or_left, or_assoc]

theorem prepare_all (pairs : List (NodeId × Nat)) (unstarted : cluster.Unstarted settings known groups)
    (valid : settings.validate = .ok ()) :
    cluster.Succeeds (pairs.flatMap fun (id, index) => Simulation.preparation id index) ∧
      (cluster.run (pairs.flatMap fun (id, index) => Simulation.preparation id index)).Unstarted settings
        (fun other => known other ∨ ∃ index, (other, index) ∈ pairs)
        fun other group => groups other group ∨
          ∃ index, (other, index) ∈ pairs ∧ (group = "orders" ∨ index ≠ 0 ∧ group = "users") := by
  induction pairs generalizing cluster known groups with
  | nil => exact ⟨.nil, unstarted.congr (fun _ => by simp) fun _ _ => by simp⟩
  | cons pair pairs ih =>
      obtain ⟨id, index⟩ := pair
      obtain ⟨smooth, prepared⟩ := unstarted.prepare valid id index
      obtain ⟨onward, done⟩ := ih prepared
      rw [List.flatMap_cons, run_append]
      refine ⟨smooth.append onward, done.congr (fun other => ?_) fun other group => ?_⟩
      · simp only [List.mem_cons, Prod.mk.injEq, exists_or, exists_and_left, exists_eq, and_true, or_assoc]
      · simp only [List.mem_cons, Prod.mk.injEq, or_and_right, exists_or, or_assoc, and_assoc, exists_and_left,
          exists_eq_left]

theorem initial (config : Config) (timeout : Nat) :
    (Cluster.initial config timeout).Unstarted config (fun _ => False) fun _ _ => False := by
  have nobody := initial_current config timeout
  refine ⟨rfl, rfl, rfl, rfl, rfl, (synced_initial config timeout).allLinked.addressed, fun id => ?_, fun id => ?_, ?_,
    ?_, ?_, fun _ _ => False.elim⟩
  · simp [Cluster.initial]
  · simp [Cluster.initial]
  · exact fun id k _ located => (nobody id k located).elim
  · intro k
    rw [drawsOf, initial_nodes]
    rfl
  · exact fun id k _ located => (nobody id k located).elim

end Unstarted

end Cluster

end Coherence
