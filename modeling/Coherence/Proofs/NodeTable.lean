import Coherence.Proofs.Stopping

set_option autoImplicit false

namespace Coherence

open Std

namespace Frame

variable {P Q : NodeId → Incarnation → Standing → Prop}

def Every (frame : Frame) (P : NodeId → Incarnation → Standing → Prop) : Prop :=
  ∀ id k standing, frame.current[id]? = some k → frame.nodes[k]? = some standing → P id k standing

theorem mem_place (frame : Frame) (k j : Incarnation) (standing : Standing) :
    j ∈ (frame.place k standing).nodes ↔ k = j ∨ j ∈ frame.nodes := by
  simp [place, ExtTreeMap.mem_insert]

theorem size_place (frame : Frame) (k : Incarnation) (standing : Standing) :
    (frame.place k standing).nodes.size = if k ∈ frame.nodes then frame.nodes.size else frame.nodes.size + 1 :=
  ExtTreeMap.size_insert

theorem mem_of_found (frame : Frame) (k : Incarnation) (standing : Standing) (found : frame.nodes[k]? = some standing) :
    k ∈ frame.nodes := by
  rw [ExtTreeMap.mem_iff_isSome_getElem?, found]
  rfl

theorem Every.imp {frame : Frame} (every : frame.Every P) (weaker : ∀ id k standing, P id k standing → Q id k standing) :
    frame.Every Q :=
  fun id k standing located found => weaker id k standing (every id k standing located found)

theorem Every.furnish {frame : Frame} (every : frame.Every P) (hub : Hub Incarnation) (bus : Bus Incarnation)
    (listeners : ExtTreeMap Channel (Listeners Incarnation)) : { frame with hub, bus, listeners }.Every P :=
  every

theorem Every.place {frame : Frame} (every : frame.Every P) (k : Incarnation) (fresh : Standing)
    (others : ∀ (id : NodeId) j standing, frame.current[id]? = some j → j ≠ k → P id j standing → Q id j standing)
    (here : ∀ id, frame.current[id]? = some k → Q id k fresh) : (frame.place k fresh).Every Q := by
  intro id j standing located found
  rw [nodes_place] at found
  by_cases same : k = j
  · subst same
    rw [if_pos rfl, Option.some.injEq] at found
    subst found
    exact here id located
  · rw [if_neg same] at found
    exact others id j standing located (Ne.symm same) (every id j standing located found)

theorem Every.replace {frame : Frame} (every : frame.Every P) (k : Incarnation) (old fresh : Standing)
    (found : frame.nodes[k]? = some old) (here : ∀ id, P id k old → P id k fresh) : (frame.place k fresh).Every P :=
  every.place k fresh (fun _ _ _ _ _ holds => holds) fun id located => here id (every id k old located found)

theorem located_of_erased {current : ExtTreeMap NodeId Incarnation} (id other : NodeId) (j : Incarnation)
    (located : (current.erase id)[other]? = some j) : id ≠ other ∧ current[other]? = some j := by
  rw [ExtTreeMap.getElem?_erase] at located
  split at located
  · cases located
  · rename_i different
    exact ⟨fun same => different (Std.compare_eq_iff_eq.mpr same), located⟩

def added (frame : Frame) (id : NodeId) (fresh : Standing) : Frame :=
  { frame with current := frame.current.insert id frame.nodes.size }.place frame.nodes.size fresh

theorem located_of_added {frame : Frame} (id other : NodeId) (j : Incarnation) (fresh : Standing)
    (located : (frame.added id fresh).current[other]? = some j) :
    id = other ∧ frame.nodes.size = j ∨ frame.current[other]? = some j := by
  change (frame.current.insert id frame.nodes.size)[other]? = some j at located
  rw [ExtTreeMap.getElem?_insert] at located
  split at located
  · rename_i same
    exact .inl ⟨Std.compare_eq_iff_eq.mp same, Option.some.inj located⟩
  · exact .inr located

theorem name_apart {current : ExtTreeMap NodeId Incarnation} (id other : NodeId) (k j : Incarnation)
    (located : current[id]? = some k) (there : current[other]? = some j) (different : j ≠ k) : id ≠ other := by
  rintro rfl
  exact different (Option.some.inj (there.symm.trans located))

theorem Every.restrict {frame : Frame} (every : frame.Every P) (current : ExtTreeMap NodeId Incarnation)
    (fewer : ∀ (other : NodeId) (j : Incarnation), current[other]? = some j → frame.current[other]? = some j) :
    { frame with current }.Every P :=
  fun id k standing located found => every id k standing (fewer id k located) found

theorem Every.forget {frame : Frame} (every : frame.Every P) (id : NodeId) :
    { frame with current := frame.current.erase id }.Every P :=
  every.restrict _ fun other j located => (located_of_erased id other j located).2

end Frame

theorem Registry.audience_sole {ℓ : Type} (registry : Registry ℓ) (number : UInt64) (listener : ℓ)
    (entries : registry.listeners.entries = (∅ : ExtTreeMap UInt64 ℓ).insert number listener) :
    registry.audience = [listener] := by
  have sole : ((∅ : ExtTreeMap UInt64 ℓ).insert number listener).toList = [(number, listener)] := by
    rfl
  rw [audience, Listeners.toList, entries, sole]
  rfl

-- The node can reach the store, and its registry's only listener is its own bridge, while that runs.
structure Standing.Linked (standing : Standing) (k : Incarnation) : Prop where
  reachable : standing.unreachable = false
  idle : standing.state ≠ .running → standing.registry.listeners.entries = ∅
  enrolled : standing.state = .running → ∃ held, standing.held = some held ∧
    standing.registry.listeners.entries = (∅ : ExtTreeMap UInt64 Incarnation).insert held.registry k

namespace Standing

variable {standing : Standing} {k : Incarnation}

theorem Linked.adjust (linked : standing.Linked k) (fresh : Standing) (reachable : fresh.unreachable = false)
    (state : fresh.state = standing.state) (held : fresh.held = standing.held)
    (listeners : fresh.registry.listeners = standing.registry.listeners) : fresh.Linked k := by
  refine ⟨reachable, ?_, ?_⟩
  · intro resting
    rw [listeners]
    exact linked.idle (state ▸ resting)
  · intro running
    rw [listeners, held]
    exact linked.enrolled (state ▸ running)

theorem Linked.audience_running (linked : standing.Linked k) (running : standing.state = .running) :
    standing.registry.audience = [k] := by
  obtain ⟨held, _, entries⟩ := linked.enrolled running
  exact standing.registry.audience_sole held.registry k entries

theorem Linked.audience_idle (linked : standing.Linked k) (resting : standing.state ≠ .running) :
    standing.registry.audience = [] := by
  rw [Registry.audience, Listeners.toList, linked.idle resting]
  rfl

end Standing

theorem Node.linked_created (id : NodeId) (k : Incarnation) : (Node.create id).standing.Linked k :=
  ⟨rfl, fun _ => rfl, fun running => nomatch running⟩

theorem Node.linked_enlisted (node : Node) (k : Incarnation) (store : Store.Handle) (hub : Hub.Handle)
    (linked : node.standing.Linked k) (stopped : node.state = .stopped) :
    (node.enlisted k store hub).standing.Linked k := by
  refine ⟨linked.reachable, fun resting => absurd rfl resting, fun _ => ⟨_, rfl, ?_⟩⟩
  have nobody : node.registry.listeners.entries = ∅ := by
    apply linked.idle
    rw [show node.standing.state = node.state from rfl, stopped]
    decide
  change node.registry.listeners.entries.insert _ k = _
  rw [nobody]
  rfl

theorem Node.linked_dismissed (node : Node) (k : Incarnation) (held : Held) (linked : node.standing.Linked k)
    (running : node.state = .running) (holding : node.held = some held) (state : Lifecycle) (resting : state ≠ .running) :
    ((node.setState state).dismissed held).standing.Linked k := by
  refine ⟨linked.reachable, fun _ => ?_, fun wrong => absurd wrong resting⟩
  obtain ⟨other, same, entries⟩ := linked.enrolled running
  have equal : other = held := Option.some.inj (same.symm.trans holding)
  subst equal
  change node.registry.listeners.entries.erase other.registry = ∅
  change node.registry.listeners.entries = _ at entries
  rw [entries]
  exact erase_sole other.registry k

namespace Frame

-- Every name leads to a node of that name, and incarnations are numbered in the order in which they came.
structure Addressed (frame : Frame) : Prop where
  numbered : ∀ k, k ∈ frame.nodes → k < frame.nodes.size
  located : ∀ id k, frame.current[id]? = some k →
    ∃ standing : Standing, frame.nodes[k]? = some standing ∧ standing.id = id

variable {frame : Frame} {P : NodeId → Incarnation → Standing → Prop}

namespace Addressed

theorem id_of_located (addressed : frame.Addressed) (id : NodeId) (k : Incarnation) (standing : Standing)
    (located : frame.current[id]? = some k) (found : frame.nodes[k]? = some standing) : standing.id = id := by
  obtain ⟨other, there, named⟩ := addressed.located id k located
  rw [found, Option.some.injEq] at there
  rw [there, named]

theorem name_unique (addressed : frame.Addressed) (first second : NodeId) (k : Incarnation)
    (here : frame.current[first]? = some k) (there : frame.current[second]? = some k) : first = second := by
  obtain ⟨standing, found, named⟩ := addressed.located first k here
  rw [← named]
  exact addressed.id_of_located second k standing there found

theorem gone (addressed : frame.Addressed) (id other : NodeId) (k : Incarnation) (located : frame.current[id]? = some k) :
    (frame.current.erase id)[other]? ≠ some k := by
  intro there
  obtain ⟨different, before⟩ := located_of_erased id other k there
  exact different (addressed.name_unique id other k located before)

theorem fresh_not_current (addressed : frame.Addressed) (id : NodeId) (k : Incarnation)
    (located : frame.current[id]? = some k) : k ≠ frame.nodes.size := by
  obtain ⟨standing, found, _⟩ := addressed.located id k located
  exact Nat.ne_of_lt (addressed.numbered k (frame.mem_of_found k standing found))

theorem place (addressed : frame.Addressed) (k : Incarnation) (old fresh : Standing) (found : frame.nodes[k]? = some old)
    (named : fresh.id = old.id) : (frame.place k fresh).Addressed := by
  have member := frame.mem_of_found k old found
  refine ⟨?_, ?_⟩
  · intro j there
    rw [size_place, if_pos member]
    cases (frame.mem_place k j fresh).mp there with
    | inl same => exact same ▸ addressed.numbered k member
    | inr there => exact addressed.numbered j there
  · intro id j located
    rw [nodes_place]
    by_cases same : k = j
    · subst same
      refine ⟨fresh, if_pos rfl, ?_⟩
      rw [named]
      exact addressed.id_of_located id k old located found
    · rw [if_neg same]
      exact addressed.located id j located

theorem create (addressed : frame.Addressed) (id : NodeId) (fresh : Standing) (named : fresh.id = id) :
    (frame.added id fresh).Addressed := by
  have absent : frame.nodes.size ∉ frame.nodes := fun member => Nat.lt_irrefl _ (addressed.numbered _ member)
  refine ⟨?_, ?_⟩
  · intro j there
    rw [added, size_place, if_neg absent]
    cases (mem_place _ _ j fresh).mp there with
    | inl same => exact same ▸ Nat.lt_succ_self _
    | inr there => exact Nat.lt_succ_of_lt (addressed.numbered j there)
  · intro other j located
    cases located_of_added id other j fresh located with
    | inl here =>
        refine ⟨fresh, ?_, named.trans here.1⟩
        rw [added, nodes_place, if_pos here.2]
    | inr there =>
        rw [added, nodes_place, if_neg (Ne.symm (addressed.fresh_not_current other j there))]
        exact addressed.located other j there

theorem furnish (addressed : frame.Addressed) (hub : Hub Incarnation) (bus : Bus Incarnation)
    (listeners : ExtTreeMap Channel (Listeners Incarnation)) : { frame with hub, bus, listeners }.Addressed :=
  ⟨addressed.numbered, addressed.located⟩

theorem forget (addressed : frame.Addressed) (id : NodeId) :
    { frame with current := frame.current.erase id }.Addressed := by
  refine ⟨addressed.numbered, ?_⟩
  intro other j located
  exact addressed.located other j (located_of_erased id other j located).2

end Addressed

theorem Every.create (every : frame.Every P) (addressed : frame.Addressed) (id : NodeId) (fresh : Standing)
    (here : P id frame.nodes.size fresh) : (frame.added id fresh).Every P := by
  intro other j standing located found
  rw [added, nodes_place] at found
  cases located_of_added id other j fresh located with
  | inl own =>
      obtain ⟨rfl, rfl⟩ := own
      rw [if_pos rfl, Option.some.injEq] at found
      exact found ▸ here
  | inr there =>
      rw [if_neg (Ne.symm (addressed.fresh_not_current other j there))] at found
      exact every other j standing there found

structure AllLinked (frame : Frame) : Prop where
  numbered : ∀ k, k ∈ frame.nodes → k < frame.nodes.size
  located : ∀ id k, frame.current[id]? = some k →
    ∃ standing : Standing, frame.nodes[k]? = some standing ∧ standing.id = id
  linked : frame.Every fun _ k standing => standing.Linked k

namespace AllLinked

theorem addressed (allLinked : frame.AllLinked) : frame.Addressed := ⟨allLinked.numbered, allLinked.located⟩

theorem id_of_located (allLinked : frame.AllLinked) (id : NodeId) (k : Incarnation) (standing : Standing)
    (located : frame.current[id]? = some k) (found : frame.nodes[k]? = some standing) : standing.id = id :=
  allLinked.addressed.id_of_located id k standing located found

theorem of_addressed (addressed : frame.Addressed) (linked : frame.Every fun _ k standing => standing.Linked k) :
    frame.AllLinked :=
  ⟨addressed.numbered, addressed.located, linked⟩

theorem place (allLinked : frame.AllLinked) (k : Incarnation) (old fresh : Standing) (found : frame.nodes[k]? = some old)
    (named : fresh.id = old.id) (linked : ∀ id : NodeId, frame.current[id]? = some k → old.Linked k → fresh.Linked k) :
    (frame.place k fresh).AllLinked := by
  refine .of_addressed (allLinked.addressed.place k old fresh found named) ?_
  exact allLinked.linked.place k fresh (fun _ _ _ _ _ linked => linked) fun id located =>
    linked id located (allLinked.linked id k old located found)

theorem create (allLinked : frame.AllLinked) (id : NodeId) (fresh : Standing) (named : fresh.id = id)
    (linked : fresh.Linked frame.nodes.size) : (frame.added id fresh).AllLinked :=
  .of_addressed (allLinked.addressed.create id fresh named) (allLinked.linked.create allLinked.addressed id fresh linked)

theorem furnish (allLinked : frame.AllLinked) (hub : Hub Incarnation) (bus : Bus Incarnation)
    (listeners : ExtTreeMap Channel (Listeners Incarnation)) : { frame with hub, bus, listeners }.AllLinked :=
  ⟨allLinked.numbered, allLinked.located, allLinked.linked⟩

theorem forget (allLinked : frame.AllLinked) (id : NodeId) : { frame with current := frame.current.erase id }.AllLinked :=
  .of_addressed (allLinked.addressed.forget id) (allLinked.linked.forget id)

end AllLinked

-- No node is caught in the middle of a start or a stop.
def Settled (frame : Frame) : Prop :=
  frame.Every fun _ _ standing => standing.state = .stopped ∨ standing.state = .running

end Frame

end Coherence
