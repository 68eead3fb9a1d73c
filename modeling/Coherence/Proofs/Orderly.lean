import Coherence.Proofs.Entries
import Coherence.Proofs.Syncing

set_option autoImplicit false

namespace Coherence

open Std

namespace Bus

variable {η : Type}

theorem handlers_on_registered (bus after : Bus η) (channel : Channel) (node : NodeId) (handler : η)
    (registered : bus.register channel node handler = .ok after) :
    after.handlersOn channel = (bus.handlersOn channel).insert node handler := by
  rw [register] at registered
  split at registered
  · cases registered
  · cases registered
    rw [handlersOn, ExtTreeMap.getElem?_insert_self, Option.getD_some]

end Bus

namespace Hub

variable {ℓ : Type}

theorem members_subscribe (hub : Hub ℓ) (node : NodeId) (listener : ℓ) :
    (hub.subscribe node listener).1.members = hub.members := by
  rw [subscribe]
  split <;> rfl

end Hub

namespace Frame

def Runs (frame : Frame) (id : NodeId) : Prop :=
  ∃ k standing, frame.current[id]? = some k ∧ frame.nodes[k]? = some standing ∧ standing.state = .running

-- Every node is a member, every running one has its handler on the bus, and no replica rejects a key.
structure Ordered (frame : Frame) : Prop where
  lawful : frame.Every fun _ _ standing => standing.rejected = ∅
  joined : ∀ (id : NodeId) (k : Incarnation), frame.current[id]? = some k → id ∈ frame.hub.members
  handled : frame.Every fun id k standing => standing.state = .running →
    (frame.bus.handlersOn frame.config.channel)[id]? = some k

def Announced (frame : Frame) (entries : Entries) : Prop :=
  frame.Every fun id _ standing => standing.state = .running → entries[id]? = standing.entry

variable {frame : Frame}

theorem Runs.place {id : NodeId} (runs : frame.Runs id) (k : Incarnation) (fresh : Standing)
    (still : frame.current[id]? = some k → fresh.state = .running) : (frame.place k fresh).Runs id := by
  obtain ⟨j, standing, located, found, running⟩ := runs
  by_cases same : k = j
  · subst same
    refine ⟨k, fresh, located, ?_, still located⟩
    rw [nodes_place, if_pos rfl]
  · refine ⟨j, standing, located, ?_, running⟩
    rw [nodes_place, if_neg same]
    exact found

theorem Runs.replace {id : NodeId} (runs : frame.Runs id) (k : Incarnation) (old fresh : Standing)
    (found : frame.nodes[k]? = some old) (state : fresh.state = old.state) : (frame.place k fresh).Runs id := by
  refine runs.place k fresh fun located => ?_
  obtain ⟨j, standing, there, here, running⟩ := runs
  rw [located, Option.some.injEq] at there
  rw [← there, found, Option.some.injEq] at here
  rw [state, here]
  exact running

theorem Runs.forget {id other : NodeId} (runs : frame.Runs other) (different : id ≠ other) :
    { frame with current := frame.current.erase id }.Runs other := by
  obtain ⟨j, standing, located, found, running⟩ := runs
  refine ⟨j, standing, ?_, found, running⟩
  exact (found_erase_other frame.current id other different).trans located

theorem Ordered.place (ordered : frame.Ordered) (k : Incarnation) (old fresh : Standing)
    (found : frame.nodes[k]? = some old) (rejected : fresh.rejected = old.rejected)
    (kept : fresh.state = .running → old.state = .running) : (frame.place k fresh).Ordered where
  lawful := Every.replace ordered.lawful k old fresh found fun _ lawful => rejected.trans lawful
  joined := ordered.joined
  handled := Every.replace ordered.handled k old fresh found fun _ handled running => handled (kept running)

theorem Ordered.furnish (ordered : frame.Ordered) (bus : Bus Incarnation) (hub : Hub Incarnation)
    (handlers : bus.handlers = frame.bus.handlers) (members : ∀ id ∈ frame.hub.members, id ∈ hub.members) :
    { frame with bus, hub }.Ordered where
  lawful := ordered.lawful
  joined id k located := members id (ordered.joined id k located)
  handled id k standing located found running := by
    rw [Bus.handlersOn, handlers]
    exact ordered.handled id k standing located found running

theorem Ordered.enlist (ordered : frame.Ordered) (allLinked : frame.AllLinked) (id : NodeId) (k : Incarnation)
    (old fresh : Standing) (located : frame.current[id]? = some k) (found : frame.nodes[k]? = some old)
    (rejected : fresh.rejected = old.rejected) (bus : Bus Incarnation) (hub : Hub Incarnation)
    (listeners : ExtTreeMap Channel (Listeners Incarnation))
    (registered : frame.bus.register frame.config.channel id k = .ok bus) (members : hub.members = frame.hub.members) :
    ({ frame with bus, hub, listeners }.place k fresh).Ordered := by
  have handlers := Bus.handlers_on_registered frame.bus bus frame.config.channel id k registered
  refine ⟨?_, ?_, ?_⟩
  · exact (ordered.lawful.furnish hub bus listeners).replace k old fresh found fun _ lawful => rejected.trans lawful
  · intro other j there
    change other ∈ hub.members
    rw [members]
    exact ordered.joined other j there
  · refine (ordered.handled.furnish hub bus listeners).place k fresh ?_ ?_
    · intro other j standing there different handled running
      have unlike := name_apart id other k j located there different
      change (bus.handlersOn frame.config.channel)[other]? = some j
      rw [handlers, found_insert_other _ id other k unlike]
      exact handled running
    · intro other there _
      change (bus.handlersOn frame.config.channel)[other]? = some k
      rw [allLinked.addressed.name_unique other id k there located, handlers, ExtTreeMap.getElem?_insert_self]

theorem Ordered.dismiss (ordered : frame.Ordered) (id : NodeId) (k : Incarnation) (old fresh : Standing)
    (found : frame.nodes[k]? = some old) (rejected : fresh.rejected = old.rejected) (hub : Hub Incarnation)
    (listeners : ExtTreeMap Channel (Listeners Incarnation)) (members : hub.members = frame.hub.members)
    (others : ∀ (other : NodeId) (j : Incarnation), frame.current[other]? = some j → j ≠ k → id ≠ other)
    (gone : ∀ other : NodeId, frame.current[other]? = some k → fresh.state ≠ .running) :
    ({ frame with bus := frame.bus.without frame.config.channel id, hub, listeners }.place k fresh).Ordered := by
  refine ⟨?_, ?_, ?_⟩
  · exact (ordered.lawful.furnish hub _ listeners).replace k old fresh found fun _ lawful => rejected.trans lawful
  · intro other j there
    change other ∈ hub.members
    rw [members]
    exact ordered.joined other j there
  · refine (ordered.handled.furnish hub _ listeners).place k fresh ?_ ?_
    · intro other j standing there different handled running
      change ((frame.bus.without frame.config.channel id).handlersOn frame.config.channel)[other]? = some j
      rw [Bus.handlers_on_without, found_erase_other _ id other (others other j there different)]
      exact handled running
    · exact fun other there running => absurd running (gone other there)

theorem Ordered.create (ordered : frame.Ordered) (addressed : frame.Addressed) (id : NodeId)
    (member : id ∈ frame.hub.members) :
    (frame.added id (Node.create id).standing).Ordered where
  lawful := Every.create ordered.lawful addressed id _ rfl
  joined other j located := by
    cases located_of_added id other j _ located with
    | inl here => exact here.1 ▸ member
    | inr there => exact ordered.joined other j there
  handled := Every.create ordered.handled addressed id _ fun running => nomatch running

theorem Ordered.forget (ordered : frame.Ordered) (id : NodeId) :
    { frame with current := frame.current.erase id }.Ordered where
  lawful := Every.forget ordered.lawful id
  joined other j located := ordered.joined other j (located_of_erased id other j located).2
  handled := Every.forget ordered.handled id

end Frame

end Coherence
