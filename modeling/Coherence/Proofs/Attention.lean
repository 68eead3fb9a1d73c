import Coherence.Proofs.NodeTable

set_option autoImplicit false

namespace Coherence

open Std

namespace Frame

def Listens (frame : Frame) (k : Incarnation) (held : Held) : Prop :=
  held.store.channel = frame.config.channel ∧ frame.subscribers.entries[held.store.id]? = some k

-- Places are numbered upwards, which needs no more numbers than `limit`.
structure Attentive (frame : Frame) (limit : Nat) : Prop where
  listening : frame.Every fun _ k standing => standing.state = .running →
    ∃ held, standing.held = some held ∧ frame.Listens k held
  earlier : ∀ number, number ∈ frame.subscribers.entries → number.toNat < frame.subscribers.next.toNat
  few : frame.subscribers.next.toNat ≤ limit

variable {frame : Frame} {limit : Nat}

theorem Attentive.mono (attentive : frame.Attentive limit) (more : Nat) (le : limit ≤ more) : frame.Attentive more :=
  ⟨attentive.listening, attentive.earlier, Nat.le_trans attentive.few le⟩

theorem Attentive.listens (attentive : frame.Attentive limit) (id : NodeId) (k : Incarnation) (standing : Standing)
    (held : Held) (located : frame.current[id]? = some k) (found : frame.nodes[k]? = some standing)
    (running : standing.state = .running) (holding : standing.held = some held) : frame.Listens k held := by
  obtain ⟨other, same, listens⟩ := attentive.listening id k standing located found running
  rw [holding, Option.some.injEq] at same
  exact same ▸ listens

theorem Attentive.hears (attentive : frame.Attentive limit) (allLinked : frame.AllLinked) (id : NodeId) (k : Incarnation)
    (standing : Standing) (located : frame.current[id]? = some k) (found : frame.nodes[k]? = some standing)
    (running : standing.state = .running) : frame.Hears k := by
  obtain ⟨held, _, _, present⟩ := attentive.listening id k standing located found running
  refine ⟨?_, standing, found, (allLinked.linked id k standing located found).reachable⟩
  rw [audience, Listeners.toList, List.mem_map]
  exact ⟨(held.store.id, k), ExtTreeMap.mem_toList_iff_getElem?_eq_some.mpr present, rfl⟩

theorem Attentive.place (attentive : frame.Attentive limit) (k : Incarnation) (old fresh : Standing)
    (found : frame.nodes[k]? = some old)
    (kept : ∀ id : NodeId, frame.current[id]? = some k → fresh.state = .running →
      old.state = .running ∧ fresh.held = old.held) :
    (frame.place k fresh).Attentive limit := by
  refine ⟨?_, attentive.earlier, attentive.few⟩
  refine attentive.listening.place k fresh (fun _ _ _ _ _ listening => listening) ?_
  intro id located running
  obtain ⟨before, same⟩ := kept id located running
  rw [same]
  exact attentive.listening id k old located found before

theorem Attentive.create (attentive : frame.Attentive limit) (addressed : frame.Addressed) (id : NodeId) (fresh : Standing)
    (resting : fresh.state ≠ .running) : (frame.added id fresh).Attentive limit :=
  ⟨attentive.listening.create addressed id fresh fun running => absurd running resting, attentive.earlier, attentive.few⟩

theorem Attentive.forget (attentive : frame.Attentive limit) (id : NodeId) :
    { frame with current := frame.current.erase id }.Attentive limit :=
  ⟨attentive.listening.forget id, attentive.earlier, attentive.few⟩

theorem Attentive.enlist (attentive : frame.Attentive limit) (k : Incarnation) (fresh : Standing) (held : Held)
    (bus : Bus Incarnation) (hub : Hub Incarnation) (holding : fresh.held = some held)
    (given : held.store = ⟨frame.config.channel, frame.subscribers.next⟩) (capacity : limit + 1 < UInt64.size) :
    ({ frame with
        bus, hub
        listeners := frame.listeners.insert frame.config.channel (frame.subscribers.add k).1 }.place k
          fresh).Attentive (limit + 1) := by
  generalize became : Frame.place _ k fresh = after
  have subscribers : after.subscribers = (frame.subscribers.add k).1 := by
    rw [← became]
    simp [Frame.subscribers, Frame.place]
  have few := attentive.few
  have next : after.subscribers.next.toNat = frame.subscribers.next.toNat + 1 := by
    rw [subscribers, show (frame.subscribers.add k).1.next = frame.subscribers.next + 1 from rfl, UInt64.toNat_add]
    exact Nat.mod_eq_of_lt (by simpa using Nat.lt_of_le_of_lt (Nat.succ_le_succ few) capacity)
  have entries : after.subscribers.entries = frame.subscribers.entries.insert frame.subscribers.next k := by
    rw [subscribers]
    rfl
  have channel : after.config.channel = frame.config.channel := by rw [← became]; rfl
  refine ⟨?_, ?_, ?_⟩
  · have listening := attentive.listening.place k fresh (Q := fun _ j standing => standing.state = .running →
      ∃ held, standing.held = some held ∧ after.Listens j held) ?_ ?_
    · intro id j standing located found
      rw [← became] at located found
      exact listening id j standing located found
    · intro id j standing _ _ listening running
      obtain ⟨held, holding, listens⟩ := listening running
      refine ⟨held, holding, channel ▸ listens.1, ?_⟩
      -- A place that is taken has a number below the one that was just given.
      have member : held.store.id ∈ frame.subscribers.entries := by
        rw [ExtTreeMap.mem_iff_isSome_getElem?, listens.2]
        rfl
      have different : frame.subscribers.next ≠ held.store.id := by
        intro same
        exact Nat.lt_irrefl _ (same ▸ attentive.earlier _ member)
      rw [entries, found_insert_other _ _ _ k different]
      exact listens.2
    · intro _ _ _
      refine ⟨held, holding, ?_, ?_⟩
      · rw [given, channel]
      · rw [given, entries, ExtTreeMap.getElem?_insert_self]
  · intro number member
    rw [entries, ExtTreeMap.mem_insert] at member
    rw [next]
    cases member with
    | inl same => exact Std.compare_eq_iff_eq.mp same ▸ Nat.lt_succ_self _
    | inr before => exact Nat.lt_succ_of_lt (attentive.earlier number before)
  · rw [next]
    exact Nat.succ_le_succ few

theorem Attentive.dismiss (attentive : frame.Attentive limit) (k : Incarnation) (fresh : Standing) (held : Held)
    (bus : Bus Incarnation) (hub : Hub Incarnation) (listens : frame.Listens k held)
    (gone : ∀ id : NodeId, frame.current[id]? = some k → fresh.state ≠ .running) :
    ({ frame with
        bus, hub
        listeners := frame.listeners.modify held.store.channel (·.remove held.store.id) }.place k
          fresh).Attentive limit := by
  generalize became : Frame.place _ k fresh = after
  have subscribers : after.subscribers = frame.subscribers.remove held.store.id := by
    rw [← became]
    change (frame.listeners.modify held.store.channel _)[frame.config.channel]?.getD {} = _
    rw [listens.1, ExtTreeMap.getElem?_modify_self, Frame.subscribers]
    cases frame.listeners[frame.config.channel]? with
    | none => exact congrArg (Listeners.mk 0) (ExtTreeMap.ext_getElem? (by simp))
    | some kept => rfl
  have entries : after.subscribers.entries = frame.subscribers.entries.erase held.store.id := by
    rw [subscribers]
    rfl
  have next : after.subscribers.next = frame.subscribers.next := by
    rw [subscribers]
    rfl
  have channel : after.config.channel = frame.config.channel := by rw [← became]; rfl
  refine ⟨?_, ?_, ?_⟩
  · have listening := attentive.listening.place k fresh (Q := fun _ j standing => standing.state = .running →
      ∃ held, standing.held = some held ∧ after.Listens j held) ?_ ?_
    · intro id j standing located found
      rw [← became] at located found
      exact listening id j standing located found
    · intro id j standing _ other listening running
      obtain ⟨theirs, holding, elsewhere⟩ := listening running
      refine ⟨theirs, holding, channel ▸ elsewhere.1, ?_⟩
      have different : held.store.id ≠ theirs.store.id := by
        intro same
        have theirPlace := elsewhere.2
        rw [← same, listens.2, Option.some.injEq] at theirPlace
        exact other theirPlace.symm
      rw [entries, found_erase_other _ _ _ different]
      exact elsewhere.2
    · exact fun id located running => absurd running (gone id located)
  · intro number member
    rw [entries, ExtTreeMap.mem_erase] at member
    rw [next]
    exact attentive.earlier number member.2
  · rw [next]
    exact attentive.few

end Frame

end Coherence
