import Coherence.Proofs.Ledger

set_option autoImplicit false

namespace Coherence

open Std

def Clears {η : Type} (deliveries : List (Delivery η)) (handler : η) (pair : Group × Key) : Prop :=
  ∃ delivery ∈ deliveries, delivery.handler = handler ∧ pair ∈ delivery.event.pairs

section Clears

variable {η : Type} {handler : η} {pair : Group × Key}

theorem clears_nil : ¬ Clears ([] : List (Delivery η)) handler pair := fun ⟨_, member, _⟩ => nomatch member

theorem clears_append (first second : List (Delivery η)) :
    Clears (first ++ second) handler pair ↔ Clears first handler pair ∨ Clears second handler pair := by
  simp only [Clears, List.mem_append, or_and_right, exists_or]

theorem clears_cons (delivery : Delivery η) (deliveries : List (Delivery η)) :
    Clears (delivery :: deliveries) handler pair ↔ Clears [delivery] handler pair ∨ Clears deliveries handler pair :=
  clears_append [delivery] deliveries

end Clears

namespace Bus

variable {η : Type}

-- Whatever was on its way has arrived or still is on its way.
def Passes (before after : Bus η) (arrived : List (Delivery η)) : Prop :=
  ∀ handler pair, Clears before.onWay handler pair → Clears (arrived ++ after.onWay) handler pair

theorem Carries.passes {before after : Bus η} {arrived : List (Delivery η)} {postings : List (Posting η)}
    (carries : Carries before after arrived postings) : Passes before after arrived := by
  rintro handler pair ⟨delivery, member, named, pairs⟩
  obtain ⟨other, there, stamp⟩ :=
    List.mem_map.mp (carries.mem_iff.mpr (List.mem_append_left _ (List.mem_map_of_mem member)))
  obtain ⟨handlers, events⟩ := Prod.ext_iff.mp (Prod.ext_iff.mp stamp).2
  exact ⟨other, there, handlers.trans named, (show other.event = delivery.event from events) ▸ pairs⟩

theorem passes_control (bus : Bus η) (control : Control) : Passes bus (bus.control control).1 (bus.control control).2 :=
  (carries_control bus control).passes

theorem passes_broadcast (bus : Bus η) (sender : NodeId) (channel : Channel) (event : Event) (mode : Mode) :
    Passes bus (bus.broadcast sender channel event mode).1 (bus.broadcast sender channel event mode).2.1 :=
  (carries_step bus (.broadcast sender channel event mode)).passes

theorem send_to_arrives (bus : Bus η) (event : Event) (target : NodeId × η) (pair : Group × Key)
    (reached : bus.setting.Reaches target.1) (prompt : bus.setting.Prompt target.1) (named : pair ∈ event.pairs) :
    Clears (bus.sendTo event .sync target).2.1 target.2 pair := by
  have free : target.1 ∉ bus.unreachable := reached
  simp only [sendTo, if_neg free, deliver]
  split
  · exact ⟨_, List.mem_singleton_self _, rfl, named⟩
  · have timeout (millis : Nat) :
        ({ bus with numbered := bus.numbered + 1 }.advance millis).1.timeout = bus.timeout :=
      congrArg Setting.timeout (setting_advance { bus with numbered := bus.numbered + 1 } millis)
    rw [timeout, if_pos (show bus.delayOf target.1 ≤ bus.timeout from prompt)]
    exact ⟨_, List.mem_append_right _ (List.mem_singleton_self _), rfl, named⟩

theorem send_to_departs (bus : Bus η) (event : Event) (target : NodeId × η) (pair : Group × Key)
    (reached : bus.setting.Reaches target.1) (named : pair ∈ event.pairs) :
    Clears (bus.sendTo event .async target).1.onWay target.2 pair := by
  have free : target.1 ∉ bus.unreachable := reached
  simp only [sendTo, if_neg free, spawn, onWay]
  exact ⟨_, List.mem_append_left _ (List.mem_append_right _ (List.mem_singleton_self _)), rfl, named⟩

theorem send_all_arrives (bus : Bus η) (event : Event) (targets : List (NodeId × η)) (target : NodeId × η)
    (pair : Group × Key) (member : target ∈ targets) (reached : bus.setting.Reaches target.1)
    (prompt : bus.setting.Prompt target.1) (named : pair ∈ event.pairs) :
    Clears (bus.sendAll event .sync targets).2.1 target.2 pair := by
  induction targets generalizing bus with
  | nil => cases member
  | cons first rest ih =>
      rw [sendAll, clears_append]
      cases List.mem_cons.mp member with
      | inl same =>
          subst same
          exact .inl (send_to_arrives bus event target pair reached prompt named)
      | inr later =>
          have setting := setting_send_to bus event .sync first
          exact .inr (ih _ later (setting ▸ reached) (setting ▸ prompt))

theorem send_all_departs (bus : Bus η) (event : Event) (targets : List (NodeId × η)) (target : NodeId × η)
    (pair : Group × Key) (member : target ∈ targets) (reached : bus.setting.Reaches target.1)
    (named : pair ∈ event.pairs) :
    Clears ((bus.sendAll event .async targets).2.1 ++ (bus.sendAll event .async targets).1.onWay) target.2 pair := by
  induction targets generalizing bus with
  | nil => cases member
  | cons first rest ih =>
      rw [sendAll, List.append_assoc, clears_append]
      cases List.mem_cons.mp member with
      | inl same =>
          subst same
          -- Already on its way, and sending to the others takes nothing off it.
          have departed := send_to_departs bus event target pair reached named
          exact .inr ((carries_send_all _ 0 event .async rest).passes target.2 pair departed)
      | inr later =>
          have setting := setting_send_to bus event .async first
          exact .inr (ih _ later (setting ▸ reached))

theorem broadcast_arrives (bus : Bus η) (sender name : NodeId) (channel : Channel) (event : Event) (handler : η)
    (pair : Group × Key) (handled : (bus.handlersOn channel)[name]? = some handler) (different : name ≠ sender)
    (reached : bus.setting.Reaches name) (prompt : bus.setting.Prompt name) (named : pair ∈ event.pairs) :
    Clears (bus.broadcast sender channel event .sync).2.1 handler pair :=
  send_all_arrives (bus.record _) event _ (name, handler) pair
    ((bus.mem_targets channel sender name handler).mpr ⟨handled, different⟩) reached prompt named

theorem broadcast_departs (bus : Bus η) (sender name : NodeId) (channel : Channel) (event : Event) (handler : η)
    (pair : Group × Key) (handled : (bus.handlersOn channel)[name]? = some handler) (different : name ≠ sender)
    (reached : bus.setting.Reaches name) (named : pair ∈ event.pairs) :
    Clears ((bus.broadcast sender channel event .async).2.1 ++ (bus.broadcast sender channel event .async).1.onWay)
      handler pair :=
  send_all_departs (bus.record _) event _ (name, handler) pair
    ((bus.mem_targets channel sender name handler).mpr ⟨handled, different⟩) reached named

end Bus

end Coherence
