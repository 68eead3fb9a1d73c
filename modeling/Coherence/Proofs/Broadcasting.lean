import Mathlib.Algebra.GroupWithZero.Nat
import Coherence.Proofs.Awaiting

set_option autoImplicit false

namespace Coherence

open Std

variable {η : Type}

namespace Bus

def Serves (bus : Bus η) (node : NodeId) : Prop := node ∉ bus.unreachable ∧ bus.delayOf node ≤ bus.timeout

instance (bus : Bus η) (node : NodeId) : Decidable (bus.Serves node) := inferInstanceAs (Decidable (_ ∧ _))

def Numbered (bus : Bus η) : Prop := ∀ delivery ∈ bus.onWay, delivery.id < bus.numbered

namespace Setting

variable (setting : Setting η) (node : NodeId)

-- How long a call waits for one of its targets, and what it has to say of it then.
def patience : Nat :=
  if node ∈ setting.unreachable then 0 else min (setting.delays[node]?.getD 0) setting.timeout

def verdict : Except Fault Unit :=
  if node ∈ setting.unreachable then .error (.unreachable node)
  else if setting.delays[node]?.getD 0 ≤ setting.timeout then .ok ()
  else .error (.timeout (.ofMillis setting.timeout))

end Setting

section Serving

variable (bus : Bus η)

theorem now_advance (millis : Nat) : (bus.advance millis).1.now = bus.now + millis := by
  by_cases none : millis = 0
  · simp [advance, none]
  · simp [advance, none, waitUntil]

theorem advance_renumbered (number millis : Nat) :
    { bus with numbered := number }.advance millis =
      ({ (bus.advance millis).1 with numbered := number }, (bus.advance millis).2) := by
  by_cases none : millis = 0
  · simp [advance, none]
  · simp [advance, none, waitUntil]

theorem patience_reached (node : NodeId) (reached : node ∉ bus.unreachable) :
    bus.setting.patience node = min (bus.delayOf node) bus.timeout := if_neg reached

-- Others are let run while the target takes its time, and it gets the event last, if at all.
theorem send_to_sync (event : Event) (target : NodeId × η) :
    bus.sendTo event .sync target =
      ({ (bus.advance (bus.setting.patience target.1)).1 with numbered := bus.numbered + 1 },
        (bus.advance (bus.setting.patience target.1)).2 ++
          (if bus.Serves target.1 then [⟨bus.numbered, target.2, event, bus.delayOf target.1⟩] else []),
        bus.setting.verdict target.1) := by
  by_cases cut : target.1 ∈ bus.unreachable
  · simp [sendTo, cut, Setting.patience, Setting.verdict, setting, Serves, advance]
  · have timeout (millis : Nat) : (bus.advance millis).1.timeout = bus.timeout :=
      congrArg Setting.timeout (setting_advance bus millis)
    have verdict : bus.setting.verdict target.1 =
        if bus.delayOf target.1 ≤ bus.timeout then .ok () else .error (.timeout (.ofMillis bus.timeout)) := if_neg cut
    rw [bus.patience_reached target.1 cut, verdict]
    by_cases prompt : bus.delayOf target.1 ≤ bus.timeout
    · by_cases now : bus.delayOf target.1 = 0
      · simp [sendTo, cut, deliver, now, Serves, advance]
      · simp [sendTo, cut, deliver, now, prompt, Serves, advance_renumbered, timeout]
    · have late : bus.delayOf target.1 ≠ 0 := by omega
      simp [sendTo, cut, deliver, late, prompt, Serves, advance_renumbered, timeout]

theorem serves_congr {bus after : Bus η} (same : after.setting = bus.setting) (node : NodeId) :
    after.Serves node ↔ bus.Serves node := by
  have unreachable : after.unreachable = bus.unreachable := congrArg Setting.unreachable same
  have delays : after.delays = bus.delays := congrArg Setting.delays same
  have timeout : after.timeout = bus.timeout := congrArg Setting.timeout same
  simp [Serves, delayOf, unreachable, delays, timeout]

theorem verdict_served {bus : Bus η} {node : NodeId} (served : bus.Serves node) : bus.setting.verdict node = .ok () := by
  have reached : node ∉ bus.setting.unreachable := served.1
  have prompt : bus.setting.delays[node]?.getD 0 ≤ bus.setting.timeout := served.2
  simp [Setting.verdict, reached, prompt]

theorem verdict_refused {bus : Bus η} {node : NodeId} (refused : ¬ bus.Serves node) :
    bus.setting.verdict node =
      .error (if node ∈ bus.unreachable then .unreachable node else .timeout (.ofMillis bus.timeout)) := by
  by_cases cut : node ∈ bus.unreachable
  · simp [Setting.verdict, setting, cut]
  · have late : ¬ bus.delays[node]?.getD 0 ≤ bus.timeout := fun prompt => refused ⟨cut, prompt⟩
    simp [Setting.verdict, setting, cut, late]

theorem result_send_all_cons (event : Event) (target : NodeId × η) (targets : List (NodeId × η)) :
    (bus.sendAll event .sync (target :: targets)).2.2 =
      if bus.Serves target.1 then ((bus.sendTo event .sync target).1.sendAll event .sync targets).2.2
      else bus.setting.verdict target.1 := by
  have verdict : (bus.sendTo event .sync target).2.2 = bus.setting.verdict target.1 :=
    congrArg (·.2.2) (bus.send_to_sync event target)
  rw [sendAll]
  dsimp only
  rw [verdict]
  by_cases served : bus.Serves target.1
  · simp [served, verdict_served served]
  · simp [served, verdict_refused served]

theorem send_all_ok_iff (event : Event) (targets : List (NodeId × η)) :
    (bus.sendAll event .sync targets).2.2 = .ok () ↔ ∀ node ∈ targets.map (·.1), bus.Serves node := by
  induction targets generalizing bus with
  | nil => simp [sendAll]
  | cons target targets ih =>
      rw [result_send_all_cons]
      by_cases served : bus.Serves target.1
      · simp only [if_pos served, ih, serves_congr (setting_send_to bus event .sync target)]
        simp [served]
      · simp [served, verdict_refused served]

theorem send_all_refused (event : Event) (targets : List (NodeId × η)) (before rest : List NodeId) (node : NodeId)
    (split : targets.map (·.1) = before ++ node :: rest) (earlier : ∀ other ∈ before, bus.Serves other)
    (refused : ¬ bus.Serves node) : (bus.sendAll event .sync targets).2.2 = bus.setting.verdict node := by
  induction targets generalizing bus before with
  | nil => simp at split
  | cons target targets ih =>
      rw [result_send_all_cons]
      cases before with
      | nil =>
          obtain ⟨rfl, _⟩ := List.cons_eq_cons.mp split
          rw [if_neg refused]
      | cons first before =>
          obtain ⟨rfl, others⟩ := List.cons_eq_cons.mp split
          have same := setting_send_to bus event .sync target
          have later := ih (bus.sendTo event .sync target).1 before others
            (fun other member => (serves_congr same other).mpr (earlier other (List.mem_cons_of_mem _ member)))
            (fun served => refused ((serves_congr same node).mp served))
          rw [same] at later
          rw [if_pos (earlier _ (List.mem_cons_self ..)), later]

theorem now_send_all (event : Event) (targets : List (NodeId × η)) :
    (bus.sendAll event .sync targets).1.now = bus.now + ((targets.map (·.1)).map bus.setting.patience).sum := by
  induction targets generalizing bus with
  | nil => rfl
  | cons target targets ih =>
      have now : (bus.sendTo event .sync target).1.now = bus.now + bus.setting.patience target.1 := by
        rw [send_to_sync]
        exact bus.now_advance _
      have rest := ih (bus.sendTo event .sync target).1
      rw [setting_send_to, now, Nat.add_assoc] at rest
      exact rest

theorem sum_patience (nodes : List NodeId) :
    (nodes.map bus.setting.patience).sum =
      ((nodes.filter (· ∉ bus.unreachable)).map fun node => min (bus.delayOf node) bus.timeout).sum := by
  induction nodes with
  | nil => rfl
  | cons node nodes ih =>
      rw [List.map_cons, List.sum_cons, ih]
      by_cases cut : node ∈ bus.unreachable
      · have none : bus.setting.patience node = 0 := if_pos cut
        rw [none, Nat.zero_add, List.filter_cons_of_neg (by simpa using cut)]
      · rw [bus.patience_reached node cut, List.filter_cons_of_pos (by simpa using cut), List.map_cons, List.sum_cons]

end Serving

section Waiting

-- What the call sends itself arrives in order; whatever else arrives was on its way before.
structure Waits (before after : Bus η) (arrived : List (Delivery η)) (own : List (Nat × η × Event)) : Prop where
  served : own.Sublist (arrived.map Delivery.stamp)
  others : ∃ meanwhile, (arrived.map Delivery.stamp).Perm (own ++ meanwhile) ∧
    (meanwhile ++ after.onWay.map Delivery.stamp).Perm (before.onWay.map Delivery.stamp)

theorem Waits.trans {first second third : Bus η} {here there : List (Delivery η)} {former latter : List (Nat × η × Event)}
    (earlier : Waits first second here former) (later : Waits second third there latter) :
    Waits first third (here ++ there) (former ++ latter) := by
  obtain ⟨before, came, stayed⟩ := earlier.others
  obtain ⟨after, arrived, remained⟩ := later.others
  refine ⟨?_, before ++ after, ?_, ?_⟩
  · rw [List.map_append]
    exact earlier.served.append later.served
  · rw [List.map_append]
    refine (came.append arrived).trans ?_
    simp only [List.append_assoc]
    exact List.Perm.append_left _ (List.perm_append_comm_assoc _ _ _)
  · rw [List.append_assoc]
    exact (List.Perm.append_left _ remained).trans stayed

theorem Waits.renumbered {before after : Bus η} {arrived : List (Delivery η)} {own : List (Nat × η × Event)}
    (waits : Waits before after arrived own) (number : Nat) : Waits before { after with numbered := number } arrived own :=
  ⟨waits.served, waits.others⟩

theorem waits_advance (bus : Bus η) (millis : Nat) : Waits bus (bus.advance millis).1 (bus.advance millis).2 [] := by
  have carries := carries_advance bus millis
  simp only [Carries, List.map_append, List.filter_nil, List.map_nil, List.append_nil] at carries
  exact ⟨List.nil_sublist _, _, .refl _, carries⟩

theorem waits_arrival (bus : Bus η) (delivery : Delivery η) : Waits bus bus [delivery] [delivery.stamp] :=
  ⟨.refl _, [], .refl _, .refl _⟩

theorem granted_sync (bus : Bus η) (call : Nat) (event : Event) (entry : (NodeId × η) × Nat) :
    (bus.setting.posting call event .sync entry).granted = true ↔ bus.Serves entry.1.1 := by
  have prompt : (bus.setting.posting call event .sync entry).granted = true ↔
      (bus.setting.posting call event .sync entry).reachable = true ∧
        (bus.setting.posting call event .sync entry).prompt = true := by
    simp [Posting.granted, Setting.posting]
  exact prompt.trans (and_congr decide_eq_true_iff decide_eq_true_iff)

theorem waits_send_to (bus : Bus η) (call : Nat) (event : Event) (target : NodeId × η) :
    Waits bus (bus.sendTo event .sync target).1 (bus.sendTo event .sync target).2.1
      (([bus.setting.posting call event .sync (target, bus.numbered)].filter Posting.granted).map Posting.stamp) := by
  have granted := granted_sync bus call event (target, bus.numbered)
  have waited := (waits_advance bus (bus.setting.patience target.1)).renumbered (bus.numbered + 1)
  rw [send_to_sync]
  by_cases served : bus.Serves target.1
  · simp only [if_pos served, List.filter_cons_of_pos (granted.mpr served)]
    exact waited.trans (waits_arrival _ _)
  · simp only [if_neg served, List.filter_cons_of_neg (served ∘ granted.mp), List.append_nil]
    exact waited

theorem waits_send_all (bus : Bus η) (call : Nat) (event : Event) (targets : List (NodeId × η)) :
    Waits bus (bus.sendAll event .sync targets).1 (bus.sendAll event .sync targets).2.1
      (((bus.postings call event .sync targets).filter Posting.granted).map Posting.stamp) := by
  induction targets generalizing bus with
  | nil => exact waits_advance bus 0
  | cons target targets ih =>
      have rest := ih (bus.sendTo event .sync target).1
      rw [postings, setting_send_to, numbered_send_to] at rest
      have all := (waits_send_to bus call event target).trans rest
      rw [← List.map_append, ← List.filter_append] at all
      exact all

theorem Waits.known {before after : Bus η} {arrived : List (Delivery η)} {own : List (Nat × η × Event)}
    (waits : Waits before after arrived own) (delivery : Delivery η) (still : delivery ∈ after.onWay) :
    ∃ former ∈ before.onWay, former.id = delivery.id := by
  obtain ⟨meanwhile, _, stayed⟩ := waits.others
  have stamp := stayed.subset (List.mem_append_right _ (List.mem_map_of_mem still))
  obtain ⟨former, there, same⟩ := List.mem_map.mp stamp
  exact ⟨former, there, congrArg Prod.fst same⟩

end Waiting

section Calling

variable (bus : Bus η) (sender : NodeId) (channel : Channel) (event : Event)

theorem waits_broadcast :
    Waits bus (bus.broadcast sender channel event .sync).1 (bus.broadcast sender channel event .sync).2.1
      (((bus.posted (.broadcast sender channel event .sync)).filter Posting.granted).map Posting.stamp) := by
  have waits := waits_send_all (bus.record ⟨sender, channel, event, .sync, (bus.targets channel sender).map (·.1)⟩)
    bus.sent.length event (bus.targets channel sender)
  exact ⟨waits.served, waits.others⟩

theorem granted_posted (posting : Posting η) (member : posting ∈ bus.posted (.broadcast sender channel event .sync)) :
    posting.granted = true ↔ bus.Serves posting.target := by
  obtain ⟨entry, _, rfl⟩ := List.mem_map.mp member
  exact granted_sync bus _ event entry

theorem ascending_targets (mode : Mode) :
    ((bus.posted (.broadcast sender channel event mode)).map Posting.target).Pairwise (compare · · = .lt) := by
  rw [posted, targets_postings]
  exact List.pairwise_map.mpr ((bus.handlersOn channel).ordered_keys_toList.filter _)

theorem mem_target_nodes (node : NodeId) :
    node ∈ (bus.targets channel sender).map (·.1) ↔ bus.isRegistered channel node = true ∧ node ≠ sender := by
  rw [isRegistered, ExtTreeMap.contains_iff_mem, ExtTreeMap.mem_iff_isSome_getElem?, Option.isSome_iff_exists,
    List.mem_map]
  constructor
  · rintro ⟨⟨_, handler⟩, member, rfl⟩
    obtain ⟨registered, other⟩ := (bus.mem_targets channel sender _ handler).mp member
    exact ⟨⟨handler, registered⟩, other⟩
  · rintro ⟨⟨handler, registered⟩, other⟩
    exact ⟨(node, handler), (bus.mem_targets channel sender node handler).mpr ⟨registered, other⟩, rfl⟩

end Calling

section Dispatching

variable {bus : Bus η} (numbered : bus.Numbered) (sender : NodeId) (channel : Channel) (event : Event) {posting : Posting η}
  (member : posting ∈ bus.posted (.broadcast sender channel event .sync))

include numbered member

theorem unknown_posted (delivery : Delivery η) (there : delivery ∈ bus.onWay) : delivery.id ≠ posting.number := by
  have new : posting.number ∈ (bus.posted (.broadcast sender channel event .sync)).map Posting.number :=
    List.mem_map_of_mem member
  have old := numbered delivery there
  rw [numbers_posted, List.mem_range'_1] at new
  omega

theorem stamps_run (operations : List (Operation η)) :
    let call := bus.run (.broadcast sender channel event .sync :: operations)
    ((call.2 ++ call.1.onWay).filter (·.id = posting.number)).map Delivery.stamp =
      if posting.granted then [posting.stamp] else [] :=
  stamps_of_carries bus _ _ _ (carries_run bus _) (numbers_distinct bus _) posting
    (List.mem_append_left _ member) (unknown_posted numbered sender channel event member)

theorem stamps_broadcast :
    ((bus.broadcast sender channel event .sync).2.1.filter (·.id = posting.number)).map Delivery.stamp =
      if posting.granted then [posting.stamp] else [] := by
  have stamps := stamps_run numbered sender channel event member []
  have gone : (bus.broadcast sender channel event .sync).1.onWay.filter (·.id = posting.number) = [] := by
    rw [List.filter_eq_nil_iff]
    intro delivery still same
    obtain ⟨former, there, id⟩ := (waits_broadcast bus sender channel event).known delivery still
    exact unknown_posted numbered sender channel event member former there (id.trans (of_decide_eq_true same))
  change (((bus.broadcast sender channel event .sync).2.1 ++ [] ++
    (bus.broadcast sender channel event .sync).1.onWay).filter _).map _ = _ at stamps
  rw [List.append_nil, List.filter_append, gone, List.append_nil] at stamps
  exact stamps

theorem never_later (operations : List (Operation η)) :
    Never ((bus.broadcast sender channel event .sync).1.run operations).2 posting := by
  have stamps := stamps_run numbered sender channel event member operations
  have called := stamps_broadcast numbered sender channel event member
  change (((bus.broadcast sender channel event .sync).2.1 ++
    ((bus.broadcast sender channel event .sync).1.run operations).2 ++ _).filter _).map _ = _ at stamps
  rw [List.append_assoc, List.filter_append, List.map_append, called, List.append_right_eq_self, List.map_eq_nil_iff,
    List.filter_eq_nil_iff] at stamps
  intro delivery arrived same
  exact stamps delivery (List.mem_append_left _ arrived) (decide_eq_true same)

theorem once_served (served : bus.Serves posting.target) : Once (bus.broadcast sender channel event .sync).2.1 posting := by
  have stamps := stamps_broadcast numbered sender channel event member
  rw [if_pos ((granted_posted bus sender channel event posting member).mpr served), List.map_eq_singleton_iff] at stamps
  obtain ⟨delivery, only, stamp⟩ := stamps
  exact ⟨delivery, only, congrArg (·.2.1) stamp, congrArg (·.2.2) stamp⟩

theorem never_refused (refused : ¬ bus.Serves posting.target) :
    Never (bus.broadcast sender channel event .sync).2.1 posting := by
  have stamps := stamps_broadcast numbered sender channel event member
  rw [if_neg (refused ∘ (granted_posted bus sender channel event posting member).mp), List.map_eq_nil_iff,
    List.filter_eq_nil_iff] at stamps
  intro delivery arrived same
  exact stamps delivery arrived (decide_eq_true same)

end Dispatching

/-- A call that is waited for serves its targets one by one, and fails with the first that was not served in time. -/
theorem sync_broadcast (bus : Bus η) (sender : NodeId) (channel : Channel) (event : Event) :
    let nodes := (bus.targets channel sender).map (·.1)
    let call := bus.posted (.broadcast sender channel event .sync)
    let after := (bus.broadcast sender channel event .sync).1
    let arrived := (bus.broadcast sender channel event .sync).2.1
    let result := (bus.broadcast sender channel event .sync).2.2
    (after.sent = bus.sent ++ [⟨sender, channel, event, .sync, nodes⟩] ∧ nodes.Pairwise (compare · · = .lt) ∧
        ∀ node, node ∈ nodes ↔ bus.isRegistered channel node = true ∧ node ≠ sender) ∧
      (call.map Posting.target = nodes ∧
        ∀ posting ∈ call, bus.Names sender channel event .sync posting ∧
          (posting.granted = true ↔ bus.Serves posting.target)) ∧
      Waits bus after arrived ((call.filter Posting.granted).map Posting.stamp) ∧
      (bus.Numbered → ∀ posting ∈ call,
        (bus.Serves posting.target → Once arrived posting) ∧ (¬ bus.Serves posting.target → Never arrived posting) ∧
          ∀ operations, Never (after.run operations).2 posting) ∧
      ((result = .ok () ↔ ∀ node ∈ nodes, bus.Serves node) ∧
        ∀ before node rest, nodes = before ++ node :: rest → (∀ other ∈ before, bus.Serves other) → ¬ bus.Serves node →
          result = .error (if node ∈ bus.unreachable then .unreachable node else .timeout (.ofMillis bus.timeout))) ∧
      after.now = bus.now + ((nodes.filter (· ∉ bus.unreachable)).map fun node =>
        min (bus.delayOf node) bus.timeout).sum := by
  intro nodes call after arrived result
  have addressed : call.map Posting.target = nodes := targets_postings bus _ event .sync _
  refine ⟨⟨sent_broadcast bus sender channel event .sync, ?_, mem_target_nodes bus sender channel⟩, ⟨addressed, ?_⟩,
    waits_broadcast bus sender channel event, ?_, ⟨?_, ?_⟩, ?_⟩
  · rw [← addressed]
    exact ascending_targets bus sender channel event .sync
  · intro posting member
    exact ⟨names_posted bus sender channel event .sync posting member,
      granted_posted bus sender channel event posting member⟩
  · intro numbered posting member
    exact ⟨once_served numbered sender channel event member, never_refused numbered sender channel event member,
      never_later numbered sender channel event member⟩
  · exact send_all_ok_iff (bus.record _) event (bus.targets channel sender)
  · intro before node rest split earlier refused
    rw [← verdict_refused refused]
    exact send_all_refused (bus.record _) event (bus.targets channel sender) before rest node split earlier refused
  · rw [← sum_patience]
    exact now_send_all (bus.record _) event (bus.targets channel sender)

-- One node is too slow, one is cut off, one is just in time, and an earlier event is still on its way.
def crowded : List (Operation Nat) :=
  [.register "events" "a" 0, .register "events" "b" 1, .register "events" "c" 2, .register "events" "d" 3,
    .register "events" "e" 4, .register "news" "f" 5, .control (.setDelay "c" 7), .control (.setUnreachable "d" true),
    .control (.setDelay "e" 5), .broadcast "b" "events" (.single "g" "x") .async]

theorem crowded_call_waited_for :
    let bus := (({ timeout := 5 } : Bus Nat).run crowded).1
    let call := bus.broadcast "a" "events" (.single "g" "y") .sync
    bus.onWay ≠ [] ∧ call.2.2 = .error (.timeout (.ofMillis 5)) ∧ call.1.now = bus.now + 10 ∧
      ∃ slow prompt : Posting Nat, slow.target = "c" ∧ prompt.target = "e" ∧ Never call.2.1 slow ∧
        (∀ operations, Never (call.1.run operations).2 slow) ∧ Once call.2.1 prompt := by
  intro bus call
  obtain ⟨_, _, _, fate, ⟨_, first⟩, time⟩ := sync_broadcast bus "a" "events" (.single "g" "y")
  have nodes : (bus.targets "events" "a").map (·.1) = ["b"] ++ "c" :: ["d", "e"] := by decide +kernel
  have numbered : bus.Numbered := ((tracked_once_initial 5).run crowded).numbered
  have late : ¬ bus.Serves "c" := by decide +kernel
  obtain ⟨slow, entry, third⟩ :=
    exists_posted bus "a" "c" "events" (.single "g" "y") .sync 2 (by decide +kernel) (by decide)
  obtain ⟨prompt, other, fifth⟩ :=
    exists_posted bus "a" "e" "events" (.single "g" "y") .sync 4 (by decide +kernel) (by decide)
  refine ⟨by decide +kernel, first ["b"] "c" ["d", "e"] nodes (by decide +kernel) late, ?_, slow, prompt, third, fifth,
    (fate numbered slow entry).2.1 (third ▸ late), (fate numbered slow entry).2.2,
    (fate numbered prompt other).1 (fifth ▸ by decide +kernel)⟩
  rw [time, nodes]
  decide +kernel

end Bus

end Coherence
