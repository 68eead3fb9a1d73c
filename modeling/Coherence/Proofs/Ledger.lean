import Coherence.Bus.Operation

set_option autoImplicit false

namespace Coherence

open Std

variable {η : Type}

def Delivery.stamp (delivery : Delivery η) : Nat × η × Event := (delivery.id, delivery.handler, delivery.event)

namespace Bus

-- What no delivery changes: who takes part, what is in the way, and what was called for.
structure Setting (η : Type) where
  handlers : ExtTreeMap Channel (ExtTreeMap NodeId η)
  unreachable : ExtTreeSet NodeId
  delays : ExtTreeMap NodeId Nat
  timeout : Nat
  sent : List Call

def Setting.Reaches (setting : Setting η) (node : NodeId) : Prop := node ∉ setting.unreachable

def Setting.Prompt (setting : Setting η) (node : NodeId) : Prop := setting.delays[node]?.getD 0 ≤ setting.timeout

def setting (bus : Bus η) : Setting η := ⟨bus.handlers, bus.unreachable, bus.delays, bus.timeout, bus.sent⟩

theorem setting_advance (bus : Bus η) (millis : Nat) : (bus.advance millis).1.setting = bus.setting := by
  rw [advance]
  split <;> rfl

theorem setting_deliver (bus : Bus η) (delivery : Delivery η) : (bus.deliver delivery).1.setting = bus.setting := by
  rw [deliver]
  split
  · rfl
  · dsimp only
    split <;> exact setting_advance bus _

theorem setting_send_to (bus : Bus η) (event : Event) (mode : Mode) (target : NodeId × η) :
    (bus.sendTo event mode target).1.setting = bus.setting := by
  unfold sendTo
  dsimp only
  split
  · rfl
  · cases mode with
    | sync => exact setting_deliver _ _
    | async => rfl

theorem setting_send_all (bus : Bus η) (event : Event) (mode : Mode) (targets : List (NodeId × η)) :
    (bus.sendAll event mode targets).1.setting = bus.setting := by
  induction targets generalizing bus with
  | nil => rfl
  | cons target targets ih => exact (ih _).trans (setting_send_to bus event mode target)

theorem setting_broadcast (bus : Bus η) (sender : NodeId) (channel : Channel) (event : Event) (mode : Mode) :
    (bus.broadcast sender channel event mode).1.setting =
      (bus.record ⟨sender, channel, event, mode, (bus.targets channel sender).map (·.1)⟩).setting :=
  setting_send_all _ event mode _

theorem handlers_broadcast (bus : Bus η) (sender : NodeId) (channel : Channel) (event : Event) (mode : Mode) :
    (bus.broadcast sender channel event mode).1.handlers = bus.handlers :=
  congrArg Setting.handlers (setting_broadcast bus sender channel event mode)

theorem handlers_control (bus : Bus η) (control : Control) : (bus.control control).1.handlers = bus.handlers := by
  cases control with
  | setUnreachable node on => rfl
  | setDelay node millis => rfl
  | advance millis => exact congrArg Setting.handlers (setting_advance bus millis)
  | flush => rfl

def onWay (bus : Bus η) : List (Delivery η) := bus.queue ++ bus.timers.map (·.2)

theorem mem_targets (bus : Bus η) (channel : Channel) (sender node : NodeId) (handler : η) :
    (node, handler) ∈ bus.targets channel sender ↔ (bus.handlersOn channel)[node]? = some handler ∧ node ≠ sender := by
  simp [targets, ExtTreeMap.mem_toList_iff_getElem?_eq_some]

-- A call, given by its place in the log, and one of its targets, as things stand when the call is made.
structure Posting (η : Type) where
  call : Nat
  number : Nat
  target : NodeId
  handler : η
  event : Event
  mode : Mode
  reachable : Bool
  prompt : Bool

namespace Posting

def granted (posting : Posting η) : Bool := posting.reachable && (posting.mode = .async || posting.prompt)

def stamp (posting : Posting η) : Nat × η × Event := (posting.number, posting.handler, posting.event)

end Posting

def Setting.posting (setting : Setting η) (call : Nat) (event : Event) (mode : Mode) (entry : (NodeId × η) × Nat) :
    Posting η where
  call := call
  number := entry.2
  target := entry.1.1
  handler := entry.1.2
  event := event
  mode := mode
  reachable := entry.1.1 ∉ setting.unreachable
  prompt := setting.delays[entry.1.1]?.getD 0 ≤ setting.timeout

def postings (bus : Bus η) (call : Nat) (event : Event) (mode : Mode) (targets : List (NodeId × η)) :
    List (Posting η) :=
  (targets.zipIdx bus.numbered).map (bus.setting.posting call event mode)

def posted (bus : Bus η) : Operation η → List (Posting η)
  | .broadcast sender channel event mode => bus.postings bus.sent.length event mode (bus.targets channel sender)
  | _ => []

def ledger (bus : Bus η) : List (Operation η) → List (Posting η)
  | [] => []
  | operation :: operations => bus.posted operation ++ (bus.step operation).1.ledger operations

section Carrying

-- What was on its way and what was sent since has arrived or is on its way, each once and as it was sent.
def Carries (before after : Bus η) (arrived : List (Delivery η)) (postings : List (Posting η)) : Prop :=
  ((arrived ++ after.onWay).map Delivery.stamp).Perm
    (before.onWay.map Delivery.stamp ++ (postings.filter Posting.granted).map Posting.stamp)

theorem Carries.trans {first second third : Bus η} {here there : List (Delivery η)} {former latter : List (Posting η)}
    (earlier : Carries first second here former) (later : Carries second third there latter) :
    Carries first third (here ++ there) (former ++ latter) := by
  simp only [Carries, List.filter_append, List.map_append, List.append_assoc] at earlier later ⊢
  refine (List.Perm.append_left _ later).trans ?_
  simpa only [List.append_assoc] using List.Perm.append_right _ earlier

theorem carries_kept (before after : Bus η) (kept : after.onWay = before.onWay) : Carries before after [] [] := by
  simp [Carries, kept]

theorem perm_insert_timer (due : Nat) (delivery : Delivery η) (timers : List (Nat × Delivery η)) :
    (insertTimer due delivery timers).Perm ((due, delivery) :: timers) := by
  induction timers with
  | nil => exact .refl _
  | cons timer timers ih =>
      rw [insertTimer]
      split
      · exact (ih.cons timer).trans (.swap _ _ _)
      · exact .refl _

theorem stamps_run_queue (now : Nat) (timers : List (Nat × Delivery η)) (queue : List (Delivery η)) :
    (((runQueue now timers queue).2 ++ (runQueue now timers queue).1.map (·.2)).map Delivery.stamp).Perm
      ((queue ++ timers.map (·.2)).map Delivery.stamp) := by
  induction queue generalizing timers with
  | nil => exact .refl _
  | cons delivery queue ih =>
      rw [runQueue]
      split
      · refine (ih _).trans ?_
        -- A delivery that goes to sleep keeps its stamp and leaves the queue for the timers.
        have asleep := ((perm_insert_timer (now + delivery.delay) { delivery with delay := 0 } timers).map (·.2)).map
          Delivery.stamp
        rw [List.map_append, List.cons_append, List.map_cons, List.map_append]
        exact (List.Perm.append_left _ asleep).trans List.perm_middle
      · exact (ih timers).cons _

theorem perm_filters (time : Nat) (timers : List (Nat × Delivery η)) :
    (timers.filter (·.1 < time) ++ (timers.filter (·.1 = time) ++ timers.filter (time < ·.1))).Perm timers := by
  have late : (timers.filter fun timer => !decide (timer.1 < time)).filter (fun timer => !decide (timer.1 = time)) =
      timers.filter (time < ·.1) := by
    rw [List.filter_filter]
    apply List.filter_congr
    intro timer _
    by_cases early : timer.1 < time
    · simp [early, Nat.not_lt_of_lt early]
    · by_cases onTime : timer.1 = time
      · simp [onTime]
      · simp only [early, onTime, decide_false, Bool.not_false, Bool.and_self]
        exact (decide_eq_true (by omega)).symm
  have onTime : (timers.filter fun timer => !decide (timer.1 < time)).filter (fun timer => timer.1 = time) =
      timers.filter (·.1 = time) := by
    rw [List.filter_filter]
    apply List.filter_congr
    intro timer _
    by_cases same : timer.1 = time
    · simp [same]
    · simp [same]
  rw [← late, ← onTime]
  exact (List.Perm.append_left _ (List.filter_append_perm _ _)).trans (List.filter_append_perm _ timers)

theorem carries_wait_until (bus : Bus η) (time : Nat) : Carries bus (bus.waitUntil time).1 (bus.waitUntil time).2 [] := by
  have woken := ((perm_filters time (runQueue bus.now bus.timers bus.queue).1).map (·.2)).map Delivery.stamp
  have queued := stamps_run_queue bus.now bus.timers bus.queue
  rw [Carries, waitUntil, onWay, onWay, List.filter_nil, List.map_nil, List.append_nil]
  refine List.Perm.trans ?_ queued
  simp only [List.map_append, List.append_assoc] at woken ⊢
  exact List.Perm.append_left _ woken

theorem carries_advance (bus : Bus η) (millis : Nat) : Carries bus (bus.advance millis).1 (bus.advance millis).2 [] := by
  rw [advance]
  split
  · exact carries_kept bus bus rfl
  · exact carries_wait_until bus _

theorem carries_flush (bus : Bus η) : Carries bus bus.flush.1 bus.flush.2 [] := by
  have queued := stamps_run_queue bus.now bus.timers bus.queue
  rw [Carries, List.filter_nil, List.map_nil, List.append_nil, show bus.flush.1.onWay = [] from rfl, List.append_nil]
  exact queued

theorem carries_control (bus : Bus η) (control : Control) :
    Carries bus (bus.control control).1 (bus.control control).2 [] := by
  cases control with
  | setUnreachable node on => exact carries_kept bus _ rfl
  | setDelay node millis => exact carries_kept bus _ rfl
  | advance millis => exact carries_advance bus millis
  | flush => exact carries_flush bus

theorem carries_deliver (bus : Bus η) (delivery : Delivery η) (posting : Posting η)
    (stamp : posting.stamp = delivery.stamp) (granted : posting.granted = decide (delivery.delay ≤ bus.timeout)) :
    Carries bus (bus.deliver delivery).1 (bus.deliver delivery).2.1 [posting] := by
  have waited := carries_advance bus (min delivery.delay bus.timeout)
  have timeout : (bus.advance (min delivery.delay bus.timeout)).1.timeout = bus.timeout :=
    congrArg Setting.timeout (setting_advance bus _)
  rw [Carries, List.filter_nil, List.map_nil, List.append_nil] at waited
  rw [Carries, List.filter_cons, granted, List.filter_nil, deliver]
  by_cases now : delivery.delay = 0
  · rw [if_pos now, if_pos (by simp [now])]
    simp only [List.map_cons, List.map_nil, List.cons_append, List.nil_append, stamp]
    exact (List.perm_append_singleton _ _).symm
  · rw [if_neg now]
    dsimp only
    rw [timeout]
    by_cases prompt : delivery.delay ≤ bus.timeout
    · rw [if_pos prompt, if_pos (by simpa using prompt)]
      simp only [List.map_append, List.map_cons, List.map_nil, stamp, List.append_assoc] at waited ⊢
      refine (List.Perm.append_left _ List.perm_append_comm).trans ?_
      rw [← List.append_assoc]
      exact List.Perm.append_right _ waited
    · rw [if_neg prompt, if_neg (by simpa using prompt)]
      simpa using waited

theorem carries_spawn (bus : Bus η) (delivery : Delivery η) (posting : Posting η)
    (stamp : posting.stamp = delivery.stamp) (granted : posting.granted = true) :
    Carries bus (bus.spawn delivery) [] [posting] := by
  rw [Carries, List.filter_cons, if_pos granted, List.filter_nil, spawn, onWay, onWay]
  simp only [List.map_append, List.map_cons, List.map_nil, List.nil_append, stamp, List.append_assoc]
  exact List.Perm.append_left _ List.perm_append_comm

theorem carries_send_to (bus : Bus η) (call : Nat) (event : Event) (mode : Mode) (target : NodeId × η) :
    Carries bus (bus.sendTo event mode target).1 (bus.sendTo event mode target).2.1
      [bus.setting.posting call event mode (target, bus.numbered)] := by
  unfold sendTo
  dsimp only
  by_cases cut : target.1 ∈ bus.unreachable
  · rw [if_pos cut]
    have refused : (bus.setting.posting call event mode (target, bus.numbered)).granted = false := by
      simp [Posting.granted, Setting.posting, setting, cut]
    simp [Carries, refused, onWay]
  · rw [if_neg cut]
    cases mode with
    | sync =>
        refine carries_deliver { bus with numbered := bus.numbered + 1 } _ _ rfl ?_
        simp only [Posting.granted, Setting.posting, setting, cut]
        rfl
    | async =>
        refine carries_spawn { bus with numbered := bus.numbered + 1 } _ _ rfl ?_
        simp [Posting.granted, Setting.posting, setting, cut]

theorem numbered_advance (bus : Bus η) (millis : Nat) : (bus.advance millis).1.numbered = bus.numbered := by
  rw [advance]
  split <;> rfl

theorem numbered_send_to (bus : Bus η) (event : Event) (mode : Mode) (target : NodeId × η) :
    (bus.sendTo event mode target).1.numbered = bus.numbered + 1 := by
  unfold sendTo
  dsimp only
  split
  · rfl
  · cases mode with
    | sync =>
        dsimp only
        rw [deliver]
        split
        · rfl
        · dsimp only
          split <;> exact numbered_advance _ _
    | async => rfl

theorem carries_send_all (bus : Bus η) (call : Nat) (event : Event) (mode : Mode) (targets : List (NodeId × η)) :
    Carries bus (bus.sendAll event mode targets).1 (bus.sendAll event mode targets).2.1
      (bus.postings call event mode targets) := by
  induction targets generalizing bus with
  | nil => exact carries_kept bus bus rfl
  | cons target targets ih =>
      have rest := ih (bus.sendTo event mode target).1
      rw [postings, setting_send_to, numbered_send_to] at rest
      exact (carries_send_to bus call event mode target).trans rest

theorem step_register (bus : Bus η) (channel : Channel) (node : NodeId) (handler : η) :
    ∃ handlers, (bus.step (.register channel node handler)).1 = { bus with handlers } := by
  rw [step, register]
  by_cases taken : bus.isRegistered channel node
  · rw [if_pos taken]
    exact ⟨bus.handlers, rfl⟩
  · rw [if_neg taken]
    exact ⟨_, rfl⟩

theorem step_unregister (bus : Bus η) (channel : Channel) (node : NodeId) :
    ∃ handlers, (bus.step (.unregister channel node)).1 = { bus with handlers } := by
  rw [step, unregister]
  by_cases there : bus.isRegistered channel node
  · rw [if_pos there]
    exact ⟨_, rfl⟩
  · rw [if_neg there]
    exact ⟨bus.handlers, rfl⟩

theorem carries_step (bus : Bus η) (operation : Operation η) :
    Carries bus (bus.step operation).1 (bus.step operation).2.2 (bus.posted operation) := by
  cases operation with
  | control control => exact carries_control bus control
  | register channel node handler =>
      obtain ⟨handlers, registered⟩ := step_register bus channel node handler
      rw [registered]
      exact carries_kept bus _ rfl
  | unregister channel node =>
      obtain ⟨handlers, unregistered⟩ := step_unregister bus channel node
      rw [unregistered]
      exact carries_kept bus _ rfl
  | broadcast sender channel event mode => exact carries_send_all (bus.record _) _ event mode _

theorem carries_run (bus : Bus η) (operations : List (Operation η)) :
    Carries bus (bus.run operations).1 (bus.run operations).2 (bus.ledger operations) := by
  induction operations generalizing bus with
  | nil => exact carries_kept bus bus rfl
  | cons operation operations ih => exact (carries_step bus operation).trans (ih _)

end Carrying

section Numbers

theorem numbers_postings (bus : Bus η) (call : Nat) (event : Event) (mode : Mode) (targets : List (NodeId × η)) :
    (bus.postings call event mode targets).map Posting.number = List.range' bus.numbered targets.length := by
  rw [postings, List.map_map]
  exact List.zipIdx_map_snd bus.numbered targets

theorem numbered_send_all (bus : Bus η) (event : Event) (mode : Mode) (targets : List (NodeId × η)) :
    (bus.sendAll event mode targets).1.numbered = bus.numbered + targets.length := by
  induction targets generalizing bus with
  | nil => rfl
  | cons target targets ih =>
      have rest := ih (bus.sendTo event mode target).1
      rw [numbered_send_to] at rest
      rw [List.length_cons, Nat.add_comm targets.length, ← Nat.add_assoc]
      exact rest

theorem numbered_step (bus : Bus η) (operation : Operation η) :
    (bus.step operation).1.numbered = bus.numbered + (bus.posted operation).length := by
  cases operation with
  | control control =>
      cases control with
      | setUnreachable node on => rfl
      | setDelay node millis => rfl
      | advance millis => exact numbered_advance bus millis
      | flush => rfl
  | register channel node handler =>
      obtain ⟨handlers, registered⟩ := step_register bus channel node handler
      rw [registered]
      rfl
  | unregister channel node =>
      obtain ⟨handlers, unregistered⟩ := step_unregister bus channel node
      rw [unregistered]
      rfl
  | broadcast sender channel event mode =>
      rw [posted, postings, List.length_map, List.length_zipIdx]
      exact numbered_send_all (bus.record _) event mode _

theorem numbers_posted (bus : Bus η) (operation : Operation η) :
    (bus.posted operation).map Posting.number = List.range' bus.numbered (bus.posted operation).length := by
  cases operation with
  | control control => rfl
  | register channel node handler => rfl
  | unregister channel node => rfl
  | broadcast sender channel event mode =>
      rw [posted, numbers_postings, postings, List.length_map, List.length_zipIdx]

theorem numbers_ledger (bus : Bus η) (operations : List (Operation η)) :
    (bus.ledger operations).map Posting.number = List.range' bus.numbered (bus.ledger operations).length := by
  induction operations generalizing bus with
  | nil => rfl
  | cons operation operations ih =>
      rw [ledger, List.map_append, numbers_posted, ih, numbered_step, List.length_append, ← List.range'_append_1]

theorem numbers_distinct (bus : Bus η) (operations : List (Operation η)) :
    ((bus.ledger operations).map Posting.number).Nodup := by
  rw [numbers_ledger]
  exact List.nodup_range'

end Numbers

section Calls

theorem sent_control (bus : Bus η) (control : Control) : (bus.control control).1.sent = bus.sent := by
  cases control with
  | setUnreachable node on => rfl
  | setDelay node millis => rfl
  | advance millis => exact congrArg Setting.sent (setting_advance bus millis)
  | flush => rfl

theorem sent_broadcast (bus : Bus η) (sender : NodeId) (channel : Channel) (event : Event) (mode : Mode) :
    (bus.broadcast sender channel event mode).1.sent =
      bus.sent ++ [⟨sender, channel, event, mode, (bus.targets channel sender).map (·.1)⟩] :=
  congrArg Setting.sent (setting_broadcast bus sender channel event mode)

theorem length_sent_step (bus : Bus η) (operation : Operation η) :
    bus.sent.length ≤ (bus.step operation).1.sent.length := by
  cases operation with
  | control control => exact Nat.le_of_eq (congrArg List.length (sent_control bus control).symm)
  | register channel node handler =>
      obtain ⟨handlers, registered⟩ := step_register bus channel node handler
      exact Nat.le_of_eq (congrArg (fun after : Bus η => after.sent.length) registered).symm
  | unregister channel node =>
      obtain ⟨handlers, unregistered⟩ := step_unregister bus channel node
      exact Nat.le_of_eq (congrArg (fun after : Bus η => after.sent.length) unregistered).symm
  | broadcast sender channel event mode =>
      change _ ≤ (bus.broadcast sender channel event mode).1.sent.length
      rw [sent_broadcast, List.length_append]
      exact Nat.le_add_right _ _

theorem length_sent_run (bus : Bus η) (operations : List (Operation η)) :
    bus.sent.length ≤ (bus.run operations).1.sent.length := by
  induction operations generalizing bus with
  | nil => exact Nat.le_refl _
  | cons operation operations ih => exact Nat.le_trans (length_sent_step bus operation) (ih _)

theorem call_posted (bus : Bus η) (operation : Operation η) (posting : Posting η)
    (member : posting ∈ bus.posted operation) :
    posting.call = bus.sent.length ∧ bus.sent.length < (bus.step operation).1.sent.length := by
  cases operation with
  | control control => cases member
  | register channel node handler => cases member
  | unregister channel node => cases member
  | broadcast sender channel event mode =>
      obtain ⟨entry, _, rfl⟩ := List.mem_map.mp member
      refine ⟨rfl, ?_⟩
      change _ < (bus.broadcast sender channel event mode).1.sent.length
      rw [sent_broadcast, List.length_append]
      exact Nat.lt_succ_self _

theorem call_ledger (bus : Bus η) (operations : List (Operation η)) (posting : Posting η)
    (member : posting ∈ bus.ledger operations) :
    bus.sent.length ≤ posting.call ∧ posting.call < (bus.run operations).1.sent.length := by
  induction operations generalizing bus with
  | nil => cases member
  | cons operation operations ih =>
      cases List.mem_append.mp member with
      | inl here =>
          obtain ⟨place, logged⟩ := call_posted bus operation posting here
          rw [place]
          exact ⟨Nat.le_refl _, Nat.lt_of_lt_of_le logged (length_sent_run _ operations)⟩
      | inr later =>
          have bounds := ih _ later
          exact ⟨Nat.le_trans (length_sent_step bus operation) bounds.1, bounds.2⟩

theorem ledger_append (bus : Bus η) (first second : List (Operation η)) :
    bus.ledger (first ++ second) = bus.ledger first ++ (bus.run first).1.ledger second := by
  induction first generalizing bus with
  | nil => rfl
  | cons operation first ih => rw [List.cons_append, ledger, ih, ← List.append_assoc]; rfl

theorem mem_ledger_call (bus : Bus η) (before rest : List (Operation η)) (operation : Operation η) (posting : Posting η)
    (call : posting.call = (bus.run before).1.sent.length)
    (member : posting ∈ bus.ledger (before ++ operation :: rest))
    (logged : (bus.run before).1.sent.length < ((bus.run before).1.step operation).1.sent.length) :
    posting ∈ (bus.run before).1.posted operation := by
  rw [ledger_append, ledger, List.mem_append, List.mem_append] at member
  rcases member with earlier | here | later
  · have bound := (call_ledger bus before posting earlier).2
    omega
  · exact here
  · have bound := (call_ledger _ rest posting later).1
    omega

theorem targets_distinct (bus : Bus η) (channel : Channel) (sender : NodeId) :
    ((bus.targets channel sender).map (·.1)).Nodup := by
  refine List.Pairwise.map _ ?_ ((bus.handlersOn channel).distinct_keys_toList.filter _)
  intro first second different same
  exact different (Std.compare_eq_iff_eq.mpr same)

theorem targets_postings (bus : Bus η) (call : Nat) (event : Event) (mode : Mode) (targets : List (NodeId × η)) :
    (bus.postings call event mode targets).map Posting.target = targets.map (·.1) := by
  rw [postings, List.map_map]
  change (targets.zipIdx bus.numbered).map ((·.1) ∘ (·.1)) = _
  rw [← List.map_map, List.zipIdx_map_fst]

theorem pairs_distinct (bus : Bus η) (operations : List (Operation η)) :
    ((bus.ledger operations).map fun posting => (posting.call, posting.target)).Nodup := by
  induction operations generalizing bus with
  | nil => exact List.nodup_nil
  | cons operation operations ih =>
      rw [ledger, List.map_append, List.nodup_append]
      refine ⟨?_, ih _, ?_⟩
      · cases operation with
        | control control => exact List.nodup_nil
        | register channel node handler => exact List.nodup_nil
        | unregister channel node => exact List.nodup_nil
        | broadcast sender channel event mode =>
            have distinct := targets_distinct bus channel sender
            rw [← targets_postings bus bus.sent.length event mode] at distinct
            refine List.pairwise_map.mpr ((List.pairwise_map.mp distinct).imp ?_)
            intro first second different same
            exact different (Prod.ext_iff.mp same).2
      · intro first here second there same
        obtain ⟨posting, member, rfl⟩ := List.mem_map.mp here
        obtain ⟨other, later, rfl⟩ := List.mem_map.mp there
        obtain ⟨call, logged⟩ := call_posted bus operation posting member
        have bound := (call_ledger _ operations other later).1
        have calls : posting.call = other.call := (Prod.ext_iff.mp same).1
        omega

end Calls

end Bus

end Coherence
