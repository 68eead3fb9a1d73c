import Coherence.Hub.Session
import Coherence.Proofs.Sessions

set_option autoImplicit false

namespace Coherence

open Std

theorem View.is_primary_iff (view : View) (node : NodeId) :
    view.isPrimary node = true ↔ node ∈ view.members ∧ ∀ other ∈ view.members, (compare node other).isLE := by
  rw [isPrimary, decide_eq_true_iff, primary?, ← ExtTreeSet.min?_eq_head?_toList,
    ExtTreeSet.min?_eq_some_iff_mem_and_forall]

theorem View.primary_of_nonempty (view : View) (nonempty : view.members ≠ ∅) :
    ∃ primary, view.primary? = some primary := by
  rw [primary?, ← ExtTreeSet.min?_eq_head?_toList]
  exact Option.isSome_iff_exists.mp (ExtTreeSet.isSome_min?_iff_ne_empty.mpr nonempty)

namespace Hub

variable {ℓ : Type}

theorem subscribe_eq (hub : Hub ℓ) (node : NodeId) (listener : ℓ) :
    ∃ circles eras, (hub.subscribe node listener).1 = { hub with circles, eras } := by
  rw [subscribe]
  split <;> exact ⟨_, _, rfl⟩

theorem release_eq (hub : Hub ℓ) (handle : Handle) : ∃ circles, hub.release handle = { hub with circles } := by
  rw [release]
  split
  · split <;> exact ⟨_, rfl⟩
  · exact ⟨_, rfl⟩

namespace Session

def appointsMembers (session : Session) : List Operation → Bool
  | [] => true
  | .appoint (some node) :: operations =>
      session.hub.members.contains node && (session.step (.appoint (some node))).1.appointsMembers operations
  | operation :: operations => (session.step operation).1.appointsMembers operations

end Session

-- The node was cut off from the membership, and not connected again.
def Severed (operations : List Operation) (node : NodeId) : Prop :=
  Lasts (· = .setUnreachable node true) (· = .setUnreachable node false) operations

def Operation.revokes (node : NodeId) (operation : Operation) : Prop :=
  operation = .leave node ∨ ∃ other, operation = .appoint other

-- Who has joined and not left, who is cut off, and who was appointed last, unless that node has left.
structure Governed (operations : List Operation) (hub : Hub ℓ) : Prop where
  members : ∀ node, node ∈ hub.members ↔ Lasts (· = .join node) (· = .leave node) operations
  severed : ∀ node, node ∈ hub.unreachable ↔ Severed operations node
  appointed : ∀ node, hub.appointed = some node ↔ Lasts (· = .appoint (some node)) (·.revokes node) operations
  member : ∀ node, hub.appointed = some node → node ∈ hub.members

theorem governed_initial : Governed [] ({} : Hub ℓ) where
  members node := iff_of_false (by simp) not_lasts_nil
  severed node := iff_of_false (by simp) not_lasts_nil
  appointed node := iff_of_false (by simp) not_lasts_nil
  member node appointed := by cases appointed

namespace Governed

variable {operations : List Operation} {hub : Hub String}

theorem join (governed : Governed operations hub) (node : NodeId) :
    Governed (operations ++ [.join node]) (hub.join node) where
  members other := by
    rw [lasts_concat, ← governed.members]
    simp [Hub.join]
  severed other := by
    rw [Severed, lasts_concat, ← Severed, ← governed.severed]
    simp [Hub.join]
  appointed other := by
    rw [lasts_concat, ← governed.appointed]
    simp [Hub.join, Operation.revokes]
  member other appointed := ExtTreeSet.mem_insert.mpr (.inr (governed.member other appointed))

-- Whoever is appointed is a member, so that its leave is never one that nobody notices.
theorem leave (governed : Governed operations hub) (node : NodeId) :
    Governed (operations ++ [.leave node]) ((hub.leave? node).getD hub) := by
  have severed (other : NodeId) : other ∈ hub.unreachable ↔ Severed (operations ++ [.leave node]) other := by
    rw [Severed, lasts_concat, ← Severed, ← governed.severed]
    simp
  rw [leave?]
  by_cases present : node ∈ hub.members
  · rw [if_pos present, Option.getD_some]
    refine ⟨fun other => ?_, severed, fun other => ?_, fun other appointed => ?_⟩
    · rw [lasts_concat, ← governed.members]
      simp [and_comm]
    · rw [lasts_concat, ← governed.appointed]
      grind [Operation.revokes]
    · dsimp only at appointed ⊢
      split at appointed
      · cases appointed
      · rename_i kept
        refine ExtTreeSet.mem_erase.mpr ⟨?_, governed.member other appointed⟩
        intro same
        exact kept (Std.compare_eq_iff_eq.mp same ▸ appointed)
  · rw [if_neg present, Option.getD_none]
    refine ⟨fun other => ?_, severed, fun other => ?_, governed.member⟩
    · rw [lasts_concat, ← governed.members]
      grind
    · have apart : hub.appointed ≠ some node := fun appointed => present (governed.member node appointed)
      rw [lasts_concat, ← governed.appointed]
      grind [Operation.revokes]

theorem set_unreachable (governed : Governed operations hub) (node : NodeId) (on : Bool) :
    Governed (operations ++ [.setUnreachable node on]) (hub.setUnreachable node on) where
  members other := by
    rw [lasts_concat, ← governed.members]
    simp [Hub.setUnreachable]
  severed other := by
    rw [Severed, lasts_concat, ← Severed, ← governed.severed]
    cases on with
    | true => simp [Hub.setUnreachable]
    | false => simp [Hub.setUnreachable, and_comm]
  appointed other := by
    rw [lasts_concat, ← governed.appointed]
    simp [Hub.setUnreachable, Operation.revokes]
  member other appointed := governed.member other appointed

theorem appoint (governed : Governed operations hub) (node : Option NodeId)
    (lawful : ∀ other, node = some other → other ∈ hub.members) :
    Governed (operations ++ [.appoint node]) (hub.appoint node) where
  members other := by
    rw [lasts_concat, ← governed.members]
    simp [Hub.appoint]
  severed other := by
    rw [Severed, lasts_concat, ← Severed, ← governed.severed]
    simp [Hub.appoint]
  appointed other := by
    rw [lasts_concat]
    simp [Hub.appoint, Operation.revokes]
  member other appointed := lawful other appointed

theorem idle (governed : Governed operations hub) (operation : Operation) (circles : ExtTreeMap NodeId (Circle String))
    (eras : Nat) (joins : ∀ node, operation ≠ .join node) (leaves : ∀ node, operation ≠ .leave node)
    (severs : ∀ node on, operation ≠ .setUnreachable node on) (appoints : ∀ node, operation ≠ .appoint node) :
    Governed (operations ++ [operation]) { hub with circles, eras } where
  members other := by
    rw [lasts_concat, ← governed.members]
    simp [joins, leaves]
  severed other := by
    rw [Severed, lasts_concat, ← Severed, ← governed.severed]
    simp [severs]
  appointed other := by
    rw [lasts_concat, ← governed.appointed]
    simp [appoints, leaves, Operation.revokes]
  member := governed.member

theorem step (governed : Governed operations hub) (held : ExtTreeMap String Handle) (operation : Operation)
    (lawful : ∀ node, operation = .appoint (some node) → node ∈ hub.members) :
    Governed (operations ++ [operation]) ((Session.mk hub held).step operation).1.hub := by
  cases operation with
  | join node => exact governed.join node
  | leave node =>
      have left := governed.leave node
      rw [Session.step]
      cases here : hub.leave? node with
      | none =>
          rw [here] at left
          exact left
      | some after =>
          rw [here] at left
          exact left
  | setUnreachable node on => exact governed.set_unreachable node on
  | appoint node => exact governed.appoint node fun other same => lawful other (congrArg _ same)
  | subscribe node channel name =>
      obtain ⟨circles, eras, subscribed⟩ := hub.subscribe_eq node name
      rw [Session.step]
      dsimp only
      split
      · rename_i old _
        obtain ⟨fewer, released⟩ := (hub.subscribe node name).1.release_eq old
        rw [released, subscribed]
        exact governed.idle _ fewer eras (by simp) (by simp) (by simp) (by simp)
      · rw [subscribed]
        exact governed.idle _ circles eras (by simp) (by simp) (by simp) (by simp)
  | unsubscribe name =>
      rw [Session.step]
      split
      · exact governed.idle _ hub.circles hub.eras (by simp) (by simp) (by simp) (by simp)
      · rename_i handle _
        obtain ⟨circles, released⟩ := hub.release_eq handle
        dsimp only
        rw [released]
        exact governed.idle _ circles hub.eras (by simp) (by simp) (by simp) (by simp)
  | notify members => exact governed.idle _ hub.circles hub.eras (by simp) (by simp) (by simp) (by simp)

end Governed

theorem Session.appoints_members_cons (session : Session) (operation : Operation) (operations : List Operation)
    (lawful : session.appointsMembers (operation :: operations) = true) :
    (∀ node, operation = .appoint (some node) → node ∈ session.hub.members) ∧
      (session.step operation).1.appointsMembers operations = true := by
  rw [appointsMembers.eq_def] at lawful
  split at lawful
  · rename_i empty
    cases empty
  · rename_i node rest same
    cases same
    rw [Bool.and_eq_true, ExtTreeSet.contains_iff_mem] at lawful
    refine ⟨fun other same => ?_, lawful.2⟩
    cases same
    exact lawful.1
  · rename_i other rest unappointed same
    cases same
    exact ⟨fun node appoints => absurd appoints (unappointed node), lawful⟩

theorem governed_run (later : List Operation) (session : Session) (earlier : List Operation)
    (governed : Governed earlier session.hub) (lawful : session.appointsMembers later = true) :
    Governed (earlier ++ later) (session.run later).1.hub := by
  induction later generalizing session earlier with
  | nil => rwa [List.append_nil]
  | cons operation later ih =>
      obtain ⟨now, afterwards⟩ := session.appoints_members_cons operation later lawful
      rw [List.append_cons]
      exact ih _ _ (governed.step session.held operation now) afterwards

theorem is_primary_connected (hub : Hub ℓ) (node : NodeId) (channel : Channel) (connected : node ∉ hub.unreachable) :
    hub.isPrimary node channel = .ok (decide (hub.primary? = some node)) := by
  rw [isPrimary, currentMembers, if_neg connected]
  rfl

theorem is_primary_unappointed (hub : Hub ℓ) (node : NodeId) (channel : Channel) (unappointed : hub.appointed = none) :
    hub.isPrimary node channel = hub.isLowest node channel := by
  rw [isPrimary, isLowest, primary?, unappointed, Option.none_or, currentMembers]
  split <;> rfl

/-- As long as only members are appointed, the primary is a member on whom all who ask agree. -/
theorem primary_single_valued (operations : List Operation)
    (lawful : ({} : Session).appointsMembers operations = true) :
    let hub := (({} : Session).run operations).1.hub
    Governed operations hub ∧
      (hub.members ≠ ∅ → ∃ primary ∈ hub.members,
        (hub.appointed = some primary ∨
          hub.appointed = none ∧ ∀ other ∈ hub.members, (compare primary other).isLE) ∧
        ∀ node channel, ¬ Severed operations node → hub.isPrimary node channel = .ok (decide (node = primary))) ∧
      (hub.appointed = none → ∀ node channel,
        hub.isPrimary node channel = hub.isLowest node channel ∧
          (¬ Severed operations node → hub.isPrimary node channel = .ok (hub.view.isPrimary node))) := by
  intro hub
  have governed : Governed operations hub := governed_run operations {} [] governed_initial lawful
  have connected (node : NodeId) (unsevered : ¬ Severed operations node) : node ∉ hub.unreachable :=
    fun cut => unsevered ((governed.severed node).mp cut)
  have told (primary : NodeId) (chosen : hub.primary? = some primary) (node : NodeId) (channel : Channel)
      (unsevered : ¬ Severed operations node) : hub.isPrimary node channel = .ok (decide (node = primary)) := by
    rw [hub.is_primary_connected node channel (connected node unsevered), chosen]
    simp only [Option.some.injEq, eq_comm]
  refine ⟨governed, fun nonempty => ?_, fun unappointed node channel => ⟨?_, fun unsevered => ?_⟩⟩
  · cases named : hub.appointed with
    | some primary =>
        refine ⟨primary, governed.member primary named, .inl rfl, told primary ?_⟩
        rw [primary?, named, Option.some_or]
    | none =>
        obtain ⟨primary, lowest⟩ := hub.view.primary_of_nonempty nonempty
        obtain ⟨member, least⟩ := (hub.view.is_primary_iff primary).mp (decide_eq_true lowest)
        refine ⟨primary, member, .inr ⟨rfl, least⟩, told primary ?_⟩
        rw [primary?, named, Option.none_or, lowest]
  · exact hub.is_primary_unappointed node channel unappointed
  · rw [hub.is_primary_connected node channel (connected node unsevered), primary?, unappointed, Option.none_or]
    rfl

-- The second node is appointed, and keeps its office while a stranger leaves and a lower one comes.
def inOffice : List Operation := [.join "b", .join "c", .appoint (some "b"), .leave "z", .join "a"]

def outOfOffice : List Operation :=
  inOffice ++ [.setUnreachable "c" true, .leave "b", .subscribe "b" "" "listener", .join "b", .setUnreachable "b" true,
    .setUnreachable "b" false]

theorem office_passes_on :
    let before := (({} : Session).run inOffice).1.hub
    let after := (({} : Session).run outOfOffice).1.hub
    (∃ primary ∈ before.members, before.appointed = some primary ∧
      before.isPrimary "a" "" = .ok (decide ("a" = primary)) ∧ before.isPrimary "b" "" = .ok (decide ("b" = primary))) ∧
    after.isPrimary "a" "" = .ok true ∧ after.isPrimary "b" "" = .ok false ∧
      after.isPrimary "c" "" = after.isLowest "c" "" := by
  intro before after
  obtain ⟨ruled, single, _⟩ := primary_single_valued inOffice (by decide)
  obtain ⟨governed, _, alike⟩ := primary_single_valued outOfOffice (by decide)
  have connected (node : NodeId) (reached : node ∉ before.unreachable) : ¬ Severed inOffice node :=
    fun severed => reached ((ruled.severed node).mpr severed)
  have vacant : after.appointed = none := by decide
  have answered (node : NodeId) (reached : node ∉ after.unreachable) :
      after.isPrimary node "" = .ok (after.view.isPrimary node) :=
    (alike vacant node "").2 fun severed => reached ((governed.severed node).mpr severed)
  refine ⟨?_, (answered "a" (by decide)).trans (congrArg _ (by decide)),
    (answered "b" (by decide)).trans (congrArg _ (by decide)), (alike vacant "c" "").1⟩
  have present : "a" ∈ before.members := by decide
  have nonempty : before.members ≠ ∅ := fun empty => ExtTreeSet.not_mem_empty (empty ▸ present)
  obtain ⟨primary, member, chosen, told⟩ := single nonempty
  refine ⟨primary, member, ?_, told "a" "" (connected "a" (by decide)), told "b" "" (connected "b" (by decide))⟩
  exact chosen.resolve_right fun unset => absurd unset.1 (by decide)

end Hub

end Coherence
