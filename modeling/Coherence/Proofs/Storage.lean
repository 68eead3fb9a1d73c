import Coherence.Proofs.Listening
import Coherence.Proofs.Sessions
import Coherence.Proofs.Writing
import Coherence.Store.Session

set_option autoImplicit false

namespace Coherence

open Std

namespace Store

structure Transaction where
  operation : Operation
  reply : Reply

-- What became of a key: a value, which may be absent, or nothing if it was removed.
structure Change where
  key : String
  value : Option (Option Bytes)

def Change.ofMutation : Mutation → Change
  | .set key value => ⟨key, some (some value)⟩
  | .remove key => ⟨key, none⟩

def Operation.issued? (node : NodeId) : Operation → Option Issued
  | .write author _ mutation => if author = node then some mutation.issued else none
  | _ => none

namespace Transaction

-- The change that was made in a channel. A write that was refused made none.
def change? (channel : Channel) : Transaction → Option Change
  | ⟨.put place key value, _⟩ => if place = channel then some ⟨key, some value⟩ else none
  | ⟨.write _ place mutation, .done⟩ => if place = channel then some (.ofMutation mutation) else none
  | _ => none

def admitted? : Transaction → Option (Channel × String)
  | ⟨.subscribe _ channel name, .subscribed _⟩ => some (channel, name)
  | _ => none

def dismisses (name : String) (transaction : Transaction) : Prop :=
  transaction.operation = .unsubscribe name ∨ ∃ channel, transaction.admitted? = some (channel, name)

end Transaction

def lookup (record : List Transaction) (channel : Channel) (key : String) : Option (Option Bytes) :=
  ((record.filterMap (·.change? channel)).filter (·.key = key)).getLast?.bind (·.value)

-- The change is one that shows: a value was written, or a key that was there was removed.
def Transaction.effective (record : List Transaction) (channel : Channel) (transaction : Transaction) : Bool :=
  (transaction.change? channel).any fun change => change.value.isSome || (lookup record channel change.key).isSome

def admissions (record : List Transaction) (channel : Channel) : Nat :=
  record.countP (·.admitted?.any (·.1 = channel))

def Severed (record : List Transaction) (node : NodeId) : Prop :=
  Lasts (·.operation = .setUnreachable node true) (·.operation = .setUnreachable node false) record

def Refused (record : List Transaction) (node : NodeId) (key : String) : Prop :=
  Severed record node ∨ .rejectKey node key ∈ record.map (·.operation)

-- The listener was admitted to the channel. It has not left since, nor moved to another one.
def Subscribed (record : List Transaction) (name : String) (channel : Channel) : Prop :=
  Lasts (·.admitted? = some (channel, name)) (·.dismisses name) record

namespace Session

def transact (session : Session) (operation : Operation) : Transaction := ⟨operation, (session.step operation).2.1⟩

def record (session : Session) : List Operation → List Transaction
  | [] => []
  | operation :: operations => session.transact operation :: (session.step operation).1.record operations

end Session

theorem lookup_concat (record : List Transaction) (transaction : Transaction) (channel : Channel) (key : String) :
    lookup (record ++ [transaction]) channel key =
      match transaction.change? channel with
      | none => lookup record channel key
      | some change => if change.key = key then change.value else lookup record channel key := by
  rw [lookup, List.filterMap_append, List.filter_append]
  cases changed : transaction.change? channel with
  | none => simp [changed, lookup]
  | some change =>
      by_cases same : change.key = key
      · simp [changed, same]
      · simp [changed, same, lookup]

theorem Change.found_apply (mutation : Mutation) (entries : Entries) (key : String) :
    (mutation.apply entries)[key]? =
      if (Change.ofMutation mutation).key = key then (Change.ofMutation mutation).value else entries[key]? := by
  cases mutation with
  | set own value => by_cases same : own = key <;> simp [Mutation.apply, ofMutation, ExtTreeMap.getElem?_insert, same]
  | remove own => by_cases same : own = key <;> simp [Mutation.apply, ofMutation, ExtTreeMap.getElem?_erase, same]

def Kept (record : List Transaction) (store : Store String) : Prop :=
  ∀ (channel : Channel) (key : String), (store.entries channel)[key]? = lookup record channel key

namespace Session

variable (session : Session)

theorem step_refused (node : NodeId) (channel : Channel) (mutation : Mutation) (fault : Fault)
    (why : (session.replica node).permit mutation.key = .error fault) :
    session.step (.write node channel mutation) =
      (session.setReplica ((session.replica node).tried mutation), .fault fault, []) := by
  rw [step, Replica.write_refused _ _ _ _ _ why]
  rfl

theorem step_permitted (node : NodeId) (channel : Channel) (mutation : Mutation)
    (permitted : (session.replica node).permit mutation.key = .ok ()) :
    session.step (.write node channel mutation) =
      ({ session.setReplica ((session.replica node).tried mutation) with store := session.store.mutate channel mutation },
        .done, if mutation.effective (session.store.entries channel) then session.store.audience channel else []) := by
  rw [step, Replica.write_permitted _ _ _ _ permitted]

def enlist (channel : Channel) (name : String) : Session :=
  let (store, handle) := session.store.subscribe channel name
  { session with
    store := match session.held[name]? with
      | some old => store.release old
      | none => store
    held := session.held.insert name handle }

theorem step_turned_away (node : NodeId) (channel : Channel) (name : String) (fault : Fault)
    (why : (session.replica node).reach = .error fault) :
    session.step (.subscribe node channel name) = (session, .fault fault, []) := by
  rw [step, Replica.subscribe, why]
  rfl

theorem step_admitted (node : NodeId) (channel : Channel) (name : String)
    (reachable : (session.replica node).reach = .ok ()) :
    session.step (.subscribe node channel name) =
      (session.enlist channel name, .subscribed ((session.replica node).label channel), []) := by
  rw [step, Replica.subscribe, reachable]
  rfl

theorem replica_set_replica (replica : Replica) (node : NodeId) :
    (session.setReplica replica).replica node = if replica.node = node then replica else session.replica node := by
  rw [setReplica, Session.replica]
  dsimp only
  rw [ExtTreeMap.getElem?_insert]
  simp only [Std.compare_eq_iff_eq]
  split <;> rfl

end Session

section Keeping

variable {record : List Transaction}

theorem Kept.unchanged {store after : Store String} (kept : Kept record store) (transaction : Transaction)
    (same : after.channels = store.channels) (unchanged : ∀ channel, transaction.change? channel = none) :
    Kept (record ++ [transaction]) after := by
  intro channel key
  rw [lookup_concat, unchanged, Store.entries, same]
  exact kept channel key

theorem Kept.changed {store after : Store String} (kept : Kept record store) (transaction : Transaction) (place : Channel)
    (change : Change) (changes : ∀ channel, transaction.change? channel = if place = channel then some change else none)
    (entries : ∀ (channel : Channel) (key : String), (after.entries channel)[key]? =
      if place = channel ∧ change.key = key then change.value else (store.entries channel)[key]?) :
    Kept (record ++ [transaction]) after := by
  intro channel key
  rw [lookup_concat, changes, entries, kept channel key]
  by_cases here : place = channel
  · simp [here]
  · simp [here]

theorem Kept.step {session : Session} (kept : Kept record session.store) (operation : Operation) :
    Kept (record ++ [session.transact operation]) (session.step operation).1.store := by
  cases operation with
  | put place key value =>
      refine kept.changed _ place ⟨key, some value⟩ (fun channel => rfl) fun channel other => ?_
      by_cases here : place = channel
      · subst here
        by_cases same : key = other
        · simp [Session.step, Store.entries_put, same]
        · simp [Session.step, Store.entries_put, ExtTreeMap.getElem?_insert, same]
      · simp [Session.step, Store.entries_put_other _ place channel key value here, here]
  | write node place mutation =>
      cases permit : (session.replica node).permit mutation.key with
      | error fault =>
          rw [Session.transact, session.step_refused node place mutation fault permit]
          exact kept.unchanged _ rfl fun channel => rfl
      | ok =>
          rw [Session.transact, session.step_permitted node place mutation permit]
          refine kept.changed _ place (.ofMutation mutation) (fun channel => rfl) fun channel key => ?_
          dsimp only
          rw [Store.entries_mutate]
          by_cases here : place = channel
          · simp [here, Change.found_apply]
          · simp [here]
  | setUnreachable node on => exact kept.unchanged _ rfl fun channel => rfl
  | rejectKey node key => exact kept.unchanged _ rfl fun channel => rfl
  | subscribe node place name =>
      cases reach : (session.replica node).reach with
      | error fault =>
          rw [session.step_turned_away node place name fault reach]
          exact kept.unchanged _ rfl fun channel => rfl
      | ok =>
          rw [session.step_admitted node place name reach]
          refine kept.unchanged _ ?_ fun channel => rfl
          rw [Session.enlist]
          dsimp only
          split <;> rfl
  | unsubscribe name =>
      refine kept.unchanged _ ?_ fun channel => rfl
      rw [Session.step]
      split <;> rfl

end Keeping

def Operation.upon (node : NodeId) (replica : Replica) : Operation → Replica
  | .write author _ mutation => if author = node then replica.tried mutation else replica
  | .setUnreachable other on => if other = node then { replica with unreachable := on } else replica
  | .rejectKey other key => if other = node then { replica with rejected := replica.rejected.insert key } else replica
  | _ => replica

structure Remembered (record : List Transaction) (node : NodeId) (replica : Replica) : Prop where
  owner : replica.node = node
  severed : replica.unreachable = true ↔ Severed record node
  rejected : ∀ key, key ∈ replica.rejected ↔ .rejectKey node key ∈ record.map (·.operation)
  issued : replica.issued = record.filterMap (·.operation.issued? node)

theorem remembered_initial (node : NodeId) : Remembered [] node { node } where
  owner := rfl
  severed := iff_of_false (by simp) not_lasts_nil
  rejected key := by simp
  issued := rfl

section Remembering

variable {record : List Transaction} {node : NodeId} {replica : Replica}

theorem Remembered.upon (remembered : Remembered record node replica) (transaction : Transaction) :
    Remembered (record ++ [transaction]) node (transaction.operation.upon node replica) where
  owner := by
    rw [← remembered.owner]
    cases transaction.operation <;> grind [Operation.upon, Replica.tried]
  severed := by
    rw [Severed, lasts_concat, ← Severed, ← remembered.severed]
    cases transaction.operation <;> grind [Operation.upon, Replica.tried]
  rejected key := by
    rw [List.map_append, List.mem_append, ← remembered.rejected, List.map_singleton, List.mem_singleton]
    cases transaction.operation <;> grind [Operation.upon, Replica.tried]
  issued := by
    rw [List.filterMap_append, ← remembered.issued]
    cases operation : transaction.operation <;> grind [Operation.upon, Replica.tried, Operation.issued?]

theorem Remembered.reach_ok_iff (remembered : Remembered record node replica) :
    replica.reach = .ok () ↔ ¬ Severed record node := by
  rw [← remembered.severed, Replica.reach]
  by_cases cut : replica.unreachable = true
  · simp [cut]
  · simp [cut]

theorem Remembered.permit_ok_iff (remembered : Remembered record node replica) (key : String) :
    replica.permit key = .ok () ↔ ¬ Refused record node key := by
  rw [Refused, not_or, ← remembered.reach_ok_iff, ← remembered.rejected, Replica.permit]
  cases replica.reach with
  | error fault => simp
  | ok => by_cases barred : key ∈ replica.rejected <;> simp [barred]

end Remembering

theorem replica_step (session : Session) (owned : ∀ node, (session.replica node).node = node) (operation : Operation)
    (node : NodeId) : (session.step operation).1.replica node = operation.upon node (session.replica node) := by
  cases operation with
  | put channel key value => rfl
  | write author channel mutation =>
      have same : (session.step (.write author channel mutation)).1.replica node =
          (session.setReplica ((session.replica author).tried mutation)).replica node := by
        cases permit : (session.replica author).permit mutation.key with
        | error fault => rw [session.step_refused author channel mutation fault permit]
        | ok =>
            rw [session.step_permitted author channel mutation permit]
            rfl
      rw [same, Session.replica_set_replica]
      grind [Operation.upon, Replica.tried]
  | setUnreachable other on =>
      rw [Session.step, Session.replica_set_replica]
      grind [Operation.upon]
  | rejectKey other key =>
      rw [Session.step, Session.replica_set_replica]
      grind [Operation.upon]
  | subscribe other channel name =>
      cases reach : (session.replica other).reach with
      | error fault =>
          rw [session.step_turned_away other channel name fault reach]
          rfl
      | ok =>
          rw [session.step_admitted other channel name reach]
          rfl
  | unsubscribe name =>
      rw [Session.step]
      split <;> rfl

section Admissions

variable (record : List Transaction) (transaction : Transaction) (place : Channel)

theorem admissions_admitted (channel : Channel) (name : String) (admits : transaction.admitted? = some (channel, name)) :
    admissions (record ++ [transaction]) place = admissions record place + if channel = place then 1 else 0 := by
  simp [admissions, admits]

theorem admissions_idle (admits : transaction.admitted? = none) :
    admissions (record ++ [transaction]) place = admissions record place := by
  simp [admissions, admits]

end Admissions

-- Whoever was admitted and not dismissed holds a place, as long as the channel has numbers left.
structure Enlisted (record : List Transaction) (session : Session) : Prop where
  holds : ∀ name channel, (∃ number, session.held[name]? = some ⟨channel, number⟩) ↔ Subscribed record name channel
  numbered : ∀ channel, admissions record channel ≤ UInt64.size →
    (session.store.listenersOf channel).Numbered (admissions record channel)
  lists : ∀ (handle : Handle) (name : String), admissions record handle.channel ≤ UInt64.size →
    (session.store.Lists handle name ↔ session.held[name]? = some handle)

theorem enlisted_initial : Enlisted [] {} where
  holds name channel := iff_of_false (by simp) not_lasts_nil
  numbered channel _ := ⟨by simp [listenersOf, admissions], by simp [listenersOf]⟩
  lists handle name _ := by simp [Lists, listenersOf]

namespace Enlisted

variable {record : List Transaction} {session : Session}

theorem idle (enlisted : Enlisted record session) (transaction : Transaction) (after : Session)
    (listeners : after.store.listeners = session.store.listeners) (held : after.held = session.held)
    (admits : transaction.admitted? = none)
    (absent : ∀ name, transaction.operation = .unsubscribe name → session.held[name]? = none) :
    Enlisted (record ++ [transaction]) after where
  holds name channel := by
    rw [held, Subscribed, lasts_concat, ← Subscribed, ← enlisted.holds]
    by_cases leaves : transaction.operation = .unsubscribe name
    · simp [absent name leaves, admits]
    · simp [Transaction.dismisses, admits, leaves]
  numbered channel := by
    rw [admissions_idle record transaction channel admits, listenersOf, listeners]
    exact enlisted.numbered channel
  lists handle name := by
    rw [admissions_idle record transaction handle.channel admits, Lists, listenersOf, listeners, held]
    exact enlisted.lists handle name

theorem sole (enlisted : Enlisted record session) (handle : Handle) (name other : String)
    (room : admissions record handle.channel ≤ UInt64.size) (held : session.held[name]? = some handle)
    (also : session.held[other]? = some handle) : name = other := by
  rw [← enlisted.lists handle name room] at held
  rw [← enlisted.lists handle other room] at also
  exact Option.some.inj (held.symm.trans also)

theorem dismiss (enlisted : Enlisted record session) (transaction : Transaction) (name : String) (place : Handle)
    (held : session.held[name]? = some place) (operation : transaction.operation = .unsubscribe name)
    (admits : transaction.admitted? = none) :
    Enlisted (record ++ [transaction])
      { session with store := session.store.release place, held := session.held.erase name } where
  holds other channel := by
    rw [Subscribed, lasts_concat, ← Subscribed, ← enlisted.holds]
    by_cases same : name = other
    · simp [Transaction.dismisses, admits, operation, same]
    · simp [Transaction.dismisses, admits, operation, same, ExtTreeMap.getElem?_erase]
  numbered channel room := by
    rw [admissions_idle record transaction channel admits] at room ⊢
    dsimp only
    rw [listeners_of_release]
    split
    · exact (enlisted.numbered channel room).remove place.id
    · exact enlisted.numbered channel room
  lists handle other room := by
    rw [admissions_idle record transaction handle.channel admits] at room
    dsimp only
    rw [lists_release, enlisted.lists handle other room]
    by_cases same : name = other
    · subst same
      rw [held]
      simp [eq_comm]
    · rw [ExtTreeMap.getElem?_erase, if_neg fun equal => same (Std.compare_eq_iff_eq.mp equal)]
      refine and_iff_left_of_imp fun theirs => ?_
      rintro rfl
      exact same (enlisted.sole handle name other room held theirs)

theorem vacant (enlisted : Enlisted record session) (channel : Channel) (name other : String)
    (room : admissions record channel < UInt64.size) :
    session.held[other]? ≠ some (session.store.subscribe channel name).2 := by
  intro held
  rw [← enlisted.lists _ other (Nat.le_of_lt room)] at held
  have taken := ExtTreeMap.mem_iff_isSome_getElem?.mpr (Option.isSome_of_eq_some held)
  exact (enlisted.numbered channel (Nat.le_of_lt room)).fresh room taken

theorem enlist (enlisted : Enlisted record session) (transaction : Transaction) (name : String) (channel : Channel)
    (admits : transaction.admitted? = some (channel, name)) (stays : ∀ other, transaction.operation ≠ .unsubscribe other) :
    Enlisted (record ++ [transaction]) (session.enlist channel name) where
  holds other place := by
    rw [Subscribed, lasts_concat, ← Subscribed, ← enlisted.holds, Session.enlist]
    dsimp only
    by_cases same : name = other
    · subst same
      simp [Transaction.dismisses, admits, stays, subscribe]
    · simp [Transaction.dismisses, admits, stays, same, ExtTreeMap.getElem?_insert]
  numbered place room := by
    rw [admissions_admitted record transaction place channel name admits] at room ⊢
    have after : ((session.store.subscribe channel name).1.listenersOf place).Numbered
        (admissions record place + if channel = place then 1 else 0) := by
      rw [listeners_of_subscribe]
      split at room
      · rename_i here
        subst here
        rw [if_pos rfl, if_pos rfl]
        exact (enlisted.numbered channel (Nat.le_of_succ_le room)).add name room
      · rename_i elsewhere
        rw [if_neg elsewhere, if_neg elsewhere]
        exact enlisted.numbered place room
    rw [Session.enlist]
    dsimp only
    split
    · rw [listeners_of_release]
      split
      · exact after.remove _
      · exact after
    · exact after
  lists handle other room := by
    rw [admissions_admitted record transaction handle.channel channel name admits] at room
    have few : admissions record handle.channel ≤ UInt64.size := Nat.le_of_add_right_le room
    have vacant (free : (session.store.subscribe channel name).2 = handle) (anyone : String) :
        session.held[anyone]? ≠ some handle := by
      subst free
      rw [if_pos (show channel = (session.store.subscribe channel name).2.channel from rfl)] at room
      exact enlisted.vacant channel name anyone room
    -- The new place is taken before the old one is given up, so that they are not the same.
    have listed := session.store.lists_subscribe channel name other handle
    rw [enlisted.lists handle other few] at listed
    have sole := enlisted.sole handle name other few
    rw [Session.enlist]
    dsimp only
    cases own : session.held[name]? with
    | none => grind
    | some old =>
        dsimp only
        rw [lists_release, listed]
        grind

theorem step (enlisted : Enlisted record session) (operation : Operation) :
    Enlisted (record ++ [session.transact operation]) (session.step operation).1 := by
  cases operation with
  | put channel key value => exact enlisted.idle _ _ rfl rfl rfl (by simp [Session.transact])
  | write node channel mutation =>
      cases permit : (session.replica node).permit mutation.key with
      | error fault =>
          rw [Session.transact, session.step_refused node channel mutation fault permit]
          exact enlisted.idle _ _ rfl rfl rfl (by simp)
      | ok =>
          rw [Session.transact, session.step_permitted node channel mutation permit]
          exact enlisted.idle _ _ (session.store.listeners_mutate channel mutation) rfl rfl (by simp)
  | setUnreachable node on => exact enlisted.idle _ _ rfl rfl rfl (by simp [Session.transact])
  | rejectKey node key => exact enlisted.idle _ _ rfl rfl rfl (by simp [Session.transact])
  | subscribe node channel name =>
      cases reach : (session.replica node).reach with
      | error fault =>
          rw [Session.transact, session.step_turned_away node channel name fault reach]
          exact enlisted.idle _ _ rfl rfl rfl (by simp)
      | ok =>
          rw [Session.transact, session.step_admitted node channel name reach]
          exact enlisted.enlist _ name channel rfl (by simp)
  | unsubscribe name =>
      cases held : session.held[name]? with
      | none =>
          rw [Session.transact, Session.step, held]
          refine enlisted.idle _ _ rfl rfl rfl fun other same => ?_
          cases same
          exact held
      | some handle =>
          rw [Session.transact, Session.step, held]
          exact enlisted.dismiss _ name handle held rfl rfl

end Enlisted

structure Recorded (record : List Transaction) (session : Session) : Prop where
  kept : Kept record session.store
  remembered : ∀ node, Remembered record node (session.replica node)
  enlisted : Enlisted record session

theorem recorded_initial : Recorded [] {} where
  kept channel key := by simp [entries, lookup]
  remembered := remembered_initial
  enlisted := enlisted_initial

theorem Recorded.step {record : List Transaction} {session : Session} (recorded : Recorded record session)
    (operation : Operation) : Recorded (record ++ [session.transact operation]) (session.step operation).1 where
  kept := recorded.kept.step operation
  remembered node := by
    rw [replica_step session (fun node => (recorded.remembered node).owner)]
    exact (recorded.remembered node).upon (session.transact operation)
  enlisted := recorded.enlisted.step operation

theorem Recorded.run {record : List Transaction} {session : Session} (recorded : Recorded record session)
    (operations : List Operation) : Recorded (record ++ session.record operations) (session.run operations).1 := by
  induction operations generalizing record session with
  | nil => rwa [Session.record, List.append_nil]
  | cons operation operations ih =>
      rw [Session.record, List.append_cons]
      exact ih (recorded.step operation)

theorem Session.run_concat (session : Session) (operations : List Operation) (operation : Operation) :
    session.run (operations ++ [operation]) =
      (((session.run operations).1.step operation).1,
        (session.run operations).2 ++ ((session.run operations).1.step operation).2.2) := by
  induction operations generalizing session with
  | nil => simp [run]
  | cons first operations ih => simp [run, ih]

theorem Session.operations_record (session : Session) (operations : List Operation) :
    (session.record operations).map (·.operation) = operations := by
  induction operations generalizing session with
  | nil => rfl
  | cons operation operations ih => exact congrArg _ (ih _)

section Telling

variable {record : List Transaction} {session : Session}

theorem Enlisted.audience (enlisted : Enlisted record session) (channel : Channel)
    (room : admissions record channel ≤ UInt64.size) :
    (session.store.audience channel).Nodup ∧
      ∀ name, name ∈ session.store.audience channel ↔ Subscribed record name channel := by
  have lists (number : UInt64) (name : String) := enlisted.lists ⟨channel, number⟩ name room
  constructor
  · apply Listeners.to_list_nodup
    intro first second name here there
    have same := ((lists first name).mp here).symm.trans ((lists second name).mp there)
    exact congrArg Handle.id (Option.some.inj same)
  · intro name
    rw [← enlisted.holds, Store.audience, Listeners.mem_to_list]
    exact exists_congr fun number => lists number name

theorem effective_addressed (record : List Transaction) (transaction : Transaction) (place channel : Channel)
    (change : Change) (changes : ∀ channel, transaction.change? channel = if place = channel then some change else none) :
    transaction.effective record channel = true ↔
      place = channel ∧ (change.value.isSome || (lookup record place change.key).isSome) = true := by
  rw [Transaction.effective, changes]
  by_cases here : place = channel
  · simp [here]
  · simp [here]

theorem Kept.effective_mutation {store : Store String} (kept : Kept record store) (channel : Channel) (mutation : Mutation) :
    ((Change.ofMutation mutation).value.isSome || (lookup record channel (Change.ofMutation mutation).key).isSome) =
      mutation.effective (store.entries channel) := by
  rw [← kept channel]
  cases mutation with
  | set key value => rfl
  | remove key => simp [Change.ofMutation, Mutation.effective]

theorem Kept.called (kept : Kept record session.store) (operation : Operation) :
    (∃ place, (∀ channel, (session.transact operation).effective record channel = true → place = channel) ∧
      (session.transact operation).effective record place = true ∧
      (session.step operation).2.2 = session.store.audience place) ∨
    (∀ channel, (session.transact operation).effective record channel = false) ∧ (session.step operation).2.2 = [] := by
  cases operation with
  | put place key value =>
      have effective (channel : Channel) := effective_addressed record
        (session.transact (.put place key value)) place channel ⟨key, some value⟩ fun channel => rfl
      exact .inl ⟨place, fun channel shows => ((effective channel).mp shows).1, (effective place).mpr ⟨rfl, rfl⟩, rfl⟩
  | write node place mutation =>
      cases permit : (session.replica node).permit mutation.key with
      | error fault =>
          rw [Session.transact, session.step_refused node place mutation fault permit]
          exact .inr ⟨fun channel => rfl, rfl⟩
      | ok =>
          rw [Session.transact, session.step_permitted node place mutation permit]
          have effective (channel : Channel) := effective_addressed record
            ⟨.write node place mutation, .done⟩ place channel (.ofMutation mutation) fun channel => rfl
          simp only [kept.effective_mutation] at effective
          by_cases shows : mutation.effective (session.store.entries place) = true
          · exact .inl ⟨place, fun channel there => ((effective channel).mp there).1, (effective place).mpr ⟨rfl, shows⟩,
              if_pos shows⟩
          · refine .inr ⟨fun channel => ?_, if_neg shows⟩
            exact Bool.eq_false_iff.mpr fun there => shows ((effective channel).mp there).2
  | setUnreachable node on => exact .inr ⟨fun channel => rfl, rfl⟩
  | rejectKey node key => exact .inr ⟨fun channel => rfl, rfl⟩
  | subscribe node place name =>
      refine .inr ⟨fun channel => rfl, ?_⟩
      cases reach : (session.replica node).reach with
      | error fault => rw [session.step_turned_away node place name fault reach]
      | ok => rw [session.step_admitted node place name reach]
  | unsubscribe name =>
      refine .inr ⟨fun channel => rfl, ?_⟩
      rw [Session.step]
      split <;> rfl

end Telling

/-- An entry is what the last successful change made it, and listeners are called for each change that shows. -/
theorem store_notifications_exact (operations : List Operation) :
    let session := (({} : Session).run operations).1
    let record := ({} : Session).record operations
    (∀ (channel : Channel) (key : String), (session.store.entries channel)[key]? = lookup record channel key) ∧
    (∀ node, (session.replica node).issued = operations.filterMap (·.issued? node)) ∧
    ∀ operation,
      let after := (session.step operation).1
      let called := (session.step operation).2.2
      let transaction := session.transact operation
      ({} : Session).run (operations ++ [operation]) = (after, (({} : Session).run operations).2 ++ called) ∧
      (∀ node channel mutation, operation = .write node channel mutation →
        (Refused record node mutation.key →
          (∃ fault, transaction.reply = .fault fault) ∧ after.store = session.store ∧ called = []) ∧
        (¬ Refused record node mutation.key → transaction.reply = .done)) ∧
      (∀ node channel name, operation = .subscribe node channel name →
        (transaction.admitted? = some (channel, name) ↔ ¬ Severed record node)) ∧
      (∀ channel, transaction.effective record channel = true → admissions record channel ≤ UInt64.size →
        called.Nodup ∧ ∀ name, name ∈ called ↔ Subscribed record name channel) ∧
      ((∀ channel, transaction.effective record channel = false) → called = []) := by
  intro session record
  have recorded : Recorded record session := recorded_initial.run operations
  refine ⟨recorded.kept, fun node => ?_, fun operation => ⟨?_, ?_, ?_, ?_, ?_⟩⟩
  · rw [(recorded.remembered node).issued]
    conv => rhs; rw [← ({} : Session).operations_record operations]
    rw [List.filterMap_map]
    rfl
  · exact Session.run_concat {} operations operation
  · intro node channel mutation written
    subst written
    have lawful := (recorded.remembered node).permit_ok_iff mutation.key
    cases permit : (session.replica node).permit mutation.key with
    | error fault =>
        rw [Session.transact, session.step_refused node channel mutation fault permit]
        rw [permit] at lawful
        exact ⟨fun _ => ⟨⟨fault, rfl⟩, rfl, rfl⟩, fun unrefused => by cases lawful.mpr unrefused⟩
    | ok =>
        rw [Session.transact, session.step_permitted node channel mutation permit]
        exact ⟨fun refused => absurd refused (lawful.mp permit), fun _ => rfl⟩
  · intro node channel name subscribes
    subst subscribes
    rw [← (recorded.remembered node).reach_ok_iff, Session.transact]
    cases reach : (session.replica node).reach with
    | error fault =>
        rw [session.step_turned_away node channel name fault reach]
        simp [Transaction.admitted?]
    | ok =>
        rw [session.step_admitted node channel name reach]
        exact iff_of_true rfl rfl
  · intro channel effective room
    have audience := recorded.enlisted.audience channel room
    rcases recorded.kept.called operation with ⟨place, only, _, called⟩ | ⟨idle, _⟩
    · rw [called, only channel effective]
      exact audience
    · rw [idle channel] at effective
      cases effective
  · intro idle
    rcases recorded.kept.called operation with ⟨place, _, effective, _⟩ | ⟨_, called⟩
    · rw [idle place] at effective
      cases effective
    · exact called

/-- One of two listeners moves to another channel, and one of two replicas cannot change a key without a value. -/
def bulletin : List Operation :=
  [.subscribe "a" "news" "x", .subscribe "b" "news" "y", .put "news" "k" none, .rejectKey "b" "k",
    .write "b" "news" (.set "k" [1]), .subscribe "a" "sport" "x"]

theorem bulletin_heard :
    let session := (({} : Session).run bulletin).1
    let record := ({} : Session).record bulletin
    (session.store.entries "news")["k"]? = some none ∧ (session.replica "b").issued = [.set "k"] ∧
    Refused record "b" "k" ∧ (session.step (.write "b" "news" (.remove "k"))).1.store = session.store ∧
    (session.step (.write "a" "news" (.remove "k"))).2.2.Nodup ∧
    Subscribed record "y" "news" ∧ ¬ Subscribed record "x" "news" ∧
    (session.step (.write "a" "sport" (.remove "k"))).2.2 = [] := by
  intro session record
  obtain ⟨entries, issued, steps⟩ := store_notifications_exact bulletin
  have refused : Refused record "b" "k" := by
    rw [Refused, Session.operations_record]
    exact .inr (by simp [bulletin])
  obtain ⟨_, written, _, _, _⟩ := steps (.write "b" "news" (.remove "k"))
  obtain ⟨_, _, _, heard, _⟩ := steps (.write "a" "news" (.remove "k"))
  obtain ⟨_, _, _, _, unheard⟩ := steps (.write "a" "sport" (.remove "k"))
  obtain ⟨once, told⟩ := heard "news" (by decide) (by decide)
  refine ⟨(entries "news" "k").trans (by decide), (issued "b").trans (by decide), refused,
    ((written "b" "news" (.remove "k") rfl).1 refused).2.1, once, (told "y").mp (by decide), ?_, unheard ?_⟩
  · exact fun subscribed => absurd ((told "x").mpr subscribed) (by decide)
  · intro channel
    have effective := effective_addressed record ⟨.write "a" "sport" (.remove "k"), .done⟩ "sport" channel ⟨"k", none⟩
      fun channel => rfl
    exact Bool.eq_false_iff.mpr fun shows => absurd (effective.mp shows).2 (by decide)

end Store

end Coherence
