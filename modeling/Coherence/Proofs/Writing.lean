import Coherence.Proofs.Maps
import Coherence.Store

set_option autoImplicit false

namespace Coherence

open Std

namespace Mutation

def apply (entries : Entries) : Mutation → Entries
  | set key value => entries.insert key (some value)
  | remove key => entries.erase key

-- Whether there is anything to change. A key is there even if its value is absent.
def effective (entries : Entries) : Mutation → Bool
  | set _ _ => true
  | remove key => entries.contains key

theorem apply_other (mutation : Mutation) (entries : Entries) (key : String) (other : mutation.key ≠ key) :
    (mutation.apply entries)[key]? = entries[key]? := by
  cases mutation with
  | set own value => simp [apply, ExtTreeMap.getElem?_insert, show own ≠ key from other]
  | remove own => simp [apply, ExtTreeMap.getElem?_erase, show own ≠ key from other]

theorem apply_apply (mutation : Mutation) (entries : Entries) :
    mutation.apply (mutation.apply entries) = mutation.apply entries := by
  cases mutation with
  | set key value => exact insert_again entries key _ _
  | remove key => exact erase_absent (entries.erase key) key (by simp)

theorem effective_apply (mutation : Mutation) (entries : Entries)
    (effective : mutation.effective (mutation.apply entries) = true) : mutation.effective entries = true := by
  cases mutation with
  | set key value => rfl
  | remove key => simp [Mutation.effective, apply] at effective

end Mutation

namespace Store

variable {ℓ : Type}

theorem entries_put (store : Store ℓ) (channel : Channel) (key : String) (value : Option Bytes) :
    (store.put channel key value).entries channel = (store.entries channel).insert key value := by
  simp [put, entries]

theorem entries_put_other (store : Store ℓ) (channel other : Channel) (key : String) (value : Option Bytes)
    (different : channel ≠ other) : (store.put channel key value).entries other = store.entries other := by
  simp [put, entries, ExtTreeMap.getElem?_insert, different]

theorem entries_erase (store : Store ℓ) (channel : Channel) (key : String) :
    (store.erase channel key).entries channel = (store.entries channel).erase key := by
  rw [erase, entries, ExtTreeMap.getElem?_modify_self, entries]
  cases store.channels[channel]? with
  | none =>
      apply ExtTreeMap.ext_getElem?
      intro other
      simp
  | some kept => rfl

theorem entries_erase_other (store : Store ℓ) (channel other : Channel) (key : String) (different : channel ≠ other) :
    (store.erase channel key).entries other = store.entries other := by
  simp [erase, entries, ExtTreeMap.getElem?_modify, different]

theorem erase_missing (store : Store ℓ) (channel : Channel) (key : String) (missing : key ∉ store.entries channel) :
    store.erase channel key = store := by
  have same : store.channels.modify channel (·.erase key) = store.channels := by
    apply modify_same
    intro kept found
    rw [entries, found, Option.getD_some] at missing
    exact erase_absent kept key missing
  rw [erase, same]

def mutate (store : Store ℓ) (channel : Channel) : Mutation → Store ℓ
  | .set key value => store.put channel key (some value)
  | .remove key => store.erase channel key

theorem entries_mutate (store : Store ℓ) (channel other : Channel) (mutation : Mutation) :
    (store.mutate channel mutation).entries other =
      if channel = other then mutation.apply (store.entries other) else store.entries other := by
  cases mutation with
  | set key value =>
      split
      · rename_i same
        exact same ▸ store.entries_put channel key (some value)
      · rename_i different
        exact store.entries_put_other channel other key (some value) different
  | remove key =>
      split
      · rename_i same
        exact same ▸ store.entries_erase channel key
      · rename_i different
        exact store.entries_erase_other channel other key different

theorem mutate_settled (store : Store ℓ) (channel : Channel) (mutation : Mutation)
    (settled : mutation.apply (store.entries channel) = store.entries channel) : store.mutate channel mutation = store := by
  cases mutation with
  | set key value =>
      have written : (store.entries channel)[key]? = some (some value) := by
        rw [← settled]
        exact ExtTreeMap.getElem?_insert_self
      have present : store.channels[channel]? = some (store.entries channel) := by
        rw [entries] at written ⊢
        cases here : store.channels[channel]? with
        | none => simp [here] at written
        | some kept => rfl
      have same : store.channels.insert channel ((store.entries channel).insert key (some value)) = store.channels := by
        rw [show (store.entries channel).insert key (some value) = store.entries channel from settled]
        exact insert_found store.channels channel _ present
      rw [mutate, put, same]
  | remove key =>
      refine store.erase_missing channel key ?_
      rw [← settled]
      simp [Mutation.apply]

theorem listeners_mutate (store : Store ℓ) (channel : Channel) (mutation : Mutation) :
    (store.mutate channel mutation).listeners = store.listeners := by
  cases mutation <;> rfl

end Store

namespace Replica

variable {ℓ : Type}

def tried (replica : Replica) (mutation : Mutation) : Replica :=
  { replica with issued := replica.issued ++ [mutation.issued] }

theorem write_refused (replica : Replica) (store : Store ℓ) (channel : Channel) (mutation : Mutation) (fault : Fault)
    (why : replica.permit mutation.key = .error fault) :
    replica.write store channel mutation = (replica.tried mutation, store, .error fault) := by
  unfold write
  rw [why]
  rfl

theorem write_permitted (replica : Replica) (store : Store ℓ) (channel : Channel) (mutation : Mutation)
    (permitted : replica.permit mutation.key = .ok ()) :
    replica.write store channel mutation = (replica.tried mutation, store.mutate channel mutation,
      .ok (if mutation.effective (store.entries channel) then store.audience channel else [])) := by
  unfold write
  rw [permitted]
  cases mutation with
  | set key value => rfl
  | remove key =>
      by_cases present : key ∈ store.entries channel
      · simp [present, Store.mutate, Mutation.effective, tried]
      · simp [present, Store.mutate, Mutation.effective, tried, store.erase_missing channel key present]

-- A write is refused, or it changes the entries and all who listen are to hear of it, or nothing was to be removed.
inductive Wrote (replica : Replica) (store : Store ℓ) (channel : Channel) (mutation : Mutation) :
    Replica × Store ℓ × Except Fault (List ℓ) → Prop
  | refused (fault : Fault) (why : replica.permit mutation.key = .error fault) :
      Wrote replica store channel mutation (replica.tried mutation, store, .error fault)
  | changed (fresh : Store ℓ) (permitted : replica.permit mutation.key = .ok ())
      (entries : fresh.entries channel = mutation.apply (store.entries channel))
      (listeners : fresh.listeners = store.listeners) :
      Wrote replica store channel mutation (replica.tried mutation, fresh, .ok (store.audience channel))
  | unchanged (permitted : replica.permit mutation.key = .ok ())
      (entries : store.entries channel = mutation.apply (store.entries channel)) :
      Wrote replica store channel mutation (replica.tried mutation, store, .ok [])

theorem write_wrote (replica : Replica) (store : Store ℓ) (channel : Channel) (mutation : Mutation) :
    Wrote replica store channel mutation (replica.write store channel mutation) := by
  cases permit : replica.permit mutation.key with
  | error fault =>
      rw [replica.write_refused store channel mutation fault permit]
      exact .refused fault permit
  | ok =>
      have entries := store.entries_mutate channel channel mutation
      rw [if_pos rfl] at entries
      rw [replica.write_permitted store channel mutation permit]
      split
      · exact .changed _ permit entries (store.listeners_mutate channel mutation)
      · rename_i idle
        cases mutation with
        | set key value => exact absurd rfl idle
        | remove key =>
            have missing : key ∉ store.entries channel := fun present => idle (ExtTreeMap.contains_iff_mem.mpr present)
            rw [Store.mutate, store.erase_missing channel key missing] at entries ⊢
            exact .unchanged permit entries

end Replica

end Coherence
