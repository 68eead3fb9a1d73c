import Coherence.Listeners

set_option autoImplicit false

namespace Coherence

-- Something began in the course of events, and nothing has ended it since.
def Lasts {α : Type} (begins ends : α → Prop) (events : List α) : Prop :=
  ∃ before event after, events = before ++ event :: after ∧ begins event ∧ ∀ later ∈ after, ¬ ends later

section Lasting

variable {α : Type} {begins ends : α → Prop}

theorem not_lasts_nil : ¬ Lasts begins ends [] := by
  rintro ⟨before, event, after, split, _⟩
  simp at split

theorem lasts_concat (events : List α) (event : α) :
    Lasts begins ends (events ++ [event]) ↔ begins event ∨ Lasts begins ends events ∧ ¬ ends event := by
  constructor
  · rintro ⟨before, first, after, split, begun, unended⟩
    cases List.eq_nil_or_concat after with
    | inl last =>
        subst last
        obtain ⟨_, same⟩ := List.append_inj' split rfl
        cases same
        exact .inl begun
    | inr more =>
        obtain ⟨rest, last, rfl⟩ := more
        rw [List.concat_eq_append, ← List.cons_append, ← List.append_assoc] at split
        obtain ⟨same, final⟩ := List.append_inj' split rfl
        cases final
        refine .inr ⟨⟨before, first, rest, same, begun, fun later member => ?_⟩, ?_⟩
        · exact unended later (by simp [member])
        · exact unended event (by simp)
  · rintro (begun | ⟨⟨before, first, after, rfl, begun, unended⟩, kept⟩)
    · exact ⟨events, event, [], rfl, begun, fun _ member => absurd member (List.not_mem_nil)⟩
    · refine ⟨before, first, after ++ [event], by simp, begun, fun later member => ?_⟩
      cases List.mem_append.mp member with
      | inl earlier => exact unended later earlier
      | inr last => exact List.mem_singleton.mp last ▸ kept

end Lasting

end Coherence
