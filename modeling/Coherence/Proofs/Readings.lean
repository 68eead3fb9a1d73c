import Coherence.Proofs.Generations

set_option autoImplicit false

namespace Coherence.Interleaving

open Std

namespace Course

variable (course : Course) (k : Incarnation) (i : Nat)

def adopted? : Option UInt64 :=
  match course.action? i, (course.after i).cluster.nodes[k]? with
  | some (.work j (.entries (.recomputing generation) (.ok _))), some node =>
      if j = k ∧ node.snapshot.generation ≤ generation then some generation else none
  | _, _ => none

-- One recomputation: when its number was drawn, when it read the store, and when its reading was taken over.
structure Reading (generation : UInt64) (drawn read adopted : Nat) : Prop where
  draws : course.drawn? k drawn = some generation
  reads : course.action? read = some (.work k (.read (.recomputing generation)))
  adopts : course.adopted? k adopted = some generation
  after : drawn < read
  before : read < adopted

structure Traced (j : Nat) : Prop where
  drawn : ∀ generation, (course.after j).Plans (.work k (.read (.recomputing generation))) →
    ∃ d, d < j ∧ course.drawn? k d = some generation
  read : ∀ generation contents, (course.after j).Plans (.work k (.entries (.recomputing generation) (.ok contents))) →
    ∃ d r, d < r ∧ r < j ∧ course.drawn? k d = some generation ∧
      course.action? r = some (.work k (.read (.recomputing generation))) ∧ contents = course.entries r

variable {course k i}

theorem adopted_eq_some (generation : UInt64) (adopted : course.adopted? k i = some generation) :
    ∃ node contents, course.action? i = some (.work k (.entries (.recomputing generation) (.ok contents))) ∧
      (course.after i).cluster.nodes[k]? = some node ∧ node.snapshot.generation ≤ generation := by
  rw [adopted?] at adopted
  split at adopted
  · rename_i j number contents node action here
    split at adopted
    · rename_i facts
      obtain ⟨rfl, recent⟩ := facts
      cases adopted
      exact ⟨node, contents, action, here, recent⟩
    · cases adopted
  · cases adopted

theorem drawn_of_recompute (node : Node) (taken : course.action? i = some (.work k .recompute))
    (here : (course.after i).cluster.nodes[k]? = some node) :
    course.drawn? k i = some node.drawGeneration.generation := by
  rw [drawn?, taken, here]
  exact if_pos rfl

theorem Traced.drawn_succ (fresh : course.Fresh) (j : Nat) (traced : course.Traced k j) (generation : UInt64)
    (plans : (course.after (j + 1)).Plans (.work k (.read (.recomputing generation)))) :
    ∃ d, d < j + 1 ∧ course.drawn? k d = some generation := by
  rcases course.source fresh.numbered _ generation rfl plans with before | ⟨taking, taken, continues⟩
  · obtain ⟨d, earlier, drawn⟩ := traced.drawn generation before
    exact ⟨d, Nat.lt_succ_of_lt earlier, drawn⟩
  · cases continues with
    | drawn node here starts number =>
        exact ⟨j, Nat.lt_succ_self j, number ▸ drawn_of_recompute node (starts ▸ taken) here⟩

theorem Traced.read_succ (fresh : course.Fresh) (j : Nat) (traced : course.Traced k j) (generation : UInt64)
    (contents : Entries)
    (plans : (course.after (j + 1)).Plans (.work k (.entries (.recomputing generation) (.ok contents)))) :
    ∃ d r, d < r ∧ r < j + 1 ∧ course.drawn? k d = some generation ∧
      course.action? r = some (.work k (.read (.recomputing generation))) ∧ contents = course.entries r := by
  rcases course.source fresh.numbered _ generation rfl plans with before | ⟨taking, taken, continues⟩
  · obtain ⟨d, r, first, second, facts⟩ := traced.read generation contents before
    exact ⟨d, r, first, Nat.lt_succ_of_lt second, facts⟩
  · cases continues with
    | read node result here reads whole =>
        subst reads
        obtain ⟨d, earlier, drawn⟩ := traced.drawn generation (course.action_plans _ taken)
        exact ⟨d, j, earlier, Nat.lt_succ_self j, drawn, taken, whole contents rfl⟩

theorem traced (fresh : course.Fresh) (j : Nat) : course.Traced k j := by
  induction j with
  | zero =>
      refine ⟨fun _ plans => ?_, fun _ _ plans => ?_⟩
      · exact absurd plans (fresh.idle _)
      · exact absurd plans (fresh.idle _)
  | succ j ih => exact ⟨ih.drawn_succ fresh j, ih.read_succ fresh j⟩

theorem adopted_reading (fresh : course.Fresh) (generation : UInt64) (adopted : course.adopted? k i = some generation) :
    ∃ d r last, course.Reading k generation d r i ∧ (course.after (i + 1)).cluster.nodes[k]? = some last ∧
      last.snapshot = ⟨bridged last.id (course.entries r), generation⟩ := by
  obtain ⟨node, contents, taken, here, recent⟩ := adopted_eq_some generation adopted
  obtain ⟨d, r, first, second, drawn, read, rfl⟩ := (traced fresh i).read generation contents (course.action_plans _ taken)
  obtain ⟨last, there, learned⟩ := course.memory_succ fresh.counted node here
  rw [taken, Option.elim_some, Action.learn_own] at learned
  have named : last.id = node.id := congrArg Memory.id learned
  have installed : last.snapshot = node.snapshot.install ⟨bridged node.id (course.entries r), generation⟩ :=
    congrArg Memory.snapshot learned
  refine ⟨d, r, last, ⟨drawn, read, adopted, first, second⟩, there, ?_⟩
  rw [installed, named, Snapshot.install, if_neg (UInt64.not_lt.mpr recent)]

theorem snapshot_kept (counted : course.start.Counted) (node last : Node)
    (here : (course.after i).cluster.nodes[k]? = some node)
    (there : (course.after (i + 1)).cluster.nodes[k]? = some last) (unadopted : course.adopted? k i = none)
    (uncleared : course.clears k i = false) : last.snapshot = node.snapshot := by
  obtain ⟨next, found, learned⟩ := course.memory_succ counted node here
  obtain rfl : last = next := Option.some.inj (there.symm.trans found)
  obtain ⟨fresh, also, _, outcome⟩ := snapshot_succ counted node here
  obtain rfl : last = fresh := Option.some.inj (there.symm.trans also)
  rcases outcome with same | ⟨generation, contents, taken, _⟩ | ⟨taken, _⟩
  · exact same
  · rw [taken, Option.elim_some, Action.learn_own] at learned
    have old : node.snapshot.generation.toNat > generation.toNat := by
      refine Nat.lt_of_not_le fun recent => ?_
      rw [adopted?, taken, here] at unadopted
      dsimp only at unadopted
      rw [if_pos ⟨rfl, UInt64.le_iff_toNat_le.mpr recent⟩] at unadopted
      cases unadopted
    exact (congrArg Memory.snapshot learned).trans (if_pos (UInt64.lt_iff_toNat_lt.mpr old))
  · rw [clears, taken] at uncleared
    cases uncleared.symm.trans (decide_eq_true rfl)

-- Numbers are drawn in order, so that what is taken over later was begun no earlier.
theorem adopted_order (fresh : course.Fresh) (capacity : ∀ i, course.draws k i < UInt64.size) (g h : UInt64)
    (d r i e s j : Nat) (first : course.Reading k g d r i) (second : course.Reading k h e s j) (later : i < j) :
    d ≤ e := by
  obtain ⟨_, _, last, _, there, installed⟩ := adopted_reading fresh g first.adopts
  obtain ⟨node, _, _, here, recent⟩ := adopted_eq_some h second.adopts
  have ascending : g.toNat ≤ h.toNat := by
    calc
      g.toNat = last.snapshot.generation.toNat := by rw [installed]
      _ ≤ node.snapshot.generation.toNat := generation_mono fresh j later (capacity j) last node there here
      _ ≤ h.toNat := UInt64.le_iff_toNat_le.mp recent
  have drew := (drawn_number fresh g first.draws (capacity _)).1
  obtain ⟨number, next⟩ := drawn_number fresh h second.draws (capacity _)
  refine Nat.le_of_not_lt fun earlier => ?_
  have mono : course.draws k (e + 1) ≤ course.draws k d := course.draws_mono fresh.counted d earlier
  omega

/-- What a bridge knows changes only by a stop or by a reading of one instant, and readings are taken over in order. -/
theorem readings_in_order (config : Config) (timeout : Nat) (moves : List Move) (course : Course)
    (launched : course = launch config timeout moves) (k : Incarnation)
    (capacity : course.draws k course.moves.length < UInt64.size) :
    (∀ (i : Nat) (node last : Node), (course.after i).cluster.nodes[k]? = some node →
      (course.after (i + 1)).cluster.nodes[k]? = some last → course.adopted? k i = none → course.clears k i = false →
      last.snapshot = node.snapshot) ∧
    (∀ (i : Nat) (g : UInt64), course.adopted? k i = some g →
      ∃ d r last, course.Reading k g d r i ∧ (course.after (i + 1)).cluster.nodes[k]? = some last ∧
        last.snapshot = (Recomputation.ofEntries last.id (course.entries r) g).snapshot) ∧
    ∀ (g h : UInt64) (d r i e s j : Nat), course.Reading k g d r i → course.Reading k h e s j → i < j →
      d ≤ e ∧ d < s ∧ (s < r → e < r) := by
  have fresh : course.Fresh := launched ▸ fresh_launch config timeout moves
  have within (i : Nat) : course.draws k i < UInt64.size := Nat.lt_of_le_of_lt (draws_le_last fresh i) capacity
  refine ⟨?_, ?_, ?_⟩
  · intro i node last here there
    exact snapshot_kept fresh.counted node last here there
  · intro i g adopted
    obtain ⟨d, r, last, reading, there, snapshot⟩ := adopted_reading fresh g adopted
    exact ⟨d, r, last, reading, there, snapshot⟩
  · intro g h d r i e s j first second later
    have order := adopted_order fresh within g h d r i e s j first second later
    exact ⟨order, Nat.lt_of_le_of_lt order second.after, Nat.lt_trans second.after⟩

/-- The first of two recomputations reads an announcement that the second has missed, and the second ends last. -/
def regression : List Move :=
  .arrive 0 (.addNode "a") :: goes 0 3 ++ .arrive 1 (.node "a" .start) :: goes 1 18 ++
    .arrive 2 (.node "a" .storeChanged) :: goes 2 2 ++ .arrive 3 (.node "a" .storeChanged) :: goes 3 4 ++
    .arrive 4 (.putRaw "b" (some (Announcement.encode ⟨"b", ExtTreeSet.ofList ["g"]⟩))) :: goes 2 4 ++ goes 3 2

theorem reading_of_seen (generation : UInt64) (d r i : Nat) (drawn : course.drawn? k d = some generation)
    (seen : course.seen? k r = some generation) (adopted : course.adopted? k i = some generation) (after : d < r)
    (before : r < i) : course.Reading k generation d r i := by
  obtain ⟨_, read, _⟩ := seen_eq_some generation seen
  exact ⟨drawn, read, adopted, after, before⟩

theorem regression_first : (launch {} 5000 regression).Reading 0 2 25 33 35 :=
  reading_of_seen 2 25 33 35 (by decide +kernel) (by decide +kernel) (by decide +kernel) (by decide) (by decide)

theorem regression_second : (launch {} 5000 regression).Reading 0 3 28 30 37 :=
  reading_of_seen 3 28 30 37 (by decide +kernel) (by decide +kernel) (by decide +kernel) (by decide) (by decide)

theorem regression_bounded :
    (launch {} 5000 regression).draws 0 38 < UInt64.size ∧ (launch {} 5000 regression).Reading 0 2 25 33 35 ∧
    (launch {} 5000 regression).Reading 0 3 28 30 37 ∧ 25 ≤ 28 ∧ 25 < 30 ∧ (30 < 33 → 28 < 33) ∧
    ∃ node middle last, ((launch {} 5000 regression).after 36).cluster.nodes[0]? = some node ∧
      ((launch {} 5000 regression).after 37).cluster.nodes[0]? = some middle ∧ middle.snapshot = node.snapshot ∧
      ((launch {} 5000 regression).after 38).cluster.nodes[0]? = some last ∧
      ∃ r, last.snapshot =
        (Recomputation.ofEntries last.id ((launch {} 5000 regression).entries r) 3).snapshot := by
  have capacity : (launch {} 5000 regression).draws 0 (launch {} 5000 regression).moves.length < UInt64.size := by
    decide +kernel
  obtain ⟨unchanged, adopts, ordered⟩ :=
    readings_in_order {} 5000 regression (launch {} 5000 regression) rfl 0 capacity
  have alive (i : Nat) (there : (((launch {} 5000 regression).after i).cluster.nodes[0]?).isSome = true) :=
    Option.isSome_iff_exists.mp there
  obtain ⟨node, here⟩ := alive 36 (by decide +kernel)
  obtain ⟨middle, between⟩ := alive 37 (by decide +kernel)
  have adopted := adopts 37 3 regression_second.adopts
  rw [show 37 + 1 = 38 from rfl] at adopted
  obtain ⟨_, r, last, _, there, snapshot⟩ := adopted
  obtain ⟨order, after, overlap⟩ := ordered 2 3 25 33 35 28 30 37 regression_first regression_second (by decide)
  refine ⟨by decide +kernel, regression_first, regression_second, order, after, overlap, node, middle, last, here,
    between, ?_, there, r, snapshot⟩
  have kept := unchanged 36 node middle here
  rw [show 36 + 1 = 37 from rfl] at kept
  exact kept between (by decide +kernel) (by decide +kernel)

/-- A running bridge takes over an older reading of the store after a newer one, and loses a group. -/
theorem later_reading_replaced :
    (launch {} 5000 regression).Reading 0 2 25 33 35 ∧ (launch {} 5000 regression).Reading 0 3 28 30 37 ∧ 35 < 37 ∧
    30 < 33 ∧ (∀ i, 9 ≤ i → i ≤ 38 → (launch {} 5000 regression).runs 0 i = true) ∧
    (launch {} 5000 regression).entries 30 = ∅ ∧ "b" ∈ (launch {} 5000 regression).entries 33 ∧
    (((launch {} 5000 regression).after 36).cluster.nodes[0]?).any (·.snapshot.contains "g") = true ∧
    (((launch {} 5000 regression).after 38).cluster.nodes[0]?).any (·.snapshot.contains "g") = false ∧
    "b" ∈ (launch {} 5000 regression).entries 38 := by
  have running : ∀ i < 39, 9 ≤ i → (launch {} 5000 regression).runs 0 i = true := by decide +kernel
  have empty : (launch {} 5000 regression).entries 30 = ∅ := by
    rw [← ExtTreeMap.isEmpty_iff]
    decide +kernel
  exact ⟨regression_first, regression_second, by decide, by decide,
    fun i after before => running i (Nat.lt_succ_of_le before) after, empty, by decide +kernel, by decide +kernel,
    by decide +kernel, by decide +kernel⟩

end Course

end Coherence.Interleaving
