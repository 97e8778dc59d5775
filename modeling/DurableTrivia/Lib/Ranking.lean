import Mathlib

/-!
# Ranking — places in a field of scores

The place of a score is one more than the number of entries with a
higher one, so tied entries share a place and the next one is skipped.
Walking down a field sorted by score gives the same places: an entry
takes its index plus one, unless it ties with the entry above it.
-/

namespace DurableTrivia.Lib

variable {α σ : Type*} [LinearOrder σ] (score : α → σ)

/-- One more than the number of entries with a higher score. -/
def place (field : List α) (own : σ) : Nat :=
  1 + field.countP fun entry => decide (own < score entry)

/-- The walk down a list: `last` is the score above, `rank` the place it
took and `index` the number of entries passed. -/
def rankWalk (last : Option σ) (rank index : Nat) : List α → List (α × Nat)
  | [] => []
  | entry :: rest =>
      let rank := if last = some (score entry) then rank else index + 1
      (entry, rank) :: rankWalk (some (score entry)) rank (index + 1) rest

variable {score}

theorem place_eq_one_iff {field : List α} {own : σ} :
    place score field own = 1 ↔ ∀ entry ∈ field, score entry ≤ own := by
  unfold place
  rw [Nat.add_eq_left, List.countP_eq_zero]
  simp only [decide_eq_true_eq, not_lt]

/-- A place does not depend on the order of the field. -/
theorem place_perm {field other : List α} (h : field.Perm other) (own : σ) :
    place score field own = place score other own := by
  unfold place
  rw [h.countP_eq]

/-- A better score is placed no lower. -/
theorem place_le_place {own other : σ} (h : own ≤ other) (field : List α) :
    place score field other ≤ place score field own := by
  unfold place
  apply Nat.add_le_add_left
  apply List.countP_mono_left
  intro entry _ hlt
  simp only [decide_eq_true_eq] at hlt ⊢
  exact lt_of_le_of_lt h hlt

/-- What a walk has passed: `last` is the lowest score above, no entry
still to come beats it, and `rank` is its place. -/
structure Passed (score : α → σ) (above rest : List α) (last : Option σ) (rank : Nat) : Prop where
  lowest : ∀ entry ∈ above, ∃ own, last = some own ∧ own ≤ score entry
  rest_le : ∀ own, last = some own → ∀ entry ∈ rest, score entry ≤ own
  rank_eq : ∀ own, last = some own → rank = place score (above ++ rest) own

/-- The rank the walk gives next is a place. -/
theorem Passed.next_rank {above rest : List α} {entry : α} {last : Option σ} {rank : Nat}
    (h : Passed score above (entry :: rest) last rank)
    (hrest : ∀ other ∈ rest, score other ≤ score entry) :
    (if last = some (score entry) then rank else above.length + 1)
      = place score (above ++ entry :: rest) (score entry) := by
  by_cases htie : last = some (score entry)
  · rw [if_pos htie]
    exact h.rank_eq _ htie
  · rw [if_neg htie]
    have hbetter : above.countP (fun e => decide (score entry < score e)) = above.length := by
      rw [List.countP_eq_length]
      intro other hother
      obtain ⟨own, hown, hle⟩ := h.lowest other hother
      have hge := h.rest_le own hown entry (by simp)
      have hne : score entry ≠ own := fun heq => htie (by rw [hown, heq])
      simpa using lt_of_lt_of_le (lt_of_le_of_ne hge hne) hle
    have hnone : (entry :: rest).countP (fun e => decide (score entry < score e)) = 0 := by
      rw [List.countP_eq_zero]
      intro other hother
      rcases List.mem_cons.mp hother with rfl | hother
      · simp
      · simpa using hrest other hother
    unfold place
    rw [List.countP_append, hbetter, hnone]
    omega

theorem Passed.next {above rest : List α} {entry : α} {last : Option σ} {rank : Nat}
    (h : Passed score above (entry :: rest) last rank)
    (hrest : ∀ other ∈ rest, score other ≤ score entry) :
    Passed score (above ++ [entry]) rest (some (score entry))
      (place score (above ++ entry :: rest) (score entry)) := by
  constructor
  · intro other hother
    refine ⟨score entry, rfl, ?_⟩
    rcases List.mem_append.mp hother with habove | hlast
    · obtain ⟨own, hown, hle⟩ := h.lowest other habove
      exact (h.rest_le own hown entry (by simp)).trans hle
    · rw [List.mem_singleton.mp hlast]
  · rintro own ⟨⟩
    exact hrest
  · rintro own ⟨⟩
    rw [List.append_assoc, List.singleton_append]

theorem rankWalk_eq_place {above rest : List α} {last : Option σ} {rank : Nat}
    (hsorted : rest.Pairwise fun a b => score b ≤ score a)
    (h : Passed score above rest last rank) :
    rankWalk score last rank above.length rest
      = rest.map fun entry => (entry, place score (above ++ rest) (score entry)) := by
  induction rest generalizing above last rank with
  | nil => rfl
  | cons entry rest ih =>
      obtain ⟨hentry, hrest⟩ := List.pairwise_cons.mp hsorted
      have htail := ih hrest (h.next hentry)
      rw [List.length_append, List.length_singleton, List.append_assoc,
        List.singleton_append] at htail
      simp only [rankWalk, List.map_cons, h.next_rank hentry, htail]

/-- **Walking down a sorted field gives every entry its place.** -/
theorem rankWalk_sorted {field : List α}
    (hsorted : field.Pairwise fun a b => score b ≤ score a) (rank : Nat) :
    rankWalk score none rank 0 field
      = field.map fun entry => (entry, place score field (score entry)) := by
  have hpassed : Passed score ([] : List α) field none rank := by
    constructor
    · simp
    · rintro own ⟨⟩
    · rintro own ⟨⟩
  exact rankWalk_eq_place hsorted hpassed

end DurableTrivia.Lib
