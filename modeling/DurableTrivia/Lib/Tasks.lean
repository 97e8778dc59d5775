import Mathlib

/-!
# Tasks — a table of concurrent tasks

Tasks are spawned at the end of the table and keep their place; a task
that ended leaves its place empty. So a place names one task for good,
and an event can name the task it is about. Two kinds of facts are kept
about a table: what holds of every task (`All`), and that at most one
task is of some kind (`AtMostOneOf`).
-/

namespace DurableTrivia.Lib

/-- The places of a task table; `none` is a task that ended. -/
abbrev Tasks (τ : Type*) := List (Option τ)

namespace Tasks

variable {τ : Type*} {tasks : Tasks τ}

/-- The task at place `i`, when it is alive. -/
def task (tasks : Tasks τ) (i : Nat) : Option τ := tasks[i]?.join

/-- The task at place `i` becomes `t`, or ends. -/
def become (tasks : Tasks τ) (i : Nat) (t : Option τ) : Tasks τ := List.set tasks i t

/-- One more task. -/
def spawn (tasks : Tasks τ) (t : τ) : Tasks τ := tasks ++ [some t]

theorem task_become {i : Nat} {old : τ} (t : Option τ) (h : tasks.task i = some old) (j : Nat) :
    (tasks.become i t).task j = if i = j then t else tasks.task j := by
  have hi : i < tasks.length := by
    unfold task at h
    by_contra hc
    rw [List.getElem?_eq_none (Nat.not_lt.mp hc)] at h
    cases h
  unfold task become
  rw [List.getElem?_set]
  by_cases hij : i = j
  · simp [← hij, hi]
  · simp [hij]

theorem task_spawn (t : τ) (j : Nat) :
    (tasks.spawn t).task j = if j = tasks.length then some t else tasks.task j := by
  unfold task spawn
  by_cases hj : j = tasks.length
  · simp [hj]
  · rw [if_neg hj]
    by_cases hlt : j < tasks.length
    · rw [List.getElem?_append_left hlt]
    · have hgt : tasks.length < j := by omega
      rw [List.getElem?_eq_none (by simpa using hgt),
        List.getElem?_eq_none (Nat.le_of_lt hgt)]

/-- Ending a task that may have ended already. -/
theorem task_end (i j : Nat) :
    (tasks.become i none).task j = if i = j then none else tasks.task j := by
  cases hi : tasks.task i with
  | some old => exact task_become none hi j
  | none =>
      unfold task become at *
      rw [List.getElem?_set]
      by_cases hij : i = j
      · subst hij
        rw [if_pos rfl, if_pos rfl]
        split <;> rfl
      · rw [if_neg hij, if_neg hij]

/-- `P` holds of every task that is alive. -/
def All (P : τ → Prop) (tasks : Tasks τ) : Prop := ∀ i t, tasks.task i = some t → P t

/-- At most one task that is alive satisfies `Q`. -/
def AtMostOneOf (Q : τ → Prop) (tasks : Tasks τ) : Prop :=
  ∀ i j ti tj, tasks.task i = some ti → tasks.task j = some tj → Q ti → Q tj → i = j

variable {P P' Q : τ → Prop} {i : Nat} {old : τ}

theorem All.imp (h : All P tasks) (himp : ∀ t, P t → P' t) : All P' tasks :=
  fun i t ht => himp t (h i t ht)

/-- Every other task is kept, and the changed one has to be shown. -/
theorem All.become (h : All P tasks) (hi : tasks.task i = some old) {t : Option τ}
    (ht : ∀ new, t = some new → P new) : All P (tasks.become i t) := by
  intro j tj hj
  rw [task_become t hi] at hj
  by_cases hij : i = j
  · rw [if_pos hij] at hj
    exact ht tj hj
  · rw [if_neg hij] at hj
    exact h j tj hj

theorem All.spawn (h : All P tasks) {t : τ} (ht : P t) : All P (tasks.spawn t) := by
  intro j tj hj
  rw [task_spawn] at hj
  by_cases hjl : j = tasks.length
  · rw [if_pos hjl] at hj
    cases hj
    exact ht
  · rw [if_neg hjl] at hj
    exact h j tj hj

/-- A task that becomes one of the kind must have been one. -/
theorem AtMostOneOf.become (h : AtMostOneOf Q tasks) (hi : tasks.task i = some old)
    {t : Option τ} (ht : ∀ new, t = some new → Q new → Q old) :
    AtMostOneOf Q (tasks.become i t) := by
  intro j k tj tk hj hk hqj hqk
  rw [task_become t hi] at hj hk
  by_cases hij : i = j
  · by_cases hik : i = k
    · exact hij.symm.trans hik
    · rw [if_pos hij] at hj
      rw [if_neg hik] at hk
      exact hij.symm.trans (h i k old tk hi hk (ht tj hj hqj) hqk)
  · by_cases hik : i = k
    · rw [if_neg hij] at hj
      rw [if_pos hik] at hk
      exact (h j i tj old hj hi hqj (ht tk hk hqk)).trans hik
    · rw [if_neg hij] at hj
      rw [if_neg hik] at hk
      exact h j k tj tk hj hk hqj hqk

/-- A new task of the kind needs a table without one. -/
theorem AtMostOneOf.spawn (h : AtMostOneOf Q tasks) {t : τ}
    (hnone : Q t → All (fun t' => ¬ Q t') tasks) : AtMostOneOf Q (tasks.spawn t) := by
  intro j k tj tk hj hk hqj hqk
  rw [task_spawn] at hj hk
  by_cases hjl : j = tasks.length
  · by_cases hkl : k = tasks.length
    · exact hjl.trans hkl.symm
    · rw [if_pos hjl] at hj
      rw [if_neg hkl] at hk
      cases hj
      exact absurd hqk (hnone hqj k tk hk)
  · by_cases hkl : k = tasks.length
    · rw [if_neg hjl] at hj
      rw [if_pos hkl] at hk
      cases hk
      exact absurd hqj (hnone hqk j tj hj)
    · rw [if_neg hjl] at hj
      rw [if_neg hkl] at hk
      exact h j k tj tk hj hk hqj hqk

/-- Beside the one of the kind, no other task is. -/
theorem AtMostOneOf.other (h : AtMostOneOf Q tasks) (hi : tasks.task i = some old) (hq : Q old)
    {j : Nat} {tj : τ} (hj : tasks.task j = some tj) (hne : i ≠ j) : ¬ Q tj :=
  fun hqj => hne (h i j old tj hi hj hq hqj)

theorem All.end (h : All P tasks) (i : Nat) : All P (tasks.become i none) := by
  intro j tj hj
  rw [task_end] at hj
  by_cases hij : i = j
  · rw [if_pos hij] at hj
    cases hj
  · rw [if_neg hij] at hj
    exact h j tj hj

/-! ## The test for all tasks -/

/-- `All` as a test. -/
def every (p : τ → Bool) (tasks : Tasks τ) : Bool := List.all tasks fun t => t.all p

theorem every_iff {p : τ → Bool} : tasks.every p = true ↔ All (fun t => p t = true) tasks := by
  simp only [every, List.all_eq_true, All, task]
  constructor
  · intro h i t ht
    exact h _ (List.mem_of_getElem? (Option.join_eq_some_iff.mp ht))
  · intro h place hmem
    obtain ⟨i, hi⟩ := List.getElem?_of_mem hmem
    cases place with
    | none => rfl
    | some t => exact h i t (by simp [hi])

end Tasks

end DurableTrivia.Lib
