import Mathlib

/-!
# Mealy — a machine that reads samples for ever

A machine takes one input at a time and may produce an output. Its
inputs are an unbounded sequence; what it does at `n` depends on the
inputs up to `n` only, so a finite sequence is the beginning of any that
continues it. A property of the state is followed from one position
to a later one: it stays while every input keeps it (`stays`), and where
it is gone, an input in between has ended it (`left_by`). What a machine
times is the streak of positions behind it (`Streak`).
-/

namespace DurableTrivia.Lib

/-- A machine that may answer each input. -/
structure Mealy (State Input Output : Type*) where
  step : State → Input → State × Option Output

namespace Mealy

variable {State Input Output : Type*} (M : Mealy State Input Output) (s : State)
  (inputs : Nat → Input)

/-- The state before the input at `n`. -/
def stateAt : Nat → State
  | 0 => s
  | n + 1 => (M.step (stateAt n) (inputs n)).1

/-- What the input at `n` produces. -/
def outputAt (n : Nat) : Option Output := (M.step (M.stateAt s inputs n) (inputs n)).2

variable {M s inputs} {P : State → Prop} {m n : Nat}

/-- A run is resumed from any of its states. -/
theorem stateAt_add (M : Mealy State Input Output) (s : State) (inputs : Nat → Input) (m n : Nat) :
    M.stateAt (M.stateAt s inputs m) (fun k => inputs (m + k)) n = M.stateAt s inputs (m + n) := by
  induction n with
  | zero => rfl
  | succ n ih =>
      show (M.step (M.stateAt _ _ n) _).1 = (M.step (M.stateAt s inputs (m + n)) _).1
      rw [ih]
      rfl

theorem outputAt_add (M : Mealy State Input Output) (s : State) (inputs : Nat → Input)
    (m n : Nat) :
    M.outputAt (M.stateAt s inputs m) (fun k => inputs (m + k)) n
      = M.outputAt s inputs (m + n) := by
  unfold outputAt
  rw [stateAt_add]

/-- **A machine that keeps another inside it** follows it: where the
inner state of every step is the inner machine's, so it is in every run,
and the outputs are the same. -/
theorem run_of_step {Inner : Type*} {N : Mealy Inner Input Output} {inner : State → Inner}
    (hstep : ∀ state input, (inner (M.step state input).1, (M.step state input).2)
      = N.step (inner state) input) (s : State) (inputs : Nat → Input) (n : Nat) :
    inner (M.stateAt s inputs n) = N.stateAt (inner s) inputs n
      ∧ M.outputAt s inputs n = N.outputAt (inner s) inputs n := by
  have hstate : inner (M.stateAt s inputs n) = N.stateAt (inner s) inputs n := by
    induction n with
    | zero => rfl
    | succ n ih =>
        show inner (M.step (M.stateAt s inputs n) (inputs n)).1 = (N.step _ (inputs n)).1
        rw [← ih, ← hstep]
  refine ⟨hstate, ?_⟩
  unfold outputAt
  rw [← hstate, ← hstep]

/-- **What every input keeps, stays.** -/
theorem stays (hP : P (M.stateAt s inputs m)) (hmn : m ≤ n)
    (hstep : ∀ k, m ≤ k → k < n → P (M.stateAt s inputs k) → P (M.stateAt s inputs (k + 1))) :
    P (M.stateAt s inputs n) := by
  induction n, hmn using Nat.le_induction with
  | base => exact hP
  | succ n hmn ih =>
      have hbefore := ih fun k hmk hkn => hstep k hmk (by omega)
      exact hstep n hmn (by omega) hbefore

/-- **What is gone was ended by an input in between.** -/
theorem left_by {leaves : Input → Prop}
    (hstep : ∀ state input, P state → ¬ P (M.step state input).1 → leaves input)
    (hP : P (M.stateAt s inputs m)) (hmn : m ≤ n) (hgone : ¬ P (M.stateAt s inputs n)) :
    ∃ k, m ≤ k ∧ k < n ∧ leaves (inputs k) := by
  by_contra hnone
  apply hgone
  apply stays hP hmn
  intro k hmk hkn hk
  by_contra hnext
  exact hnone ⟨k, hmk, hkn, hstep _ _ hk hnext⟩

end Mealy

/-! ## Streaks -/

/-- `P` holds from `m` to `n`, and not just before `m`. -/
structure Streak (P : Nat → Prop) (m n : Nat) : Prop where
  le : m ≤ n
  all : ∀ k, m ≤ k → k ≤ n → P k
  first : ∀ before, m = before + 1 → ¬ P before

namespace Streak
variable {P : Nat → Prop} {m n : Nat}

/-- A position where `P` holds is in a streak. -/
theorem exists_of (h : P n) : ∃ m, Streak P m n := by
  induction n with
  | zero =>
      refine ⟨0, Nat.le_refl _, fun k _ hk => ?_, fun before hbefore => by omega⟩
      obtain rfl : k = 0 := by omega
      exact h
  | succ n ih =>
      by_cases hbefore : P n
      · obtain ⟨m, hle, hall, hfirst⟩ := ih hbefore
        refine ⟨m, by omega, fun k hmk hk => ?_, hfirst⟩
        by_cases hlast : k = n + 1
        · rw [hlast]
          exact h
        · exact hall k hmk (by omega)
      · refine ⟨n + 1, Nat.le_refl _, fun k hmk hk => ?_, fun before hb => ?_⟩
        · obtain rfl : k = n + 1 := by omega
          exact h
        · obtain rfl : before = n := by omega
          exact hbefore

/-- **What a streak starts and carries on, holds along it.** -/
theorem carried {Q : Nat → Prop} (h : Streak P m n)
    (hstart : (∀ before, m = before + 1 → ¬ P before) → Q m)
    (hstep : ∀ k, P k → Q k → Q (k + 1)) : Q n := by
  obtain ⟨hle, hall, hfirst⟩ := h
  induction n, hle using Nat.le_induction with
  | base => exact hstart hfirst
  | succ n hmn ih =>
      have hbefore := ih fun k hmk hkn => hall k hmk (by omega)
      exact hstep n (hall n hmn (by omega)) hbefore

end Streak

end DurableTrivia.Lib
