import Mathlib

/-!
# System — event systems, their histories and the invariant rules

A program that reacts to events is a partial step function: in state
`s` the event `e` leads to `S.step s e`, and `none` says that `e` cannot
happen there. Every choice the environment makes is part of the event,
so a run is determined by its start and its events.

A run is recorded as a HISTORY: the transitions taken, each as the pair
of the state it started in and its event, **latest first**. Properties
of runs are then functions of the history (what was accepted, recorded
or sent so far), and `Path.invariant` relates such a function to the
state by one step lemma.
-/

namespace DurableTrivia.Lib

/-- An event system: where runs may start, and what an event does. -/
structure StepSystem (σ ε : Type*) where
  init : σ → Prop
  step : σ → ε → Option σ

namespace StepSystem

variable {σ ε : Type*} {S : StepSystem σ ε}

/-- `S.Path s₀ hist s`: the transitions `hist` (latest first) lead from
`s₀` to `s`. -/
inductive Path (S : StepSystem σ ε) (s₀ : σ) : List (σ × ε) → σ → Prop
  | nil : Path S s₀ [] s₀
  | snoc {hist : List (σ × ε)} {s s' : σ} {e : ε} :
      Path S s₀ hist s → S.step s e = some s' → Path S s₀ ((s, e) :: hist) s'

/-- A complete run: a path from an initial state. -/
def Run (S : StepSystem σ ε) (hist : List (σ × ε)) (s : σ) : Prop :=
  ∃ s₀, S.init s₀ ∧ S.Path s₀ hist s

/-- The states some run reaches. -/
def Reachable (S : StepSystem σ ε) (s : σ) : Prop := ∃ hist, S.Run hist s

/-! ## Runs -/

theorem Run.nil {s₀ : σ} (h : S.init s₀) : S.Run [] s₀ := ⟨s₀, h, .nil⟩

theorem Run.snoc {hist : List (σ × ε)} {s s' : σ} {e : ε}
    (h : S.Run hist s) (hs : S.step s e = some s') :
    S.Run ((s, e) :: hist) s' := by
  obtain ⟨s₀, hi, hp⟩ := h
  exact ⟨s₀, hi, hp.snoc hs⟩

theorem Run.reachable {hist : List (σ × ε)} {s : σ} (h : S.Run hist s) :
    S.Reachable s := ⟨hist, h⟩

theorem Reachable.next {s s' : σ} {e : ε} (h : S.Reachable s)
    (hs : S.step s e = some s') : S.Reachable s' := by
  obtain ⟨hist, hr⟩ := h
  exact ⟨_, hr.snoc hs⟩

/-- Paths compose; the later history stands in front. -/
theorem Path.append {s₀ s₁ s₂ : σ} {h₁ h₂ : List (σ × ε)}
    (hp : S.Path s₀ h₁ s₁) (hq : S.Path s₁ h₂ s₂) : S.Path s₀ (h₂ ++ h₁) s₂ := by
  induction hq with
  | nil => exact hp
  | snoc _ hs ih => exact ih.snoc hs

theorem Run.append {s₁ s₂ : σ} {h₁ h₂ : List (σ × ε)}
    (hr : S.Run h₁ s₁) (hq : S.Path s₁ h₂ s₂) : S.Run (h₂ ++ h₁) s₂ := by
  obtain ⟨s₀, hi, hp⟩ := hr
  exact ⟨s₀, hi, hp.append hq⟩

/-- Every transition of a path was taken: cutting the history at it
gives the path up to its start, and its own step. -/
theorem Path.split {s₀ s sₙ : σ} {e : ε} {later earlier : List (σ × ε)}
    (hp : S.Path s₀ (later ++ (s, e) :: earlier) sₙ) :
    S.Path s₀ earlier s ∧ ∃ s', S.step s e = some s' ∧ S.Path s' later sₙ := by
  induction later generalizing sₙ with
  | nil =>
      cases hp with
      | snoc hp hs => exact ⟨hp, sₙ, hs, .nil⟩
  | cons t later ih =>
      cases hp with
      | snoc hp hs =>
          obtain ⟨hpre, s', hstep, hq⟩ := ih hp
          exact ⟨hpre, s', hstep, hq.snoc hs⟩

/-- The transitions of a run start in reachable states. -/
theorem Run.reachable_of_mem {hist : List (σ × ε)} {s : σ} {t : σ × ε} (hr : S.Run hist s)
    (ht : t ∈ hist) : S.Reachable t.1 := by
  obtain ⟨later, earlier, rfl⟩ := List.append_of_mem ht
  obtain ⟨s₀, hi, hp⟩ := hr
  exact ⟨earlier, s₀, hi, (Path.split (s := t.1) (e := t.2) hp).1⟩

/-! ## Invariant rules -/

/-- **The history rule**: a relation between history and state that
holds at the start and survives every step holds at the end of every
path. -/
theorem Path.invariant {I : List (σ × ε) → σ → Prop} {s₀ s : σ}
    {hist : List (σ × ε)} (hp : S.Path s₀ hist s) (h0 : I [] s₀)
    (hstep : ∀ hist s e s', I hist s → S.step s e = some s' →
      I ((s, e) :: hist) s') : I hist s := by
  induction hp with
  | nil => exact h0
  | snoc _ hs ih => exact hstep _ _ _ _ ih hs

/-- The history rule for complete runs. -/
theorem Run.invariant {I : List (σ × ε) → σ → Prop} {s : σ}
    {hist : List (σ × ε)} (hr : S.Run hist s) (h0 : ∀ s₀, S.init s₀ → I [] s₀)
    (hstep : ∀ hist s e s', I hist s → S.step s e = some s' →
      I ((s, e) :: hist) s') : I hist s := by
  obtain ⟨s₀, hi, hp⟩ := hr
  exact hp.invariant (h0 s₀ hi) hstep

/-- The state rule: an inductive invariant holds of every reachable
state. -/
theorem Reachable.invariant {I : σ → Prop} {s : σ} (hr : S.Reachable s)
    (h0 : ∀ s₀, S.init s₀ → I s₀)
    (hstep : ∀ s e s', I s → S.step s e = some s' → I s') : I s := by
  obtain ⟨hist, hr⟩ := hr
  exact hr.invariant (I := fun _ s => I s) h0 (fun _ s e s' => hstep s e s')

/-- The rule for what a whole path keeps. -/
theorem Path.preserves {I : σ → Prop} {s₀ s : σ} {hist : List (σ × ε)}
    (hp : S.Path s₀ hist s) (h0 : I s₀)
    (hstep : ∀ s e s', I s → S.step s e = some s' → I s') : I s :=
  hp.invariant (I := fun _ s => I s) h0 (fun _ s e s' => hstep s e s')

/-- The guarded rule: when every transition of the path satisfies `C`,
only those steps have to keep the invariant. -/
theorem Path.preserves_guarded {I : σ → Prop} {C : σ → ε → Prop} {s₀ s : σ}
    {hist : List (σ × ε)} (hp : S.Path s₀ hist s)
    (hC : ∀ t ∈ hist, C t.1 t.2) (h0 : I s₀)
    (hstep : ∀ s e s', I s → C s e → S.step s e = some s' → I s') : I s := by
  induction hp with
  | nil => exact h0
  | snoc _ hs ih =>
      have hlast := hC _ List.mem_cons_self
      exact hstep _ _ _ (ih fun t ht => hC t (List.mem_cons_of_mem _ ht)) hlast hs

/-- `P` held of every state on the way, with the history up to it. -/
def Throughout (P : List (σ × ε) → σ → Prop) : List (σ × ε) → σ → Prop
  | [], s => P [] s
  | t :: earlier, s => P (t :: earlier) s ∧ Throughout P earlier t.1

/-- The guarded rule for whole runs: when every transition satisfies `C`,
an invariant that those steps keep shows what held on the way. -/
theorem Run.throughout {I P : List (σ × ε) → σ → Prop} {C : σ → ε → Prop} {s : σ}
    {hist : List (σ × ε)} (hr : S.Run hist s) (hC : ∀ t ∈ hist, C t.1 t.2)
    (h0 : ∀ s₀, S.init s₀ → I [] s₀)
    (hstep : ∀ hist s e s', S.Reachable s → I hist s → C s e → S.step s e = some s' →
      I ((s, e) :: hist) s')
    (hP : ∀ hist s, S.Reachable s → I hist s → P hist s) : Throughout P hist s := by
  obtain ⟨s₀, hi, hp⟩ := hr
  have hboth : I hist s ∧ Throughout P hist s := by
    induction hp with
    | nil =>
        have hstart : I [] s₀ := h0 s₀ hi
        exact ⟨hstart, hP [] s₀ ⟨[], .nil hi⟩ hstart⟩
    | snoc hp hs ih =>
        obtain ⟨hbefore, hearlier⟩ := ih fun t ht => hC t (List.mem_cons_of_mem _ ht)
        have hreach : S.Reachable _ := ⟨_, s₀, hi, hp⟩
        have hafter := hstep _ _ _ _ hreach hbefore (hC _ List.mem_cons_self) hs
        exact ⟨hafter, hP _ _ (hreach.next hs) hafter, hearlier⟩
  exact hboth.2

/-! ## Executing a list of events -/

/-- Runs the events in order; `none` when one of them is not enabled.
The history is returned with the final state. -/
def exec (S : StepSystem σ ε) : List (σ × ε) → σ → List ε → Option (List (σ × ε) × σ)
  | hist, s, [] => some (hist, s)
  | hist, s, e :: es => (S.step s e).bind fun s' => exec S ((s, e) :: hist) s' es

/-- What `exec` computes is a path. -/
theorem exec_path {s₀ s sₙ : σ} {h₀ hₙ : List (σ × ε)} {es : List ε}
    (hp : S.Path s₀ h₀ s) (h : S.exec h₀ s es = some (hₙ, sₙ)) :
    S.Path s₀ hₙ sₙ := by
  induction es generalizing h₀ s with
  | nil =>
      cases h
      exact hp
  | cons e es ih =>
      simp only [exec, Option.bind_eq_some_iff] at h
      obtain ⟨s', hs, hrest⟩ := h
      exact ih (hp.snoc hs) hrest

/-- A successful execution from an initial state is a run. -/
theorem exec_run {s₀ sₙ : σ} {hₙ : List (σ × ε)} {es : List ε}
    (hi : S.init s₀) (h : S.exec [] s₀ es = some (hₙ, sₙ)) : S.Run hₙ sₙ :=
  ⟨s₀, hi, exec_path .nil h⟩

/-- The form witnesses and counterexamples use: a test that succeeds on
the executed history and state yields a run with that property. -/
theorem exists_run_of_exec (s₀ : σ) (es : List ε)
    (p : List (σ × ε) × σ → Bool) (hi : S.init s₀)
    (h : (S.exec [] s₀ es).any p = true) : ∃ hist s, S.Run hist s ∧ p (hist, s) = true := by
  cases hx : S.exec [] s₀ es with
  | none => simp [hx] at h
  | some r =>
      obtain ⟨hist, s⟩ := r
      exact ⟨hist, s, exec_run hi hx, by simpa [hx] using h⟩

/-- Runs `before`, then the one event `e`, then `after`; the two
histories and the states around them come back separately. -/
def execAround (S : StepSystem σ ε) (s₀ : σ) (before : List ε) (e : ε) (after : List ε) :
    Option ((List (σ × ε) × σ) × List (σ × ε) × σ) :=
  (S.exec [] s₀ before).bind fun first =>
    (S.step first.2 e).bind fun s' => (S.exec [] s' after).map fun second => (first, second)

/-- The form for properties of what follows one transition. -/
theorem exists_run_around (s₀ : σ) (before : List ε) (e : ε) (after : List ε)
    (p : (List (σ × ε) × σ) × List (σ × ε) × σ → Bool) (hi : S.init s₀)
    (h : (S.execAround s₀ before e after).any p = true) :
    ∃ earlier s later sₙ, S.Run (later ++ (s, e) :: earlier) sₙ
      ∧ p ((earlier, s), later, sₙ) = true := by
  cases hx : S.execAround s₀ before e after with
  | none => simp [hx] at h
  | some r =>
      obtain ⟨⟨earlier, s⟩, later, sₙ⟩ := r
      have hp : p ((earlier, s), later, sₙ) = true := by simpa [hx] using h
      simp only [execAround, Option.bind_eq_some_iff, Option.map_eq_some_iff] at hx
      obtain ⟨first, hfirst, s', hs, second, hsecond, heq⟩ := hx
      cases heq
      have hrun := (exec_run hi hfirst).snoc hs
      exact ⟨earlier, s, later, sₙ, hrun.append (exec_path .nil hsecond), hp⟩

end StepSystem

end DurableTrivia.Lib
