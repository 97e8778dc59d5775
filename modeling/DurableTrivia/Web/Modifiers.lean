import DurableTrivia.Web.DeckConservation
import DurableTrivia.Web.RoundSteps

/-!
# Modifiers — gameplay modifiers never overlap

Two clocks are involved: a validator judges by the last sweep of the run
loop, an update stamps with the current workflow time. What ties them
together is that a sweep drops every expiry time it has passed, and an
update stores one in the future. So every stored expiry time lies behind
the last sweep (`OneModifier`), the validator's time-aware test is a test
for presence, and a modifier is only accepted where none is stored.

That answers both questions about the validator: modifiers never
overlap, and a modifier that ran out since the last sweep still refuses
the next one.
-/

namespace DurableTrivia.Web

open DurableTrivia.Shared DurableTrivia.Lib

/-! ## At most one of three -/

/-- No two of the three hold together. -/
def AtMostOne (a b c : Prop) : Prop := ¬ (a ∧ b) ∧ ¬ (a ∧ c) ∧ ¬ (b ∧ c)

theorem AtMostOne.mono {a b c a' b' c' : Prop} (h : AtMostOne a b c) (ha : a' → a) (hb : b' → b)
    (hc : c' → c) : AtMostOne a' b' c' :=
  ⟨fun h' => h.1 ⟨ha h'.1, hb h'.2⟩, fun h' => h.2.1 ⟨ha h'.1, hc h'.2⟩,
    fun h' => h.2.2 ⟨hb h'.1, hc h'.2⟩⟩

/-- Two absent ones leave room for the third. -/
theorem AtMostOne.of_absent {a b c : Prop} (h : (¬ a ∧ ¬ b) ∨ (¬ a ∧ ¬ c) ∨ (¬ b ∧ ¬ c)) :
    AtMostOne a b c := by
  unfold AtMostOne
  tauto

/-! ## Expiry times -/

@[simp] theorem inForce_none (nowUnixMs : Nat) : inForce none nowUnixMs = false := rfl

@[simp] theorem inForce_some {u nowUnixMs : Nat} :
    inForce (some u) nowUnixMs = decide (nowUnixMs < u) := rfl

theorem inForce_isSome {untilUnixMs : Option Nat} {nowUnixMs : Nat}
    (h : inForce untilUnixMs nowUnixMs = true) : untilUnixMs.isSome = true := by
  cases untilUnixMs <;> simp_all

/-- A time that is not past is in force if it is there. -/
theorem inForce_eq_false_iff {untilUnixMs : Option Nat} {nowUnixMs : Nat}
    (h : ∀ u, untilUnixMs = some u → nowUnixMs < u) :
    inForce untilUnixMs nowUnixMs = false ↔ untilUnixMs = none := by
  cases untilUnixMs with
  | none => simp
  | some u =>
      have hahead := h u rfl
      simp [hahead]

theorem keepUnexpired_eq_some {untilUnixMs : Option Nat} {nowUnixMs u : Nat} :
    keepUnexpired untilUnixMs nowUnixMs = some u ↔ untilUnixMs = some u ∧ nowUnixMs < u := by
  simp [keepUnexpired, Option.filter_eq_some_iff]

theorem keepUnexpired_isSome {untilUnixMs : Option Nat} {nowUnixMs : Nat}
    (h : (keepUnexpired untilUnixMs nowUnixMs).isSome = true) : untilUnixMs.isSome = true := by
  obtain ⟨u, hu⟩ := Option.isSome_iff_exists.mp h
  exact Option.isSome_iff_exists.mpr ⟨u, (keepUnexpired_eq_some.mp hu).1⟩

/-- A sweep changes no expiry time that is still to come. -/
theorem inForce_keepUnexpired {untilUnixMs : Option Nat} {clock nowUnixMs : Nat}
    (h : clock ≤ nowUnixMs) :
    inForce (keepUnexpired untilUnixMs clock) nowUnixMs = inForce untilUnixMs nowUnixMs := by
  cases untilUnixMs with
  | none => rfl
  | some u =>
      by_cases hu : clock < u
      · simp [keepUnexpired, inForce, hu]
      · have hpast : ¬ nowUnixMs < u := by omega
        simp [keepUnexpired, inForce, hu, hpast]

/-! ## The invariant -/

/-- What holds of the control view and the clock in every reachable
state: the sweep is not ahead of the clock, stored expiry times are
ahead of the sweep, and at most one modifier is stored. -/
structure OneModifier (control : GameWorkflow.Control) (clock : Nat) : Prop where
  sweep_le : control.lastChaosSweepUnixMs ≤ clock
  double_ahead : ∀ u, control.chaos.doublePointsUntilUnixMs = some u →
    control.lastChaosSweepUnixMs < u
  rust_ahead : ∀ u, control.chaos.rustOnlyUntilUnixMs = some u →
    control.lastChaosSweepUnixMs < u
  exclusive : AtMostOne (control.chaos.doublePointsUntilUnixMs.isSome = true)
    (control.chaos.rustOnlyUntilUnixMs.isSome = true) (control.chaos.suddenDeath = true)

namespace OneModifier
variable {control : GameWorkflow.Control} {clock : Nat}

/-- At the last sweep a stored expiry time is still in force. -/
theorem double_inForce (h : OneModifier control clock) :
    inForce control.chaos.doublePointsUntilUnixMs control.lastChaosSweepUnixMs
      = control.chaos.doublePointsUntilUnixMs.isSome := by
  cases hd : control.chaos.doublePointsUntilUnixMs with
  | none => rfl
  | some u => simpa using h.double_ahead u hd

theorem rust_inForce (h : OneModifier control clock) :
    inForce control.chaos.rustOnlyUntilUnixMs control.lastChaosSweepUnixMs
      = control.chaos.rustOnlyUntilUnixMs.isSome := by
  cases hr : control.chaos.rustOnlyUntilUnixMs with
  | none => rfl
  | some u => simpa using h.rust_ahead u hr

end OneModifier

/-- **Judged by the last sweep, active means stored.** -/
theorem activeModifier_none_iff {wf : GameWorkflow} {clock : Nat}
    (h : OneModifier wf.control clock) :
    activeModifier wf.snapshot wf.lastChaosSweepUnixMs = none ↔
      wf.snapshot.chaos.doublePointsUntilUnixMs = none
        ∧ wf.snapshot.chaos.rustOnlyUntilUnixMs = none
        ∧ wf.snapshot.chaos.suddenDeath = false := by
  have hd : inForce wf.snapshot.chaos.doublePointsUntilUnixMs wf.lastChaosSweepUnixMs
      = wf.snapshot.chaos.doublePointsUntilUnixMs.isSome := h.double_inForce
  have hr : inForce wf.snapshot.chaos.rustOnlyUntilUnixMs wf.lastChaosSweepUnixMs
      = wf.snapshot.chaos.rustOnlyUntilUnixMs.isSome := h.rust_inForce
  unfold activeModifier
  rw [hd, hr]
  cases wf.snapshot.chaos.doublePointsUntilUnixMs <;>
    cases wf.snapshot.chaos.rustOnlyUntilUnixMs <;>
    cases wf.snapshot.chaos.suddenDeath <;> simp

/-- An accepted update keeps the invariant: a modifier was accepted
because none was stored, and its expiry is ahead of now. -/
theorem OneModifier.applyChaos {wf : GameWorkflow} {clock : Nat} {command : ChaosCommand}
    (h : OneModifier wf.control clock) (hvalid : wf.validateApplyChaos command = .ok ()) :
    OneModifier (wf.applyChaos clock command).control clock := by
  have hahead : wf.lastChaosSweepUnixMs < clock + chaosDurationMs :=
    Nat.lt_of_le_of_lt h.sweep_le (Nat.lt_add_of_pos_right (by decide))
  obtain ⟨_, ⟨rfl, _⟩ | ⟨hmod, hnone⟩⟩ := GameWorkflow.validateApplyChaos_ok hvalid
  · -- the extension stores no modifier
    exact ⟨h.sweep_le, h.double_ahead, h.rust_ahead, h.exclusive⟩
  · obtain ⟨hdouble, hrust, hsudden⟩ := (activeModifier_none_iff h).mp hnone
    cases command with
    | extendThirtySeconds => exact absurd rfl hmod
    | doublePoints =>
        refine ⟨h.sweep_le, fun u hu => ?_, h.rust_ahead, .of_absent (.inr (.inr ⟨?_, ?_⟩))⟩
        · cases hu
          exact hahead
        · show ¬ wf.snapshot.chaos.rustOnlyUntilUnixMs.isSome = true
          simp [hrust]
        · show ¬ wf.snapshot.chaos.suddenDeath = true
          simp [hsudden]
    | rustOnly =>
        refine ⟨h.sweep_le, h.double_ahead, fun u hu => ?_, .of_absent (.inr (.inl ⟨?_, ?_⟩))⟩
        · cases hu
          exact hahead
        · show ¬ wf.snapshot.chaos.doublePointsUntilUnixMs.isSome = true
          simp [hdouble]
        · show ¬ wf.snapshot.chaos.suddenDeath = true
          simp [hsudden]
    | suddenDeath =>
        refine ⟨h.sweep_le, h.double_ahead, h.rust_ahead, .of_absent (.inl ⟨?_, ?_⟩)⟩
        · show ¬ wf.snapshot.chaos.doublePointsUntilUnixMs.isSome = true
          simp [hdouble]
        · show ¬ wf.snapshot.chaos.rustOnlyUntilUnixMs.isSome = true
          simp [hrust]

/-- A sweep at the current time keeps the invariant. -/
theorem OneModifier.swept {control : GameWorkflow.Control} {clock : Nat}
    (h : OneModifier control clock) : OneModifier (Round.sweptControl control clock) clock :=
  { sweep_le := Nat.le_refl _
    double_ahead := fun _ hu => (keepUnexpired_eq_some.mp hu).2
    rust_ahead := fun _ hu => (keepUnexpired_eq_some.mp hu).2
    exclusive := h.exclusive.mono keepUnexpired_isSome keepUnexpired_isSome id }

namespace Round
variable {r : Round}

/-- **The step lemma.** -/
theorem oneModifier_step {s s' : State} {e : Event} (h : OneModifier s.wf.control s.clock)
    (hstep : r.step s e = some s') : OneModifier s'.wf.control s'.clock := by
  cases controlMove_of_transition (transition_of_step hstep) with
  | kept hclock hcontrol =>
      rw [hcontrol]
      exact ⟨h.sweep_le.trans hclock, h.double_ahead, h.rust_ahead, h.exclusive⟩
  | chaos _ hvalid hclock hcontrol =>
      rw [hclock, hcontrol]
      exact h.applyChaos hvalid
  | ended _ _ hclock hcontrol =>
      rw [hclock, hcontrol]
      exact ⟨h.sweep_le, h.double_ahead, h.rust_ahead, h.exclusive⟩
  | started _ _ hclock hcontrol =>
      rw [hclock, hcontrol]
      refine ⟨h.sweep_le, ?_, ?_, .of_absent (.inl ⟨?_, ?_⟩)⟩ <;> simp [openingControl]
  | swept _ hclock hcontrol =>
      rw [hclock, hcontrol]
      exact h.swept
  | closed _ hclock hcontrol =>
      rw [hclock, hcontrol]
      exact ⟨h.sweep_le, h.double_ahead, h.rust_ahead, h.exclusive⟩

theorem oneModifier_reachable {s : State} (h : r.system.Reachable s) :
    OneModifier s.wf.control s.clock := by
  refine h.invariant ?_ fun s e s' hs hstep => oneModifier_step hs hstep
  intro s₀ hinit
  rcases hinit with ⟨clock, rfl⟩
  refine ⟨Nat.zero_le _, ?_, ?_, .of_absent (.inl ⟨?_, ?_⟩)⟩ <;> simp [GameWorkflow.control]

/-! ## Modifiers never overlap -/

/-- **Gameplay modifiers never overlap**, at whatever time one looks. -/
theorem modifiers_never_overlap {s : State} (h : r.system.Reachable s) (nowUnixMs : Nat) :
    AtMostOne (inForce s.wf.snapshot.chaos.doublePointsUntilUnixMs nowUnixMs = true)
      (inForce s.wf.snapshot.chaos.rustOnlyUntilUnixMs nowUnixMs = true)
      (s.wf.snapshot.chaos.suddenDeath = true) :=
  (oneModifier_reachable h).exclusive.mono inForce_isSome inForce_isSome id

/-- A minute without badges: the loop only ticks. -/
def quietRound : Round :=
  { input :=
      { gameId := "quiet", questions := demoTemplate, durationSeconds := gameSeconds
        backlogOverride := none, detectedBadgeCount := none, indexSearchAttributes := false }
    fullParticipantBacklog := true
    eligibleDeckRefill := true }

/-- The events of an idle second after `seconds` seconds. -/
def idleTick (seconds : Nat) : List Event :=
  [.advance ((seconds + 1) * 1000), .tick, .iterate]

/-- Double points 300 ms into the round. -/
def doubledEvents : List Event := [.start, .iterate, .advance 300, .applyChaos .doublePoints]

theorem modifiers_never_overlap_doubled :
    ∃ s, quietRound.system.Reachable s
      ∧ inForce s.wf.snapshot.chaos.doublePointsUntilUnixMs s.clock = true
      ∧ inForce s.wf.snapshot.chaos.rustOnlyUntilUnixMs s.clock = false
      ∧ s.wf.snapshot.chaos.suddenDeath = false := by
  obtain ⟨hist, s, hrun, htest⟩ := StepSystem.exists_run_of_exec (S := quietRound.system)
    { clock := 0 } doubledEvents
    (fun result => inForce result.2.wf.snapshot.chaos.doublePointsUntilUnixMs result.2.clock)
    ⟨0, rfl⟩ (by decide +kernel)
  have hone := modifiers_never_overlap hrun.reachable s.clock
  exact ⟨s, hrun.reachable, htest, by simpa using fun hr => hone.1 ⟨htest, hr⟩,
    by simpa using fun hs => hone.2.1 ⟨htest, hs⟩⟩

/-! ## Which refusals are right -/

/-- Some stored modifier ran out, and no sweep came by since. -/
def StaleModifier (s : State) : Prop :=
  ∃ u, (s.wf.snapshot.chaos.doublePointsUntilUnixMs = some u
    ∨ s.wf.snapshot.chaos.rustOnlyUntilUnixMs = some u) ∧ u ≤ s.clock

/-- No modifier is in force at the current workflow time. -/
def Unmodified (s : State) : Prop :=
  inForce s.wf.snapshot.chaos.doublePointsUntilUnixMs s.clock = false
    ∧ inForce s.wf.snapshot.chaos.rustOnlyUntilUnixMs s.clock = false
    ∧ s.wf.snapshot.chaos.suddenDeath = false

/-- In a running round the validator accepts a modifier where none is stored. -/
theorem validateApplyChaos_modifier_iff {s : State} (h : r.system.Reachable s)
    (hrun : s.wf.snapshot.status = .running) {command : ChaosCommand}
    (hmod : command ≠ .extendThirtySeconds) :
    s.wf.validateApplyChaos command = .ok () ↔
      s.wf.snapshot.chaos.doublePointsUntilUnixMs = none
        ∧ s.wf.snapshot.chaos.rustOnlyUntilUnixMs = none
        ∧ s.wf.snapshot.chaos.suddenDeath = false := by
  rw [← activeModifier_none_iff (oneModifier_reachable h)]
  unfold GameWorkflow.validateApplyChaos
  rw [if_neg (not_not.mpr hrun), if_neg hmod]
  split <;> simp_all

/-- The stale modifier is the only one stored, so none is in force. -/
theorem unmodified_of_stale {s : State} (h : OneModifier s.wf.control s.clock)
    (hstale : StaleModifier s) : Unmodified s := by
  have hexcl : AtMostOne (s.wf.snapshot.chaos.doublePointsUntilUnixMs.isSome = true)
    (s.wf.snapshot.chaos.rustOnlyUntilUnixMs.isSome = true)
    (s.wf.snapshot.chaos.suddenDeath = true) := h.exclusive
  unfold Unmodified
  obtain ⟨u, hu | hu, hpast⟩ := hstale
  · have hrust : s.wf.snapshot.chaos.rustOnlyUntilUnixMs = none :=
      Option.not_isSome_iff_eq_none.mp fun hr => hexcl.1 ⟨by simp [hu], hr⟩
    have hsudden : s.wf.snapshot.chaos.suddenDeath = false := by
      simpa using fun hs => hexcl.2.1 ⟨by simp [hu], hs⟩
    exact ⟨by simpa [hu] using hpast, by simp [hrust], hsudden⟩
  · have hdouble : s.wf.snapshot.chaos.doublePointsUntilUnixMs = none :=
      Option.not_isSome_iff_eq_none.mp fun hd => hexcl.1 ⟨hd, by simp [hu]⟩
    have hsudden : s.wf.snapshot.chaos.suddenDeath = false := by
      simpa using fun hs => hexcl.2.2 ⟨by simp [hu], hs⟩
    exact ⟨by simp [hdouble], by simpa [hu] using hpast, hsudden⟩

/-- **A powerup is refused for a modifier in force, unless one ran out
since the last sweep**: the validator agrees with the clock exactly when
no stored modifier is stale. -/
theorem powerup_refusal_right_iff {s : State} (h : r.system.Reachable s)
    (hrun : s.wf.snapshot.status = .running) {command : ChaosCommand}
    (hmod : command ≠ .extendThirtySeconds) :
    (s.wf.validateApplyChaos command = .ok () ↔ Unmodified s) ↔ ¬ StaleModifier s := by
  rw [validateApplyChaos_modifier_iff h hrun hmod]
  constructor
  · intro hright hstale
    -- nothing is in force, but the stale modifier is still stored
    obtain ⟨hdouble, hrust, _⟩ :=
      hright.mpr (unmodified_of_stale (oneModifier_reachable h) hstale)
    obtain ⟨u, hu | hu, _⟩ := hstale
    · rw [hdouble] at hu
      cases hu
    · rw [hrust] at hu
      cases hu
  · intro hfresh
    have hdouble (u : Nat) (hu : s.wf.snapshot.chaos.doublePointsUntilUnixMs = some u) :
        s.clock < u := by
      by_contra hpast
      exact hfresh ⟨u, .inl hu, Nat.not_lt.mp hpast⟩
    have hrust (u : Nat) (hu : s.wf.snapshot.chaos.rustOnlyUntilUnixMs = some u) :
        s.clock < u := by
      by_contra hpast
      exact hfresh ⟨u, .inr hu, Nat.not_lt.mp hpast⟩
    unfold Unmodified
    rw [inForce_eq_false_iff hdouble, inForce_eq_false_iff hrust]

/-- Right after double points started, a refusal is right. -/
theorem powerup_refusal_right_iff_doubled :
    ∃ s, quietRound.system.Reachable s ∧ s.wf.snapshot.status = .running
      ∧ ((s.wf.validateApplyChaos .rustOnly = .ok () ↔ Unmodified s) ↔ ¬ StaleModifier s) := by
  obtain ⟨hist, s, hrun, htest⟩ := StepSystem.exists_run_of_exec (S := quietRound.system)
    { clock := 0 } doubledEvents
    (fun result => result.2.wf.snapshot.status == .running)
    ⟨0, rfl⟩ (by decide +kernel)
  have hstatus : s.wf.snapshot.status = .running := by simpa using htest
  exact ⟨s, hrun.reachable, hstatus,
    powerup_refusal_right_iff hrun.reachable hstatus (by decide)⟩

/-- Double points from 0.3 s to 10.3 s, a sweep every second, and a
powerup at 10.4 s. -/
def staleEvents : List Event :=
  doubledEvents ++ (List.range 10).flatMap idleTick ++ [.advance 10400]

/-- **A modifier that is over refuses a powerup.** -/
theorem stale_modifier_refuses :
    ∃ s, quietRound.system.Reachable s ∧ s.wf.snapshot.status = .running
      ∧ s.phase.waiting = true ∧ Unmodified s
      ∧ s.wf.validateApplyChaos .rustOnly ≠ .ok () := by
  obtain ⟨hist, s, hrun, htest⟩ := StepSystem.exists_run_of_exec (S := quietRound.system)
    { clock := 0 } staleEvents
    (fun result => result.2.wf.snapshot.status == .running && result.2.phase.waiting
      && !inForce result.2.wf.snapshot.chaos.doublePointsUntilUnixMs result.2.clock
      && !inForce result.2.wf.snapshot.chaos.rustOnlyUntilUnixMs result.2.clock
      && !result.2.wf.snapshot.chaos.suddenDeath
      && !(result.2.wf.validateApplyChaos .rustOnly).isOk)
    ⟨0, rfl⟩ (by decide +kernel)
  simp only [Bool.and_eq_true, beq_iff_eq, Bool.not_eq_true'] at htest
  obtain ⟨⟨⟨⟨⟨hstatus, hwait⟩, hdouble⟩, hrust⟩, hsudden⟩, hrefused⟩ := htest
  refine ⟨s, hrun.reachable, hstatus, hwait, ⟨hdouble, hrust, hsudden⟩, fun hok => ?_⟩
  rw [hok] at hrefused
  cases hrefused

end Round

end DurableTrivia.Web
