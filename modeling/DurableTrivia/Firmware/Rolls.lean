import DurableTrivia.Firmware.Gestures

/-!
# Rolls — one side, then the other, then none

A side that is down supersedes the one armed before, so a roll answers
once, with the side that was down last. A hold of both sides that is let
go before the threshold is a roll too, unless both come up in the same
sample: the machine keeps no memory of the hold once one side is up.
-/

namespace DurableTrivia.Firmware

open DurableTrivia.Lib

/-- No overlay, and UP and DOWN up. -/
def Sample.Quiet (x : Sample) : Prop :=
  x.powerupActive = false ∧ x.buttons.up = false ∧ x.buttons.down = false

/-- Quiet, and exactly one of LEFT and RIGHT down. -/
def Sample.OneSide (x : Sample) : Prop := x.Quiet ∧ x.buttons.left ≠ x.buttons.right

instance (x : Sample) : Decidable x.Quiet := inferInstanceAs (Decidable (_ ∧ _ ∧ _))
instance (x : Sample) : Decidable x.OneSide := inferInstanceAs (Decidable (_ ∧ _))

theorem Sample.Quiet.cases {x : Sample} (h : x.Quiet) : x.BothDown ∨ x.OneSide ∨ x.AllUp := by
  obtain ⟨hfree, hup, hdown⟩ := h
  by_cases hsides : x.buttons.left = x.buttons.right
  · cases hleft : x.buttons.left with
    | true => exact .inl ⟨hfree, hleft, hsides ▸ hleft⟩
    | false => exact .inr (.inr ⟨hfree, by simp [Buttons.any, hup, hdown, hleft, ← hsides]⟩)
  · exact .inr (.inl ⟨⟨hfree, hup, hdown⟩, hsides⟩)

theorem Sample.OneSide.side {x : Sample} (h : x.OneSide) : ∃ side, x.buttons.side = some side := by
  unfold Buttons.side
  cases hleft : x.buttons.left with
  | true => exact ⟨.left, rfl⟩
  | false =>
      cases hright : x.buttons.right with
      | true => exact ⟨.right, rfl⟩
      | false => exact absurd (hleft.trans hright.symm) h.2

namespace ButtonState

variable {hold : Nat} {s : ButtonState} {samples : Nat → Sample} {m n : Nat}

/-- One side down arms it, whatever was armed before. -/
theorem step_oneSide {x : Sample} {side : Side} (hs : s ≠ suppressedUntilRelease) (hx : x.OneSide)
    (hside : x.buttons.side = some side) : (gestures hold).step s x = (armed side, none) := by
  obtain ⟨⟨hfree, hup, hdown⟩, hsides⟩ := hx
  have hapart : ¬ (x.buttons.left && x.buttons.right) = true := by
    intro hboth
    rw [Bool.and_eq_true] at hboth
    exact hsides (hboth.1.trans hboth.2.symm)
  show s.advance x.buttons x.powerupActive x.now hold = _
  unfold advance
  rw [if_neg (by simp [hfree]), if_neg hs, if_neg hapart, if_neg (by simp [hup]),
    if_neg (by simp [hdown])]
  unfold Buttons.side at hside
  cases hleft : x.buttons.left with
  | true =>
      rw [hleft, if_pos rfl] at hside
      cases hside
      rfl
  | false =>
      rw [hleft, if_neg Bool.false_ne_true] at hside
      cases hright : x.buttons.right with
      | true =>
          rw [hright, if_pos rfl] at hside
          cases hside
          rfl
      | false => exact absurd (hleft.trans hright.symm) hsides

/-- Every button up: an armed side answers, nothing else does. -/
theorem step_allUp {x : Sample} (hs : s ≠ suppressedUntilRelease) (hx : x.AllUp) :
    (∀ side, s = armed side → (gestures hold).step s x = (idle, some (.answer side.answer)))
      ∧ ((∀ side, s ≠ armed side) → (gestures hold).step s x = (idle, none)) := by
  have hadvanced := advanced_step s x hold
  generalize (gestures hold).step s x = result at hadvanced ⊢
  cases hadvanced with
  | answered _ hstate =>
      refine ⟨fun side hside => ?_, fun hunarmed => absurd hstate (hunarmed _)⟩
      rw [hstate] at hside
      cases hside
      rfl
  | rested _ _ hunarmed => exact ⟨fun side hside => absurd hside (hunarmed side), fun _ => rfl⟩
  | overlay hover =>
      rw [hx.1] at hover
      cases hover
  | ignored hsuppressed _ => exact absurd hsuppressed hs
  | released hsuppressed _ => exact absurd hsuppressed hs
  | crashed _ hboth _ => exact absurd hx (not_allUp_of_bothDown hboth)
  | held _ hboth _ => exact absurd hx (not_allUp_of_bothDown hboth)
  | up _ _ _ hup => simp [Buttons.any, Sample.AllUp, hup] at hx
  | down _ _ _ _ hdown => simp [Buttons.any, Sample.AllUp, hdown] at hx
  | armed _ _ _ _ _ hside =>
      have hsides := hx.2
      simp only [Buttons.any, Bool.or_eq_false_iff] at hsides
      simp [Buttons.side, hsides] at hside

/-! ## A roll -/

/-- A roll answers nothing, and leaves the side that was down last armed. -/
theorem armed_of_roll (hlive : (gestures hold).stateAt s samples m ≠ suppressedUntilRelease)
    (hmn : m ≤ n) (hroll : ∀ k, m ≤ k → k ≤ n → (samples k).OneSide) :
    (∀ k, m ≤ k → k ≤ n → (gestures hold).outputAt s samples k = none)
      ∧ ∃ side, (samples n).buttons.side = some side
        ∧ (gestures hold).stateAt s samples (n + 1) = armed side := by
  have hstep : ∀ k, m ≤ k → k ≤ n →
      (gestures hold).stateAt s samples k ≠ suppressedUntilRelease →
      ∃ side, (samples k).buttons.side = some side
        ∧ (gestures hold).step ((gestures hold).stateAt s samples k) (samples k)
          = (armed side, none) := by
    intro k hmk hkn hk
    obtain ⟨side, hside⟩ := (hroll k hmk hkn).side
    exact ⟨side, hside, step_oneSide hk (hroll k hmk hkn) hside⟩
  -- every sample leaves a side armed, so the machine stays live
  have hlive_at : ∀ k, m ≤ k → k ≤ n →
      (gestures hold).stateAt s samples k ≠ suppressedUntilRelease := by
    intro k hmk hkn
    refine Mealy.stays (P := fun state => state ≠ suppressedUntilRelease) hlive hmk ?_
    intro j hmj hjk hj
    obtain ⟨side, _, hnext⟩ := hstep j hmj (by omega) hj
    show ((gestures hold).step _ _).1 ≠ _
    rw [hnext]
    exact armed_live side
  constructor
  · intro k hmk hkn
    obtain ⟨side, _, hnext⟩ := hstep k hmk hkn (hlive_at k hmk hkn)
    show ((gestures hold).step _ _).2 = _
    rw [hnext]
  · obtain ⟨side, hside, hnext⟩ := hstep n hmn (Nat.le_refl n) (hlive_at n hmn (Nat.le_refl n))
    exact ⟨side, hside, congrArg Prod.fst hnext⟩

/-- The release at the end of a roll is its one answer. -/
theorem answer_of_armed {side : Side} (hn : (gestures hold).stateAt s samples n = armed side)
    (hup : (samples n).AllUp) :
    (gestures hold).outputAt s samples n = some (.answer side.answer)
      ∧ (gestures hold).stateAt s samples (n + 1) = idle := by
  have hlive : (gestures hold).stateAt s samples n ≠ suppressedUntilRelease := by
    rw [hn]
    exact armed_live side
  have hstep : (gestures hold).step ((gestures hold).stateAt s samples n) (samples n)
      = (idle, some (.answer side.answer)) := (step_allUp hlive hup).1 side hn
  exact ⟨congrArg Prod.snd hstep, congrArg Prod.fst hstep⟩

/-- **A roll between the sides answers exactly once**, at the release, with
the side that was down in the sample before it. -/
theorem roll_answers_once (hold : Nat) (s : ButtonState) (samples : Nat → Sample) (n : Nat)
    (hs : s = idle ∨ ∃ side, s = armed side) (hroll : ∀ k, k ≤ n → (samples k).OneSide)
    (hup : (samples (n + 1)).AllUp) :
    (∀ k, k ≤ n → (gestures hold).outputAt s samples k = none)
      ∧ (∃ side, (samples n).buttons.side = some side
        ∧ (gestures hold).outputAt s samples (n + 1) = some (.answer side.answer))
      ∧ (gestures hold).stateAt s samples (n + 2) = idle := by
  have hlive : (gestures hold).stateAt s samples 0 ≠ suppressedUntilRelease := by
    rcases hs with hidle | ⟨side, harmed⟩
    · rw [show (gestures hold).stateAt s samples 0 = s from rfl, hidle]
      exact idle_live
    · rw [show (gestures hold).stateAt s samples 0 = s from rfl, harmed]
      exact armed_live side
  obtain ⟨hsilent, side, hside, harmed⟩ :=
    armed_of_roll hlive (Nat.zero_le n) fun k _ hk => hroll k hk
  obtain ⟨hanswer, hidle⟩ := answer_of_armed harmed hup
  exact ⟨fun k hk => hsilent k (Nat.zero_le k) hk, ⟨side, hside, hanswer⟩, hidle⟩

/-- LEFT alone. -/
def leftDown : Sample := { buttons := { left := true } }

/-- RIGHT alone. -/
def rightDown : Sample := { buttons := { right := true } }

/-- LEFT and RIGHT. -/
def bothDown : Sample := { buttons := { left := true, right := true } }

theorem roll_answers_once_demo :
    (armed .left = idle ∨ ∃ side, armed .left = ButtonState.armed side)
      ∧ (gestures panicHold).outputAt (armed .left) (sampled [rightDown, leftDown]) 2
        = some (.answer 2) := by
  refine ⟨.inr ⟨.left, rfl⟩, ?_⟩
  obtain ⟨_, ⟨side, hside, hanswer⟩, _⟩ :=
    roll_answers_once panicHold (armed .left) (sampled [rightDown, leftDown]) 1 (.inr ⟨.left, rfl⟩)
      (fun k hk => by interval_cases k <;> decide) (by decide)
  obtain rfl : Side.left = side := Option.some.inj hside
  exact hanswer

/-! ## A hold let go too early -/

/-- Both sides are held from `m` to `last`, never as long as the
threshold; then they come up, in any order, and `up` is the first sample
with every button up. -/
structure AbortedCombo (hold : Nat) (s : ButtonState) (samples : Nat → Sample) (m last up : Nat) :
    Prop where
  run : ComboRun samples m last
  short : ∀ k, m ≤ k → k ≤ last → (samples k).now - heldFrom s samples m < hold
  later : last < up
  quiet : ∀ k, m ≤ k → k ≤ up → (samples k).Quiet
  parted : ¬ (samples (last + 1)).BothDown
  /-- neither side is pressed again -/
  released : ∀ k, last < k → k < up →
    ((samples (k + 1)).buttons.left = true → (samples k).buttons.left = true)
      ∧ ((samples (k + 1)).buttons.right = true → (samples k).buttons.right = true)
  held : ∀ k, last < k → k < up → ¬ (samples k).AllUp
  allUp : (samples up).AllUp

variable {last up : Nat}

/-- Between the hold and the release exactly one side is down. -/
theorem AbortedCombo.oneSide (h : AbortedCombo hold s samples m last up) {k : Nat}
    (hlast : last < k) (hk : k < up) : (samples k).OneSide := by
  have hapart : ¬ (samples k).BothDown := by
    induction k, hlast using Nat.le_induction with
    | base => exact h.parted
    | succ k hlast ih =>
        intro hboth
        obtain ⟨hleft, hright⟩ := h.released k hlast (by omega)
        have hquiet := h.quiet k (by have := h.run.le; omega) (by omega)
        exact ih (by omega) ⟨hquiet.1, hleft hboth.2.1, hright hboth.2.2⟩
  have hquiet := h.quiet k (by have := h.run.le; omega) (by omega)
  exact (hquiet.cases.resolve_left hapart).resolve_right (h.held k hlast hk)

/-- While both sides are down nothing is chosen, and the hold stays timed. -/
theorem AbortedCombo.timed (h : AbortedCombo hold s samples m last up)
    (hlive : (gestures hold).stateAt s samples m ≠ suppressedUntilRelease) {k : Nat} (hmk : m ≤ k)
    (hk : k ≤ last) :
    (gestures hold).step ((gestures hold).stateAt s samples k) (samples k)
      = (combo (heldFrom s samples m), none) := by
  have hrun := h.run.upTo hmk hk
  have hk_short := h.short k hmk hk
  have hk_live := hrun.live hlive fun j hmj hjk => h.short j hmj (by omega)
  rw [hrun.step_eq hk_live, if_neg (by omega)]

/-- A suppression that was there at the start outlasts the whole gesture. -/
theorem AbortedCombo.silent (h : AbortedCombo hold s samples m last up)
    (hs : (gestures hold).stateAt s samples m = suppressedUntilRelease) {k : Nat} (hmk : m ≤ k)
    (hk : k ≤ up) : (gestures hold).outputAt s samples k = none := by
  cases hchoice : (gestures hold).outputAt s samples k with
  | none => rfl
  | some choice =>
      obtain ⟨j, hmj, hjk, hup⟩ := suppressed_until hs hmk (live_of_output hchoice).2
      by_cases hj : j ≤ last
      · exact absurd hup (not_allUp_of_bothDown (h.run.both j hmj hj))
      · exact absurd hup (h.held j (by omega) (by omega))

/-- Both sides coming up in one sample answer nothing. -/
theorem AbortedCombo.together (h : AbortedCombo hold s samples m last (last + 1))
    (hlive : (gestures hold).stateAt s samples m ≠ suppressedUntilRelease) :
    (gestures hold).outputAt s samples (last + 1) = none := by
  have hcombo : (gestures hold).stateAt s samples (last + 1) = combo (heldFrom s samples m) :=
    congrArg Prod.fst (h.timed hlive h.run.le (Nat.le_refl last))
  have hlive_after : (gestures hold).stateAt s samples (last + 1) ≠ suppressedUntilRelease := by
    rw [hcombo]
    exact combo_live _
  have hunarmed : ∀ side, (gestures hold).stateAt s samples (last + 1) ≠ armed side := by
    intro side harmed
    rw [hcombo] at harmed
    cases harmed
  exact congrArg Prod.snd ((step_allUp hlive_after h.allUp).2 hunarmed)

/-- One side coming up first leaves a roll, and the roll answers. -/
theorem AbortedCombo.staggered (h : AbortedCombo hold s samples m last (n + 1)) (hlast : last < n)
    (hlive : (gestures hold).stateAt s samples m ≠ suppressedUntilRelease) :
    (∀ k, last < k → k ≤ n → (gestures hold).outputAt s samples k = none)
      ∧ ∃ side, (samples n).buttons.side = some side
        ∧ (gestures hold).outputAt s samples (n + 1) = some (.answer side.answer) := by
  have hlive_after : (gestures hold).stateAt s samples (last + 1) ≠ suppressedUntilRelease := by
    rw [show (gestures hold).stateAt s samples (last + 1) = combo (heldFrom s samples m) from
      congrArg Prod.fst (h.timed hlive h.run.le (Nat.le_refl last))]
    exact combo_live _
  obtain ⟨hsilent, side, hside, harmed⟩ :=
    armed_of_roll hlive_after hlast fun k hk hkn => h.oneSide hk (Nat.lt_succ_of_le hkn)
  exact ⟨hsilent, side, hside, (answer_of_armed harmed h.allUp).1⟩

/-- **A hold let go too early answers only as a roll does**: nothing is
chosen before the release, nothing at all when both sides come up in one
sample, and otherwise the side that was down last answers. -/
theorem aborted_combo_answers_as_a_roll (hold : Nat) (s : ButtonState) (samples : Nat → Sample)
    (m last up : Nat) (h : AbortedCombo hold s samples m last up) :
    (∀ k, m ≤ k → k < up → (gestures hold).outputAt s samples k = none)
      ∧ ((gestures hold).outputAt s samples up = none
        ↔ (gestures hold).stateAt s samples m = suppressedUntilRelease ∨ up = last + 1)
      ∧ ((gestures hold).stateAt s samples m ≠ suppressedUntilRelease → last + 1 < up →
        ∃ side, (samples (up - 1)).buttons.side = some side
          ∧ (gestures hold).outputAt s samples up = some (.answer side.answer)) := by
  have hmlast := h.run.le
  have hlater := h.later
  by_cases hs : (gestures hold).stateAt s samples m = suppressedUntilRelease
  · have hnone : ∀ k, m ≤ k → k ≤ up → (gestures hold).outputAt s samples k = none :=
      fun k hmk hk => h.silent hs hmk hk
    refine ⟨fun k hmk hk => hnone k hmk (by omega), ?_, fun hlive => absurd hs hlive⟩
    exact ⟨fun _ => .inl hs, fun _ => hnone up (by omega) (Nat.le_refl up)⟩
  · have hheld : ∀ k, m ≤ k → k ≤ last → (gestures hold).outputAt s samples k = none :=
      fun k hmk hk => congrArg Prod.snd (h.timed hs hmk hk)
    by_cases htogether : up = last + 1
    · subst htogether
      refine ⟨fun k hmk hk => hheld k hmk (by omega), ?_, fun _ hlt => by omega⟩
      exact ⟨fun _ => .inr rfl, fun _ => h.together hs⟩
    · obtain ⟨n, rfl⟩ : ∃ n, up = n + 1 := ⟨up - 1, by omega⟩
      obtain ⟨hroll, side, hside, hanswer⟩ := h.staggered (by omega) hs
      refine ⟨fun k hmk hk => ?_, ?_, fun _ _ => ⟨side, hside, hanswer⟩⟩
      · by_cases hk_held : k ≤ last
        · exact hheld k hmk hk_held
        · exact hroll k (by omega) (by omega)
      · rw [hanswer]
        constructor
        · intro hnone
          cases hnone
        · rintro (hsuppressed | hlast)
          · exact absurd hsuppressed hs
          · exact absurd hlast htogether

theorem abortedCombo_staggered :
    AbortedCombo panicHold idle (sampled [bothDown, rightDown]) 0 0 2 where
  run := ⟨Nat.le_refl 0, fun k _ hk => by interval_cases k; decide, fun before h => by omega⟩
  short := fun k _ hk => by interval_cases k; decide
  later := by decide
  quiet := fun k _ hk => by interval_cases k <;> decide
  parted := by decide
  released := fun k hk hup => by interval_cases k; decide
  held := fun k hk hup => by interval_cases k; decide
  allUp := by decide

/-- LEFT comes up one sample before RIGHT, and RIGHT answers. -/
theorem aborted_combo_can_answer :
    ¬ ∀ hold s samples m last up, AbortedCombo hold s samples m last up →
      ∀ k, m ≤ k → k ≤ up → ∀ index,
        (gestures hold).outputAt s samples k ≠ some (.answer index) := by
  intro hclaim
  exact hclaim panicHold idle (sampled [bothDown, rightDown]) 0 0 2 abortedCombo_staggered 2
    (by decide) (by decide) 1 (by decide)

theorem aborted_combo_answers_as_a_roll_demo :
    AbortedCombo panicHold idle (sampled [bothDown, rightDown]) 0 0 2
      ∧ ∃ side : Side, (gestures panicHold).outputAt idle (sampled [bothDown, rightDown]) 2
        = some (.answer side.answer) := by
  refine ⟨abortedCombo_staggered, ?_⟩
  obtain ⟨side, _, hanswer⟩ := (aborted_combo_answers_as_a_roll panicHold idle
    (sampled [bothDown, rightDown]) 0 0 2 abortedCombo_staggered).2.2 (by decide) (by decide)
  exact ⟨side, hanswer⟩

end ButtonState

end DurableTrivia.Firmware
