import DurableTrivia.Lib.Mealy
import DurableTrivia.Firmware.Buttons

/-!
# Gestures — what a whole sequence of samples means

`ButtonState::advance` read sample by sample, from any state and over any
number of samples: what one sample can do (`advanced_step`), and what
follows for a hold of both sides, for an overlay, and for a roll from one
side to the other. Suppression is the common thread: the machine gets
into it by an overlay or a crash, and out of it only by a sample with
every button up.
-/

namespace DurableTrivia.Firmware

open DurableTrivia.Lib

/-- One poll of the pins: the buttons, whether an overlay has the screen,
and when. -/
structure Sample where
  buttons : Buttons := {}
  powerupActive : Bool := false
  now : Nat := 0
  deriving DecidableEq, Repr

/-- No overlay, and both sides down. -/
def Sample.BothDown (x : Sample) : Prop :=
  x.powerupActive = false ∧ x.buttons.left = true ∧ x.buttons.right = true

/-- No overlay, and every button up. -/
def Sample.AllUp (x : Sample) : Prop := x.powerupActive = false ∧ x.buttons.any = false

instance (x : Sample) : Decidable x.BothDown := inferInstanceAs (Decidable (_ ∧ _ ∧ _))
instance (x : Sample) : Decidable x.AllUp := inferInstanceAs (Decidable (_ ∧ _))

/-- A finite sequence, with nothing pressed after it. -/
def sampled (xs : List Sample) (n : Nat) : Sample := xs.getD n {}

/-- The side that is down when it is only one of them. -/
def Buttons.side (b : Buttons) : Option Side :=
  if b.left then some .left else if b.right then some .right else none

/-- When the hold of both sides began. -/
def ButtonState.since (s : ButtonState) (now : Nat) : Nat :=
  match s with
  | .combo since => since
  | _ => now

/-- From when the hold of both sides that starts at `m` is timed; a hold
already timed at the start is carried on. -/
def heldFrom (s : ButtonState) (samples : Nat → Sample) : Nat → Nat
  | 0 => s.since (samples 0).now
  | m + 1 => (samples (m + 1)).now

theorem heldFrom_idle (samples : Nat → Sample) (m : Nat) :
    heldFrom .idle samples m = (samples m).now := by
  cases m with
  | zero => rfl
  | succ m => rfl

/-- The buttons as a machine that reads samples. -/
def gestures (panicHold : Nat) : Mealy ButtonState Sample Choice where
  step s x := s.advance x.buttons x.powerupActive x.now panicHold

/-! ## One sample -/

namespace ButtonState

theorem idle_live : idle ≠ suppressedUntilRelease := by
  intro h
  cases h

theorem armed_live (side : Side) : armed side ≠ suppressedUntilRelease := by
  intro h
  cases h

theorem combo_live (since : Nat) : combo since ≠ suppressedUntilRelease := by
  intro h
  cases h

/-- What one sample can do. -/
inductive Advanced (s : ButtonState) (x : Sample) (hold : Nat) :
    ButtonState × Option Choice → Prop
  | overlay (hover : x.powerupActive = true) : Advanced s x hold (suppressedUntilRelease, none)
  | ignored (hs : s = suppressedUntilRelease) (hany : x.buttons.any = true) :
      Advanced s x hold (suppressedUntilRelease, none)
  | released (hs : s = suppressedUntilRelease) (hup : x.AllUp) : Advanced s x hold (idle, none)
  | crashed (hs : s ≠ suppressedUntilRelease) (hboth : x.BothDown)
      (hheld : hold ≤ x.now - s.since x.now) :
      Advanced s x hold (suppressedUntilRelease, some .panic)
  | held (hs : s ≠ suppressedUntilRelease) (hboth : x.BothDown)
      (hshort : x.now - s.since x.now < hold) : Advanced s x hold (combo (s.since x.now), none)
  | up (hs : s ≠ suppressedUntilRelease) (hfree : x.powerupActive = false)
      (hsides : ¬ x.BothDown) (hup : x.buttons.up = true) :
      Advanced s x hold (idle, some (.answer 0))
  | down (hs : s ≠ suppressedUntilRelease) (hfree : x.powerupActive = false)
      (hsides : ¬ x.BothDown) (hup : x.buttons.up = false) (hdown : x.buttons.down = true) :
      Advanced s x hold (idle, some (.answer 3))
  | armed (hs : s ≠ suppressedUntilRelease) (hfree : x.powerupActive = false)
      (hsides : ¬ x.BothDown) (hup : x.buttons.up = false) (hdown : x.buttons.down = false)
      {side : Side} (hside : x.buttons.side = some side) :
      Advanced s x hold (ButtonState.armed side, none)
  | answered (hup : x.AllUp) {side : Side} (hs : s = ButtonState.armed side) :
      Advanced s x hold (idle, some (.answer side.answer))
  | rested (hs : s ≠ suppressedUntilRelease) (hup : x.AllUp)
      (hunarmed : ∀ side, s ≠ ButtonState.armed side) : Advanced s x hold (idle, none)

/-- With both sides down only the hold decides. -/
theorem step_together {s : ButtonState} {x : Sample} {hold : Nat}
    (hs : s ≠ suppressedUntilRelease) (hboth : x.BothDown) :
    (gestures hold).step s x = if hold ≤ x.now - s.since x.now then
      (suppressedUntilRelease, some .panic) else (combo (s.since x.now), none) := by
  show s.advance x.buttons x.powerupActive x.now hold = _
  unfold advance
  rw [if_neg (by simp [hboth.1]), if_neg hs, if_pos (by simp [hboth.2])]
  rfl

theorem advanced_together {s : ButtonState} {x : Sample} {hold : Nat}
    (hs : s ≠ suppressedUntilRelease) (hboth : x.BothDown) :
    Advanced s x hold ((gestures hold).step s x) := by
  rw [step_together hs hboth]
  by_cases hheld : hold ≤ x.now - s.since x.now
  · rw [if_pos hheld]
    exact .crashed hs hboth hheld
  · rw [if_neg hheld]
    exact .held hs hboth (Nat.lt_of_not_le hheld)

/-- With the sides apart the first button down decides, UP before DOWN. -/
theorem advanced_apart {s : ButtonState} {x : Sample} {hold : Nat}
    (hs : s ≠ suppressedUntilRelease) (hfree : x.powerupActive = false) (hsides : ¬ x.BothDown) :
    Advanced s x hold ((gestures hold).step s x) := by
  have hapart : ¬ (x.buttons.left && x.buttons.right) = true := by
    intro hboth
    exact hsides ⟨hfree, Bool.and_eq_true_iff.mp hboth⟩
  show Advanced s x hold (s.advance x.buttons x.powerupActive x.now hold)
  unfold advance
  rw [if_neg (by simp [hfree]), if_neg hs, if_neg hapart]
  cases hup : x.buttons.up with
  | true => exact .up hs hfree hsides hup
  | false =>
      cases hdown : x.buttons.down with
      | true => exact .down hs hfree hsides hup hdown
      | false =>
          cases hleft : x.buttons.left with
          | true => exact .armed hs hfree hsides hup hdown (by simp [Buttons.side, hleft])
          | false =>
              cases hright : x.buttons.right with
              | true =>
                  exact .armed hs hfree hsides hup hdown (by simp [Buttons.side, hleft, hright])
              | false =>
                  have hall : x.AllUp := ⟨hfree, by simp [Buttons.any, hup, hdown, hleft, hright]⟩
                  cases s with
                  | armed side => exact .answered hall rfl
                  | idle => exact .rested hs hall fun _ h => by cases h
                  | combo since => exact .rested hs hall fun _ h => by cases h
                  | suppressedUntilRelease => exact absurd rfl hs

theorem advanced_step (s : ButtonState) (x : Sample) (hold : Nat) :
    Advanced s x hold ((gestures hold).step s x) := by
  by_cases hs : s = suppressedUntilRelease ∨ x.powerupActive = true
  · show Advanced s x hold (s.advance x.buttons x.powerupActive x.now hold)
    unfold advance
    cases hover : x.powerupActive with
    | true => exact .overlay hover
    | false =>
        have hsuppressed : s = suppressedUntilRelease := hs.resolve_right (by simp [hover])
        rw [if_neg Bool.false_ne_true, if_pos hsuppressed]
        cases hany : x.buttons.any with
        | true => exact .ignored hsuppressed hany
        | false => exact .released hsuppressed ⟨hover, hany⟩
  · rw [not_or, Bool.not_eq_true] at hs
    by_cases hboth : x.BothDown
    · exact advanced_together hs.1 hboth
    · exact advanced_apart hs.1 hs.2 hboth

/-- With the sides apart a live machine stays live. -/
theorem live_apart {s : ButtonState} {x : Sample} {hold : Nat} (hs : s ≠ suppressedUntilRelease)
    (hfree : x.powerupActive = false) (hsides : ¬ x.BothDown) :
    ((gestures hold).step s x).1 ≠ suppressedUntilRelease := by
  have hadvanced : Advanced s x hold ((gestures hold).step s x) :=
    advanced_apart hs hfree hsides
  generalize (gestures hold).step s x = result at hadvanced ⊢
  intro hnext
  cases hadvanced with
  | overlay hover =>
      rw [hfree] at hover
      cases hover
  | ignored hsuppressed _ => exact hs hsuppressed
  | crashed _ hboth _ => exact hsides hboth
  | _ => cases hnext

/-! ## Suppression -/

section Samples
variable {hold : Nat} {s : ButtonState} {samples : Nat → Sample} {m n : Nat} {choice : Choice}

theorem not_allUp_of_bothDown {x : Sample} (h : x.BothDown) : ¬ x.AllUp := by
  intro hup
  have hany : x.buttons.any = true := by simp [Buttons.any, h.2.1]
  rw [hup.2] at hany
  cases hany

/-- **Only a sample with every button up ends a suppression.** -/
theorem suppressed_until (hs : (gestures hold).stateAt s samples m = suppressedUntilRelease)
    (hmn : m ≤ n) (hn : (gestures hold).stateAt s samples n ≠ suppressedUntilRelease) :
    ∃ k, m ≤ k ∧ k < n ∧ (samples k).AllUp := by
  refine Mealy.left_by (P := fun state => state = suppressedUntilRelease) ?_ hs hmn hn
  intro state x hstate hleft
  have hadvanced := advanced_step state x hold
  generalize (gestures hold).step state x = result at hadvanced hleft
  cases hadvanced with
  | released _ hup => exact hup
  | overlay _ => exact absurd rfl hleft
  | ignored _ _ => exact absurd rfl hleft
  | crashed _ _ _ => exact absurd rfl hleft
  | held hlive _ _ => exact absurd hstate hlive
  | up hlive _ _ _ => exact absurd hstate hlive
  | down hlive _ _ _ _ => exact absurd hstate hlive
  | armed hlive _ _ _ _ _ => exact absurd hstate hlive
  | answered hup _ => exact hup
  | rested _ hup _ => exact hup

theorem stateAt_succ_of_overlay (hover : (samples n).powerupActive = true) :
    (gestures hold).stateAt s samples (n + 1) = suppressedUntilRelease := by
  show ((gestures hold).step ((gestures hold).stateAt s samples n) (samples n)).1 = _
  show (advance _ _ (samples n).powerupActive _ _).1 = _
  unfold advance
  rw [if_pos hover]

theorem live_of_output (h : (gestures hold).outputAt s samples n = some choice) :
    (samples n).powerupActive = false
      ∧ (gestures hold).stateAt s samples n ≠ suppressedUntilRelease :=
  live_of_choice h

theorem stateAt_succ_of_panic (h : (gestures hold).outputAt s samples n = some .panic) :
    (gestures hold).stateAt s samples (n + 1) = suppressedUntilRelease := by
  have hadvanced := advanced_step ((gestures hold).stateAt s samples n) (samples n) hold
  change ((gestures hold).step _ _).2 = _ at h
  show ((gestures hold).step _ _).1 = _
  generalize (gestures hold).step ((gestures hold).stateAt s samples n) (samples n) = result
    at hadvanced h
  cases hadvanced with
  | crashed _ _ _ => rfl
  | _ => cases h

/-- Nothing is chosen between a suppression and the release that ends it. -/
theorem release_before_choice
    (hs : (gestures hold).stateAt s samples (m + 1) = suppressedUntilRelease) (hmn : m < n)
    (h : (gestures hold).outputAt s samples n = some choice) :
    ∃ k, m < k ∧ k < n ∧ (samples k).AllUp :=
  suppressed_until hs hmn (live_of_output h).2

/-! ## Holding both sides -/

/-- The samples from `m` to `n` have both sides down, and the one before
`m` has not. -/
structure ComboRun (samples : Nat → Sample) (m n : Nat) : Prop where
  le : m ≤ n
  both : ∀ k, m ≤ k → k ≤ n → (samples k).BothDown
  first : ∀ before, m = before + 1 → ¬ (samples before).BothDown

theorem exists_comboRun (h : (samples n).BothDown) : ∃ m, ComboRun samples m n := by
  obtain ⟨m, hstreak⟩ := Streak.exists_of (P := fun k => (samples k).BothDown) h
  exact ⟨m, hstreak.le, hstreak.all, hstreak.first⟩

theorem ComboRun.upTo (h : ComboRun samples m n) {k : Nat} (hmk : m ≤ k) (hkn : k ≤ n) :
    ComboRun samples m k :=
  ⟨hmk, fun j hmj hjk => h.both j hmj (by omega), h.first⟩

/-- A hold of both sides does not end a suppression. -/
theorem ComboRun.suppressed (h : ComboRun samples m n) {k : Nat} (hmk : m ≤ k) (hkn : k ≤ n)
    (hk : (gestures hold).stateAt s samples k = suppressedUntilRelease) :
    (gestures hold).stateAt s samples n = suppressedUntilRelease := by
  by_contra hn
  obtain ⟨j, hkj, hjn, hup⟩ := suppressed_until hk hkn hn
  exact not_allUp_of_bothDown (h.both j (by omega) (by omega)) hup

/-- Before a run starts no hold is timed, but for one timed from before
the first sample. -/
theorem ComboRun.start (h : ComboRun samples m n) :
    ((gestures hold).stateAt s samples m).since (samples m).now = heldFrom s samples m := by
  cases m with
  | zero => rfl
  | succ before =>
      show since ((gestures hold).step _ _).1 _ = _
      have hadvanced :=
        advanced_step ((gestures hold).stateAt s samples before) (samples before) hold
      generalize (gestures hold).step ((gestures hold).stateAt s samples before) (samples before)
        = result at hadvanced ⊢
      cases hadvanced with
      | held _ hboth _ => exact absurd hboth (h.first before rfl)
      | _ => rfl

/-- **The hold is timed from the start of the run**, and as long as the
machine is live it has been shorter than the threshold. -/
theorem ComboRun.timed (h : ComboRun samples m n)
    (hlive : (gestures hold).stateAt s samples n ≠ suppressedUntilRelease) :
    ((gestures hold).stateAt s samples n).since (samples n).now = heldFrom s samples m
      ∧ ∀ k, m ≤ k → k < n → (samples k).now - heldFrom s samples m < hold := by
  obtain ⟨hle, hboth, hfirst⟩ := h
  induction n, hle using Nat.le_induction with
  | base => exact ⟨ComboRun.start ⟨Nat.le_refl m, hboth, hfirst⟩, fun k hmk hkm => by omega⟩
  | succ n hmn ih =>
      have hrun : ComboRun samples m (n + 1) := ⟨by omega, hboth, hfirst⟩
      have hbefore : (gestures hold).stateAt s samples n ≠ suppressedUntilRelease := by
        intro hn
        exact hlive (hrun.suppressed hmn (by omega) hn)
      obtain ⟨hsince, hshort⟩ := ih hbefore fun k hmk hkn => hboth k hmk (by omega)
      change ((gestures hold).step _ _).1 ≠ _ at hlive
      show since ((gestures hold).step _ _).1 _ = _ ∧ _
      rw [step_together hbefore (hboth n hmn (by omega)), hsince] at hlive ⊢
      by_cases hheld : hold ≤ (samples n).now - heldFrom s samples m
      · rw [if_pos hheld] at hlive
        exact absurd rfl hlive
      · rw [if_neg hheld]
        refine ⟨rfl, fun k hmk hkn => ?_⟩
        by_cases hlast : k = n
        · rw [hlast]
          omega
        · exact hshort k hmk (by omega)

/-- What a live sample of the run does: the crash at the threshold. -/
theorem ComboRun.step_eq (h : ComboRun samples m n)
    (hlive : (gestures hold).stateAt s samples n ≠ suppressedUntilRelease) :
    (gestures hold).step ((gestures hold).stateAt s samples n) (samples n)
      = if hold ≤ (samples n).now - heldFrom s samples m then
          (suppressedUntilRelease, some .panic)
        else (combo (heldFrom s samples m), none) := by
  rw [step_together hlive (h.both n h.le (Nat.le_refl n)), (h.timed hlive).1]

/-- A run that began live stays live while it is short. -/
theorem ComboRun.live (h : ComboRun samples m n)
    (hlive : (gestures hold).stateAt s samples m ≠ suppressedUntilRelease)
    (hshort : ∀ k, m ≤ k → k < n → (samples k).now - heldFrom s samples m < hold) :
    (gestures hold).stateAt s samples n ≠ suppressedUntilRelease := by
  refine Mealy.stays (P := fun state => state ≠ suppressedUntilRelease) hlive h.le ?_
  intro k hmk hkn hk
  have hk_short := hshort k hmk hkn
  show ((gestures hold).step _ _).1 ≠ _
  rw [(h.upTo hmk (by omega)).step_eq hk, if_neg (by omega)]
  exact combo_live _

theorem bothDown_of_panic (h : (gestures hold).outputAt s samples n = some .panic) :
    (samples n).BothDown := by
  have hadvanced := advanced_step ((gestures hold).stateAt s samples n) (samples n) hold
  change ((gestures hold).step _ _).2 = _ at h
  generalize (gestures hold).step ((gestures hold).stateAt s samples n) (samples n) = result
    at hadvanced h
  cases hadvanced with
  | crashed _ hboth _ => exact hboth
  | _ => cases h

/-- **The crash of a run**: at the first of its samples that is as late as
the threshold, if the run began live. -/
theorem ComboRun.panic_iff (h : ComboRun samples m n) :
    (gestures hold).outputAt s samples n = some .panic
      ↔ (gestures hold).stateAt s samples m ≠ suppressedUntilRelease
        ∧ hold ≤ (samples n).now - heldFrom s samples m
        ∧ ∀ k, m ≤ k → k < n → (samples k).now - heldFrom s samples m < hold := by
  show ((gestures hold).step _ _).2 = _ ↔ _
  constructor
  · intro hpanic
    have hlive := (live_of_output hpanic).2
    have hbegan : (gestures hold).stateAt s samples m ≠ suppressedUntilRelease := by
      intro hm
      exact hlive (h.suppressed (Nat.le_refl m) h.le hm)
    rw [h.step_eq hlive] at hpanic
    refine ⟨hbegan, ?_, (h.timed hlive).2⟩
    by_contra hshort
    rw [if_neg hshort] at hpanic
    cases hpanic
  · intro ⟨hbegan, hheld, hshort⟩
    rw [h.step_eq (h.live hbegan hshort), if_pos hheld]

/-- **One hold is exactly one crash**, and after it nothing is chosen until
every button has come up. -/
theorem one_hold_is_one_crash (hold : Nat) (samples : Nat → Sample) :
    (∀ n, (gestures hold).outputAt idle samples n = some .panic ↔
      ∃ m, ComboRun samples m n
        ∧ (gestures hold).stateAt idle samples m ≠ suppressedUntilRelease
        ∧ hold ≤ (samples n).now - (samples m).now
        ∧ ∀ k, m ≤ k → k < n → (samples k).now - (samples m).now < hold)
    ∧ ∀ n later choice, (gestures hold).outputAt idle samples n = some .panic → n < later →
      (gestures hold).outputAt idle samples later = some choice →
      ∃ k, n < k ∧ k < later ∧ (samples k).AllUp := by
  constructor
  · intro n
    constructor
    · intro hpanic
      obtain ⟨m, hrun⟩ := exists_comboRun (bothDown_of_panic hpanic)
      have hcrash := hrun.panic_iff.mp hpanic
      rw [heldFrom_idle] at hcrash
      exact ⟨m, hrun, hcrash⟩
    · intro ⟨m, hrun, hcrash⟩
      rw [← heldFrom_idle samples m] at hcrash
      exact hrun.panic_iff.mpr hcrash
  · intro n later choice hpanic hlater hchoice
    exact release_before_choice (stateAt_succ_of_panic hpanic) hlater hchoice

/-! ## Overlays -/

/-- **An overlay swallows every gesture under it**: nothing is chosen
until every button has come up, nothing while it is shown, and a crash
after it is timed from a hold that began after it. -/
theorem overlay_swallows_gestures (hold : Nat) (s : ButtonState) (samples : Nat → Sample) :
    (∀ m n choice, (samples m).powerupActive = true → m < n →
      (gestures hold).outputAt s samples n = some choice →
      ∃ k, m < k ∧ k < n ∧ (samples k).AllUp)
    ∧ (∀ n, (samples n).powerupActive = true → (gestures hold).outputAt s samples n = none)
    ∧ ∀ m n, (samples m).powerupActive = true → m < n →
      (gestures hold).outputAt s samples n = some .panic →
      ∃ start, m < start ∧ ComboRun samples start n
        ∧ hold ≤ (samples n).now - (samples start).now := by
  refine ⟨fun m n choice hover hmn h => ?_, fun n hover => ?_, fun m n hover hmn hpanic => ?_⟩
  · exact release_before_choice (stateAt_succ_of_overlay hover) hmn h
  · cases h : (gestures hold).outputAt s samples n with
    | none => rfl
    | some choice =>
        rw [(live_of_output h).1] at hover
        cases hover
  · obtain ⟨start, hrun⟩ := exists_comboRun (bothDown_of_panic hpanic)
    have hafter : m < start := by
      by_contra hcovers
      have hfree := (hrun.both m (by omega) (by omega)).1
      rw [hover] at hfree
      cases hfree
    obtain ⟨_, hheld, _⟩ := hrun.panic_iff.mp hpanic
    refine ⟨start, hafter, hrun, ?_⟩
    cases start with
    | zero => omega
    | succ start => exact hheld

end Samples

end ButtonState

end DurableTrivia.Firmware
