import DurableTrivia.Firmware.Gestures

/-!
# Holds — how often a button that stays down answers

A side answers when it comes up, and after a crash it has to come up
first, so one hold of it is one choice. UP and DOWN answer at every live
sample at which they are down and the sides are not both down: a
hold of two such samples answers twice.
-/

namespace DurableTrivia.Firmware

open DurableTrivia.Lib

/-- The four buttons. -/
inductive Button where
  | up | right | down | left
  deriving DecidableEq, Repr

namespace Button

/-- The button is down in the sample. -/
def isDown (button : Button) (b : Buttons) : Bool :=
  match button with
  | .up => b.up
  | .right => b.right
  | .down => b.down
  | .left => b.left

/-- The button is one of the two of the crash combination. -/
def isSide : Button → Bool
  | .left | .right => true
  | .up | .down => false

/-- The choices that come from a button; a crash comes from both sides. -/
def owns : Button → Choice → Bool
  | .up, choice => choice = .answer 0
  | .right, choice => choice = .answer Side.right.answer ∨ choice = .panic
  | .down, choice => choice = .answer 3
  | .left, choice => choice = .answer Side.left.answer ∨ choice = .panic

/-- The samples at which a live machine reads the button as an answer on
press: not under an overlay, not within a hold of both sides, and DOWN
not beside UP. -/
def AnswersOnPress (button : Button) (x : Sample) : Prop :=
  button.isSide = false ∧ x.powerupActive = false ∧ ¬ x.BothDown ∧ button.isDown x.buttons = true
    ∧ (button = .down → x.buttons.up = false)

instance (button : Button) (x : Sample) : Decidable (button.AnswersOnPress x) :=
  inferInstanceAs (Decidable (_ ∧ _ ∧ _ ∧ _ ∧ _))

theorem not_allUp {button : Button} {x : Sample} (h : button.isDown x.buttons = true) :
    ¬ x.AllUp := by
  intro hup
  have hany := hup.2
  simp only [Buttons.any, Bool.or_eq_false_iff] at hany
  cases button <;> simp [isDown, hany] at h

end Button

/-- At most one choice of the button from `m` to `m + n`. -/
def HeldOnce (hold : Nat) (s : ButtonState) (samples : Nat → Sample) (button : Button)
    (m n : Nat) : Prop :=
  ∀ k later, k < later → later ≤ n → ∀ choice again,
    (gestures hold).outputAt s samples (m + k) = some choice → button.owns choice = true →
    (gestures hold).outputAt s samples (m + later) = some again → button.owns again = false

/-- What makes a held button answer at `k` and at `later`: both samples
are answers on press, and up to `later` there is no overlay and no hold
of both sides as long as the threshold. -/
structure Repeats (hold : Nat) (s : ButtonState) (samples : Nat → Sample) (button : Button)
    (k later : Nat) : Prop where
  lt : k < later
  first : button.AnswersOnPress (samples k)
  again : button.AnswersOnPress (samples later)
  free : ∀ j, j < later → (samples j).powerupActive = false
  short : ∀ start j, j < later → ButtonState.ComboRun samples start j →
    (samples j).now - heldFrom s samples start < hold

namespace ButtonState

variable {hold : Nat} {s : ButtonState} {samples : Nat → Sample} {button : Button}
  {k n : Nat} {choice : Choice}

/-- **What keeps the machine live** while some button is down. -/
theorem live_iff (hdown : ∀ j, j < n → ¬ (samples j).AllUp) :
    (gestures hold).stateAt s samples n ≠ suppressedUntilRelease
      ↔ s ≠ suppressedUntilRelease ∧ (∀ j, j < n → (samples j).powerupActive = false)
        ∧ ∀ start j, j < n → ComboRun samples start j →
          (samples j).now - heldFrom s samples start < hold := by
  constructor
  · intro hlive
    -- a suppression before `n` would still be there
    have hbefore : ∀ j, j ≤ n → (gestures hold).stateAt s samples j ≠ suppressedUntilRelease := by
      intro j hjn hj
      obtain ⟨i, _, hin, hup⟩ := suppressed_until hj hjn hlive
      exact hdown i hin hup
    refine ⟨hbefore 0 (Nat.zero_le n), fun j hjn => ?_, fun start j hjn hrun => ?_⟩
    · cases hover : (samples j).powerupActive with
      | false => rfl
      | true => exact absurd (stateAt_succ_of_overlay hover) (hbefore (j + 1) hjn)
    · by_contra hheld
      apply hbefore (j + 1) hjn
      show ((gestures hold).step _ _).1 = _
      rw [hrun.step_eq (hbefore j (by omega)), if_pos (by omega)]
  · intro ⟨hlive, hfree, hshort⟩
    refine Mealy.stays (P := fun state => state ≠ suppressedUntilRelease) (m := 0) hlive
      (Nat.zero_le n) ?_
    intro j _ hjn hj
    by_cases hboth : (samples j).BothDown
    · obtain ⟨start, hrun⟩ := exists_comboRun hboth
      have hj_short := hshort start j hjn hrun
      show ((gestures hold).step _ _).1 ≠ _
      rw [hrun.step_eq hj, if_neg (by omega)]
      exact combo_live _
    · exact live_apart hj (hfree j hjn) hboth

/-- What a choice of a button comes from: its answer on press, or for a
side its release or a crash. -/
theorem of_owned (h : (gestures hold).outputAt s samples n = some choice)
    (howns : button.owns choice = true) :
    button.AnswersOnPress (samples n)
      ∨ button.isSide = true ∧ ((samples n).AllUp ∨ choice = .panic) := by
  have hadvanced := advanced_step ((gestures hold).stateAt s samples n) (samples n) hold
  change ((gestures hold).step _ _).2 = _ at h
  generalize (gestures hold).step ((gestures hold).stateAt s samples n) (samples n) = result
    at hadvanced h
  cases hadvanced with
  | crashed _ _ _ =>
      cases h
      cases button with
      | up => cases howns
      | down => cases howns
      | left => exact .inr ⟨rfl, .inr rfl⟩
      | right => exact .inr ⟨rfl, .inr rfl⟩
  | up _ hfree hsides hup =>
      cases h
      cases button with
      | up => exact .inl ⟨rfl, hfree, hsides, hup, fun h => by cases h⟩
      | _ => cases howns
  | down _ hfree hsides hup hdown =>
      cases h
      cases button with
      | down => exact .inl ⟨rfl, hfree, hsides, hdown, fun _ => hup⟩
      | _ => cases howns
  | @answered hup side _ =>
      cases h
      cases button with
      | up => cases side <;> cases howns
      | down => cases side <;> cases howns
      | left => exact .inr ⟨rfl, .inl hup⟩
      | right => exact .inr ⟨rfl, .inl hup⟩
  | _ => cases h

/-- A live machine answers on press. -/
theorem owned_of_answersOnPress
    (hlive : (gestures hold).stateAt s samples n ≠ suppressedUntilRelease)
    (h : button.AnswersOnPress (samples n)) :
    ∃ choice, (gestures hold).outputAt s samples n = some choice ∧ button.owns choice = true := by
  obtain ⟨hside, hfree, hboth, hdown, hfirst⟩ := h
  have hapart : ¬ ((samples n).buttons.left && (samples n).buttons.right) = true := by
    intro h
    exact hboth ⟨hfree, Bool.and_eq_true_iff.mp h⟩
  show ∃ choice, (advance _ _ _ _ _).2 = _ ∧ _
  unfold advance
  rw [if_neg (by simp [hfree]), if_neg hlive, if_neg hapart]
  cases button with
  | up =>
      have hup : (samples n).buttons.up = true := hdown
      rw [if_pos hup]
      exact ⟨_, rfl, rfl⟩
  | down =>
      have hpressed : (samples n).buttons.down = true := hdown
      rw [if_neg (by simp [hfirst rfl]), if_pos hpressed]
      exact ⟨_, rfl, rfl⟩
  | left => cases hside
  | right => cases hside

/-- Two choices of one hold are answers on press, with nothing between
them that suppresses. -/
theorem repeats_of_owned (hdown : ∀ j, j < n → button.isDown (samples j).buttons = true)
    {later : Nat} {again : Choice} (hlt : k < later) (hle : later ≤ n)
    (hchoice : (gestures hold).outputAt s samples k = some choice)
    (howns : button.owns choice = true)
    (hagain : (gestures hold).outputAt s samples later = some again)
    (howns_again : button.owns again = true) :
    s ≠ suppressedUntilRelease ∧ Repeats hold s samples button k later := by
  have hheld : ∀ j, j < later → ¬ (samples j).AllUp :=
    fun j hj => Button.not_allUp (hdown j (by omega))
  have hlive := (live_of_output hagain).2
  -- the first choice is no crash: that would have suppressed the second
  have hfirst : button.AnswersOnPress (samples k) := by
    rcases of_owned hchoice howns with hpress | ⟨_, hup | hpanic⟩
    · exact hpress
    · exact absurd hup (hheld k hlt)
    · rw [hpanic] at hchoice
      obtain ⟨j, _, hj, hup⟩ := release_before_choice (stateAt_succ_of_panic hchoice) hlt hagain
      exact absurd hup (hheld j hj)
  have hsecond : button.AnswersOnPress (samples later) := by
    rcases of_owned hagain howns_again with hpress | ⟨hside, _⟩
    · exact hpress
    · rw [hfirst.1] at hside
      cases hside
  obtain ⟨hstart, hfree, hshort⟩ := (live_iff hheld).mp hlive
  exact ⟨hstart, hlt, hfirst, hsecond, hfree, hshort⟩

/-- A hold from the first sample, whatever came before it. -/
theorem heldOnce_iff (hdown : ∀ j, j < n → button.isDown (samples j).buttons = true) :
    HeldOnce hold s samples button 0 n ↔ s = suppressedUntilRelease
      ∨ ∀ k later, later ≤ n → ¬ Repeats hold s samples button k later := by
  unfold HeldOnce
  simp only [Nat.zero_add]
  constructor
  · intro honce
    by_cases hs : s = suppressedUntilRelease
    · exact .inl hs
    · right
      intro k later hle hrepeats
      have hlt := hrepeats.lt
      have hheld : ∀ j, j < later → ¬ (samples j).AllUp :=
        fun j hj => Button.not_allUp (hdown j (by omega))
      have hlive : (gestures hold).stateAt s samples later ≠ suppressedUntilRelease :=
        (live_iff hheld).mpr ⟨hs, hrepeats.free, hrepeats.short⟩
      have hlive_first : (gestures hold).stateAt s samples k ≠ suppressedUntilRelease :=
        (live_iff fun j hj => hheld j (by omega)).mpr
          ⟨hs, fun j hj => hrepeats.free j (by omega),
            fun start j hj => hrepeats.short start j (by omega)⟩
      obtain ⟨choice, hchoice, howns⟩ := owned_of_answersOnPress hlive_first hrepeats.first
      obtain ⟨again, hagain, howns_again⟩ := owned_of_answersOnPress hlive hrepeats.again
      rw [honce k later hlt hle choice again hchoice howns hagain] at howns_again
      cases howns_again
  · intro hcond k later hlt hle choice again hchoice howns hagain
    by_contra hboth
    obtain ⟨hs, hrepeats⟩ := repeats_of_owned hdown hlt hle hchoice howns hagain
      (Bool.of_not_eq_false hboth)
    rcases hcond with hsuppressed | hnone
    · exact hs hsuppressed
    · exact hnone k later hle hrepeats

/-- **A side never answers twice in one hold; UP and DOWN do exactly when
two samples of the hold are answers on press to a live machine.** -/
theorem held_button_answers_once_iff (hold : Nat) (s : ButtonState) (samples : Nat → Sample)
    (button : Button) (m n : Nat)
    (hdown : ∀ j, j < n → button.isDown (samples (m + j)).buttons = true) :
    (button.isSide = true → HeldOnce hold s samples button m n)
      ∧ (HeldOnce hold s samples button m n
        ↔ (gestures hold).stateAt s samples m = suppressedUntilRelease
          ∨ ∀ k later, later ≤ n →
            ¬ Repeats hold ((gestures hold).stateAt s samples m) (fun j => samples (m + j)) button
              k later) := by
  have hiff : HeldOnce hold s samples button m n
      ↔ (gestures hold).stateAt s samples m = suppressedUntilRelease
        ∨ ∀ k later, later ≤ n →
          ¬ Repeats hold ((gestures hold).stateAt s samples m) (fun j => samples (m + j)) button
            k later := by
    rw [← heldOnce_iff hdown]
    unfold HeldOnce
    simp only [Mealy.outputAt_add, Nat.zero_add]
  refine ⟨fun hside => hiff.mpr (.inr fun k later _ hrepeats => ?_), hiff⟩
  rw [hrepeats.first.1] at hside
  cases hside

/-- UP is down. -/
def upDown : Sample := { buttons := { up := true } }

/-- UP is down for three samples, the second of them under an overlay. -/
def coveredUp : List Sample := [upDown, { upDown with powerupActive := true }, upDown]

theorem held_button_answers_once_iff_demo :
    (∀ j, j < 3 → Button.up.isDown (sampled coveredUp (0 + j)).buttons = true)
      ∧ (gestures panicHold).outputAt idle (sampled coveredUp) 0 = some (.answer 0)
      ∧ HeldOnce panicHold idle (sampled coveredUp) .up 0 3 := by
  have hdown : ∀ j, j < 3 → Button.up.isDown (sampled coveredUp (0 + j)).buttons = true := by
    intro j hj
    interval_cases j <;> rfl
  refine ⟨hdown, by decide, (held_button_answers_once_iff panicHold idle (sampled coveredUp) .up 0 3
    hdown).2.mpr (.inr fun k later hle hrepeats => ?_)⟩
  have hlt := hrepeats.lt
  by_cases hcovered : 1 < later
  · exact absurd (hrepeats.free 1 hcovered) (by decide)
  · obtain rfl : later = 1 := by omega
    exact absurd hrepeats.again (by decide)

/-- UP held for two samples answers twice. -/
theorem held_up_answers_twice :
    ¬ ∀ hold s samples button m n,
      (∀ j, j < n → Button.isDown button (samples (m + j)).buttons = true) →
      HeldOnce hold s samples button m n := by
  intro hclaim
  have honce := hclaim panicHold idle (sampled [upDown, upDown]) .up 0 2
    fun j hj => by interval_cases j <;> rfl
  exact absurd (honce 0 1 (by decide) (by decide) (.answer 0) (.answer 0) (by decide) (by decide)
    (by decide)) (by decide)

end ButtonState

end DurableTrivia.Firmware
