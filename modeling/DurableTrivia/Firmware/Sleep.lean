import DurableTrivia.Firmware.Ui
import DurableTrivia.Lib.Mealy

/-!
# Sleep — deep sleep from a held DOWN

`UiThread::run` of `firmware/src/ui.rs` as a machine that reads turns.
The sleep gesture is armed on an idle screen without an overlay, and is
timed from the turn that first saw DOWN there. A turn reads the clock
when it begins and again, through `elapsed`, when it times the hold.
-/

namespace DurableTrivia.Firmware

open DurableTrivia.Shared DurableTrivia.Lib

/-- One turn of the loop: the requests it drains, with the pins as a
question would sample them, the sampled buttons, the clock when the turn
begins and when it times the hold. -/
structure UiTurn where
  requests : List (UiRequest × Buttons) := []
  buttons : Buttons := {}
  now : Nat
  later : Nat

namespace UiThread

/-- Apply the requests of a turn, in their order. -/
def drain (ui : UiThread) (turn : UiTurn) : UiThread :=
  turn.requests.foldl (fun ui request => ui.apply request.1 request.2 turn.now) ui

/-- What the buttons of a turn are sampled on. -/
def atSample (ui : UiThread) (turn : UiTurn) : UiThread := (ui.drain turn).expireOverlay turn.now

/-- A turn, and whether it calls `sleep_now`. -/
def turn (ui : UiThread) (turn : UiTurn) : UiThread × Bool :=
  (ui.drain turn).finishTurn turn.buttons turn.now turn.later

/-- The sleep gesture is armed: an idle screen and no overlay. -/
def Armed (ui : UiThread) : Prop := ui.screen = .idle ∧ ui.overlayUntil = none

end UiThread

/-- The UI loop. What it produces is a call of `sleep_now`. -/
def uiLoop : Mealy UiThread UiTurn Unit where
  step ui turn := ((ui.turn turn).1, if (ui.turn turn).2 then some () else none)

/-- At turn `k` the sampled DOWN was pressed, the screen was idle when it
was sampled, and no overlay was active. -/
def SleepHeld (turns : Nat → UiTurn) (k : Nat) : Prop :=
  (turns k).buttons.down = true ∧ ((uiLoop.stateAt {} turns k).atSample (turns k)).Armed

namespace UiThread
variable {ui : UiThread} {request : UiRequest} {pins buttons : Buttons} {now later : Nat}

/-! ## What leaves the hold alone -/

@[simp] theorem apply_downSince : (ui.apply request pins now).downSince = ui.downSince := by
  cases request with
  | results _ | resultPending =>
      simp only [apply]
      split <;> rfl
  | status _ | waiting | question _ _ | feedback _ _ | crashed | recovered | powerup _ => rfl

theorem drain_downSince (ui : UiThread) (turn : UiTurn) :
    (ui.drain turn).downSince = ui.downSince := by
  unfold drain
  induction turn.requests generalizing ui with
  | nil => rfl
  | cons request requests ih =>
      rw [List.foldl_cons, ih]
      exact apply_downSince

theorem atSample_downSince (ui : UiThread) (turn : UiTurn) :
    (ui.atSample turn).downSince = ui.downSince := by
  have hexpire : (ui.atSample turn).downSince = (ui.drain turn).downSince := by
    unfold atSample expireOverlay redrawCurrent
    split
    · dsimp only
      split <;> rfl
    · rfl
  rw [hexpire, drain_downSince]

theorem advanceButtons_sleep (ui : UiThread) (buttons : Buttons) (now : Nat) :
    (ui.advanceButtons buttons now).overlayUntil = ui.overlayUntil
      ∧ (ui.advanceButtons buttons now).downSince = ui.downSince := by
  unfold advanceButtons
  cases ui.screen with
  | idle => exact ⟨rfl, rfl⟩
  | question number task =>
      dsimp only
      cases (ui.buttons.advance buttons ui.overlayUntil.isSome now panicHold).2 with
      | none => exact ⟨rfl, rfl⟩
      | some choice => exact ⟨rfl, rfl⟩

theorem advanceSleep_overlay (ui : UiThread) (buttons : Buttons) (now later : Nat) :
    (ui.advanceSleep buttons now later).1.overlayUntil = ui.overlayUntil := by
  unfold advanceSleep
  split
  · rfl
  · split
    · split
      · dsimp only
        split <;> rfl
      · rfl
    · dsimp only
      split
      · rfl
      · split
        · split <;> rfl
        · rfl

/-! ## One turn -/

theorem armed_iff : ui.Armed ↔ (ui.screen.isQuestion || ui.overlayUntil.isSome) = false := by
  rw [Bool.or_eq_false_iff, Option.isSome_eq_false_iff, Option.isNone_iff_eq_none]
  unfold Armed
  cases ui.screen with
  | idle => simp [Screen.isQuestion]
  | question number task => simp [Screen.isQuestion]

/-- An armed screen with DOWN on it times the hold. -/
theorem advanceSleep_held (h : ui.Armed) (hdown : buttons.down = true) :
    (ui.advanceSleep buttons now later).1.downSince = some (ui.downSince.getD now)
      ∧ ((ui.advanceSleep buttons now later).2 = true
        ↔ sleepHold ≤ later - ui.downSince.getD now) := by
  unfold advanceSleep
  rw [if_neg (by simp [armed_iff.mp h]), if_neg (by simp [hdown])]
  dsimp only
  by_cases hlong : sleepHold ≤ later - ui.downSince.getD now
  · rw [if_pos hlong]
    exact ⟨rfl, fun _ => hlong, fun _ => rfl⟩
  · rw [if_neg hlong]
    split
    · split <;> exact ⟨rfl, by simp [hlong]⟩
    · exact ⟨rfl, by simp [hlong]⟩

/-- Anything else forgets it. -/
theorem advanceSleep_unheld (h : ¬ (buttons.down = true ∧ ui.Armed)) :
    (ui.advanceSleep buttons now later).1.downSince = none
      ∧ (ui.advanceSleep buttons now later).2 = false := by
  unfold advanceSleep
  by_cases harmed : ui.Armed
  · have hup : buttons.down = false := by
      rw [← Bool.not_eq_true]
      exact fun hdown => h ⟨hdown, harmed⟩
    rw [if_neg (by simp [armed_iff.mp harmed]), if_pos (by simp [hup])]
    cases hsince : ui.downSince with
    | none => exact ⟨hsince, rfl⟩
    | some since =>
        dsimp only
        rw [if_pos Option.isSome_some]
        split <;> exact ⟨rfl, rfl⟩
  · rw [armed_iff, Bool.not_eq_false] at harmed
    rw [if_pos harmed]
    exact ⟨rfl, rfl⟩

/-- The buttons of a turn are sampled on what its sleep gesture sees. -/
theorem armed_advanceButtons (buttons : Buttons) (now : Nat) :
    (ui.advanceButtons buttons now).Armed ↔ ui.Armed := by
  unfold Armed
  rw [(advanceButtons_frame ui buttons now).1, (advanceButtons_sleep ui buttons now).1]

variable {turn : UiTurn}

theorem turn_held (hdown : turn.buttons.down = true) (h : (ui.atSample turn).Armed) :
    (ui.turn turn).1.downSince = some (ui.downSince.getD turn.now)
      ∧ ((ui.turn turn).2 = true ↔ sleepHold ≤ turn.later - ui.downSince.getD turn.now) := by
  have hsince : ((ui.atSample turn).advanceButtons turn.buttons turn.now).downSince
      = ui.downSince := by
    rw [(advanceButtons_sleep _ _ _).2, atSample_downSince]
  rw [← hsince]
  exact advanceSleep_held ((armed_advanceButtons turn.buttons turn.now).mpr h) hdown

/-- A turn without requests leaves an armed screen armed. -/
theorem armed_turn (h : ui.Armed) (hnone : turn.requests = []) :
    (ui.atSample turn).Armed ∧ (ui.turn turn).1.Armed := by
  have hsame : ui.atSample turn = ui := by
    unfold atSample drain expireOverlay
    rw [hnone, List.foldl_nil, h.2]
    rfl
  rw [hsame]
  refine ⟨h, ?_⟩
  have hbuttons : (ui.advanceButtons turn.buttons turn.now).Armed :=
    (armed_advanceButtons turn.buttons turn.now).mpr h
  have hturn : (ui.turn turn).1
      = ((ui.advanceButtons turn.buttons turn.now).advanceSleep turn.buttons turn.now
        turn.later).1 := by
    show (((ui.atSample turn).advanceButtons _ _).advanceSleep _ _ _).1 = _
    rw [hsame]
  rw [hturn]
  exact ⟨(advanceSleep_frame _ _ _ _).1.trans hbuttons.1,
    (advanceSleep_overlay _ _ _ _).trans hbuttons.2⟩

theorem turn_unheld (h : ¬ (turn.buttons.down = true ∧ (ui.atSample turn).Armed)) :
    (ui.turn turn).1.downSince = none ∧ (ui.turn turn).2 = false := by
  refine advanceSleep_unheld ?_
  rw [armed_advanceButtons]
  exact h

end UiThread

/-! ## Runs of turns -/

section Turns
variable {turns : Nat → UiTurn} {m n : Nat}

theorem downSince_of_unheld (h : ¬ SleepHeld turns n) :
    (uiLoop.stateAt {} turns (n + 1)).downSince = none :=
  (UiThread.turn_unheld h).1

theorem downSince_of_held (h : SleepHeld turns n) :
    (uiLoop.stateAt {} turns (n + 1)).downSince
      = some ((uiLoop.stateAt {} turns n).downSince.getD (turns n).now) :=
  (UiThread.turn_held h.1 h.2).1

/-- **The hold is timed from the first turn of the streak.** -/
theorem since_of_streak (h : Streak (SleepHeld turns) m n) :
    (uiLoop.stateAt {} turns n).downSince.getD (turns n).now = (turns m).now := by
  refine h.carried (Q := fun k =>
    (uiLoop.stateAt {} turns k).downSince.getD (turns k).now = (turns m).now) ?_ ?_
  · intro hfirst
    cases m with
    | zero => rfl
    | succ before =>
        rw [downSince_of_unheld (hfirst before rfl)]
        rfl
  · intro k hheld hk
    rw [downSince_of_held hheld, hk]
    rfl

/-- A turn calls `sleep_now` when DOWN is held on an armed screen and the
hold it times is long enough. -/
theorem sleeps_iff_held : uiLoop.outputAt {} turns n = some ()
    ↔ SleepHeld turns n
      ∧ sleepHold ≤ (turns n).later - (uiLoop.stateAt {} turns n).downSince.getD (turns n).now := by
  have houtput : uiLoop.outputAt {} turns n = some ()
      ↔ ((uiLoop.stateAt {} turns n).turn (turns n)).2 = true := by
    show (if _ then some () else none) = some () ↔ _
    split <;> simp_all
  rw [houtput]
  by_cases hheld : SleepHeld turns n
  · rw [(UiThread.turn_held hheld.1 hheld.2).2]
    simp [hheld]
  · rw [(UiThread.turn_unheld hheld).2]
    simp [hheld]

/-- In a streak the hold is as long as the streak. -/
theorem sleeps_iff_of_streak (h : Streak (SleepHeld turns) m n) :
    uiLoop.outputAt {} turns n = some () ↔ sleepHold ≤ (turns n).later - (turns m).now := by
  rw [sleeps_iff_held, since_of_streak h]
  exact and_iff_right (h.all n h.le (Nat.le_refl n))

/-- A hold of three seconds up to turn `n`, by one time for each turn. -/
def HeldLong (time : UiTurn → Nat) (turns : Nat → UiTurn) (n : Nat) : Prop :=
  ∃ m, m < n ∧ sleepHold ≤ time (turns n) - time (turns m)
    ∧ ∀ k, m ≤ k → k ≤ n → SleepHeld turns k

/-- **Sleep only from a held DOWN on an idle screen**: a turn sleeps
exactly when the streak of turns that held DOWN there, and that it is the
last of, began three seconds before it times the hold. -/
theorem sleep_needs_hold (turns : Nat → UiTurn) (n : Nat) :
    (uiLoop.outputAt {} turns n = some ()
        ↔ ∃ m, Streak (SleepHeld turns) m n ∧ sleepHold ≤ (turns n).later - (turns m).now)
      ∧ (uiLoop.outputAt {} turns n = some () → (turns n).later = (turns n).now →
        HeldLong UiTurn.now turns n) := by
  have hstreak : uiLoop.outputAt {} turns n = some () →
      ∃ m, Streak (SleepHeld turns) m n ∧ sleepHold ≤ (turns n).later - (turns m).now := by
    intro hsleep
    obtain ⟨m, hm⟩ := Streak.exists_of (sleeps_iff_held.mp hsleep).1
    exact ⟨m, hm, (sleeps_iff_of_streak hm).mp hsleep⟩
  refine ⟨⟨hstreak, fun ⟨m, hm, hlong⟩ => (sleeps_iff_of_streak hm).mpr hlong⟩, ?_⟩
  intro hsleep honce
  obtain ⟨m, hm, hlong⟩ := hstreak hsleep
  rw [honce] at hlong
  refine ⟨m, Nat.lt_of_le_of_ne hm.le ?_, hlong, hm.all⟩
  rintro rfl
  rw [Nat.sub_self] at hlong
  exact absurd hlong (by decide)

end Turns

/-- DOWN stays pressed on an idle screen. A turn begins every 9 ms, and
4 ms into it the hold is timed. -/
def downTurns (k : Nat) : UiTurn :=
  { buttons := { down := true }, now := 9 * 10 ^ 6 * k, later := 9 * 10 ^ 6 * k + 4 * 10 ^ 6 }

theorem sleepHeld_downTurns (k : Nat) : SleepHeld downTurns k := by
  have harmed : (uiLoop.stateAt {} downTurns k).Armed := by
    induction k with
    | zero => exact ⟨rfl, rfl⟩
    | succ k ih => exact (UiThread.armed_turn ih rfl).2
  exact ⟨rfl, (UiThread.armed_turn harmed rfl).1⟩

/-- The turn that begins after 2.997 s times the hold after 3.001 s. -/
theorem sleep_within_three_seconds :
    (¬ ∀ turns : Nat → UiTurn, (∀ k, (turns k).now ≤ (turns k).later
        ∧ (turns k).later ≤ (turns (k + 1)).now) →
        ∀ n, uiLoop.outputAt {} turns n = some () → HeldLong UiTurn.now turns n)
      ∧ ¬ ∀ turns : Nat → UiTurn, (∀ k, (turns k).now ≤ (turns k).later
        ∧ (turns k).later ≤ (turns (k + 1)).now) →
        ∀ n, uiLoop.outputAt {} turns n = some () → HeldLong UiTurn.later turns n := by
  have htimes : ∀ k, (downTurns k).now ≤ (downTurns k).later
      ∧ (downTurns k).later ≤ (downTurns (k + 1)).now := by
    intro k
    unfold downTurns
    dsimp only
    omega
  have hstreak : Streak (SleepHeld downTurns) 0 333 :=
    ⟨Nat.zero_le _, fun k _ _ => sleepHeld_downTurns k, fun before h => by omega⟩
  have hsleep : uiLoop.outputAt {} downTurns 333 = some () :=
    (sleeps_iff_of_streak hstreak).mpr (by decide)
  constructor
  · intro hclaim
    obtain ⟨m, _, hlong, _⟩ := hclaim downTurns htimes 333 hsleep
    unfold sleepHold downTurns at hlong
    dsimp only at hlong
    omega
  · intro hclaim
    obtain ⟨m, _, hlong, _⟩ := hclaim downTurns htimes 333 hsleep
    unfold sleepHold downTurns at hlong
    dsimp only at hlong
    omega

end DurableTrivia.Firmware
