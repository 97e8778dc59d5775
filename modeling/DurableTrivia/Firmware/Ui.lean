import DurableTrivia.Firmware.Buttons
import DurableTrivia.Shared.Contract

/-!
# Ui — the thread that owns the screen and the buttons

`UiThread` of `firmware/src/ui.rs`: what one request does (`apply`), and
what a turn does behind its requests (`expireOverlay`, `advanceButtons`,
`advanceSleep`). The screen decides who owns the controls; `display` is
the picture drawn last. What the thread does to its hardware, which writes
nothing that it reads here, is added in `BadgeUi`.

Every question the Activity shows is given the next number, which the
source does not have: it tells two showings of one task apart. A queued
gesture keeps the screen it was recognised on for the same reason; the
queue of the source holds the choice only.
-/

namespace DurableTrivia.Firmware

open DurableTrivia.Shared

/-! ## Constants -/

/-- Choices in the queue at most. -/
def maxQueuedChoices : Nat := 8

/-- How long a power-up stays on the screen, in nanoseconds. -/
def powerupOverlay : Nat := 1500 * 10 ^ 6

/-- How long DOWN is held before the countdown shows, in nanoseconds. -/
def sleepArmDelay : Nat := 250 * 10 ^ 6

/-- How long DOWN is held before the badge sleeps, in nanoseconds. -/
def sleepHold : Nat := 3 * 10 ^ 9

/-! ## Data -/

/-- The statuses `main` shows. -/
inductive Status where
  | booting | connectingWifi | syncingTime | connectingCloud | resultPending
  deriving DecidableEq, Repr

/-- A screen the Temporal side wants shown. -/
inductive UiRequest where
  | status (status : Status)
  | waiting
  | question (number : Nat) (task : QuestionTask)
  | feedback (correct : Bool) (scoreDelta : Int)
  | crashed
  | recovered
  | results (snapshot : GameSnapshot)
  | resultPending
  | powerup (command : ChaosCommand)

/-- What the OLED shows. -/
inductive Picture where
  | status (status : Status)
  | waiting
  | question (question : Question)
  | feedback (correct : Bool) (scoreDelta : Int)
  | panic
  | recovered
  | results (snapshot : GameSnapshot)
  | powerup (command : ChaosCommand)
  | sleepCountdown (seconds : Nat)
  | sleeping
  | off

/-- What owns the screen. -/
inductive Screen where
  /-- a status or result screen; the sleep gesture is armed only here -/
  | idle
  | question (number : Nat) (task : QuestionTask)
  deriving DecidableEq, Repr

/-- A question owns the screen. -/
def Screen.isQuestion : Screen → Bool
  | .idle => false
  | .question _ _ => true

/-- A choice, with the screen it was made on. -/
structure Gesture where
  choice : Choice
  screen : Screen
  deriving DecidableEq, Repr

/-- What the UI thread shares with the Temporal side. -/
structure Shared where
  choices : List Gesture := []
  answering : Bool := false

/-- The state of the UI thread. -/
structure UiThread where
  shared : Shared := {}
  screen : Screen := .idle
  buttons : ButtonState := .idle
  overlayUntil : Option Nat := none
  downSince : Option Nat := none
  countdownShown : Option Nat := none
  display : Picture := .off

/-- Queues a gesture; a full queue loses its oldest one. -/
def Shared.push (shared : Shared) (gesture : Gesture) : Shared :=
  { shared with
    choices :=
      (if shared.choices.length ≥ maxQueuedChoices then shared.choices.tail else shared.choices)
        ++ [gesture] }

namespace UiThread

/-! ## Requests -/

/-- The panel shows the picture. -/
def draw (ui : UiThread) (picture : Picture) : UiThread := { ui with display := picture }

/-- The screen goes back to idle and shows a picture. -/
def idle (ui : UiThread) (picture : Picture) : UiThread := { ui with screen := .idle }.draw picture

/-- The end of `apply`: whether a question owns the controls. -/
def storeAnswering (ui : UiThread) : UiThread :=
  { ui with shared := { ui.shared with answering := ui.screen.isQuestion } }

/-- Whatever the buttons were doing belonged to the last screen. -/
def openQuestion (ui : UiThread) (number : Nat) (task : QuestionTask) (pins : Buttons) : UiThread :=
  { ui with
    shared := { ui.shared with choices := [] }
    buttons := if pins.any then .suppressedUntilRelease else .idle
    screen := .question number task }.draw (.question task.question)

/-- One request, with the pins as a question would sample them. -/
def apply (ui : UiThread) (request : UiRequest) (pins : Buttons) (now : Nat) : UiThread :=
  match request with
  | .status status => (ui.idle (.status status)).storeAnswering
  | .waiting => (ui.idle .waiting).storeAnswering
  | .question number task => (ui.openQuestion number task pins).storeAnswering
  | .feedback correct scoreDelta => (ui.idle (.feedback correct scoreDelta)).storeAnswering
  | .crashed => (ui.idle .panic).storeAnswering
  | .recovered => (ui.idle .recovered).storeAnswering
  -- a question outranks the standings
  | .results snapshot =>
      if ui.screen.isQuestion then ui else (ui.draw (.results snapshot)).storeAnswering
  | .resultPending =>
      if ui.screen.isQuestion then ui else (ui.draw (.status .resultPending)).storeAnswering
  | .powerup command =>
      let ui := { ui with overlayUntil := some (now + powerupOverlay) }
      (ui.draw (.powerup command)).storeAnswering

/-! ## The rest of a turn -/

/-- Draw the screen again after an overlay. -/
def redrawCurrent (ui : UiThread) : UiThread :=
  match ui.screen with
  | .question _ task => ui.draw (.question task.question)
  | .idle => ui.draw .waiting

/-- End an overlay that is due. -/
def expireOverlay (ui : UiThread) (now : Nat) : UiThread :=
  if ui.overlayUntil.any (· ≤ now) then { ui with overlayUntil := none }.redrawCurrent else ui

/-- The buttons' turn of the loop: only a question has choices. -/
def advanceButtons (ui : UiThread) (buttons : Buttons) (now : Nat) : UiThread :=
  match ui.screen with
  | .idle => { ui with buttons := .idle }
  | .question _ _ =>
      let (next, choice) := ui.buttons.advance buttons ui.overlayUntil.isSome now panicHold
      let ui := { ui with buttons := next }
      match choice with
      | some choice => { ui with shared := ui.shared.push { choice, screen := ui.screen } }
      | none => ui

/-- The sleep gesture, and whether it is complete. `elapsed` is read from
the clock again, at `later`. -/
def advanceSleep (ui : UiThread) (buttons : Buttons) (now later : Nat) : UiThread × Bool :=
  if ui.screen.isQuestion || ui.overlayUntil.isSome then
    ({ ui with downSince := none, countdownShown := none }, false)
  else if !buttons.down then
    let cleared := { ui with downSince := none, countdownShown := none }
    if ui.downSince.isSome then
      (if ui.countdownShown.isSome then cleared.draw .waiting else cleared, false)
    else (ui, false)
  else
    let since := ui.downSince.getD now
    let ui := { ui with downSince := some since }
    let elapsed := later - since
    -- `sleep_now`: it waits for the release and powers the display off
    if elapsed ≥ sleepHold then (ui.draw .sleeping, true)
    else if elapsed ≥ sleepArmDelay then
      -- whole milliseconds, then seconds rounded up
      let seconds := ((sleepHold - elapsed) / 10 ^ 6 + 999) / 1000
      if ui.countdownShown = some seconds then (ui, false)
      else ({ ui with countdownShown := some seconds }.draw (.sleepCountdown seconds), false)
    else (ui, false)

/-- A turn behind its requests: overlay, buttons, sleep gesture. -/
def finishTurn (ui : UiThread) (buttons : Buttons) (now later : Nat) : UiThread × Bool :=
  ((ui.expireOverlay now).advanceButtons buttons now).advanceSleep buttons now later

/-! ## What requests do to the screen -/

end UiThread

/-- The screen behind a request. -/
def UiRequest.screenAfter (request : UiRequest) (screen : Screen) : Screen :=
  match request with
  | .question number task => .question number task
  | .status _ | .waiting | .feedback _ _ | .crashed | .recovered => .idle
  | .results _ | .resultPending | .powerup _ => screen

/-- The request shows a question. -/
def UiRequest.isQuestion : UiRequest → Bool
  | .question _ _ => true
  | _ => false

/-- A request that gives the screen up. -/
def UiRequest.yields : UiRequest → Bool
  | .status _ | .waiting | .feedback _ _ | .crashed | .recovered => true
  | .question _ _ | .results _ | .resultPending | .powerup _ => false

namespace UiRequest
variable {request : UiRequest} (screen : Screen)

theorem isQuestion_iff :
    request.isQuestion = true ↔ ∃ number task, request = .question number task := by
  cases request <;> simp [isQuestion]

theorem screenAfter_yields (h : request.yields = true) : request.screenAfter screen = .idle := by
  cases request with
  | status _ | waiting | feedback _ _ | crashed | recovered => rfl
  | question _ _ | results _ | resultPending | powerup _ => cases h

/-- A request takes the screen, gives it up, or leaves it. -/
theorem cases_screen (request : UiRequest) : (∃ number task, request = .question number task)
    ∨ request.yields = true ∨ ∀ screen, request.screenAfter screen = screen := by
  cases request with
  | question number task => exact .inl ⟨number, task, rfl⟩
  | status _ | waiting | feedback _ _ | crashed | recovered => exact .inr (.inl rfl)
  | results _ | resultPending | powerup _ => exact .inr (.inr fun _ => rfl)

/-- A question comes onto the screen by its own request only. -/
theorem screenAfter_eq_question {screen : Screen} {number : Nat} {task : QuestionTask}
    (h : request.screenAfter screen = .question number task) :
    (∃ task, request = .question number task) ∨ ∃ task, screen = .question number task := by
  cases request with
  | question _ _ =>
      cases h
      exact .inl ⟨_, rfl⟩
  | status _ | waiting | feedback _ _ | crashed | recovered => cases h
  | results _ | resultPending | powerup _ => exact .inr ⟨_, h⟩

end UiRequest

namespace UiThread
variable {ui : UiThread} {request : UiRequest} {pins : Buttons} {now : Nat}

@[simp] theorem apply_screen :
    (ui.apply request pins now).screen = request.screenAfter ui.screen := by
  cases request with
  | results _ | resultPending =>
      simp only [apply, UiRequest.screenAfter]
      split <;> rfl
  | status _ | waiting | question _ _ | feedback _ _ | crashed | recovered | powerup _ => rfl

/-- Only a question touches the queue, and empties it. -/
theorem apply_choices :
    (ui.apply request pins now).shared.choices
      = if request.isQuestion then [] else ui.shared.choices := by
  cases request with
  | results _ | resultPending =>
      simp only [apply, UiRequest.isQuestion]
      split <;> rfl
  | status _ | waiting | question _ _ | feedback _ _ | crashed | recovered | powerup _ => rfl

/-- `answering` says whether a question is on the screen. -/
theorem apply_answering (h : ui.shared.answering = ui.screen.isQuestion) :
    (ui.apply request pins now).shared.answering
      = (ui.apply request pins now).screen.isQuestion := by
  cases request with
  | results _ | resultPending =>
      simp only [apply]
      split
      · exact h
      · rfl
  | status _ | waiting | question _ _ | feedback _ _ | crashed | recovered | powerup _ => rfl

/-- Standings are drawn exactly when no question owns the screen. -/
theorem apply_results (snapshot : GameSnapshot) (h : ui.screen.isQuestion = false) :
    (ui.apply (.results snapshot) pins now).display = .results snapshot := by
  simp only [apply, h, Bool.false_eq_true, if_false]
  rfl

theorem apply_results_refused (snapshot : GameSnapshot) (h : ui.screen.isQuestion = true) :
    ui.apply (.results snapshot) pins now = ui := by
  simp only [apply, h, if_true]

/-! ## What the rest of a turn does to the screen and the queue -/

theorem expireOverlay_frame (ui : UiThread) (now : Nat) :
    (ui.expireOverlay now).screen = ui.screen ∧ (ui.expireOverlay now).shared = ui.shared := by
  unfold expireOverlay redrawCurrent
  split
  · dsimp only
    split <;> exact ⟨rfl, rfl⟩
  · exact ⟨rfl, rfl⟩

theorem advanceSleep_frame (ui : UiThread) (buttons : Buttons) (now later : Nat) :
    (ui.advanceSleep buttons now later).1.screen = ui.screen
      ∧ (ui.advanceSleep buttons now later).1.shared = ui.shared := by
  unfold advanceSleep
  split
  · exact ⟨rfl, rfl⟩
  · split
    · split
      · dsimp only
        split <;> exact ⟨rfl, rfl⟩
      · exact ⟨rfl, rfl⟩
    · dsimp only
      split
      · exact ⟨rfl, rfl⟩
      · split
        · split <;> exact ⟨rfl, rfl⟩
        · exact ⟨rfl, rfl⟩

/-- The buttons leave the screen alone; what they push was recognised on
it, and a question was there. -/
theorem advanceButtons_frame (ui : UiThread) (buttons : Buttons) (now : Nat) :
    (ui.advanceButtons buttons now).screen = ui.screen
      ∧ (ui.advanceButtons buttons now).shared.answering = ui.shared.answering
      ∧ ((ui.advanceButtons buttons now).shared.choices = ui.shared.choices
        ∨ ∃ choice, ui.screen.isQuestion = true
          ∧ (ui.advanceButtons buttons now).shared
            = ui.shared.push { choice, screen := ui.screen }) := by
  unfold advanceButtons
  cases ui.screen with
  | idle => exact ⟨rfl, rfl, .inl rfl⟩
  | question number task =>
      dsimp only
      cases (ui.buttons.advance buttons ui.overlayUntil.isSome now panicHold).2 with
      | none => exact ⟨rfl, rfl, .inl rfl⟩
      | some choice => exact ⟨rfl, rfl, .inr ⟨choice, rfl, rfl⟩⟩

/-- **The rest of a turn** keeps the screen and `answering`, and pushes at
most one gesture, recognised on that screen. -/
theorem finishTurn_frame (ui : UiThread) (buttons : Buttons) (now later : Nat) :
    (ui.finishTurn buttons now later).1.screen = ui.screen
      ∧ (ui.finishTurn buttons now later).1.shared.answering = ui.shared.answering
      ∧ ((ui.finishTurn buttons now later).1.shared.choices = ui.shared.choices
        ∨ ∃ choice, ui.screen.isQuestion = true
          ∧ (ui.finishTurn buttons now later).1.shared
            = ui.shared.push { choice, screen := ui.screen }) := by
  have hexpire := expireOverlay_frame ui now
  have hbuttons := advanceButtons_frame (ui.expireOverlay now) buttons now
  have hsleep := advanceSleep_frame ((ui.expireOverlay now).advanceButtons buttons now) buttons now
    later
  unfold finishTurn
  rw [hsleep.1, hsleep.2, hbuttons.1, hbuttons.2.1, hexpire.1, hexpire.2]
  rw [hexpire.1, hexpire.2] at hbuttons
  exact ⟨rfl, rfl, hbuttons.2.2⟩

end UiThread

/-- Whatever is in the queue after a push is the new gesture or was there
before. -/
theorem Shared.mem_push {shared : Shared} {gesture g : Gesture}
    (h : g ∈ (shared.push gesture).choices) : g = gesture ∨ g ∈ shared.choices := by
  simp only [push, List.mem_append, List.mem_singleton] at h
  rcases h with hold | hnew
  · split at hold
    · exact .inr (List.mem_of_mem_tail hold)
    · exact .inr hold
  · exact .inl hnew

end DurableTrivia.Firmware
