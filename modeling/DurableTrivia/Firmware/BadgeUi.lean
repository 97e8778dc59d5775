import DurableTrivia.Firmware.Display
import DurableTrivia.Firmware.Flashes
import DurableTrivia.Firmware.Haptics
import DurableTrivia.Firmware.Sleep

/-!
# BadgeUi — the UI thread with the hardware it owns

`UiThread` of `firmware/src/ui.rs` again, now with the display, the motor
and the bus behind its requests and turns. Forgetting the hardware gives
the thread of `Firmware.Ui` and `Firmware.Sleep` back, request by request
and turn by turn: no failed transfer and no refused setting changes what
the thread decides.

Two fields are not in the source: `drawn` says whether the last screen
went through, and `frame` how the LEDs came to be as they are.
-/

namespace DurableTrivia.Firmware

open DurableTrivia.Lib DurableTrivia.Shared DurableTrivia.BadgeScreen

/-- What the display is asked for, for each picture. -/
def Picture.show (picture : Picture) (display : BadgeDisplay) (callsign badgeId : String)
    (now : Nat)
    (bus : Bus Wires) : BadgeDisplay.Outcome :=
  match picture with
  | .status step => display.showStatus bus callsign step
  | .waiting => display.showWaiting bus callsign
  | .question asked => display.showQuestion bus callsign asked
  | .feedback correct scoreDelta => display.showFeedback bus callsign correct scoreDelta now
  | .panic => display.showPanic bus callsign
  | .recovered => display.showRecovered bus callsign
  | .results snapshot => display.showResults bus callsign badgeId snapshot
  | .powerup command => display.showPowerup bus callsign command
  | .sleepCountdown seconds => display.showSleepCountdown bus callsign seconds
  | .sleeping => display.showSleeping bus callsign
  | .off => display.powerOff bus

/-- The UI thread with the hardware it owns. -/
structure BadgeUi where
  ui : UiThread := {}
  display : BadgeDisplay
  motor : Motor := {}
  haptics : BadgeHaptics
  bus : Bus Wires
  callsign : String
  badgeId : String
  drawn : Bool := false
  frame : Frame := .whole

namespace BadgeUi

/-! ## What the thread does to its hardware -/

/-- The frame behind an operation of the display that sends `event` to the
matrix. -/
def frameAfter (badge : BadgeUi) (event : LedEvent) (reached ok : Bool) : Frame :=
  match badge.display.matrix with
  | some matrix => if reached then badge.frame.after (matrix.due event) ok else badge.frame
  | none => badge.frame

/-- Draw a picture. An error is dropped, as the source logs it and goes on.
-/
def draw (badge : BadgeUi) (picture : Picture) (now : Nat) : BadgeUi :=
  let (ok, display, bus) := picture.show badge.display badge.callsign badge.badgeId now badge.bus
  { badge with
    ui := badge.ui.draw picture
    display
    bus
    drawn := ok
    frame :=
      match picture with
      | .feedback correct scoreDelta =>
          -- the matrix is reached behind a flush that went through
          badge.frameAfter (.verdict correct now)
            (badge.display.paint badge.bus (·.feedback badge.callsign correct scoreDelta)).1 ok
      | .off => badge.frameAfter .powerOff true (badge.display.clearMatrix badge.bus).1
      | _ => badge.frame }

/-- Play a pattern on the motor. -/
def play (badge : BadgeUi) (event : HapticEvent) (now : Nat) : BadgeUi :=
  let (motor, haptics) := badge.motor.play event badge.haptics now
  { badge with motor, haptics }

/-- The motor's turn of the loop. -/
def advanceMotor (badge : BadgeUi) (now : Nat) : BadgeUi :=
  let (motor, haptics) := badge.motor.advance badge.haptics now
  { badge with motor, haptics }

/-- Stop the motor. -/
def stopMotor (badge : BadgeUi) : BadgeUi :=
  let (motor, haptics) := badge.motor.stop badge.haptics
  { badge with motor, haptics }

/-- The LED matrix's turn of the loop. -/
def advanceFeedback (badge : BadgeUi) (now : Nat) : BadgeUi :=
  let (ok, display, bus) := badge.display.advanceFeedback badge.bus now
  { badge with display, bus, frame := badge.frameAfter (.turn now) true ok }

/-- The thread's own fields are changed, and no hardware. -/
def onUi (badge : BadgeUi) (change : UiThread → UiThread) : BadgeUi :=
  { badge with ui := change badge.ui }

/-! ## Requests -/

/-- No question owns the screen any more. -/
def toIdle (badge : BadgeUi) : BadgeUi := badge.onUi fun ui => { ui with screen := .idle }

/-- Tell the Activity whether a question owns the screen. -/
def storeAnswering (badge : BadgeUi) : BadgeUi := badge.onUi UiThread.storeAnswering

/-- Whatever the buttons were doing belonged to the last screen. -/
def openQuestion (badge : BadgeUi) (number : Nat) (task : QuestionTask) (pins : Buttons) :
    BadgeUi :=
  badge.onUi fun ui =>
    { ui with
      shared := { ui.shared with choices := [] }
      buttons := if pins.any then .suppressedUntilRelease else .idle
      screen := .question number task }

/-- `UiThread.apply`, hardware included. -/
def apply (badge : BadgeUi) (request : UiRequest) (pins : Buttons) (now : Nat) : BadgeUi :=
  match request with
  | .status status => (badge.toIdle.draw (.status status) now).storeAnswering
  | .waiting => (badge.toIdle.draw .waiting now).storeAnswering
  | .question number task =>
      ((badge.openQuestion number task pins).draw (.question task.question) now).storeAnswering
  | .feedback correct scoreDelta =>
      ((badge.toIdle.draw (.feedback correct scoreDelta) now).play
        (if correct then .correct else .wrong) now).storeAnswering
  | .crashed => ((badge.toIdle.draw .panic now).play .crash now).storeAnswering
  | .recovered => ((badge.toIdle.draw .recovered now).play .recovered now).storeAnswering
  | .results snapshot =>
      if badge.ui.screen.isQuestion then badge
      else
        ((badge.draw (.results snapshot) now).play
          (if snapshot.winners.contains badge.callsign then .winner else .roundOver)
          now).storeAnswering
  | .resultPending =>
      if badge.ui.screen.isQuestion then badge
      else (badge.draw (.status .resultPending) now).storeAnswering
  | .powerup command =>
      (((badge.onUi fun ui => { ui with overlayUntil := some (now + powerupOverlay) }).draw
        (.powerup command) now).play .powerup now).storeAnswering

/-! ## The rest of a turn -/

/-- Draw the screen again after an overlay. -/
def redrawCurrent (badge : BadgeUi) (now : Nat) : BadgeUi :=
  match badge.ui.screen with
  | .question _ task => badge.draw (.question task.question) now
  | .idle => badge.draw .waiting now

/-- End an overlay that is due. -/
def expireOverlay (badge : BadgeUi) (now : Nat) : BadgeUi :=
  if badge.ui.overlayUntil.any (· ≤ now) then
    (badge.onUi fun ui => { ui with overlayUntil := none }).redrawCurrent now
  else badge

/-- `UiThread.advanceButtons`; it touches no hardware. -/
def advanceButtons (badge : BadgeUi) (buttons : Buttons) (now : Nat) : BadgeUi :=
  badge.onUi (·.advanceButtons buttons now)

/-- The beginning of `sleep_now`, up to the wait for the release. -/
def beginSleep (badge : BadgeUi) (now : Nat) : BadgeUi :=
  ((badge.draw (.sleepCountdown 0) now).play .sleepCountdown now).draw .sleeping now

/-- The sleep gesture, and whether it is complete. -/
def advanceSleep (badge : BadgeUi) (buttons : Buttons) (now later : Nat) : BadgeUi × Bool :=
  if badge.ui.screen.isQuestion || badge.ui.overlayUntil.isSome then
    (badge.onUi fun ui => { ui with downSince := none, countdownShown := none }, false)
  else if !buttons.down then
    let cleared := badge.onUi fun ui => { ui with downSince := none, countdownShown := none }
    if badge.ui.downSince.isSome then
      (if badge.ui.countdownShown.isSome then cleared.draw .waiting now else cleared, false)
    else (badge, false)
  else
    let since := badge.ui.downSince.getD now
    let badge := badge.onUi fun ui => { ui with downSince := some since }
    let elapsed := later - since
    if elapsed ≥ sleepHold then (badge.beginSleep later, true)
    else if elapsed ≥ sleepArmDelay then
      let seconds := ((sleepHold - elapsed) / 10 ^ 6 + 999) / 1000
      if badge.ui.countdownShown = some seconds then (badge, false)
      else
        (((badge.onUi fun ui => { ui with countdownShown := some seconds }).draw
          (.sleepCountdown seconds) now).play .sleepCountdown now, false)
    else (badge, false)

/-- One turn of the loop, and whether it begins to sleep. -/
def turn (badge : BadgeUi) (turn : UiTurn) : BadgeUi × Bool :=
  let badge :=
    turn.requests.foldl (fun badge request => badge.apply request.1 request.2 turn.now) badge
  let badge := (badge.advanceMotor turn.now).advanceFeedback turn.now
  let badge := (badge.expireOverlay turn.now).advanceButtons turn.buttons turn.now
  badge.advanceSleep turn.buttons turn.now turn.later

/-- The end of `sleep_now`, when the buttons are up. -/
def powerDown (badge : BadgeUi) (now : Nat) : BadgeUi := badge.stopMotor.draw .off now

/-! ## Without the hardware -/

variable (badge : BadgeUi) {request : UiRequest} {pins buttons : Buttons} {now later : Nat}

/-- **A request** does to the thread what it does without the hardware. -/
theorem apply_ui : (badge.apply request pins now).ui = badge.ui.apply request pins now := by
  cases request with
  | results _ | resultPending =>
      simp only [apply, UiThread.apply]
      split <;> rfl
  | status _ | waiting | question _ _ | feedback _ _ | crashed | recovered | powerup _ => rfl

theorem drain_ui (requests : List (UiRequest × Buttons)) :
    (requests.foldl (fun badge request => badge.apply request.1 request.2 now) badge).ui
      = requests.foldl (fun ui request => ui.apply request.1 request.2 now) badge.ui := by
  induction requests generalizing badge with
  | nil => rfl
  | cons request requests ih => rw [List.foldl_cons, ih, apply_ui, List.foldl_cons]

theorem expireOverlay_ui : (badge.expireOverlay now).ui = badge.ui.expireOverlay now := by
  unfold expireOverlay UiThread.expireOverlay
  split
  · unfold redrawCurrent UiThread.redrawCurrent onUi
    dsimp only
    cases badge.ui.screen <;> rfl
  · rfl

theorem advanceSleep_ui :
    ((badge.advanceSleep buttons now later).1.ui, (badge.advanceSleep buttons now later).2)
      = badge.ui.advanceSleep buttons now later := by
  unfold advanceSleep UiThread.advanceSleep onUi
  dsimp only
  split
  · rfl
  · split
    · split
      · split <;> rfl
      · rfl
    · split
      · rfl
      · split
        · split <;> rfl
        · rfl

/-- **A turn** does to the thread what it does without the hardware. -/
theorem turn_ui (turn : UiTurn) :
    ((badge.turn turn).1.ui, (badge.turn turn).2) = badge.ui.turn turn := by
  unfold BadgeUi.turn UiThread.turn UiThread.finishTurn UiThread.drain
  dsimp only
  rw [advanceSleep_ui]
  have hbuttons (badge : BadgeUi) : (badge.advanceButtons turn.buttons turn.now).ui
      = badge.ui.advanceButtons turn.buttons turn.now := rfl
  have heffects (badge : BadgeUi) :
      ((badge.advanceMotor turn.now).advanceFeedback turn.now).ui = badge.ui := rfl
  rw [hbuttons, expireOverlay_ui, heffects, drain_ui]

end BadgeUi

/-- The UI loop with its hardware. -/
def badgeLoop : Mealy BadgeUi UiTurn Unit where
  step badge turn := ((badge.turn turn).1, if (badge.turn turn).2 then some () else none)

/-- **The hardware decides nothing.** Over any run of turns, and whatever
transfers and settings fail in it, the thread is where it is without its
hardware, and goes to sleep at the same turn. -/
theorem badgeLoop_ui (badge : BadgeUi) (turns : Nat → UiTurn) (n : Nat) :
    (badgeLoop.stateAt badge turns n).ui = uiLoop.stateAt badge.ui turns n
      ∧ badgeLoop.outputAt badge turns n = uiLoop.outputAt badge.ui turns n := by
  apply Mealy.run_of_step
  intro badge turn
  show ((badge.turn turn).1.ui, if (badge.turn turn).2 then some () else none)
    = ((badge.ui.turn turn).1, if (badge.ui.turn turn).2 then some () else none)
  rw [← badge.turn_ui turn]

end DurableTrivia.Firmware
