import DurableTrivia.Firmware.BadgeUi

/-!
# Glass — what a player sees over a whole run

The UI thread with its hardware, over runs in which any transfer may fail.
When the last screen went through, and no packet to the panel had ended
inside a command, the glass is the picture the thread means to show, pixel
by pixel (`Sound`); and that picture is a question exactly when a question
has the controls, but for a power-up announced over it (`Fits`). A badge
that goes to sleep goes dark.
-/

namespace DurableTrivia.Firmware

open DurableTrivia.Lib DurableTrivia.Shared DurableTrivia.BadgeScreen

/-- A picture as the canvas has it. -/
def Picture.canvas (callsign badgeId : String) : Picture → Canvas
  | .status step => Canvas.new.status callsign step
  | .waiting => Canvas.new.waiting callsign
  | .question asked => Canvas.new.question callsign asked
  | .feedback correct scoreDelta => Canvas.new.feedback callsign correct scoreDelta
  | .panic => Canvas.new.panic callsign
  | .recovered => Canvas.new.recovered callsign
  | .results snapshot => Canvas.new.results callsign badgeId snapshot
  | .powerup command => Canvas.new.powerup callsign command
  | .sleepCountdown seconds => Canvas.new.sleepCountdown callsign seconds
  | .sleeping => Canvas.new.sleeping callsign
  | .off => Canvas.new.clear

/-- How a picture is composed. -/
def Picture.compose (callsign badgeId : String) (picture : Picture) (canvas : Canvas) : Canvas :=
  match picture with
  | .status step => canvas.status callsign step
  | .waiting => canvas.waiting callsign
  | .question asked => canvas.question callsign asked
  | .feedback correct scoreDelta => canvas.feedback callsign correct scoreDelta
  | .panic => canvas.panic callsign
  | .recovered => canvas.recovered callsign
  | .results snapshot => canvas.results callsign badgeId snapshot
  | .powerup command => canvas.powerup callsign command
  | .sleepCountdown seconds => canvas.sleepCountdown callsign seconds
  | .sleeping => canvas.sleeping callsign
  | .off => canvas.clear

theorem clear_eq (c c' : Canvas) : c.clear = c'.clear := rfl

theorem centered_eq (c c' : Canvas) (screen : BadgeScreen.Screen) :
    c.centered screen = c'.centered screen := by
  unfold Canvas.centered
  rw [clear_eq c c']

theorem question_eq (c c' : Canvas) (callsign : String) (question : Question) :
    c.question callsign question = c'.question callsign question := by
  unfold Canvas.question
  rw [clear_eq c c']

/-- Every picture starts from a clear canvas. -/
theorem compose_eq (callsign badgeId : String) (picture : Picture) (canvas : Canvas) :
    picture.compose callsign badgeId canvas = picture.canvas callsign badgeId := by
  cases picture with
  | question asked => exact question_eq canvas Canvas.new callsign asked
  | off => exact clear_eq canvas Canvas.new
  | status _ | waiting | feedback _ _ | panic | recovered | results _ | powerup _
  | sleepCountdown _ | sleeping => exact centered_eq canvas Canvas.new _

/-- All pictures but two are painted, and nothing else. -/
theorem show_eq_paint {picture : Picture}
    (hfeedback : ∀ correct delta, picture ≠ .feedback correct delta)
    (hoff : picture ≠ .off) (display : BadgeDisplay) (callsign badgeId : String) (now : Nat)
    (bus : Bus Wires) :
    picture.show display callsign badgeId now bus
      = display.paint bus (picture.compose callsign badgeId) := by
  cases picture with
  | feedback correct delta => exact absurd rfl (hfeedback correct delta)
  | off => exact absurd rfl hoff
  | status _ | waiting | question _ | panic | recovered | results _ | powerup _
  | sleepCountdown _ | sleeping => rfl

/-! ## One operation of the display -/

section
variable {bus : Bus Wires} {matrix : LedMatrix}

/-- The glass shows a canvas. -/
def Oled.Shows (oled : Oled) (canvas : Canvas) : Prop :=
  ∀ x y, x < width → y < height → oled.shows x y = canvas.isLit x y

/-- **A screen** that goes through is on the glass, unless a packet ended
inside a command; one that does not leaves the panel ready for the next,
and neither reaches the matrix. -/
theorem paint_spec (display : BadgeDisplay) (compose : Canvas → Canvas) {cuts : Nat}
    (h : bus.device.oled.Awake cuts) :
    let (ok, after, bus') := display.paint bus compose
    bus'.device.oled.Awake cuts ∧ bus'.device.leds = bus.device.leds
      ∧ after.matrix = display.matrix
      ∧ (ok = true → bus'.device.oled.pending = []
        ∧ (bus'.device.oled.cuts = cuts → bus'.device.oled.Shows (compose display.canvas))) := by
  obtain ⟨hawake, hleds⟩ := keeps_flush (compose display.canvas) bus.device.leds cuts bus ⟨h, rfl⟩
  refine ⟨hawake, hleds, rfl, fun hok => ?_⟩
  obtain ⟨hpending, hshows⟩ := flush_shows h (compose display.canvas) hok
  exact ⟨hpending, fun hcuts x y hx hy => hshows hcuts ⟨hx, hy⟩⟩

/-- Whatever frame writes lead to, an event of the matrix leads to. -/
theorem perform_rel {R : Bus Wires → Prop} (hsame : R bus) (hwrite : ∀ pwm, R (writePwm pwm bus).2)
    (event : LedEvent) : R (matrix.perform event bus).2.2 := by
  cases event with
  | verdict correct now =>
      have hrender := hwrite (pwmOf (if correct then Icon.correct else Icon.wrong).mask)
      unfold LedMatrix.perform LedMatrix.startFeedback render
      dsimp only
      split
      · next hjob => rw [hjob] at hrender; exact hrender
      · next hjob => rw [hjob] at hrender; exact hrender
  | powerOff =>
      have hclear := hwrite (Vector.replicate pwmChannels 0)
      unfold LedMatrix.perform LedMatrix.clear clearPwm
      dsimp only
      split
      · next hjob => rw [hjob] at hclear; exact hclear
      · next hjob => rw [hjob] at hclear; exact hclear
  | turn now =>
      have htoggle (icon : Icon) (shouldBeVisible : Bool) :
          R (matrix.toggle icon shouldBeVisible bus).2.2 := by
        have hframe := hwrite
          (if shouldBeVisible then pwmOf icon.mask else Vector.replicate pwmChannels 0)
        unfold LedMatrix.toggle render clearPwm
        rw [← apply_ite writePwm]
        split
        · split
          · next hjob => rw [hjob] at hframe; exact hframe
          · next hjob => rw [hjob] at hframe; exact hframe
        · exact hsame
      unfold LedMatrix.perform LedMatrix.advance
      dsimp only
      split
      · exact hsame
      · next feedback _ =>
          have hturn := htoggle feedback.icon (flashing (now - feedback.started))
          split
          · next hjob => rw [hjob] at hturn; exact hturn
          · next hjob => rw [hjob] at hturn; exact hturn

/-- The matrix does not reach the OLED. -/
theorem perform_oled (h : bus.device.leds.Ready) (event : LedEvent) :
    (matrix.perform event bus).2.2.device.oled = bus.device.oled :=
  perform_rel (R := fun after => after.device.oled = bus.device.oled) rfl
    (fun pwm => (writePwm_frame pwm h).2) event

/-- Only what is on the chip matters to the agreement of driver and chip. -/
theorem LedRun.Agrees.of_leds {frame : Frame} {bus' : Bus Wires}
    (h : LedRun.Agrees { matrix, bus, frame }) (hleds : bus'.device.leds = bus.device.leds) :
    LedRun.Agrees { matrix, bus := bus', frame } where
  ready := by
    show bus'.device.leds.Ready
    rw [hleds]
    exact h.ready
  idle := h.idle
  whole hframe := by
    show bus'.device.leds.lit = _
    rw [hleds]
    exact h.whole hframe
  clearing hframe := by
    show bus'.device.leds.lit ⊆ _
    rw [hleds]
    exact h.clearing hframe

end

/-! ## What the thread does to its hardware -/

namespace BadgeUi
variable {badge : BadgeUi}

/-- A picture is painted, and nothing else happens. -/
def painted (badge : BadgeUi) (picture : Picture) : BadgeUi :=
  let (ok, display, bus) :=
    badge.display.paint badge.bus (picture.compose badge.callsign badge.badgeId)
  { badge with ui := badge.ui.draw picture, display, bus, drawn := ok }

/-- What a matrix event does to the display, where there is a matrix. -/
def onMatrix (badge : BadgeUi) (event : LedEvent) : BadgeDisplay.Outcome :=
  match badge.display.matrix with
  | some matrix =>
      let (ok, matrix, bus) := matrix.perform event badge.bus
      (ok, { badge.display with matrix := some matrix }, bus)
  | none => (true, badge.display, badge.bus)

/-- A matrix event happens, and `drawn` is what is known of the screen. -/
def flashed (badge : BadgeUi) (event : LedEvent) (drawn : Bool) : BadgeUi :=
  { badge with
    display := (badge.onMatrix event).2.1
    bus := (badge.onMatrix event).2.2
    drawn
    frame := badge.frameAfter event true (badge.onMatrix event).1 }

/-- What a property of the hardware has to outlast: a picture that is
painted, an event of the matrix, and whatever else the thread does. -/
structure Outlasts (P : BadgeUi → Prop) : Prop where
  painted : ∀ badge picture, P badge → P (badge.painted picture)
  flashed : ∀ badge event drawn, (drawn = true → badge.drawn = true) → P badge →
    P (badge.flashed event drawn)
  congr : ∀ badge after : BadgeUi, after.bus = badge.bus → after.display = badge.display →
    after.frame = badge.frame → after.drawn = badge.drawn →
    after.ui.display = badge.ui.display →
    after.callsign = badge.callsign ∧ after.badgeId = badge.badgeId → P badge → P after

/-- The verdict goes to the matrix behind its screen. -/
theorem draw_feedback (correct : Bool) (scoreDelta : Int) (now : Nat) :
    badge.draw (.feedback correct scoreDelta) now
      = if (badge.painted (.feedback correct scoreDelta)).drawn then
          (badge.painted (.feedback correct scoreDelta)).flashed (.verdict correct now)
            ((badge.painted (.feedback correct scoreDelta)).onMatrix (.verdict correct now)).1
        else badge.painted (.feedback correct scoreDelta) := by
  have hcompose : (Picture.feedback correct scoreDelta).compose badge.callsign badge.badgeId
      = (·.feedback badge.callsign correct scoreDelta) := rfl
  unfold draw Picture.show BadgeDisplay.showFeedback painted flashed
  rw [hcompose]
  dsimp only
  cases hpainted : badge.display.paint badge.bus (·.feedback badge.callsign correct scoreDelta) with
  | mk ok rest =>
      obtain ⟨display, bus⟩ := rest
      have hmatrix : display.matrix = badge.display.matrix := by
        have hframe : (badge.display.paint badge.bus
            (·.feedback badge.callsign correct scoreDelta)).2.1.matrix = badge.display.matrix := rfl
        rw [hpainted] at hframe
        exact hframe
      cases ok with
      | true =>
          simp only [if_true]
          unfold onMatrix frameAfter
          dsimp only
          rw [hmatrix]
          cases badge.display.matrix <;> rfl
      | false =>
          unfold frameAfter
          cases badge.display.matrix <;> simp

namespace Outlasts
variable {P : BadgeUi → Prop}

theorem draw (hP : Outlasts P) (h : P badge) {picture : Picture} (hon : picture ≠ .off)
    (now : Nat) : P (badge.draw picture now) := by
  have hpainted := hP.painted badge picture h
  by_cases hfeedback : ∀ correct delta, picture ≠ .feedback correct delta
  · have hdraw : badge.draw picture now = badge.painted picture := by
      unfold BadgeUi.draw
      rw [show_eq_paint hfeedback hon]
      cases picture with
      | feedback correct delta => exact absurd rfl (hfeedback correct delta)
      | off => exact absurd rfl hon
      | status _ | waiting | question _ | panic | recovered | results _ | powerup _
      | sleepCountdown _ | sleeping => rfl
    rw [hdraw]
    exact hpainted
  · simp only [not_forall, not_not] at hfeedback
    obtain ⟨correct, scoreDelta, rfl⟩ := hfeedback
    rw [draw_feedback]
    split
    · next hok => exact hP.flashed _ _ _ (fun _ => hok) hpainted
    · exact hpainted

theorem advanceFeedback (hP : Outlasts P) (h : P badge) (now : Nat) :
    P (badge.advanceFeedback now) := by
  have hturn := hP.flashed badge (.turn now) badge.drawn (fun hd => hd) h
  have heq : badge.display.advanceFeedback badge.bus now = badge.onMatrix (.turn now) := rfl
  unfold BadgeUi.advanceFeedback
  rw [heq]
  exact hturn

theorem play (hP : Outlasts P) (h : P badge) (event : HapticEvent) (now : Nat) :
    P (badge.play event now) :=
  hP.congr badge _ rfl rfl rfl rfl rfl ⟨rfl, rfl⟩ h

theorem advanceMotor (hP : Outlasts P) (h : P badge) (now : Nat) : P (badge.advanceMotor now) :=
  hP.congr badge _ rfl rfl rfl rfl rfl ⟨rfl, rfl⟩ h

theorem onUi (hP : Outlasts P) (h : P badge) {change : UiThread → UiThread}
    (hpicture : (change badge.ui).display = badge.ui.display) : P (badge.onUi change) :=
  hP.congr badge _ rfl rfl rfl rfl hpicture ⟨rfl, rfl⟩ h

/-- A screen that is drawn, and behind it what the request asks besides. -/
theorem apply (hP : Outlasts P) (h : P badge) (request : UiRequest) (pins : Buttons) (now : Nat) :
    P (badge.apply request pins now) := by
  have hidle : P badge.toIdle := hP.onUi h rfl
  cases request with
  | status _ | waiting => exact hP.onUi (hP.draw hidle (by simp) now) rfl
  | question number task =>
      have hopened : P (badge.openQuestion number task pins) := hP.onUi h rfl
      exact hP.onUi (hP.draw hopened (by simp) now) rfl
  | feedback _ _ | crashed | recovered =>
      exact hP.onUi (hP.play (hP.draw hidle (by simp) now) _ now) rfl
  | results _ =>
      unfold BadgeUi.apply
      dsimp only
      split
      · exact h
      · exact hP.onUi (hP.play (hP.draw h (by simp) now) _ now) rfl
  | resultPending =>
      unfold BadgeUi.apply
      dsimp only
      split
      · exact h
      · exact hP.onUi (hP.draw h (by simp) now) rfl
  | powerup command =>
      have hover : P (badge.onUi fun ui =>
          { ui with overlayUntil := some (now + powerupOverlay) }) := hP.onUi h rfl
      exact hP.onUi (hP.play (hP.draw hover (by simp) now) _ now) rfl

theorem expireOverlay (hP : Outlasts P) (h : P badge) (now : Nat) :
    P (badge.expireOverlay now) := by
  unfold BadgeUi.expireOverlay
  split
  · have hover : P (badge.onUi fun ui => { ui with overlayUntil := none }) := hP.onUi h rfl
    unfold redrawCurrent
    split
    · exact hP.draw hover (by simp) now
    · exact hP.draw hover (by simp) now
  · exact h

theorem advanceButtons_display (ui : UiThread) (buttons : Buttons) (now : Nat) :
    (ui.advanceButtons buttons now).display = ui.display := by
  unfold UiThread.advanceButtons
  cases ui.screen with
  | idle => rfl
  | question number task =>
      dsimp only
      cases (ui.buttons.advance buttons ui.overlayUntil.isSome now panicHold).2 <;> rfl

theorem advanceSleep (hP : Outlasts P) (h : P badge) (buttons : Buttons) (now later : Nat) :
    P (badge.advanceSleep buttons now later).1 := by
  have hchange {change : UiThread → UiThread}
      (hpicture : (change badge.ui).display = badge.ui.display) : P (badge.onUi change) :=
    hP.onUi h hpicture
  unfold BadgeUi.advanceSleep
  dsimp only
  split
  · dsimp only
    exact hchange rfl
  · split
    · split
      · dsimp only
        split
        · refine hP.draw (hchange ?_) (by simp) now
          rfl
        · exact hchange rfl
      · exact h
    · have hsince : P (badge.onUi fun ui =>
          { ui with downSince := some (badge.ui.downSince.getD now) }) := hchange rfl
      split
      · dsimp only
        unfold beginSleep
        exact hP.draw (hP.play (hP.draw hsince (by simp) later) _ later) (by simp) later
      · split
        · split
          · exact hsince
          · dsimp only
            refine hP.play (hP.draw (hP.onUi hsince ?_) (by simp) now) _ now
            rfl
        · exact hsince

/-- **A turn keeps** what its operations keep. -/
theorem turn (hP : Outlasts P) (h : P badge) (turn : UiTurn) : P (badge.turn turn).1 := by
  have hrequests : ∀ (requests : List (UiRequest × Buttons)) (badge : BadgeUi), P badge →
      P (requests.foldl (fun badge request => badge.apply request.1 request.2 turn.now) badge) := by
    intro requests
    induction requests with
    | nil =>
        intro badge h
        exact h
    | cons request requests ih =>
        intro badge h
        exact ih _ (hP.apply h request.1 request.2 turn.now)
  have hdrained := hrequests turn.requests badge h
  have hflashed := hP.advanceFeedback (hP.advanceMotor hdrained turn.now) turn.now
  have hexpired := hP.expireOverlay hflashed turn.now
  have hsampled : P (BadgeUi.advanceButtons _ turn.buttons turn.now) :=
    hP.onUi hexpired (advanceButtons_display _ turn.buttons turn.now)
  exact hP.advanceSleep hsampled turn.buttons turn.now turn.later

/-- **A run keeps** what the operations of its turns keep. -/
theorem run (hP : Outlasts P) (h : P badge) (turns : Nat → UiTurn) (n : Nat) :
    P (badgeLoop.stateAt badge turns n) := by
  induction n with
  | zero => exact h
  | succ n ih => exact hP.turn ih (turns n)

end Outlasts

/-! ## The hardware over a run -/

/-- The hardware is where the thread takes it to be, when `cuts` packets to
the panel had ended inside a command before. -/
structure Sound (cuts : Nat) (badge : BadgeUi) : Prop where
  awake : badge.bus.device.oled.Awake cuts
  matrix : ∀ matrix, badge.display.matrix = some matrix →
    LedRun.Agrees { matrix, bus := badge.bus, frame := badge.frame }
  glass : badge.drawn = true → badge.bus.device.oled.cuts = cuts →
    badge.bus.device.oled.Shows (badge.ui.display.canvas badge.callsign badge.badgeId)

variable {cuts : Nat}

theorem Sound.painted (h : badge.Sound cuts) (picture : Picture) :
    (badge.painted picture).Sound cuts := by
  obtain ⟨hawake, hleds, hmatrix, hshows⟩ :=
    paint_spec badge.display (picture.compose badge.callsign badge.badgeId) h.awake
  refine ⟨hawake, fun matrix hsome => ?_, fun hdrawn => ?_⟩
  · exact (h.matrix matrix (hmatrix.symm.trans hsome)).of_leds hleds
  · have hglass := (hshows hdrawn).2
    rw [compose_eq] at hglass
    exact hglass

theorem Sound.flashed (h : badge.Sound cuts) (event : LedEvent) (drawn : Bool)
    (hdrawn : drawn = true → badge.drawn = true) : (badge.flashed event drawn).Sound cuts := by
  unfold BadgeUi.flashed BadgeUi.onMatrix frameAfter
  cases hmatrix : badge.display.matrix with
  | none =>
      exact ⟨h.awake, h.matrix, fun hd => h.glass (hdrawn hd)⟩
  | some matrix =>
      have hagrees := h.matrix matrix hmatrix
      have holed := @perform_oled badge.bus matrix hagrees.ready event
      have hstep := LedRun.step_agrees hagrees event
      simp only [if_true]
      refine ⟨?_, fun after hafter => ?_, fun hd => ?_⟩
      · show (matrix.perform event badge.bus).2.2.device.oled.Awake cuts
        rw [holed]
        exact h.awake
      · cases hafter
        exact hstep
      · show (matrix.perform event badge.bus).2.2.device.oled.cuts = cuts →
          (matrix.perform event badge.bus).2.2.device.oled.Shows _
        rw [holed]
        exact h.glass (hdrawn hd)

/-- **The hardware stays sound**, whatever the thread does and whatever
fails in it. -/
theorem outlasts_sound (cuts : Nat) : Outlasts (Sound cuts) where
  painted _ picture h := h.painted picture
  flashed _ event drawn hdrawn h := h.flashed event drawn hdrawn
  congr badge after hbus hdisplay hframe hdrawn hpicture hnames h := by
    obtain ⟨hawake, hmatrix, hglass⟩ := h
    obtain ⟨hcallsign, hbadgeId⟩ := hnames
    constructor
    · rw [hbus]
      exact hawake
    · intro matrix hsome
      rw [hdisplay] at hsome
      rw [hbus, hframe]
      exact hmatrix matrix hsome
    · intro hd
      rw [hdrawn] at hd
      rw [hbus, hpicture, hcallsign, hbadgeId]
      exact hglass hd

end BadgeUi

/-! ## What the picture says about the controls -/

/-- The picture drawn last and the screen that has the controls. -/
structure UiThread.Fits (ui : UiThread) : Prop where
  answering : ui.shared.answering = ui.screen.isQuestion
  picture : ∀ question, ui.display = .question question →
    ∃ number task, ui.screen = .question number task ∧ task.question = question
  screen : ∀ number task, ui.screen = .question number task → ui.overlayUntil = none →
    ui.display = .question task.question

namespace UiThread
variable {ui : UiThread}

/-- A thread whose screen is idle fits with any picture but a question. -/
theorem Fits.of_idle (hidle : ui.screen = .idle) (hanswering : ui.shared.answering = false)
    (hpicture : ∀ question, ui.display ≠ .question question) : ui.Fits where
  answering := by rw [hidle, hanswering]; rfl
  picture question h := absurd h (hpicture question)
  screen number task h := by rw [hidle] at h; cases h

theorem Fits.idle_answering (h : ui.Fits) (hidle : ui.screen.isQuestion = false) :
    ui.screen = .idle ∧ ui.shared.answering = false := by
  refine ⟨?_, h.answering.trans hidle⟩
  cases hscreen : ui.screen with
  | idle => rfl
  | question number task =>
      rw [hscreen] at hidle
      cases hidle

theorem Fits.apply (h : ui.Fits) (request : UiRequest) (pins : Buttons) (now : Nat) :
    (ui.apply request pins now).Fits := by
  cases request with
  | status _ | waiting | feedback _ _ | crashed | recovered =>
      refine Fits.of_idle rfl rfl fun question hquestion => ?_
      cases hquestion
  | question number task =>
      refine ⟨rfl, fun question hquestion => ?_, fun number' task' hscreen _ => ?_⟩
      · cases hquestion
        exact ⟨number, task, rfl, rfl⟩
      · cases hscreen
        rfl
  | results snapshot | resultPending =>
      by_cases hquestion : ui.screen.isQuestion = true
      · simp only [UiThread.apply, hquestion, if_true]
        exact h
      · have hidle := (h.idle_answering (by simpa using hquestion)).1
        simp only [UiThread.apply, hquestion, Bool.false_eq_true, if_false]
        refine Fits.of_idle hidle ?_ fun question hshown => by cases hshown
        show ui.screen.isQuestion = false
        simpa using hquestion
  | powerup command =>
      refine ⟨rfl, fun question hquestion => ?_, fun number task _ hover => ?_⟩
      · cases hquestion
      · cases hover

theorem Fits.drain (h : ui.Fits) (turn : UiTurn) : (ui.drain turn).Fits := by
  unfold UiThread.drain
  induction turn.requests generalizing ui with
  | nil => exact h
  | cons request requests ih => exact ih (h.apply request.1 request.2 turn.now)

theorem Fits.expireOverlay (h : ui.Fits) (now : Nat) : (ui.expireOverlay now).Fits := by
  unfold UiThread.expireOverlay
  split
  · unfold redrawCurrent
    cases hscreen : ui.screen with
    | idle =>
        have hanswering : ui.shared.answering = false := by rw [h.answering, hscreen]; rfl
        refine Fits.of_idle rfl hanswering fun question hshown => ?_
        cases hshown
    | question number task =>
        have hanswering : ui.shared.answering = true := by rw [h.answering, hscreen]; rfl
        refine ⟨hanswering, fun question hshown => ?_, fun number' task' hscreen' _ => ?_⟩
        · cases hshown
          exact ⟨number, task, rfl, rfl⟩
        · cases hscreen'
          rfl
  · exact h

theorem Fits.advanceButtons (h : ui.Fits) (buttons : Buttons) (now : Nat) :
    (ui.advanceButtons buttons now).Fits := by
  obtain ⟨hscreen, hanswering, _⟩ := advanceButtons_frame ui buttons now
  have hdisplay := BadgeUi.Outlasts.advanceButtons_display ui buttons now
  have hoverlay := (advanceButtons_sleep ui buttons now).1
  constructor
  · rw [hanswering, hscreen]
    exact h.answering
  · rw [hdisplay, hscreen]
    exact h.picture
  · rw [hdisplay, hscreen, hoverlay]
    exact h.screen

theorem Fits.advanceSleep (h : ui.Fits) (buttons : Buttons) (now later : Nat) :
    (ui.advanceSleep buttons now later).1.Fits := by
  unfold UiThread.advanceSleep
  split
  · exact ⟨h.answering, h.picture, h.screen⟩
  · next hunarmed =>
      -- what is drawn from here on is drawn on an idle screen
      have harmed : ui.screen.isQuestion = false ∧ ui.overlayUntil = none := by
        simpa using hunarmed
      obtain ⟨hidle, hanswering⟩ := h.idle_answering harmed.1
      split
      · split
        · dsimp only
          split
          · refine Fits.of_idle hidle hanswering fun question hshown => ?_
            cases hshown
          · exact ⟨h.answering, h.picture, h.screen⟩
        · exact h
      · dsimp only
        split
        · refine Fits.of_idle hidle hanswering fun question hshown => ?_
          cases hshown
        · split
          · split
            · exact ⟨h.answering, h.picture, h.screen⟩
            · refine Fits.of_idle hidle hanswering fun question hshown => ?_
              cases hshown
          · exact ⟨h.answering, h.picture, h.screen⟩

/-- **A turn keeps picture and controls together.** -/
theorem Fits.turn (h : ui.Fits) (turn : UiTurn) : (ui.turn turn).1.Fits := by
  unfold UiThread.turn UiThread.finishTurn
  exact (((h.drain turn).expireOverlay turn.now).advanceButtons turn.buttons turn.now).advanceSleep
    turn.buttons turn.now turn.later

end UiThread

/-! ## From boot on -/

/-- The thread as it is started, on the display `new` leaves. -/
def BadgeUi.boot (bus : Bus Wires) (haptics : BadgeHaptics) (callsign badgeId : String) :
    BadgeUi where
  display := (BadgeDisplay.new bus).2.1
  bus := (BadgeDisplay.new bus).2.2
  haptics
  callsign
  badgeId

section
variable {bus : Bus Wires} {haptics : BadgeHaptics} {callsign badgeId : String}

/-- A display that could be started is sound; with a matrix, if that could
be started too. -/
theorem sound_boot (hboot : (BadgeDisplay.new bus).1 = true) :
    (BadgeUi.boot bus haptics callsign badgeId).Sound bus.device.oled.cuts := by
  have hstart := @start_awake bus
  have hcommand : command startCommands = Driver.write i2c (oledAddress, 0x00 :: startCommands) :=
    rfl
  unfold BadgeDisplay.new at hboot
  unfold BadgeUi.boot BadgeDisplay.new
  rw [hcommand] at hboot ⊢
  cases hwrite : Driver.write i2c (oledAddress, 0x00 :: startCommands) bus with
  | mk ok started =>
      rw [hwrite] at hboot hstart
      cases ok with
      | false => cases hboot
      | true =>
          have hawake : started.device.oled.Awake bus.device.oled.cuts := hstart rfl
          have holed := initializeMatrix_oled started
          have hready := initializeMatrix_ready started
          dsimp only
          cases hmatrix : initializeMatrix started with
          | mk ok ready =>
              rw [hmatrix] at holed hready
              have hawake' : ready.device.oled.Awake bus.device.oled.cuts := by
                rw [holed]
                exact hawake
              cases ok with
              | false =>
                  refine ⟨hawake', fun matrix hsome => ?_, fun hd => ?_⟩
                  · cases hsome
                  · cases hd
              | true =>
                  obtain ⟨hchip, hdark, _⟩ := hready rfl
                  refine ⟨hawake', fun matrix hsome => ?_, fun hd => ?_⟩
                  · cases hsome
                    have hnone : ({} : LedMatrix).shown = ∅ := by simp [LedMatrix.shown]
                    refine ⟨hchip, fun _ => rfl, fun _ => hdark.trans hnone.symm, fun hframe => ?_⟩
                    cases hframe
                  · cases hd

end

/-- The question of the run. -/
def askedTask : QuestionTask :=
  { gameId := "game", deadlineUnixMs := 0, maxDeadlineUnixMs := 0, question := toolsQuestion }

/-- A badge that is asked a question, on every turn anew. -/
def askedTurns (_ : Nat) : UiTurn :=
  { requests := [(.question 0 askedTask, {})], now := 0, later := 0 }

/-- A window packet that breaks off inside its first command: the next one
is taken for the rest of it, and the picture moves by a line. -/
example :
    let cut := Wires.atReset.oled.receive [0x00, 0x21, 0x00]
    let next := cut.receive (0x00 :: windowCommands)
    (cut.cuts, next.columnStart, next.columnEnd, next.startLine) = (1, 0, 0x21, 0x3f) := by
  decide

/-! ## Going to sleep -/

/-- Where nothing is owed the command that switches the panel off does. -/
theorem receive_off {oled : Oled} (hpending : oled.pending = []) :
    (oled.receive [0x00, 0xae]).on = false := by
  rw [Oled.receive_commands, show ([0xae] : List UInt8) = [[0xae]].flatten from rfl,
    Oled.foldl_commands hpending (by decide)]
  rfl

/-- A power-off that goes through: the panel is off and the chip dark. -/
theorem powerOff_dark {display : BadgeDisplay} {bus : Bus Wires} {cuts : Nat}
    (hready : ∀ matrix, display.matrix = some matrix → bus.device.leds.Ready)
    (hawake : bus.device.oled.Awake cuts) (hok : (display.powerOff bus).1 = true) :
    (display.powerOff bus).2.2.device.oled.on = false
      ∧ (display.matrix.isSome = true → (display.powerOff bus).2.2.device.leds.lit = ∅) := by
  have hclear : (display.clearMatrix bus).1 = true →
      (display.clearMatrix bus).2.2.device.oled = bus.device.oled
        ∧ (display.matrix.isSome = true → (display.clearMatrix bus).2.2.device.leds.lit = ∅) := by
    unfold BadgeDisplay.clearMatrix LedMatrix.clear
    cases hmatrix : display.matrix with
    | none => exact fun _ => ⟨rfl, fun hsome => by cases hsome⟩
    | some matrix =>
        have hchip := hready matrix hmatrix
        have hframe := (writePwm_frame (Vector.replicate pwmChannels 0) hchip).2
        have hdark := @writePwm_lit bus (Vector.replicate pwmChannels 0) hchip
        dsimp only
        unfold clearPwm
        cases hjob : writePwm (Vector.replicate pwmChannels 0) bus with
        | mk ok after =>
            rw [hjob] at hframe hdark
            cases ok with
            | true => exact fun _ => ⟨hframe, fun _ => (hdark rfl).trans lightsOf_dark⟩
            | false => exact fun hno => by cases hno
  unfold BadgeDisplay.powerOff at hok ⊢
  cases hcleared : display.clearMatrix bus with
  | mk ok rest =>
      obtain ⟨cleared, bus₁⟩ := rest
      rw [hcleared] at hclear hok
      cases ok with
      | false => cases hok
      | true =>
          obtain ⟨holed, hlit⟩ := hclear rfl
          dsimp only at hok holed hlit ⊢
          have hawake₁ : bus₁.device.oled.Awake cuts := by
            rw [holed]
            exact hawake
          have hpaint := paint_spec cleared (·.clear) hawake₁
          cases hpainted : cleared.paint bus₁ (·.clear) with
          | mk ok rest =>
              obtain ⟨blank, bus₂⟩ := rest
              rw [hpainted] at hpaint hok
              cases ok with
              | false => cases hok
              | true =>
                  obtain ⟨_, hleds, _, hpainted⟩ := hpaint
                  dsimp only at hok hleds hpainted ⊢
                  have hcommand : command [0xae] = Driver.write i2c (oledAddress, [0x00, 0xae]) :=
                    rfl
                  rw [hcommand] at hok ⊢
                  rw [takes_oled [0x00, 0xae] bus₂ hok]
                  refine ⟨receive_off (hpainted rfl).1, fun hsome => ?_⟩
                  show bus₂.device.leds.lit = ∅
                  rw [hleds]
                  exact hlit hsome

section
variable {bus : Bus Wires} {haptics : BadgeHaptics} {callsign badgeId : String}

/-- **A badge that sleeps is dark.** Where the power-off goes through, at
the end of any run, the glass shows nothing, no LED of a started matrix is
lit, and the motor stands, unless its driver refuses. -/
theorem powerDown_dark (hboot : (BadgeDisplay.new bus).1 = true) (turns : Nat → UiTurn)
    (n now : Nat)
    (hdrawn : ((badgeLoop.stateAt (.boot bus haptics callsign badgeId) turns n).powerDown now).drawn
      = true) :
    let badge := badgeLoop.stateAt (.boot bus haptics callsign badgeId) turns n
    let after := badge.powerDown now
    (∀ x y, after.bus.device.oled.shows x y = false)
      ∧ (badge.display.matrix.isSome = true → after.bus.device.leds.lit = ∅)
      ∧ (badge.haptics.refuses = [] → after.haptics.duty = 0 ∧ after.motor.stepUntil = none) := by
  have hstart : (BadgeUi.boot bus haptics callsign badgeId).Sound bus.device.oled.cuts :=
    sound_boot hboot
  have hsound := (BadgeUi.outlasts_sound _).run hstart turns n
  generalize badgeLoop.stateAt (.boot bus haptics callsign badgeId) turns n = badge at hsound hdrawn
  have hready : ∀ matrix, badge.display.matrix = some matrix → badge.bus.device.leds.Ready :=
    fun matrix hmatrix => (hsound.matrix matrix hmatrix).ready
  obtain ⟨hoff, hlit⟩ := powerOff_dark hready hsound.awake hdrawn
  refine ⟨fun x y => ?_, hlit, fun hrefuses => ⟨?_, rfl⟩⟩
  · show (badge.display.powerOff badge.bus).2.2.device.oled.shows x y = false
    unfold Oled.shows
    rw [hoff]
    rfl
  · exact (off_duty hrefuses).1

end

theorem powerDown_dark_asked :
    ((badgeLoop.stateAt (.boot { device := Wires.atReset } { maxDuty := 255 } "BRAVE-CRAB-C8"
      "badge-1") askedTurns 1).powerDown 0).bus.device.oled.shows = fun _ _ => false := by
  funext x y
  exact (powerDown_dark (by rfl) askedTurns 1 0 (by rfl)).1 x y

end DurableTrivia.Firmware
