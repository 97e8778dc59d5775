import DurableTrivia.Firmware.Matrix

/-!
# Flashes — what the LED matrix shows over a whole run

The matrix is driven by verdicts, by the turns of the UI thread and by
the power-off, at any times and with any transfers failing. A frame that
breaks off leaves the LEDs between two frames: `Frame` follows which. As
long as no icon has broken off, an idle matrix is dark and the LEDs never
show more than the icon of the last verdict; a clear that breaks off is
tried again until it goes through.
-/

namespace DurableTrivia.Firmware

open DurableTrivia.Lib

/-! ## Runs -/

/-- What the UI thread does with the matrix. -/
inductive LedEvent where
  | verdict (correct : Bool) (now : Nat)
  | turn (now : Nat)
  | powerOff
  deriving DecidableEq, Repr

/-- How the LEDs came to be as they are: the last frame was written
whole, or a clear broke off behind it, or an icon did. -/
inductive Frame where
  | whole
  | clearing
  | drawing
  deriving DecidableEq, Repr

/-- The frame after a write that was due, if any. -/
def Frame.after (frame : Frame) (due : Option Bool) (ok : Bool) : Frame :=
  match due with
  | none => frame
  | some icon =>
      if ok then .whole
      else if icon then .drawing
      else if frame = .drawing then .drawing
      else .clearing

namespace LedMatrix

/-- What one event does, and whether it succeeds. -/
def perform (matrix : LedMatrix) (event : LedEvent) (bus : Bus Wires) :
    Bool × LedMatrix × Bus Wires :=
  match event with
  | .verdict correct now => matrix.startFeedback correct now bus
  | .turn now => matrix.advance now bus
  | .powerOff => matrix.clear bus

/-- The frame an event writes: an icon, or the dark one. -/
def due (matrix : LedMatrix) : LedEvent → Option Bool
  | .verdict _ _ => some true
  | .powerOff => some false
  | .turn now =>
      matrix.feedback.bind fun feedback =>
        let shouldBeVisible := flashing (now - feedback.started)
        if shouldBeVisible != matrix.visible then some shouldBeVisible else none

/-- The LEDs the driver means to be lit. -/
def shown (matrix : LedMatrix) : Set Nat :=
  {led | matrix.visible = true ∧ ∃ feedback, matrix.feedback = some feedback
    ∧ led ∈ feedback.icon.leds}

end LedMatrix

/-- The matrix on its bus, and how far the last frame got. -/
structure LedRun where
  matrix : LedMatrix := {}
  bus : Bus Wires
  frame : Frame := .whole

namespace LedRun

/-- One event. -/
def step (run : LedRun) (event : LedEvent) : LedRun :=
  let (ok, matrix, bus) := run.matrix.perform event run.bus
  { matrix, bus, frame := run.frame.after (run.matrix.due event) ok }

/-- Whether the next event would succeed. -/
def goesThrough (run : LedRun) (event : LedEvent) : Bool := (run.matrix.perform event run.bus).1

/-- The LEDs that are lit. -/
def lit (run : LedRun) : Set Nat := run.bus.device.leds.lit

/-! ## The invariant -/

/-- The driver and the chip agree, as far as the last frame went. -/
structure Agrees (run : LedRun) : Prop where
  ready : run.bus.device.leds.Ready
  idle : run.matrix.feedback = none → run.matrix.visible = false
  whole : run.frame = .whole → run.lit = run.matrix.shown
  clearing : run.frame = .clearing → run.lit ⊆ run.matrix.shown

variable {run : LedRun}

/-- Unless an icon broke off, no more is lit than should be. -/
theorem Agrees.subset (h : run.Agrees) (hframe : run.frame ≠ .drawing) :
    run.lit ⊆ run.matrix.shown := by
  cases hcase : run.frame with
  | whole => rw [h.whole hcase]
  | clearing => exact h.clearing hcase
  | drawing => exact absurd hcase hframe

/-- A run that did not write is where it was. -/
theorem Agrees.unchanged (h : run.Agrees) {matrix : LedMatrix}
    (hshown : matrix.shown = run.matrix.shown)
    (hidle : matrix.feedback = none → matrix.visible = false) :
    ({ matrix, bus := run.bus, frame := run.frame } : LedRun).Agrees where
  ready := h.ready
  idle := hidle
  whole hframe := by rw [hshown]; exact h.whole hframe
  clearing hframe := by rw [hshown]; exact h.clearing hframe

/-- **An icon.** Written whole it is what is lit; broken off it leaves
nothing to rely on. -/
theorem Agrees.drawn (h : run.Agrees) (icon : Icon) {matrix : LedMatrix}
    (hok : (render icon.mask run.bus).1 = true →
      matrix.visible = true ∧ ∃ feedback, matrix.feedback = some feedback ∧ feedback.icon = icon)
    (hidle : matrix.feedback = none → matrix.visible = false) :
    ({ matrix, bus := (render icon.mask run.bus).2
       frame := run.frame.after (some true) (render icon.mask run.bus).1 } : LedRun).Agrees where
  ready := (writePwm_frame _ h.ready).1
  idle := hidle
  whole hframe := by
    cases hwritten : (render icon.mask run.bus).1 with
    | false => simp [Frame.after, hwritten] at hframe
    | true =>
        obtain ⟨hvisible, feedback, hfeedback, rfl⟩ := hok hwritten
        have hlit := writePwm_lit h.ready hwritten
        show (writePwm _ run.bus).2.device.leds.lit = _
        rw [hlit, lightsOf_icon]
        ext led
        simp [LedMatrix.shown, hvisible, hfeedback]
  clearing hframe := by
    cases hwritten : (render icon.mask run.bus).1 <;> simp [Frame.after, hwritten] at hframe

/-- **A clear.** Written whole it leaves no LED lit; broken off it lights
nothing new, so it can be tried again. -/
theorem Agrees.cleared (h : run.Agrees) {matrix : LedMatrix}
    (hok : (clearPwm run.bus).1 = true → matrix.visible = false)
    (hfailed : (clearPwm run.bus).1 = false → matrix = run.matrix)
    (hidle : matrix.feedback = none → matrix.visible = false) :
    ({ matrix, bus := (clearPwm run.bus).2
       frame := run.frame.after (some false) (clearPwm run.bus).1 } : LedRun).Agrees where
  ready := (writePwm_frame _ h.ready).1
  idle := hidle
  whole hframe := by
    cases hwritten : (clearPwm run.bus).1 with
    | false =>
        simp only [Frame.after, hwritten, Bool.false_eq_true, if_false] at hframe
        split at hframe <;> cases hframe
    | true =>
        have hlit := writePwm_lit h.ready hwritten
        show (writePwm _ run.bus).2.device.leds.lit = _
        rw [hlit, lightsOf_dark]
        ext led
        simp [LedMatrix.shown, hok hwritten]
  clearing hframe := by
    cases hwritten : (clearPwm run.bus).1 with
    | true => simp [Frame.after, hwritten] at hframe
    | false =>
        have hbefore : run.frame ≠ .drawing := by
          intro hdrawing
          simp [Frame.after, hwritten, hdrawing] at hframe
        rw [hfailed hwritten]
        exact (clearPwm_lit h.ready).trans (h.subset hbefore)

/-! ## One event -/

theorem step_verdict (h : run.Agrees) (correct : Bool) (now : Nat) :
    (run.step (.verdict correct now)).Agrees := by
  let icon := if correct then Icon.correct else Icon.wrong
  unfold step LedMatrix.perform LedMatrix.startFeedback
  dsimp only
  cases hjob : render icon.mask run.bus with
  | mk ok bus =>
      cases ok with
      | true =>
          have hdrawn := @Agrees.drawn run h icon
            { feedback := some { icon, started := now }, visible := true }
            (fun _ => ⟨rfl, _, rfl, rfl⟩) (fun hnone => by cases hnone)
          rw [hjob] at hdrawn
          exact hdrawn
      | false =>
          have hdrawn := @Agrees.drawn run h icon run.matrix
            (fun hok => by rw [hjob] at hok; cases hok) h.idle
          rw [hjob] at hdrawn
          exact hdrawn

theorem step_powerOff (h : run.Agrees) : (run.step .powerOff).Agrees := by
  unfold step LedMatrix.perform LedMatrix.clear
  dsimp only
  cases hjob : clearPwm run.bus with
  | mk ok bus =>
      cases ok with
      | true =>
          have hcleared := @Agrees.cleared run h { run.matrix with visible := false }
            (fun _ => rfl) (fun hno => by rw [hjob] at hno; cases hno) (fun _ => rfl)
          rw [hjob] at hcleared
          exact hcleared
      | false =>
          have hcleared := @Agrees.cleared run h run.matrix
            (fun hok => by rw [hjob] at hok; cases hok) (fun _ => rfl) h.idle
          rw [hjob] at hcleared
          exact hcleared

/-- The frame a turn writes, for the feedback there is. -/
theorem due_turn {feedback : Feedback} (hfeedback : run.matrix.feedback = some feedback)
    (now : Nat) :
    run.matrix.due (.turn now)
      = if flashing (now - feedback.started) != run.matrix.visible then
          some (flashing (now - feedback.started))
        else none := by
  simp [LedMatrix.due, hfeedback]

/-- After the last flash the schedule stays off. -/
theorem flashing_late {elapsed : Nat} (h : elapsed ≥ secondOff) : flashing elapsed = false := by
  unfold flashing firstOff secondOn
  unfold secondOff at h
  simp only [Bool.or_eq_false_iff, Bool.and_eq_false_iff, decide_eq_false_iff_not]
  unfold secondOff
  omega

/-- The run behind a toggle. -/
def toggled (run : LedRun) (icon : Icon) (shouldBeVisible : Bool) : LedRun :=
  let (ok, matrix, bus) := run.matrix.toggle icon shouldBeVisible run.bus
  { matrix, bus
    frame := run.frame.after
      (if shouldBeVisible != run.matrix.visible then some shouldBeVisible else none) ok }

theorem toggled_agrees (h : run.Agrees) {feedback : Feedback}
    (hfeedback : run.matrix.feedback = some feedback) (shouldBeVisible : Bool) :
    (run.toggled feedback.icon shouldBeVisible).Agrees := by
  unfold toggled LedMatrix.toggle
  by_cases htoggle : (shouldBeVisible != run.matrix.visible) = true
  · simp only [htoggle, if_true]
    cases shouldBeVisible with
    | true =>
        simp only [if_true]
        cases hjob : render feedback.icon.mask run.bus with
        | mk ok bus =>
            cases ok with
            | true =>
                have hdrawn := @Agrees.drawn run h feedback.icon { run.matrix with visible := true }
                  (fun _ => ⟨rfl, feedback, hfeedback, rfl⟩)
                  (fun hnone => by rw [hfeedback] at hnone; cases hnone)
                rw [hjob] at hdrawn
                exact hdrawn
            | false =>
                have hdrawn := @Agrees.drawn run h feedback.icon run.matrix
                  (fun hok => by rw [hjob] at hok; cases hok) h.idle
                rw [hjob] at hdrawn
                exact hdrawn
    | false =>
        simp only [Bool.false_eq_true, if_false]
        cases hjob : clearPwm run.bus with
        | mk ok bus =>
            cases ok with
            | true =>
                have hcleared := @Agrees.cleared run h { run.matrix with visible := false }
                  (fun _ => rfl) (fun hno => by rw [hjob] at hno; cases hno) (fun _ => rfl)
                rw [hjob] at hcleared
                exact hcleared
            | false =>
                have hcleared := @Agrees.cleared run h run.matrix
                  (fun hok => by rw [hjob] at hok; cases hok) (fun _ => rfl) h.idle
                rw [hjob] at hcleared
                exact hcleared
  · simp only [htoggle, Bool.false_eq_true, if_false]
    exact h

/-- A toggle that succeeds sets `visible`, and changes nothing else. -/
theorem toggle_matrix (matrix : LedMatrix) (icon : Icon) (shouldBeVisible : Bool)
    (bus : Bus Wires) :
    (matrix.toggle icon shouldBeVisible bus).2.1
      = if (matrix.toggle icon shouldBeVisible bus).1 then
          { matrix with visible := shouldBeVisible }
        else matrix := by
  unfold LedMatrix.toggle
  by_cases htoggle : (shouldBeVisible != matrix.visible) = true
  · simp only [htoggle, if_true]
    split <;> rfl
  · simp only [htoggle, Bool.false_eq_true, if_false, if_true]
    have hsame : shouldBeVisible = matrix.visible := by simpa using htoggle
    rw [hsame]

/-- **A turn** is a toggle, behind which the verdict is over once its last
flash is. -/
theorem step_turn_eq {feedback : Feedback} (hfeedback : run.matrix.feedback = some feedback)
    (now : Nat) :
    let after := run.toggled feedback.icon (flashing (now - feedback.started))
    run.step (.turn now)
      = if run.goesThrough (.turn now) ∧ now - feedback.started ≥ secondOff then
          { after with matrix := { after.matrix with feedback := none } }
        else after := by
  unfold step goesThrough LedMatrix.perform LedMatrix.advance
  rw [due_turn hfeedback]
  simp only [hfeedback]
  unfold toggled
  cases htoggle : run.matrix.toggle feedback.icon (flashing (now - feedback.started)) run.bus with
  | mk ok rest =>
      obtain ⟨matrix, bus⟩ := rest
      cases ok with
      | true =>
          by_cases hlate : now - feedback.started ≥ secondOff
          · simp [hlate]
          · simp [hlate]
      | false => simp

theorem goesThrough_turn {feedback : Feedback} (hfeedback : run.matrix.feedback = some feedback)
    (now : Nat) : run.goesThrough (.turn now)
      = (run.matrix.toggle feedback.icon (flashing (now - feedback.started)) run.bus).1 := by
  unfold goesThrough LedMatrix.perform LedMatrix.advance
  simp only [hfeedback]
  split
  · next htoggle => rw [htoggle]
  · next htoggle => rw [htoggle]

/-- What a turn that goes through leaves of the verdict. -/
theorem turn_matrix {feedback : Feedback} (hfeedback : run.matrix.feedback = some feedback)
    {now : Nat} (hthrough : run.goesThrough (.turn now) = true) :
    (run.step (.turn now)).matrix.visible = flashing (now - feedback.started)
      ∧ (run.step (.turn now)).matrix.feedback
        = if now - feedback.started ≥ secondOff then none else some feedback := by
  have htoggled : (run.toggled feedback.icon (flashing (now - feedback.started))).matrix
      = { run.matrix with visible := flashing (now - feedback.started) } := by
    show (run.matrix.toggle _ _ run.bus).2.1 = _
    rw [goesThrough_turn hfeedback] at hthrough
    rw [toggle_matrix, hthrough, if_pos rfl]
  rw [step_turn_eq hfeedback]
  by_cases hlate : now - feedback.started ≥ secondOff
  · simp [hthrough, hlate, htoggled]
  · simp [hlate, htoggled, hfeedback]

theorem step_turn (h : run.Agrees) (now : Nat) : (run.step (.turn now)).Agrees := by
  cases hfeedback : run.matrix.feedback with
  | none =>
      have hstep : run.step (.turn now) = run := by
        simp [step, LedMatrix.perform, LedMatrix.advance, LedMatrix.due, hfeedback, Frame.after]
      rw [hstep]
      exact h
  | some feedback =>
      have hafter := toggled_agrees h hfeedback (flashing (now - feedback.started))
      rw [step_turn_eq hfeedback]
      split
      · next hlast =>
          obtain ⟨hthrough, hlate⟩ := hlast
          -- the schedule is off, so nothing was to be lit any more
          have hoff : (run.toggled feedback.icon (flashing (now - feedback.started))).matrix.visible
              = false := by
            have hvisible := (turn_matrix hfeedback hthrough).1
            rw [step_turn_eq hfeedback, if_pos ⟨hthrough, hlate⟩, flashing_late hlate] at hvisible
            rwa [flashing_late hlate]
          refine hafter.unchanged ?_ fun _ => hoff
          simp [LedMatrix.shown, hoff]
      · exact hafter

theorem step_agrees (h : run.Agrees) (event : LedEvent) : (run.step event).Agrees := by
  cases event with
  | verdict correct now => exact step_verdict h correct now
  | turn now => exact step_turn h now
  | powerOff => exact step_powerOff h

/-! ## Whole runs -/

/-- A run of events from the moment the matrix is started. -/
def after (bus : Bus Wires) (events : List LedEvent) : LedRun :=
  events.foldl step { bus := (initializeMatrix bus).2 }

theorem after_agrees {bus : Bus Wires} (hok : (initializeMatrix bus).1 = true)
    (events : List LedEvent) : (after bus events).Agrees := by
  obtain ⟨hready, hdark, _⟩ := initializeMatrix_ready bus hok
  induction events using List.reverseRecOn with
  | nil =>
      have hnone : ({} : LedMatrix).shown = ∅ := by simp [LedMatrix.shown]
      exact ⟨hready, fun _ => rfl, fun _ => hdark.trans hnone.symm,
        fun hframe => by cases hframe⟩
  | append_singleton events event ih =>
      unfold after at ih ⊢
      rw [List.foldl_append]
      exact step_agrees ih event

/-- **The LED matrix over a whole run**, with any transfers failing after
start-up. Unless an icon broke off, no LED is lit beyond the icon of the
last verdict and an idle matrix is dark. A turn that goes through leaves
a matrix whose last frame was whole exactly as the two flashes have it,
and ends the verdict once the second one is over. -/
theorem flashes_run (bus : Bus Wires) (hok : (initializeMatrix bus).1 = true)
    (events : List LedEvent) :
    let run := after bus events
    (run.frame ≠ .drawing → run.lit ⊆ run.matrix.shown
        ∧ (run.matrix.feedback = none → run.lit = ∅))
      ∧ ∀ (now : Nat) (feedback : Feedback), run.matrix.feedback = some feedback →
        run.goesThrough (.turn now) = true →
        let next := run.step (.turn now)
        (next.frame = .whole → next.lit
            = if flashing (now - feedback.started) then feedback.icon.leds else ∅)
          ∧ next.matrix.feedback
            = if now - feedback.started ≥ secondOff then none else some feedback := by
  have hagrees := after_agrees hok events
  dsimp only
  generalize after bus events = run at hagrees
  constructor
  · intro hframe
    have hsubset := hagrees.subset hframe
    refine ⟨hsubset, fun hidle => ?_⟩
    have hnone : run.matrix.shown = ∅ := by simp [LedMatrix.shown, hidle]
    rw [hnone] at hsubset
    exact Set.subset_empty_iff.mp hsubset
  · intro now feedback hfeedback hthrough
    obtain ⟨hvisible, hleft⟩ := turn_matrix hfeedback hthrough
    refine ⟨fun hframe => ?_, hleft⟩
    rw [(step_turn hagrees now).whole hframe]
    ext led
    simp only [LedMatrix.shown, hvisible, hleft, Set.mem_ofPred_eq]
    cases hon : flashing (now - feedback.started) with
    | true =>
        have hearly : ¬ now - feedback.started ≥ secondOff := by
          intro hlate
          rw [flashing_late hlate] at hon
          cases hon
        simp [hearly]
    | false => simp

/-- Between its flashes a verdict is dark. -/
theorem flashes_run_verdict :
    let run := after { device := Wires.atReset } [.verdict true 0]
    run.lit ⊆ run.matrix.shown ∧ (run.step (.turn (300 * 10 ^ 6))).lit = ∅ := by
  have hrun := flashes_run { device := Wires.atReset } (by rfl) [.verdict true 0]
  exact ⟨(hrun.1 (by decide)).1,
    (hrun.2 (300 * 10 ^ 6) { icon := .correct, started := 0 } rfl (by rfl)).1 (by rfl)⟩

end LedRun

end DurableTrivia.Firmware
