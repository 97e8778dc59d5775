import Mathlib

/-!
# Haptics — the vibration motor and the patterns it plays

`firmware/src/haptics.rs` and `Motor` of `firmware/src/ui.rs`. A pattern
is a list of steps, and the UI thread advances it on its turns, without
blocking. What a step is for is said on its own (`Begins`): it begins on
the first turn at or past the end of the step before. The motor is always
in the step that began last, so no step is cut short and each is late by
at most a turn, and a bounded time after the event it stands (`pattern_run`).
-/

namespace DurableTrivia.Firmware

/-! ## Patterns -/

/-- What can be felt. -/
inductive HapticEvent where
  | sleepCountdown
  | correct
  | wrong
  | crash
  | recovered
  | powerup
  | winner
  | roundOver
  deriving DecidableEq, Repr

/-- One step of a pattern: hold the motor at `strength` for `duration`.
Strength zero is the silence between pulses. -/
structure HapticStep where
  strength : UInt8
  duration : Nat
  deriving DecidableEq, Repr

/-- The strength most events are felt at. -/
def originalStrength : UInt8 := 155

/-- The strength of what is not to startle. -/
def softStrength : UInt8 := 110

/-- The strength of a crash. -/
def firmStrength : UInt8 := 200

/-- How long a pulse lasts, in nanoseconds. -/
def originalPulse : Nat := 35 * 10 ^ 6

/-- How long the motor stands between two pulses, in nanoseconds. -/
def patternGap : Nat := 80 * 10 ^ 6

/-- A pulse at a strength. -/
def pulse (strength : UInt8) : HapticStep := { strength, duration := originalPulse }

/-- The silence between two pulses. -/
def gap : HapticStep := { strength := 0, duration := patternGap }

/-- One pulse. -/
def single : List HapticStep := [pulse originalStrength]

/-- Two soft pulses. -/
def doubleSoft : List HapticStep := [pulse softStrength, gap, pulse softStrength]

/-- Two pulses. -/
def double : List HapticStep := [pulse originalStrength, gap, pulse originalStrength]

/-- One long pulse. -/
def thump : List HapticStep := [{ strength := firmStrength, duration := 120 * 10 ^ 6 }]

/-- Three pulses, each stronger than the one before. -/
def rise : List HapticStep :=
  [pulse softStrength, gap, pulse 135, gap, pulse originalStrength]

/-- The steps that make up one event's feel. -/
def pattern : HapticEvent → List HapticStep
  | .sleepCountdown | .correct | .roundOver => single
  | .wrong => doubleSoft
  | .crash => thump
  | .recovered | .powerup => double
  | .winner => rise

/-! ## The motor -/

/-- The PWM driver behind the motor, and which of the settings to come it
refuses. -/
structure BadgeHaptics where
  maxDuty : Nat
  duty : Nat := 0
  refuses : List Bool := []
  deriving DecidableEq, Repr

namespace BadgeHaptics

/-- The duty a strength is driven at. -/
def dutyOf (haptics : BadgeHaptics) (strength : UInt8) : Nat :=
  haptics.maxDuty * strength.toNat / 255

/-- Drives the motor at `strength`, where zero is off. A refusal is logged
by every caller, and the motor goes on as it was. -/
def set (haptics : BadgeHaptics) (strength : UInt8) : BadgeHaptics :=
  match haptics.refuses with
  | true :: refuses => { haptics with refuses }
  | false :: refuses => { haptics with refuses, duty := haptics.dutyOf strength }
  | [] => { haptics with duty := haptics.dutyOf strength }

/-- The motor stands. -/
def off (haptics : BadgeHaptics) : BadgeHaptics := haptics.set 0

end BadgeHaptics

/-- Plays one haptic pattern a step at a time, without blocking the loop. -/
structure Motor where
  steps : List HapticStep := []
  index : Nat := 0
  stepUntil : Option Nat := none
  deriving DecidableEq, Repr

namespace Motor

/-- Begins the step the index is at, or stops behind the last. -/
def startStep (motor : Motor) (haptics : BadgeHaptics) (now : Nat) : Motor × BadgeHaptics :=
  match motor.steps[motor.index]? with
  | some step =>
      ({ motor with stepUntil := some (now + step.duration) }, haptics.set step.strength)
  | none => ({ motor with stepUntil := none }, haptics.off)

/-- Begins the pattern of an event, whatever was playing. -/
def play (motor : Motor) (event : HapticEvent) (haptics : BadgeHaptics) (now : Nat) :
    Motor × BadgeHaptics :=
  { motor with steps := pattern event, index := 0 }.startStep haptics now

/-- Goes on to the next step once the time of this one is over. -/
def advance (motor : Motor) (haptics : BadgeHaptics) (now : Nat) : Motor × BadgeHaptics :=
  if motor.stepUntil.any (· ≤ now) then
    { motor with index := motor.index + 1 }.startStep haptics now
  else (motor, haptics)

/-- Stops at once. -/
def stop (motor : Motor) (haptics : BadgeHaptics) : Motor × BadgeHaptics :=
  ({ motor with steps := [], stepUntil := none }, haptics.off)

/-- The turns of the UI thread, at their times. -/
def advances (state : Motor × BadgeHaptics) (times : List Nat) : Motor × BadgeHaptics :=
  times.foldl (fun state now => state.1.advance state.2 now) state

end Motor

/-! ## Turns in time -/

/-- Times that do not go back, each at most `delta` behind the last. -/
def Paced (delta : Nat) : Nat → List Nat → Prop
  | _, [] => True
  | last, now :: times => last ≤ now ∧ now ≤ last + delta ∧ Paced delta now times

/-- The first turn at or past a time is less than a turn behind it. -/
theorem Paced.find_le {delta last until_ now : Nat} {times : List Nat} (h : Paced delta last times)
    (hlast : last ≤ until_) (hfirst : times.find? (until_ ≤ ·) = some now) :
    now ≤ until_ + delta := by
  induction times generalizing last with
  | nil => cases hfirst
  | cons time times ih =>
      obtain ⟨_, hpace, hrest⟩ := h
      by_cases hdue : until_ ≤ time
      · rw [List.find?_cons_of_pos (by simpa using hdue)] at hfirst
        cases hfirst
        omega
      · rw [List.find?_cons_of_neg (by simpa using hdue)] at hfirst
        exact ih hrest (by omega) hfirst

/-- How long the first `count` steps take. -/
def timeOf (steps : List HapticStep) (count : Nat) : Nat :=
  ((steps.take count).map (·.duration)).sum

theorem timeOf_succ {steps : List HapticStep} {index : Nat} {step : HapticStep}
    (h : steps[index]? = some step) :
    timeOf steps (index + 1) = timeOf steps index + step.duration := by
  unfold timeOf
  rw [List.take_add_one, h]
  simp

theorem timeOf_mono (steps : List HapticStep) {m n : Nat} (h : m ≤ n) :
    timeOf steps m ≤ timeOf steps n := by
  unfold timeOf
  have hsub : (steps.take m).Sublist (steps.take n) := (List.take_prefix_take_left h).sublist
  exact (hsub.map _).sum_le_sum (fun _ _ => Nat.zero_le _)

/-- Every pulse and every gap takes time. -/
theorem pattern_duration_pos (event : HapticEvent) : ∀ step ∈ pattern event, 0 < step.duration := by
  cases event <;> decide

/-- No event is felt for longer than 265 ms. -/
theorem timeOf_pattern (event : HapticEvent) :
    timeOf (pattern event) (pattern event).length ≤ 265 * 10 ^ 6 ∧ (pattern event).length ≤ 5 := by
  cases event <;> decide

/-! ## When a step begins -/

/-- When step `index` of a pattern begins: the first at `start`, and each
behind it on the first of the turns at or past the end of the one before. -/
inductive Begins (steps : List HapticStep) (start : Nat) (turns : List Nat) : Nat → Nat → Prop where
  | first : Begins steps start turns 0 start
  | next {index began time : Nat} {step : HapticStep} (h : Begins steps start turns index began)
      (hstep : steps[index]? = some step)
      (hturn : turns.find? (began + step.duration ≤ ·) = some time) :
      Begins steps start turns (index + 1) time

/-- How the motor is driven in step `index`; behind the last it stands. -/
def strengthAt (steps : List HapticStep) (index : Nat) : UInt8 :=
  (steps[index]?.map (·.strength)).getD 0

section
variable {steps : List HapticStep} {start delta now index began : Nat} {turns : List Nat}
  {motor : Motor} {driver haptics : BadgeHaptics}

/-- Later turns do not change when a step began. -/
theorem Begins.concat (h : Begins steps start turns index began) (now : Nat) :
    Begins steps start (turns ++ [now]) index began := by
  induction h with
  | first => exact .first
  | next _ hstep hturn ih =>
      refine .next ih hstep ?_
      rw [List.find?_append, hturn]
      rfl

/-- No step begins early, and each at most a turn later than the one before. -/
theorem Begins.bounds (h : Begins steps start turns index began)
    (hpaced : Paced delta start turns) :
    start + timeOf steps index ≤ began
      ∧ began ≤ start + timeOf steps index + index * delta := by
  induction h with
  | first => simp [timeOf]
  | @next index began time step _ hstep hturn ih =>
      obtain ⟨hearly, hlate⟩ := ih
      have htime := timeOf_succ hstep
      have hdue : began + step.duration ≤ time := by simpa using List.find?_some hturn
      have hsoon := hpaced.find_le (by omega) hturn
      rw [Nat.succ_mul]
      omega

/-! ## A pattern in time -/

/-- Where the motor is in a pattern behind the turns it has had: in the step
that began last, which no turn has reached the end of; or behind the last. -/
inductive Playing (steps : List HapticStep) (start : Nat) (turns : List Nat) (motor : Motor) :
    Prop where
  | inStep (began : Nat) (step : HapticStep) (hsteps : motor.steps = steps)
      (hstep : steps[motor.index]? = some step)
      (hbegins : Begins steps start turns motor.index began)
      (huntil : motor.stepUntil = some (began + step.duration))
      (hrunning : ∀ turn ∈ turns, turn < began + step.duration)
  | finished (ended : Nat) (hindex : motor.index = steps.length)
      (hbegins : Begins steps start turns steps.length ended)
      (hdone : motor.stepUntil = none)

/-- A step that is due takes the pattern on, or to its end. -/
theorem startStep_playing (hpos : ∀ step ∈ steps, 0 < step.duration) (hsteps : motor.steps = steps)
    (hindex : motor.index ≤ steps.length) (hbegins : Begins steps start turns motor.index now)
    (hpast : ∀ turn ∈ turns, turn ≤ now) :
    Playing steps start turns (motor.startStep haptics now).1 := by
  unfold Motor.startStep
  rw [hsteps]
  cases hstep : steps[motor.index]? with
  | some step =>
      have hduration := hpos step (List.mem_of_getElem? hstep)
      refine .inStep now step rfl hstep hbegins rfl fun turn hturn => ?_
      have hlast := hpast turn hturn
      omega
  | none =>
      have hend : motor.index = steps.length :=
        Nat.le_antisymm hindex (List.getElem?_eq_none_iff.mp hstep)
      rw [hend] at hbegins
      exact .finished now hend hbegins rfl

/-- **One turn** keeps a pattern in time. -/
theorem advance_playing (hpos : ∀ step ∈ steps, 0 < step.duration)
    (h : Playing steps start turns motor) (now : Nat) :
    Playing steps start (turns ++ [now]) (motor.advance haptics now).1 := by
  unfold Motor.advance
  cases h with
  | finished ended hindex hbegins hdone =>
      rw [hdone]
      exact .finished ended hindex (hbegins.concat now) hdone
  | inStep began step hsteps hstep hbegins huntil hrunning =>
      rw [huntil]
      by_cases hdue : began + step.duration ≤ now
      · -- the first turn at or past the end
        have hfirst : (turns ++ [now]).find? (began + step.duration ≤ ·) = some now := by
          have hnone : turns.find? (began + step.duration ≤ ·) = none :=
            List.find?_eq_none.mpr fun turn hturn => by simpa using hrunning turn hturn
          rw [List.find?_append, hnone]
          simp [hdue]
        have hlength := (List.getElem?_eq_some_iff.mp hstep).1
        rw [if_pos (by simpa using hdue)]
        refine startStep_playing hpos hsteps hlength
          ((hbegins.concat now).next hstep hfirst) fun turn hturn => ?_
        rcases List.mem_append.mp hturn with hturn | hturn
        · exact Nat.le_trans (Nat.le_of_lt (hrunning turn hturn)) hdue
        · exact Nat.le_of_eq (List.mem_singleton.mp hturn)
      · rw [if_neg (by simpa using hdue)]
        refine .inStep began step hsteps hstep (hbegins.concat now) huntil fun turn hturn => ?_
        rcases List.mem_append.mp hturn with hturn | hturn
        · exact hrunning turn hturn
        · rw [List.mem_singleton.mp hturn]
          omega

/-- A pattern that has had its time, and a turn more for each step, is over. -/
theorem Playing.over_of_late (h : Playing steps start turns motor)
    (hpaced : Paced delta start turns)
    (hlate : ∃ turn ∈ turns, start + timeOf steps steps.length + steps.length * delta ≤ turn) :
    motor.index = steps.length ∧ motor.stepUntil = none := by
  cases h with
  | finished ended hindex hbegins hdone => exact ⟨hindex, hdone⟩
  | inStep began step hsteps hstep hbegins huntil hrunning =>
      obtain ⟨turn, hturn, hlate⟩ := hlate
      have hlength := (List.getElem?_eq_some_iff.mp hstep).1
      have htime := timeOf_succ hstep
      have hrest : timeOf steps (motor.index + 1) ≤ timeOf steps steps.length :=
        timeOf_mono steps hlength
      have hturns := Nat.mul_le_mul_right delta (Nat.le_of_lt hlength)
      have hbegan := (hbegins.bounds hpaced).2
      have hrunning := hrunning turn hturn
      omega

/-! ## A motor that is driven -/

/-- A driver that accepts every setting drives the motor at the strength of
the step it is in. -/
def Driven (driver : BadgeHaptics) (steps : List HapticStep) (motor : Motor)
    (haptics : BadgeHaptics) : Prop :=
  haptics = { driver with duty := driver.dutyOf (strengthAt steps motor.index) }

theorem off_duty (h : haptics.refuses = []) :
    haptics.off.duty = 0 ∧ haptics.off.refuses = [] := by
  unfold BadgeHaptics.off BadgeHaptics.set
  rw [h]
  simp [BadgeHaptics.dutyOf]

theorem startStep_driven (hrefuses : driver.refuses = []) (hsteps : motor.steps = steps)
    {duty : Nat} (hdriver : haptics = { driver with duty }) (now : Nat) :
    Driven driver steps (motor.startStep haptics now).1 (motor.startStep haptics now).2 := by
  unfold Motor.startStep Driven strengthAt
  rw [hsteps]
  cases hstep : steps[motor.index]? with
  | some step =>
      dsimp only
      unfold BadgeHaptics.set
      rw [hdriver, hrefuses, hstep]
      rfl
  | none =>
      dsimp only
      unfold BadgeHaptics.off BadgeHaptics.set
      rw [hdriver, hrefuses, hstep]
      rfl

theorem advance_driven (hrefuses : driver.refuses = []) (h : Playing steps start turns motor)
    (hdriven : Driven driver steps motor haptics) (now : Nat) :
    Driven driver steps (motor.advance haptics now).1 (motor.advance haptics now).2 := by
  unfold Motor.advance
  split
  · next hdue =>
      cases h with
      | finished ended hindex hbegins hdone =>
          rw [hdone] at hdue
          cases hdue
      | inStep began step hsteps hstep hbegins huntil hrunning =>
          have hnext : ({ motor with index := motor.index + 1 } : Motor).steps = steps := hsteps
          exact startStep_driven hrefuses hnext hdriven now
  · exact hdriven

/-- **A run of turns** keeps a pattern in time, and the motor driven. -/
theorem advances_playing (hpos : ∀ step ∈ steps, 0 < step.duration)
    (h : Playing steps start turns motor)
    (hdriven : driver.refuses = [] → Driven driver steps motor haptics) (times : List Nat) :
    Playing steps start (turns ++ times) (Motor.advances (motor, haptics) times).1
      ∧ (driver.refuses = [] → Driven driver steps (Motor.advances (motor, haptics) times).1
        (Motor.advances (motor, haptics) times).2) := by
  induction times generalizing motor haptics turns with
  | nil =>
      rw [List.append_nil]
      exact ⟨h, hdriven⟩
  | cons now times ih =>
      have hrun := ih (advance_playing hpos h now)
        fun hrefuses => advance_driven hrefuses h (hdriven hrefuses) now
      rw [List.append_assoc] at hrun
      exact hrun

end

/-- **An event in time.** Played from any state of the motor, with turns at
most `delta` apart behind it, an event is at every turn in the step that
began last, and a step is left on the first turn at or past its end and on
no other; a driver that accepts every setting holds the motor at the
strength of that step. Step `index` is at most `index` turns late; and 265
ms and five turns later the event is over and the motor stands. -/
theorem pattern_run (motor : Motor) (haptics : BadgeHaptics) (event : HapticEvent)
    {start delta : Nat} {times : List Nat} (hpaced : Paced delta start times) :
    let after := Motor.advances (motor.play event haptics start) times
    Playing (pattern event) start times after.1
      ∧ (haptics.refuses = [] →
        after.2.duty = haptics.dutyOf (strengthAt (pattern event) after.1.index))
      ∧ (∀ index began, Begins (pattern event) start times index began →
        start + timeOf (pattern event) index ≤ began
          ∧ began ≤ start + timeOf (pattern event) index + index * delta)
      ∧ ((∃ turn ∈ times, start + 265 * 10 ^ 6 + 5 * delta ≤ turn) →
        after.1.stepUntil = none ∧ (haptics.refuses = [] → after.2.duty = 0)) := by
  have hplay : Playing (pattern event) start [] (motor.play event haptics start).1 :=
    startStep_playing (pattern_duration_pos event) rfl (Nat.zero_le _) .first
      fun turn hturn => by cases hturn
  have hdriven : haptics.refuses = [] → Driven haptics (pattern event)
      (motor.play event haptics start).1 (motor.play event haptics start).2 :=
    fun hrefuses => startStep_driven hrefuses rfl rfl start
  obtain ⟨hplaying, hdriven⟩ :=
    advances_playing (pattern_duration_pos event) hplay hdriven times
  rw [List.nil_append] at hplaying
  have hduty := fun hrefuses => congrArg BadgeHaptics.duty (hdriven hrefuses)
  refine ⟨hplaying, hduty, fun index began h => h.bounds hpaced, fun ⟨turn, hturn, hlate⟩ => ?_⟩
  obtain ⟨htotal, hcount⟩ := timeOf_pattern event
  have hturns := Nat.mul_le_mul_right delta hcount
  obtain ⟨hindex, hdone⟩ := hplaying.over_of_late hpaced ⟨turn, hturn, by omega⟩
  refine ⟨hdone, fun hrefuses => ?_⟩
  rw [hduty hrefuses, hindex]
  simp [strengthAt, BadgeHaptics.dutyOf]

/-- The winner's pattern, felt at turns 5 ms apart, is over after 290 ms. -/
theorem pattern_run_winner :
    let times := (List.range' 1 58).map (· * (5 * 10 ^ 6))
    (Motor.advances (Motor.play {} .winner { maxDuty := 255 } 0) times).1.stepUntil = none
      ∧ (Motor.advances (Motor.play {} .winner { maxDuty := 255 } 0) times).2.duty = 0 := by
  have hpaced : Paced (5 * 10 ^ 6) 0 ((List.range' 1 58).map (· * (5 * 10 ^ 6))) := by
    simp [Paced, List.range']
  obtain ⟨hdone, hduty⟩ := (pattern_run {} { maxDuty := 255 } .winner hpaced).2.2.2
    ⟨290 * 10 ^ 6, by decide, by decide⟩
  exact ⟨hdone, hduty rfl⟩

end DurableTrivia.Firmware
