import Mathlib

/-!
# Buttons — what a press means

`badge-input/src/lib.rs`: four buttons, five outcomes. UP and DOWN
answer on press; LEFT and RIGHT answer on release, because both together
are the simulated crash. Instants and durations are nanoseconds in `Nat`,
and `duration_since` is the truncating difference, as it is there.
-/

namespace DurableTrivia.Firmware

/-- How long both side buttons must be held to simulate a crash. -/
def panicHold : Nat := 500 * 10 ^ 6

/-- A sample of the four buttons. `true` means pressed. -/
structure Buttons where
  up : Bool := false
  right : Bool := false
  down : Bool := false
  left : Bool := false
  deriving DecidableEq, Repr

/-- Some button is down. -/
def Buttons.any (b : Buttons) : Bool := b.up || b.right || b.down || b.left

/-- What the badge decided a gesture meant. -/
inductive Choice where
  /-- the index into the question's four answers -/
  | answer (index : UInt8)
  /-- both side buttons held past `panicHold` -/
  | panic
  deriving DecidableEq, Repr

/-- Which side button is waiting for its release. -/
inductive Side where
  | left | right
  deriving DecidableEq, Repr

/-- The answer a side button gives. -/
def Side.answer : Side → UInt8
  | .left => 2
  | .right => 1

/-- Where the badge is in a gesture. -/
inductive ButtonState where
  | idle
  /-- a side button is down; its answer fires when it is released -/
  | armed (side : Side)
  /-- both side buttons are down; `since` times the hold -/
  | combo (since : Nat)
  /-- ignore everything until every button is up -/
  | suppressedUntilRelease
  deriving DecidableEq, Repr

namespace ButtonState

/-- Advances one poll tick: the next state and the choice it produced. -/
def advance (s : ButtonState) (buttons : Buttons) (powerupActive : Bool) (now panicHold : Nat) :
    ButtonState × Option Choice :=
  -- the overlay takes the gesture with it
  if powerupActive then (suppressedUntilRelease, none)
  else if s = suppressedUntilRelease then
    (if buttons.any then suppressedUntilRelease else idle, none)
  else if buttons.left && buttons.right then
    let since := match s with
      | combo since => since
      | _ => now
    -- suppressed, not idle: one hold is one crash
    if now - since ≥ panicHold then (suppressedUntilRelease, some .panic)
    else (combo since, none)
  else if buttons.up then (idle, some (.answer 0))
  else if buttons.down then (idle, some (.answer 3))
  -- a side that is down now supersedes one that was armed before
  else if buttons.left then (armed .left, none)
  else if buttons.right then (armed .right, none)
  else match s with
    | armed side => (idle, some (.answer side.answer))
    | _ => (idle, none)

variable {s : ButtonState} {buttons : Buttons} {powerupActive : Bool} {now hold : Nat}
  {choice : Choice}

/-- **A choice needs a live gesture**: no overlay, and nothing left to
release from the screen before. -/
theorem live_of_choice (h : (s.advance buttons powerupActive now hold).2 = some choice) :
    powerupActive = false ∧ s ≠ suppressedUntilRelease := by
  unfold advance at h
  cases powerupActive with
  | true => cases h
  | false =>
      refine ⟨rfl, fun hs => ?_⟩
      rw [if_neg Bool.false_ne_true, if_pos hs] at h
      cases h

end ButtonState

end DurableTrivia.Firmware
