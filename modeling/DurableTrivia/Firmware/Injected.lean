import DurableTrivia.Firmware.Gestures

/-!
# Injected — gestures that come over the USB

`answer_gesture` and `crash_gesture` of `badge-input/src/lib.rs`, and the
frames `UiThread` of `firmware/src/ui.rs` feeds its buttons instead of the
pins. Read back by the button machine, a sequence of injected commands is
that sequence of choices: none is lost, none is doubled and none runs into
the next, as long as turns are a tick apart.
-/

namespace DurableTrivia.Firmware

open DurableTrivia.Lib

/-! ## Frames -/

/-- The time a turn of the UI thread sleeps. -/
def uiTick : Nat := 5 * 10 ^ 6

/-- The two samples that make a complete press. -/
def answerGesture (index : UInt8) : Option (List Buttons) :=
  let released : Buttons := {}
  let pressed : Option Buttons :=
    if index = 0 then some { up := true }
    else if index = 1 then some { right := true }
    else if index = 2 then some { left := true }
    else if index = 3 then some { down := true }
    else none
  pressed.map fun pressed => [pressed, released]

/-- Frames that hold both side buttons, then let go. -/
def crashGesture (holdFrames : Nat) : List Buttons :=
  List.replicate holdFrames { right := true, left := true } ++ [({} : Buttons)]

/-- What the acceptance harness asks the badge to press. -/
inductive Injection where
  | answer (index : UInt8)
  | crash
  deriving DecidableEq, Repr

/-- The frames of the crash hold: half as long again as it takes. -/
def crashFrames : Nat := panicHold / 10 ^ 6 / (uiTick / 10 ^ 6) * 3 / 2

/-- The frames `apply` adds for a command. -/
def Injection.frames : Injection → List Buttons
  | .answer index => (answerGesture index).getD []
  | .crash => crashGesture crashFrames

/-- The choice a command means; there are four answers. -/
def Injection.choices : Injection → List Choice
  | .answer index => if index < 4 then [.answer index] else []
  | .crash => [.panic]

/-- The pins are read when nothing is injected. -/
def sampleButtons (injected : List Buttons) (pins : Buttons) : Buttons × List Buttons :=
  match injected with
  | buttons :: injected => (buttons, injected)
  | [] => (pins, [])

/-- What is sampled on the next turns, for what the pins read on each. -/
def sampleTurns : List Buttons → List Buttons → List Buttons
  | _, [] => []
  | injected, pins :: later =>
      let (buttons, injected) := sampleButtons injected pins
      buttons :: sampleTurns injected later

/-- Whatever the pins read, the frames are sampled. -/
theorem sampleTurns_injected {injected pins : List Buttons} (h : pins.length = injected.length) :
    sampleTurns injected pins = injected := by
  induction pins generalizing injected with
  | nil => exact (List.eq_nil_of_length_eq_zero h.symm).symm
  | cons pin pins ih =>
      cases injected with
      | nil => cases h
      | cons frame injected =>
          have hrest := ih (Nat.succ.inj h)
          show frame :: sampleTurns injected pins = frame :: injected
          rw [hrest]

/-! ## Reading samples -/

/-- The button machine over a list of samples, and the choices it makes. -/
def readSamples (s : ButtonState) : List Sample → ButtonState × List Choice
  | [] => (s, [])
  | x :: xs =>
      let (next, choice) := s.advance x.buttons x.powerupActive x.now panicHold
      let (last, choices) := readSamples next xs
      (last, choice.toList ++ choices)

theorem readSamples_append (s : ButtonState) (xs ys : List Sample) :
    readSamples s (xs ++ ys)
      = ((readSamples (readSamples s xs).1 ys).1,
        (readSamples s xs).2 ++ (readSamples (readSamples s xs).1 ys).2) := by
  induction xs generalizing s with
  | nil => rfl
  | cons x xs ih =>
      simp only [List.cons_append, readSamples, ih, List.append_assoc]

/-- Samples at least a tick apart, with no overlay. -/
structure Ticked (xs : List Sample) : Prop where
  free : ∀ x ∈ xs, x.powerupActive = false
  spaced : xs.IsChain fun x y => x.now + uiTick ≤ y.now

theorem Ticked.left {xs ys : List Sample} (h : Ticked (xs ++ ys)) : Ticked xs :=
  ⟨fun x hx => h.free x (List.mem_append_left _ hx), h.spaced.left_of_append⟩

theorem Ticked.right {xs ys : List Sample} (h : Ticked (xs ++ ys)) : Ticked ys :=
  ⟨fun x hx => h.free x (List.mem_append_right _ hx), h.spaced.right_of_append⟩

/-- The last of `n + 1` samples comes at least `n` ticks behind the first. -/
theorem Ticked.span {x : Sample} {xs : List Sample} (h : Ticked (x :: xs)) :
    x.now + xs.length * uiTick ≤ ((x :: xs).getLast (List.cons_ne_nil x xs)).now := by
  induction xs generalizing x with
  | nil => simp
  | cons y ys ih =>
      have hstep : x.now + uiTick ≤ y.now := (List.isChain_cons_cons.mp h.spaced).1
      have hrest := ih (@Ticked.right [x] _ h)
      rw [List.getLast_cons (List.cons_ne_nil y ys), List.length_cons, Nat.succ_mul]
      omega

/-! ## Commands read back -/

namespace ButtonState

/-- Under suppression a held button means nothing. -/
theorem readSamples_suppressed {xs : List Sample} (h : Ticked xs)
    (hheld : ∀ x ∈ xs, x.buttons.any = true) :
    readSamples suppressedUntilRelease xs = (suppressedUntilRelease, []) := by
  induction xs with
  | nil => rfl
  | cons x xs ih =>
      have hrest := ih (@Ticked.right [x] _ h) fun y hy => hheld y (List.mem_cons_of_mem x hy)
      simp [readSamples, advance, h.free x List.mem_cons_self, hheld x List.mem_cons_self, hrest]

/-- **A hold of both sides is one crash**, however much longer it lasts. -/
theorem readSamples_combo {since : Nat} {xs : List Sample} (h : Ticked xs) (hne : xs ≠ [])
    (hboth : ∀ x ∈ xs, x.buttons = { right := true, left := true })
    (hlong : since + panicHold ≤ (xs.getLast hne).now) :
    readSamples (combo since) xs = (suppressedUntilRelease, [.panic]) := by
  induction xs with
  | nil => exact absurd rfl hne
  | cons x xs ih =>
      have hfree := h.free x List.mem_cons_self
      have hx := hboth x List.mem_cons_self
      have hrestBoth : ∀ y ∈ xs, y.buttons = { right := true, left := true } :=
        fun y hy => hboth y (List.mem_cons_of_mem x hy)
      have hrest : Ticked xs := @Ticked.right [x] _ h
      by_cases hdue : x.now - since ≥ panicHold
      · have hsuppressed := readSamples_suppressed hrest fun y hy => by
          rw [hrestBoth y hy]
          rfl
        simp [readSamples, advance, hfree, hx, hdue, hsuppressed]
      · -- not held long enough yet, so this is not the last frame
        have hmore : xs ≠ [] := by
          rintro rfl
          simp only [List.getLast_singleton] at hlong
          omega
        rw [List.getLast_cons hmore] at hlong
        have hlater := ih hrest hmore hrestBoth hlong
        simp [readSamples, advance, hfree, hx, hdue, hlater]

end ButtonState

open ButtonState

/-- A press and its release are one answer, of a button that answers on
either. -/
theorem readSamples_press {xs : List Sample} (h : Ticked xs) {pressed : Buttons}
    (hframes : xs.map (·.buttons) = [pressed, {}]) {index : UInt8}
    (hpress : ∀ now now', ((idle.advance pressed false now panicHold).1.advance {} false now'
        panicHold).1 = idle
      ∧ (idle.advance pressed false now panicHold).2.toList
        ++ ((idle.advance pressed false now panicHold).1.advance {} false now' panicHold).2.toList
        = [.answer index]) :
    readSamples idle xs = (idle, [.answer index]) := by
  obtain ⟨x, rest, rfl, rfl, hrest⟩ := List.map_eq_cons_iff.mp hframes
  obtain ⟨y, rest, rfl, hy, hnone⟩ := List.map_eq_cons_iff.mp hrest
  obtain rfl : rest = [] := List.map_eq_nil_iff.mp hnone
  obtain ⟨hstate, hchoices⟩ := hpress x.now y.now
  have hx := h.free x (by simp)
  have hy' := h.free y (by simp)
  simp only [readSamples, hx, hy', hy, hstate, List.append_nil, hchoices]

/-- An injected press is one answer; what is no answer is nothing. -/
theorem readSamples_answer {xs : List Sample} (h : Ticked xs) {index : UInt8}
    (hframes : xs.map (·.buttons) = (Injection.answer index).frames) :
    readSamples idle xs = (idle, (Injection.answer index).choices) := by
  unfold Injection.frames answerGesture at hframes
  by_cases h0 : index = 0
  · subst h0
    exact readSamples_press h hframes fun now now' => ⟨rfl, rfl⟩
  · by_cases h1 : index = 1
    · subst h1
      exact readSamples_press h hframes fun now now' => ⟨rfl, rfl⟩
    · by_cases h2 : index = 2
      · subst h2
        exact readSamples_press h hframes fun now now' => ⟨rfl, rfl⟩
      · by_cases h3 : index = 3
        · subst h3
          exact readSamples_press h hframes fun now now' => ⟨rfl, rfl⟩
        · have hout : ¬ index < 4 := by
            have hcases : ∀ n : Fin 4, UInt8.ofNat n = 0 ∨ UInt8.ofNat n = 1 ∨ UInt8.ofNat n = 2
                ∨ UInt8.ofNat n = 3 := by decide
            intro hlt
            have hsmall : index.toNat < 4 := hlt
            have hknown := hcases ⟨index.toNat, hsmall⟩
            simp only [UInt8.ofNat_toNat, h0, h1, h2, h3, or_self] at hknown
          simp only [h0, h1, h2, h3, if_false, Option.map_none, Option.getD_none] at hframes
          obtain rfl : xs = [] := List.map_eq_nil_iff.mp hframes
          show readSamples idle [] = (idle, if index < 4 then [Choice.answer index] else [])
          rw [if_neg hout]
          rfl

/-- An injected crash is one crash. -/
theorem readSamples_crash {xs : List Sample} (h : Ticked xs)
    (hframes : xs.map (·.buttons) = Injection.crash.frames) :
    readSamples idle xs = (idle, [.panic]) := by
  have hcount : crashFrames = 149 + 1 := by decide
  unfold Injection.frames crashGesture at hframes
  obtain ⟨held, released, rfl, hheld, hreleased⟩ := List.map_eq_append_iff.mp hframes
  obtain ⟨last, rest, rfl, hlast, hnone⟩ := List.map_eq_cons_iff.mp hreleased
  obtain rfl : rest = [] := List.map_eq_nil_iff.mp hnone
  have hlength : held.length = 149 + 1 := by
    rw [← List.length_map (·.buttons), hheld, List.length_replicate, hcount]
  cases held with
  | nil => cases hlength
  | cons first held =>
      have hboth : ∀ x ∈ first :: held, x.buttons = { right := true, left := true } := by
        intro x hx
        exact List.eq_of_mem_replicate (hheld ▸ List.mem_map_of_mem hx)
      have hspan := h.left.span
      have hlong : held.length = 149 := Nat.succ.inj hlength
      rw [hlong] at hspan
      -- the first frame starts the hold, the others carry it on
      have hfirst := @readSamples_combo first.now _ h.left (List.cons_ne_nil _ _) hboth (by
        unfold panicHold
        unfold uiTick at hspan
        omega)
      have hstart : readSamples idle (first :: held) = (suppressedUntilRelease, [.panic]) := by
        have hfree := h.free first (by simp)
        have hbuttons := hboth first List.mem_cons_self
        have hnow : ¬ first.now - first.now ≥ panicHold := by
          rw [Nat.sub_self]
          decide
        simp only [readSamples, advance, hfree, hbuttons] at hfirst ⊢
        simpa [hnow] using hfirst
      have hrelease : readSamples suppressedUntilRelease [last] = (idle, []) := by
        simp [readSamples, advance, h.free last (by simp), hlast, Buttons.any]
      rw [readSamples_append, hstart, hrelease]
      rfl

/-- The frames of commands, one command behind the other. -/
theorem readSamples_frames {xs : List Sample} (h : Ticked xs) {commands : List Injection}
    (hframes : xs.map (·.buttons) = commands.flatMap Injection.frames) :
    readSamples idle xs = (idle, commands.flatMap Injection.choices) := by
  induction commands generalizing xs with
  | nil =>
      obtain rfl : xs = [] := List.map_eq_nil_iff.mp hframes
      rfl
  | cons command commands ih =>
      rw [List.flatMap_cons] at hframes
      obtain ⟨first, rest, rfl, hfirst, hrest⟩ := List.map_eq_append_iff.mp hframes
      have hone : readSamples idle first = (idle, command.choices) := by
        cases command with
        | answer index => exact readSamples_answer h.left hfirst
        | crash => exact readSamples_crash h.left hfirst
      rw [readSamples_append, hone, ih h.right hrest, List.flatMap_cons]

/-- **Injected commands are read back.** Sampled by an idle button machine,
a tick apart and under no overlay, the frames of any sequence of commands
give exactly the choices the commands mean, in order, and leave the
machine idle, whatever the pins read meanwhile. -/
theorem readSamples_injected {xs : List Sample} (h : Ticked xs) {commands : List Injection}
    {pins : List Buttons} (hpins : pins.length = (commands.flatMap Injection.frames).length)
    (hsampled : xs.map (·.buttons) = sampleTurns (commands.flatMap Injection.frames) pins) :
    readSamples idle xs = (idle, commands.flatMap Injection.choices) :=
  readSamples_frames h (hsampled.trans (sampleTurns_injected hpins))

/-- The third answer, a crash, an answer that does not exist, and the first. -/
def demoCommands : List Injection := [.answer 2, .crash, .answer 9, .answer 0]

/-- Their frames, five milliseconds apart. -/
def demoSamples : List Sample :=
  (demoCommands.flatMap Injection.frames).zipIdx.map fun frame =>
    { buttons := frame.1, now := frame.2 * uiTick }

/-- Commands sampled while somebody holds UP. -/
theorem readSamples_injected_demo :
    readSamples idle demoSamples = (idle, [.answer 2, .panic, .answer 0]) := by
  have hticked : Ticked demoSamples := ⟨by decide +kernel, by decide +kernel⟩
  have hpins : (List.replicate 155 ({ up := true } : Buttons)).length
      = (demoCommands.flatMap Injection.frames).length := by decide +kernel
  have hsampled : demoSamples.map (·.buttons)
      = sampleTurns (demoCommands.flatMap Injection.frames)
        (List.replicate 155 { up := true }) := by
    decide +kernel
  exact readSamples_injected hticked hpins hsampled

end DurableTrivia.Firmware
