import DurableTrivia.Firmware.Questions

/-!
# Choices — whose answer a choice is

The queue of choices is emptied when the UI thread receives a question,
not when the Activity shows it, and the Activity polls at once. Until
the thread has caught up, what `next_choice` pops was recognised on an
earlier question; a held UP or DOWN leaves enough of it behind, because
it pushes one choice a turn. From then on it is the question's own.
-/

namespace DurableTrivia.Firmware

open DurableTrivia.Shared DurableTrivia.Lib

namespace Badge

/-- What a transition of `wait_for_choice` returns, and for which task. -/
def returned (t : Badge × Event) : Option (Gesture × QuestionTask) :=
  match t.1.activity, t.2 with
  | .waiting task localDeadline, .poll o =>
      match o.givesUp task localDeadline, t.1.ui.shared.choices with
      | none, gesture :: _ => some (gesture, task)
      | _, _ => none
  | _, _ => none

theorem of_returned {b : Badge} {e : Event} {gesture : Gesture} {task : QuestionTask}
    (h : returned (b, e) = some (gesture, task)) :
    b.activity.holds = some task ∧ gesture ∈ b.ui.shared.choices := by
  unfold returned at h
  dsimp only at h
  split at h
  · next hat =>
      split at h
      · next hqueue =>
          cases h
          refine ⟨by rw [hat]; rfl, ?_⟩
          rw [hqueue]
          exact List.mem_cons_self
      · cases h
  · cases h

/-- A choice is the latest question's own exactly when the UI thread had
received that question; before, it is an earlier one's. -/
theorem returned_screen {b : Badge} {e : Event} {gesture : Gesture} {task : QuestionTask}
    (hreach : system.Reachable b) (h : returned (b, e) = some (gesture, task)) :
    (b.CaughtUp → gesture.screen = .question b.asked task)
      ∧ (¬ b.CaughtUp → ∃ number earlier, gesture.screen = .question number earlier
        ∧ number < b.asked) := by
  obtain ⟨seen, hnumbered⟩ := numbered_reachable hreach
  obtain ⟨hholds, hmem⟩ := of_returned h
  obtain ⟨recognised, hscreen⟩ := hnumbered.choices gesture hmem
  have hbound := hnumbered.bound
  refine ⟨fun hup => ?_, fun hbehind => ⟨seen, recognised, hscreen, ?_⟩⟩
  · rw [hnumbered.caughtUp_iff.mp hup] at hscreen
    rw [hscreen, hnumbered.tasks.2.2 gesture hmem task recognised hholds hscreen]
  · rw [hnumbered.caughtUp_iff] at hbehind
    omega

/-- Every choice the run returned was recognised while the very question
it answers was on the screen. -/
def NoChoiceLeaks (hist : List (Badge × Event)) : Prop :=
  ∀ t ∈ hist, ∀ gesture task, returned t = some (gesture, task) →
    gesture.screen = .question t.1.asked task

/-- **No choice leaks exactly when the UI thread is never behind at a
pop.** -/
theorem no_choice_leaks_iff {hist : List (Badge × Event)} {b : Badge}
    (hrun : system.Run hist b) :
    NoChoiceLeaks hist ↔ ∀ t ∈ hist, (returned t).isSome = true → t.1.CaughtUp := by
  constructor
  · intro h t ht hsome
    obtain ⟨⟨gesture, task⟩, hret⟩ := Option.isSome_iff_exists.mp hsome
    by_contra hbehind
    obtain ⟨number, earlier, hscreen, hlt⟩ :=
      (returned_screen (hrun.reachable_of_mem ht) hret).2 hbehind
    have hown := h t ht gesture task hret
    rw [hscreen] at hown
    cases hown
    omega
  · intro h t ht gesture task hret
    have hup := h t ht (by rw [hret]; rfl)
    exact (returned_screen (hrun.reachable_of_mem ht) hret).1 hup

/-! ## A held UP -/

/-- A question to test with. -/
def demoQuestion (id : String) : QuestionTask :=
  { gameId := "game"
    deadlineUnixMs := 60000
    maxDeadlineUnixMs := 90000
    question :=
      { id, category := "rust", difficulty := "easy", prompt := "?"
        answers := ⟨#["a", "b", "c", "d"], rfl⟩, correctIndex := 0 } }

/-- One turn of the UI thread that receives `requests` requests. -/
def uiTurn (ms requests : Nat) (buttons : Buttons) : List Event :=
  .wake (ms * 10 ^ 6) :: List.replicate requests (.receive {})
    ++ [.drained, .sample buttons (ms * 10 ^ 6)]

/-- A question is assigned and shown. -/
def showEvents (task : QuestionTask) : List Event := [.assign task, .check, .showQuestion]

/-- A poll at so many milliseconds. -/
def pollAt (ms : Nat) : Event := .poll { nowUnixMs := ms, now := ms * 10 ^ 6 }

/-- UP is held for two turns and answers the first question; its second
choice stays in the queue. -/
def heldUp : List Event :=
  showEvents (demoQuestion "first") ++ uiTurn 0 1 {} ++ [.prepare true 0]
    ++ uiTurn 5 0 { up := true } ++ uiTurn 10 0 { up := true }
    ++ [pollAt 20, .joined 1 true, .held] ++ uiTurn 1200 2 {}
    ++ showEvents (demoQuestion "second") ++ [.prepare true (1300 * 10 ^ 6)]

/-- A badge to test with. -/
def demoBadge : Badge := { identity := { id := "badge-a", callsign := "A" } }

theorem init_demoBadge : system.init demoBadge := ⟨_, {}, rfl⟩

/-- The second question reaches the screen before the Activity polls. -/
theorem no_choice_leaks_iff_demo :
    ∃ hist b, system.Run hist b ∧ b.asked = 2 ∧ NoChoiceLeaks hist := by
  obtain ⟨hist, b, hrun, htest⟩ := StepSystem.exists_run_of_exec (S := system) demoBadge
    (heldUp ++ uiTurn 1310 1 {} ++ [pollAt 1320])
    (fun result => result.2.asked == 2 && result.1.all fun t =>
      (returned t).isNone || t.1.inbox.all fun envelope => !envelope.request.isQuestion)
    init_demoBadge (by decide +kernel)
  simp only [Bool.and_eq_true, beq_iff_eq, List.all_eq_true, Bool.or_eq_true,
    Option.isNone_iff_eq_none, Bool.not_eq_true'] at htest
  refine ⟨hist, b, hrun, htest.1, (no_choice_leaks_iff hrun).mpr fun t ht hsome => ?_⟩
  rcases htest.2 t ht with hnone | hup
  · rw [hnone] at hsome
    cases hsome
  · exact hup

/-- **The Activity polls first**: the second choice of the held UP
answers the question the player has not seen. -/
theorem held_up_answers_next_question :
    ∃ hist b, system.Run hist b
      ∧ (∃ t ∈ hist, returned t = some
        ({ choice := .answer 0, screen := .question 1 (demoQuestion "first") },
          demoQuestion "second"))
      ∧ ¬ NoChoiceLeaks hist := by
  obtain ⟨hist, b, hrun, htest⟩ := StepSystem.exists_run_of_exec (S := system) demoBadge
    (heldUp ++ [pollAt 1300])
    (fun result => result.1.any fun t => decide (returned t = some
      ({ choice := .answer 0, screen := .question 1 (demoQuestion "first") },
        demoQuestion "second")))
    init_demoBadge (by decide +kernel)
  simp only [List.any_eq_true, decide_eq_true_eq] at htest
  obtain ⟨t, ht, hret⟩ := htest
  refine ⟨hist, b, hrun, ⟨t, ht, hret⟩, fun hown => ?_⟩
  have hscreen := hown t ht _ _ hret
  injection hscreen with hnumber htask
  exact absurd htask (by decide)

end Badge

end DurableTrivia.Firmware
