import DurableTrivia.Firmware.Choices
import DurableTrivia.Firmware.Custody

/-!
# Release — does an execution give the screen back

`answer_question` gives the screen up behind an answer and behind a saved
crash gesture; every other way out returns an error with `?` and sends
nothing, and the question stays on the screen, where it refuses the
watcher's standings.
-/

namespace DurableTrivia.Firmware

open DurableTrivia.Shared DurableTrivia.Lib

namespace Badge

variable {hist : List (Badge × Event)} {b : Badge} {number : Nat}

/-- No question owns the controls, and the watcher's standings would be
shown. -/
structure Free (b : Badge) : Prop where
  screen : b.ui.screen = .idle
  answering : b.ui.shared.answering = false
  results : ∀ snapshot pins now,
    (b.ui.apply (.results snapshot) pins now).display = .results snapshot

/-- The execution of question `number` let go of the screen: it is free,
or a later execution's question has it. -/
def Released (b : Badge) (number : Nat) : Prop :=
  b.Free ∨ ∃ later task, b.ui.screen = .question later task ∧ number < later

/-- A question the UI thread received is off the screen exactly when the
screen is free of it. -/
theorem released_iff {seen : Nat} (hnumbered : b.Numbered seen) (hle : number ≤ seen) :
    b.Released number ↔ ¬ b.Shows number := by
  constructor
  · rintro (hfree | ⟨later, task, hs, hlt⟩) ⟨task', hs'⟩
    · rw [hfree.screen] at hs'
      cases hs'
    · rw [hs] at hs'
      cases hs'
      exact Nat.lt_irrefl _ hlt
  · intro hgone
    cases hs : b.ui.screen with
    | idle =>
        have hidle : b.ui.screen.isQuestion = false := by
          rw [hs]
          rfl
        refine .inl ⟨hs, hnumbered.answering.trans hidle, fun snapshot pins now => ?_⟩
        exact UiThread.apply_results snapshot hidle
    | question later task =>
        have hlater := hnumbered.screen later task hs
        have hne : number ≠ later := by
          rintro rfl
          exact hgone ⟨task, hs⟩
        exact .inr ⟨later, task, hs, by omega⟩

/-- **An execution gives the screen back exactly when it decided to**, or
when another request took the question off the screen: question `number`
was shown, its execution returned, and the UI thread received all it
sent. -/
theorem screen_released_iff (hrun : system.Run hist b) (hpos : 0 < number)
    (hreturned : number < b.asked ∨ (number = b.asked ∧ b.activity.holds = none))
    (hreceived : ∀ envelope ∈ b.inbox, envelope.sender ≠ .activity number) :
    b.Released number ↔
      Decided hist number ∨ Overruled hist number ∨ number < b.received := by
  obtain ⟨seen, hnumbered⟩ := numbered_reachable hrun.reachable
  have hover := over_of_returned hrun hpos hreturned
  unfold Over Given Holding at hover
  rw [lastOwn_eq_none.mpr hreceived] at hover
  -- the question itself was received with the rest
  have hle : number ≤ seen := by
    by_contra hlt
    have hmem : number ∈ b.inFlight := by
      rw [hnumbered.inFlight, List.mem_range'_1]
      have hbound := hnumbered.bound
      omega
    obtain ⟨envelope, henvelope, hnumber⟩ := List.mem_filterMap.mp hmem
    obtain ⟨task, hrequest⟩ := UiRequest.number_eq_some.mp hnumber
    exact hreceived envelope henvelope (hnumbered.senders envelope henvelope number task hrequest)
  rw [released_iff hnumbered hle]
  constructor
  · intro hgone
    rcases hover with ⟨hdecided, _⟩ | ⟨_, hshows | hother⟩
    · exact .inl hdecided
    · exact absurd hshows hgone
    · exact .inr hother
  · intro h
    rcases h with hdecided | hother | hlater
    · rcases hover with ⟨_, hgone⟩ | ⟨hundecided, _⟩
      · exact hgone
      · exact absurd hdecided hundecided
    · exact ((screenInvariant_run hrun).overruled number hother).1
    · intro hshows
      rcases hshows with ⟨task, hs⟩
      have hseen := hnumbered.screen number task hs
      rw [hnumbered.received_eq] at hlater
      omega

/-- An answered question is off the screen when the UI thread received
the verdict and what follows it. -/
theorem screen_released_iff_demo :
    ∃ hist b, system.Run hist b ∧ b.asked = 1 ∧ b.Released 1 := by
  obtain ⟨hist, b, hrun, htest⟩ := StepSystem.exists_run_of_exec (S := system) demoBadge
    (showEvents (demoQuestion "first") ++ uiTurn 0 1 {} ++ [.prepare true 0]
      ++ uiTurn 5 0 { up := true } ++ [pollAt 20, .joined 1 true, .held] ++ uiTurn 1200 2 {})
    (fun result => result.2.asked == 1 && result.2.activity.holds.isNone
      && result.2.inbox.all (fun envelope => envelope.sender != .activity 1)
      && result.1.any fun t => t.1.asked == 1 && decides t)
    init_demoBadge (by decide +kernel)
  simp only [Bool.and_eq_true, beq_iff_eq, Option.isNone_iff_eq_none, List.all_eq_true,
    bne_iff_ne, List.any_eq_true] at htest
  obtain ⟨⟨⟨hasked, hnone⟩, hreceived⟩, t, ht, hdecides⟩ := htest
  refine ⟨hist, b, hrun, hasked, ?_⟩
  exact (screen_released_iff hrun (by decide) (.inr ⟨hasked.symm, hnone⟩) hreceived).mpr
    (.inl ⟨t, ht, hdecides⟩)

/-- **The game deadline passes over an open question**: the Activity
returns, and the question keeps the screen and refuses the standings. -/
theorem deadline_keeps_screen :
    ∃ hist b, system.Run hist b ∧ b.asked = 1 ∧ b.inbox.length = 0
      ∧ (∃ error, b.activity = .ended (.error error))
      ∧ b.ui.screen = .question 1 (demoQuestion "first") ∧ b.ui.shared.answering = true
      ∧ ¬ b.Released 1
      ∧ ∀ snapshot pins now, b.ui.apply (.results snapshot) pins now = b.ui := by
  obtain ⟨hist, b, hrun, htest⟩ := StepSystem.exists_run_of_exec (S := system) demoBadge
    (showEvents (demoQuestion "first") ++ uiTurn 0 1 {}
      ++ [.prepare true 0, pollAt 90000, .joined 1 true] ++ uiTurn 90005 0 {})
    (fun result => result.2.asked == 1 && result.2.inbox.length == 0
      && decide (result.2.ui.screen = .question 1 (demoQuestion "first"))
      && result.2.ui.shared.answering
      && result.2.activity.error.isSome)
    init_demoBadge (by decide +kernel)
  simp only [Bool.and_eq_true, beq_iff_eq, decide_eq_true_eq, Option.isSome_iff_exists,
    Activity.error_eq_some] at htest
  obtain ⟨⟨⟨⟨hasked, hinbox⟩, hscreen⟩, hanswering⟩, hended⟩ := htest
  refine ⟨hist, b, hrun, hasked, hinbox, hended, hscreen, hanswering, ?_, ?_⟩
  · intro h
    rcases h with hfree | ⟨later, task, hs, hlt⟩
    · rw [hfree.screen] at hscreen
      cases hscreen
    · rw [hscreen] at hs
      cases hs
      exact Nat.lt_irrefl 1 hlt
  · exact fun snapshot pins now => UiThread.apply_results_refused snapshot (by rw [hscreen]; rfl)

end Badge

end DurableTrivia.Firmware
