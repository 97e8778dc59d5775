import DurableTrivia.Web.RoundLoop

/-!
# RoundSteps — what one event can do to a round

One inversion lemma for the step function (`Transition`), one rule for
the scheduling loop (`scheduleQuestions_keeps`) and one case analysis of
an iteration (`Iterated`). Every invariant of a round is derived from
these and unfolds none of the definitions again.
-/

namespace DurableTrivia.Web

open DurableTrivia.Shared DurableTrivia.Lib

namespace Round
variable {r : Round}

/-! ## The transitions -/

/-- The events of a round, each with its guard and its effect. -/
inductive Transition (r : Round) (s : State) : Event → State → Prop
  | advance {nowUnixMs : Nat} (hwait : s.phase.waiting = true) (hle : s.clock ≤ nowUnixMs) :
      Transition r s (.advance nowUnixMs) { s with clock := nowUnixMs }
  | badgeStarted {event : BadgeEvent} (hwait : s.phase.waiting = true) :
      Transition r s (.badgeStarted event)
        { s with
          wf := (s.wf.badgeStarted event).1
          commands := s.commands ++ (s.wf.badgeStarted event).2 }
  | panicEvent {event : BadgeEvent} (hwait : s.phase.waiting = true) :
      Transition r s (.panicEvent event) { s with wf := s.wf.panicEvent event }
  | recovered {event : BadgeEvent} (hwait : s.phase.waiting = true) :
      Transition r s (.recovered event) { s with wf := s.wf.recovered event }
  | applyChaos {command : ChaosCommand} (hwait : s.phase.waiting = true)
      (hvalid : s.wf.validateApplyChaos command = .ok ()) :
      Transition r s (.applyChaos command) { s with wf := s.wf.applyChaos s.clock command }
  | endRound (hwait : s.phase.waiting = true) (hvalid : s.wf.snapshot.status = .running) :
      Transition r s .endRound { s with wf := s.wf.endRound s.clock }
  | start (hphase : s.phase = .unstarted) : Transition r s .start (r.start s)
  | iterate (hphase : s.phase = .loopHead) : Transition r s .iterate (r.iterate s)
  | tick {dueUnixMs : Nat} (hphase : s.phase.due = some dueUnixMs) (hdue : dueUnixMs ≤ s.clock) :
      Transition r s .tick { s with phase := .loopHead }
  | completed {dueUnixMs index : Nat} {outstanding : Outstanding}
      {result : Except String BadgeAnswer} (hphase : s.phase = .selecting dueUnixMs)
      (hget : s.pending[index]? = some outstanding) :
      Transition r s (.completed index result) (s.complete index outstanding result)
  | drained {dueUnixMs : Nat} (hphase : s.phase = .selecting dueUnixMs)
      (hempty : s.pending = []) :
      Transition r s .drained { s with phase := .closing .pendingDrained }
  | close {exit : Exit} {memoError : Option String} (hphase : s.phase = .closing exit) :
      Transition r s (.close memoError) (r.close s exit memoError)

theorem handle_some {s s' : State} {wf : GameWorkflow} {commands : List Command}
    (h : s.handle wf commands = some s') :
    s.phase.waiting = true ∧ s' = { s with wf, commands := s.commands ++ commands } := by
  unfold State.handle at h
  split at h
  · next hwait => exact ⟨hwait, (Option.some.inj h).symm⟩
  · cases h

/-- **Inversion**: every step is one of the transitions. -/
theorem transition_of_step {s s' : State} {e : Event} (h : r.step s e = some s') :
    Transition r s e s' := by
  cases e with
  | advance nowUnixMs =>
      simp only [step] at h
      split at h
      · next hg =>
          cases h
          exact .advance hg.1 hg.2
      · cases h
  | badgeStarted event =>
      obtain ⟨hwait, rfl⟩ := handle_some h
      exact .badgeStarted hwait
  | panicEvent event =>
      obtain ⟨hwait, rfl⟩ := handle_some h
      simpa using (Transition.panicEvent hwait : Transition r s (.panicEvent event) _)
  | recovered event =>
      obtain ⟨hwait, rfl⟩ := handle_some h
      simpa using (Transition.recovered hwait : Transition r s (.recovered event) _)
  | applyChaos command =>
      simp only [step] at h
      split at h
      · next hvalid =>
          obtain ⟨hwait, rfl⟩ := handle_some h
          simpa using Transition.applyChaos (r := r) hwait hvalid
      · cases h
  | endRound =>
      simp only [step] at h
      split at h
      · next hvalid =>
          obtain ⟨hwait, rfl⟩ := handle_some h
          simpa using Transition.endRound (r := r) hwait
            (GameWorkflow.validateEndRound_ok.mp hvalid)
      · cases h
  | start =>
      simp only [step] at h
      split at h
      · next hphase =>
          cases h
          exact .start hphase
      · cases h
  | iterate =>
      simp only [step] at h
      split at h
      · next hphase =>
          cases h
          exact .iterate hphase
      · cases h
  | tick =>
      simp only [step] at h
      split at h
      · next dueUnixMs hphase =>
          split at h
          · next hdue =>
              cases h
              exact .tick hphase hdue
          · cases h
      · cases h
  | completed index result =>
      simp only [step] at h
      split at h
      · next dueUnixMs hphase =>
          obtain ⟨outstanding, hget, rfl⟩ := Option.map_eq_some_iff.mp h
          exact .completed hphase hget
      · cases h
  | drained =>
      simp only [step] at h
      split at h
      · next dueUnixMs hphase =>
          split at h
          · next hempty =>
              cases h
              exact .drained hphase (List.isEmpty_iff.mp hempty)
          · cases h
      · cases h
  | close memoError =>
      simp only [step] at h
      split at h
      · next exit hphase =>
          cases h
          exact .close hphase
      · cases h

/-! ## The scheduling loop -/

/-- **The rule of the scheduling loop**: what every scheduled question
and every refused deal keeps, the loop keeps. -/
theorem scheduleQuestions_keeps {P : State → Prop} {deadlineUnixMs : Nat} {rustOnly : Bool}
    (hone : ∀ s question deck, P s →
      dealQuestion s.deck r.input.questions rustOnly r.eligibleDeckRefill = (some question, deck) →
      P (r.scheduleOne deadlineUnixMs s question deck))
    (hnone : ∀ s deck, P s →
      dealQuestion s.deck r.input.questions rustOnly r.eligibleDeckRefill = (none, deck) →
      P { s with deck })
    {slots : Nat} {s : State} (h : P s) :
    P (r.scheduleQuestions deadlineUnixMs rustOnly slots s) := by
  induction slots generalizing s with
  | zero => exact h
  | succ slots ih =>
      cases hdeal : dealQuestion s.deck r.input.questions rustOnly r.eligibleDeckRefill with
      | mk question deck =>
          cases question with
          | some question =>
              rw [scheduleQuestions, hdeal]
              exact ih (hone s question deck h hdeal)
          | none =>
              rw [scheduleQuestions, hdeal]
              exact hnone s deck h hdeal

/-- A scheduled question is the last of those scheduled so far. -/
theorem scheduledQuestions_scheduleOne (deadlineUnixMs : Nat) (s : State) (question : Question)
    (deck : Deck) :
    (r.scheduleOne deadlineUnixMs s question deck).scheduledQuestions
      = s.scheduledQuestions ++ [question] := by
  simp [State.scheduledQuestions, scheduleOne, Command.scheduledQuestion, task]

/-- What scheduling leaves alone. -/
structure SameRound (s s' : State) : Prop where
  clock : s'.clock = s.clock
  control : s'.wf.control = s.wf.control
  books : s'.wf.books = s.wf.books
  startedUnixMs : s'.startedUnixMs = s.startedUnixMs
  phase : s'.phase = s.phase

theorem SameRound.refl (s : State) : SameRound s s := ⟨rfl, rfl, rfl, rfl, rfl⟩

theorem SameRound.trans {s s' s'' : State} (h : SameRound s s') (h' : SameRound s' s'') :
    SameRound s s'' :=
  ⟨h'.clock.trans h.clock, h'.control.trans h.control, h'.books.trans h.books,
    h'.startedUnixMs.trans h.startedUnixMs, h'.phase.trans h.phase⟩

theorem sameRound_scheduleOne (deadlineUnixMs : Nat) (s : State) (question : Question)
    (deck : Deck) : SameRound s (r.scheduleOne deadlineUnixMs s question deck) := by
  unfold scheduleOne
  dsimp only
  split <;> exact ⟨rfl, rfl, rfl, rfl, rfl⟩

/-- Scheduling moves neither the control view nor the books. -/
theorem sameRound_schedule (s : State) (deadlineUnixMs : Nat) :
    SameRound s (r.schedule s deadlineUnixMs) := by
  unfold schedule
  exact scheduleQuestions_keeps (P := SameRound s)
    (fun s' question deck h _ => h.trans (sameRound_scheduleOne deadlineUnixMs s' question deck))
    (fun s' deck h _ => h.trans ⟨rfl, rfl, rfl, rfl, rfl⟩) (.refl s)

/-! ## One iteration -/

/-- The deadline an iteration works with. -/
def effectiveDeadline (s : State) : Nat := s.wf.snapshot.deadlineUnixMs.getD s.clock

/-- The state an iteration has when it is done scheduling. -/
def scheduled (r : Round) (s : State) : State := r.schedule s.sweep (effectiveDeadline s)

/-- The four ends of an iteration. -/
inductive Iterated (r : Round) (s : State) : State → Prop
  | deadline (hdue : effectiveDeadline s ≤ s.clock) :
      Iterated r s { s.sweep with phase := .closing .deadline }
  | exhausted (hlt : s.clock < effectiveDeadline s) (hpending : (r.scheduled s).pending = [])
      (hdeck : (r.scheduled s).deck.available = []) :
      Iterated r s
        { r.scheduled s with
          wf := { (r.scheduled s).wf with
            snapshot := (r.scheduled s).wf.snapshot.pushEvent "Question deck exhausted" }
          phase := .closing .deckExhausted }
  | sleeping {dueUnixMs : Nat} (hlt : s.clock < effectiveDeadline s)
      (hpending : (r.scheduled s).pending = []) (hdeck : (r.scheduled s).deck.available ≠ [])
      (hdue : dueUnixMs = s.clock + min (effectiveDeadline s - s.clock) 1000) :
      Iterated r s { r.scheduled s with phase := .sleeping dueUnixMs }
  | selecting {dueUnixMs : Nat} (hlt : s.clock < effectiveDeadline s)
      (hpending : (r.scheduled s).pending ≠ [])
      (hdue : dueUnixMs = s.clock + min (effectiveDeadline s - s.clock) 1000) :
      Iterated r s { r.scheduled s with phase := .selecting dueUnixMs }

theorem iterated_iterate (r : Round) (s : State) : Iterated r s (r.iterate s) := by
  have hclock : (r.scheduled s).clock = s.clock :=
    (sameRound_schedule (r := r) s.sweep (effectiveDeadline s)).clock
  have hiter : r.iterate s =
      if effectiveDeadline s ≤ s.clock then { s.sweep with phase := .closing .deadline }
      else (r.scheduled s).await (effectiveDeadline s) := rfl
  rw [hiter]
  split
  · next hdue => exact .deadline hdue
  · next hdue =>
      have hlt : s.clock < effectiveDeadline s := Nat.not_le.mp hdue
      unfold State.await
      by_cases hpending : (r.scheduled s).pending = []
      · by_cases hdeck : (r.scheduled s).deck.available = []
        · rw [if_pos (by simp [hpending, hdeck])]
          exact .exhausted hlt hpending hdeck
        · rw [if_neg (by simp [hdeck]), if_pos (by simp [hpending])]
          exact .sleeping hlt hpending hdeck (by rw [hclock])
      · rw [if_neg (by simp [hpending]), if_neg (by simp [hpending])]
        exact .selecting hlt hpending (by rw [hclock])

/-- The control view after a sweep at `nowUnixMs`. -/
def sweptControl (control : GameWorkflow.Control) (nowUnixMs : Nat) : GameWorkflow.Control :=
  { control with
    chaos := { control.chaos with
      doublePointsUntilUnixMs := keepUnexpired control.chaos.doublePointsUntilUnixMs nowUnixMs
      rustOnlyUntilUnixMs := keepUnexpired control.chaos.rustOnlyUntilUnixMs nowUnixMs }
    lastChaosSweepUnixMs := nowUnixMs }

/-- **An iteration only sweeps**: of everything the validators and the
books hold, it changes the swept modifiers. -/
theorem iterate_frame (r : Round) (s : State) :
    (r.iterate s).clock = s.clock
      ∧ (r.iterate s).wf.control = sweptControl s.wf.control s.clock
      ∧ (r.iterate s).wf.books = s.wf.books
      ∧ (r.iterate s).startedUnixMs = s.startedUnixMs := by
  have hsame := sameRound_schedule (r := r) s.sweep (effectiveDeadline s)
  have hit := iterated_iterate r s
  revert hit
  generalize r.iterate s = s'
  intro hit
  cases hit with
  | deadline _ => exact ⟨rfl, rfl, rfl, rfl⟩
  | exhausted _ _ _ => exact ⟨hsame.clock, hsame.control, hsame.books, hsame.startedUnixMs⟩
  | sleeping _ _ _ _ => exact ⟨hsame.clock, hsame.control, hsame.books, hsame.startedUnixMs⟩
  | selecting _ _ _ => exact ⟨hsame.clock, hsame.control, hsame.books, hsame.startedUnixMs⟩

/-! ## The other pieces of `run` -/

@[simp] theorem complete_clock (s : State) (index : Nat) (outstanding : Outstanding)
    (result : Except String BadgeAnswer) :
    (s.complete index outstanding result).clock = s.clock := by
  cases result <;> rfl

@[simp] theorem complete_control (s : State) (index : Nat) (outstanding : Outstanding)
    (result : Except String BadgeAnswer) :
    (s.complete index outstanding result).wf.control = s.wf.control := by
  cases result with
  | error error => rfl
  | ok answer => exact GameWorkflow.control_recordAnswer s.wf s.clock outstanding.question answer

theorem phase_complete (s : State) (index : Nat) (outstanding : Outstanding)
    (result : Except String BadgeAnswer) :
    (s.complete index outstanding result).phase = .loopHead
      ∨ (s.complete index outstanding result).phase = .closing .suddenDeath := by
  cases result with
  | error error => exact .inl rfl
  | ok answer =>
      simp only [State.complete]
      split
      · exact .inr rfl
      · exact .inl rfl

theorem locals_complete (s : State) (index : Nat) (outstanding : Outstanding)
    (result : Except String BadgeAnswer) :
    (s.complete index outstanding result).pending = s.pending.eraseIdx index
      ∧ (s.complete index outstanding result).pendingActivities = s.pendingActivities - 1
      ∧ (s.complete index outstanding result).deck = s.deck
      ∧ (s.complete index outstanding result).commands = s.commands
      ∧ (s.complete index outstanding result).startedUnixMs = s.startedUnixMs := by
  cases result <;> exact ⟨rfl, rfl, rfl, rfl, rfl⟩

@[simp] theorem close_clock (s : State) (exit : Exit) (memoError : Option String) :
    (r.close s exit memoError).clock = s.clock := rfl

/-- Closing changes the status and nothing else the round is run by. -/
theorem close_control (s : State) (exit : Exit) (memoError : Option String) :
    (r.close s exit memoError).wf.control = { s.wf.control with status := .finished } := by
  cases memoError <;> rfl

theorem close_books (s : State) (exit : Exit) (memoError : Option String) :
    (r.close s exit memoError).wf.books = s.wf.books := by
  cases memoError <;> rfl

/-- The control view a round starts with. -/
def openingControl (r : Round) (s : State) : GameWorkflow.Control :=
  { gameId := some r.input.gameId
    status := .running
    deadlineUnixMs := some (s.clock + r.input.durationSeconds * 1000)
    detectedBadgeCount := r.input.detectedBadgeCount.getD 0 % 2 ^ 32
    chaos := {}
    lastChaosSweepUnixMs := s.wf.lastChaosSweepUnixMs }

theorem start_control (s : State) : (r.start s).wf.control = openingControl r s := by
  unfold start GameWorkflow.control openingSnapshot openingControl
  cases r.input.detectedBadgeCount <;> rfl

theorem start_books (s : State) :
    (r.start s).wf.books = { players := ∅, completedQuestions := 0 } := by
  unfold start GameWorkflow.books openingSnapshot
  cases r.input.detectedBadgeCount <;> rfl

/-! ## How the phase moves -/

/-- Where an event takes `run`. -/
inductive PhaseMove (s s' : State) : Prop
  | waits (hwait : s.phase.waiting = true) (hphase : s'.phase = s.phase)
  | loops (hphase : s'.phase = .loopHead)
  | awaits {dueUnixMs : Nat} (hphase : s'.phase = .sleeping dueUnixMs
      ∨ s'.phase = .selecting dueUnixMs)
  | leaves {exit : Exit} (hphase : s'.phase = .closing exit)
  | returns {exit : Exit} {result : GameSnapshot} (hbefore : s.phase = .closing exit)
      (hphase : s'.phase = .returned exit result)

theorem phaseMove_of_transition {s s' : State} {e : Event} (h : Transition r s e s') :
    PhaseMove s s' := by
  cases h with
  | advance hwait _ => exact .waits hwait rfl
  | badgeStarted hwait => exact .waits hwait rfl
  | panicEvent hwait => exact .waits hwait rfl
  | recovered hwait => exact .waits hwait rfl
  | applyChaos hwait _ => exact .waits hwait rfl
  | endRound hwait _ => exact .waits hwait rfl
  | start _ => exact .loops rfl
  | iterate _ =>
      have hit := iterated_iterate r s
      revert hit
      generalize r.iterate s = s'
      intro hit
      cases hit with
      | deadline _ => exact .leaves rfl
      | exhausted _ _ _ => exact .leaves rfl
      | sleeping _ _ _ _ => exact .awaits (.inl rfl)
      | selecting _ _ _ => exact .awaits (.inr rfl)
  | tick _ _ => exact .loops rfl
  | completed _ _ =>
      rcases phase_complete s _ _ _ with hphase | hphase
      · exact .loops hphase
      · exact .leaves hphase
  | drained _ _ => exact .leaves rfl
  | close hphase => exact .returns hphase rfl

/-- A round that has started stays started. -/
theorem started_step {s s' : State} {e : Event} (h : s.phase ≠ .unstarted)
    (hstep : r.step s e = some s') : s'.phase ≠ .unstarted := by
  intro hc
  cases phaseMove_of_transition (transition_of_step hstep) with
  | waits _ hphase => exact h (hphase.symm.trans hc)
  | loops hphase => simp [hc] at hphase
  | awaits hphase => simp [hc] at hphase
  | leaves hphase => simp [hc] at hphase
  | returns _ hphase => simp [hc] at hphase

/-- Only `close` returns, and it returns what the loop was left with. -/
theorem closing_of_returned {s s' : State} {e : Event} {exit : Exit} {result : GameSnapshot}
    (hstep : r.step s e = some s') (h : s'.phase = .returned exit result) :
    s.phase = .closing exit := by
  cases phaseMove_of_transition (transition_of_step hstep) with
  | waits hwait hphase => simp [← hphase, h, Phase.waiting] at hwait
  | loops hphase => simp [h] at hphase
  | awaits hphase => simp [h] at hphase
  | leaves hphase => simp [h] at hphase
  | returns hbefore hphase =>
      rw [h] at hphase
      cases hphase
      exact hbefore

/-! ## Who schedules -/

/-- Two states whose Workflows scheduled the same Activities. -/
structure SameSchedule (s s' : State) : Prop where
  questions : s'.scheduledQuestions = s.scheduledQuestions
  ids : s'.scheduledIds = s.scheduledIds

theorem SameSchedule.of_commands {s s' : State} (commands : List Command)
    (h : s'.commands = s.commands ++ commands)
    (hnone : ∀ command ∈ commands,
      command.scheduledQuestion = none ∧ command.activityId = none) :
    SameSchedule s s' := by
  constructor
  · rw [State.scheduledQuestions, h, List.filterMap_append,
      List.filterMap_eq_nil_iff.mpr fun c hc => (hnone c hc).1, List.append_nil]
    rfl
  · rw [State.scheduledIds, h, List.filterMap_append,
      List.filterMap_eq_nil_iff.mpr fun c hc => (hnone c hc).2, List.append_nil]
    rfl

theorem SameSchedule.of_eq {s s' : State} (h : s'.commands = s.commands) : SameSchedule s s' :=
  .of_commands [] (by rw [h, List.append_nil]) (by simp)

theorem sameSchedule_start (s : State) : SameSchedule s (r.start s) := by
  refine .of_commands (if r.input.indexSearchAttributes then
    [.upsertSearchAttributes runningSearchAttributes] else []) rfl ?_
  split <;> simp [Command.scheduledQuestion, Command.activityId]

theorem sameSchedule_close (s : State) (exit : Exit) (memoError : Option String) :
    SameSchedule s (r.close s exit memoError) := by
  refine .of_commands _ (List.append_assoc _ _ _) ?_
  intro command hmem
  rcases List.mem_append.mp hmem with hmem | hmem
  · split at hmem <;> simp_all [Command.scheduledQuestion, Command.activityId]
  · split at hmem <;> simp_all [Command.scheduledQuestion, Command.activityId]

/-- **Only an iteration schedules**, and only one that finds the deadline
ahead. -/
theorem sameSchedule_of_transition {s s' : State} {e : Event} (h : Transition r s e s')
    (hiter : e = .iterate → effectiveDeadline s ≤ s.clock) : SameSchedule s s' := by
  cases h with
  | advance _ _ => exact .of_eq rfl
  | badgeStarted _ => exact .of_commands _ rfl (GameWorkflow.badgeStarted_schedules_nothing _ _)
  | panicEvent _ => exact .of_eq rfl
  | recovered _ => exact .of_eq rfl
  | applyChaos _ _ => exact .of_eq rfl
  | endRound _ _ => exact .of_eq rfl
  | start _ => exact sameSchedule_start s
  | iterate _ =>
      have hdue := hiter rfl
      have hit := iterated_iterate r s
      revert hit
      generalize r.iterate s = s'
      intro hit
      cases hit with
      | deadline _ => exact .of_eq rfl
      | exhausted hlt _ _ => exact absurd hlt (Nat.not_lt.mpr hdue)
      | sleeping hlt _ _ _ => exact absurd hlt (Nat.not_lt.mpr hdue)
      | selecting hlt _ _ => exact absurd hlt (Nat.not_lt.mpr hdue)
  | tick _ _ => exact .of_eq rfl
  | completed _ _ => exact .of_eq (locals_complete s _ _ _).2.2.2.1
  | drained _ _ => exact .of_eq rfl
  | close _ => exact sameSchedule_close s _ _

/-! ## How the control view moves -/

/-- The events that move the control view, and how; the clock only goes
forward. -/
inductive ControlMove (r : Round) (s : State) (e : Event) (s' : State) : Prop
  | kept (hclock : s.clock ≤ s'.clock) (hcontrol : s'.wf.control = s.wf.control)
  | chaos {command : ChaosCommand} (he : e = .applyChaos command)
      (hvalid : s.wf.validateApplyChaos command = .ok ()) (hclock : s'.clock = s.clock)
      (hcontrol : s'.wf.control = (s.wf.applyChaos s.clock command).control)
  | ended (he : e = .endRound) (hrun : s.wf.snapshot.status = .running)
      (hclock : s'.clock = s.clock)
      (hcontrol : s'.wf.control = { s.wf.control with deadlineUnixMs := some s.clock })
  | started (he : e = .start) (hphase : s.phase = .unstarted) (hclock : s'.clock = s.clock)
      (hcontrol : s'.wf.control = openingControl r s)
  | swept (he : e = .iterate) (hclock : s'.clock = s.clock)
      (hcontrol : s'.wf.control = sweptControl s.wf.control s.clock)
  | closed {exit : Exit} (hphase : s.phase = .closing exit) (hclock : s'.clock = s.clock)
      (hcontrol : s'.wf.control = { s.wf.control with status := .finished })

theorem controlMove_of_transition {s s' : State} {e : Event} (h : Transition r s e s') :
    ControlMove r s e s' := by
  cases h with
  | advance _ hle => exact .kept hle rfl
  | badgeStarted _ => exact .kept (Nat.le_refl _) (GameWorkflow.control_badgeStarted s.wf _)
  | panicEvent _ => exact .kept (Nat.le_refl _) rfl
  | recovered _ => exact .kept (Nat.le_refl _) rfl
  | applyChaos _ hvalid => exact .chaos rfl hvalid rfl rfl
  | endRound _ hrun => exact .ended rfl hrun rfl rfl
  | start hphase => exact .started rfl hphase rfl (start_control s)
  | iterate _ =>
      have hframe := iterate_frame r s
      exact .swept rfl hframe.1 hframe.2.1
  | tick _ _ => exact .kept (Nat.le_refl _) rfl
  | completed _ _ =>
      exact .kept (Nat.le_of_eq (complete_clock s _ _ _).symm) (complete_control s _ _ _)
  | drained _ _ => exact .kept (Nat.le_refl _) rfl
  | close hphase => exact .closed hphase rfl (close_control s _ _)

end Round

end DurableTrivia.Web
