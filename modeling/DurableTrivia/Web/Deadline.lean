import DurableTrivia.Web.Scheduling

/-!
# Deadline — what an answer is worth when the time is up

The loop tests the deadline at its head. A completion is handled behind
the `select`, after a wait in which the clock went on and the deadline
may have been brought forward, and `record_answer` does not look at it
again. So an answer delivered then still counts. It cannot come to that
while the loop's timer is not due and no `end_round` was accepted since
the last iteration: the timer was set to end by the deadline, and an
extension only moves the deadline away from it.
-/

namespace DurableTrivia.Web

open DurableTrivia.Shared DurableTrivia.Lib

/-! ## Being late -/

/-- The workflow time is at or past the current deadline. -/
def pastDeadline (s : State) : Bool :=
  s.wf.snapshot.deadlineUnixMs.any fun deadlineUnixMs => decide (deadlineUnixMs ≤ s.clock)

/-- A player's score, correct and wrong answers. -/
def standing (snapshot : GameSnapshot) (badgeId : String) : Int × Nat × Nat :=
  ((snapshot.players[badgeId]?).map fun player =>
    (player.score, player.correct, player.wrong)).getD (0, 0, 0)

/-- Nobody's standing moved, and no question was completed. -/
structure Worthless (before after : GameSnapshot) : Prop where
  standings : ∀ badgeId, standing after badgeId = standing before badgeId
  completed : after.completedQuestions = before.completedQuestions

/-- Every completion processed at or past the deadline was worth nothing. -/
def DeadlineWorthZero (r : Round) (hist : History) : Prop :=
  ∀ t ∈ hist, completesNothing t.2 = false → pastDeadline t.1 = true →
    ∀ s', r.step t.1 t.2 = some s' → Worthless t.1.wf.snapshot s'.wf.snapshot

/-- Every well-formed answer came before the deadline. -/
def AnswersInTime (hist : History) : Prop :=
  ∀ t ∈ hist, (recordedAnswer t).isSome = true → pastDeadline t.1 = false

/-- `end_round` was accepted since the loop's last iteration. -/
def endedSinceIteration : History → Bool
  | [] => false
  | t :: earlier =>
      match t.2 with
      | .iterate => false
      | .endRound => true
      | _ => endedSinceIteration earlier

/-- The timer the loop waits for is still ahead. -/
def timerAhead (s : State) : Bool := s.phase.due.any fun dueUnixMs => decide (s.clock < dueUnixMs)

/-- Completions are delivered while the timer is ahead and no `end_round`
waits for the loop. -/
def promptlyDelivered : History → Bool
  | [] => true
  | t :: earlier =>
      (completesNothing t.2 || (timerAhead t.1 && !endedSinceIteration earlier))
        && promptlyDelivered earlier

namespace Round
variable {r : Round}

/-! ## One completion -/

/-- **A completion is worth nothing exactly when it brings no well-formed
answer.** -/
theorem worthless_iff {s s' : State} {e : Event} (he : completesNothing e = false)
    (hstep : r.step s e = some s') :
    Worthless s.wf.snapshot s'.wf.snapshot ↔ (recordedAnswer (s, e)).isSome = false := by
  have hstart : isStart e = false := by
    cases e <;> first | rfl | cases he
  have hmove := booksMove_of_step hstart hstep
  generalize hbooks : s'.wf.books = books at hmove
  cases hmove with
  | kept _ _ hanswer =>
      have hplayers : s'.wf.snapshot.players = s.wf.snapshot.players :=
        congrArg GameWorkflow.Books.players hbooks
      rw [hanswer]
      refine ⟨fun _ => rfl, fun _ => ⟨fun badgeId => ?_, completed_of_books hbooks⟩⟩
      unfold standing
      rw [hplayers]
  | joined event => cases he
  | panicked event => cases he
  | answered hanswer =>
      have hmore : s'.wf.snapshot.completedQuestions = s.wf.snapshot.completedQuestions + 1 :=
        congrArg GameWorkflow.Books.completedQuestions hbooks
      rw [hanswer]
      constructor
      · intro h
        have hsame := h.completed
        omega
      · intro hnone
        cases hnone

/-! ## The timer -/

/-- The timer ends by the deadline. -/
def TimerByDeadline (s : State) : Prop :=
  ∀ dueUnixMs, s.phase.due = some dueUnixMs →
    ∃ deadlineUnixMs, s.wf.snapshot.deadlineUnixMs = some deadlineUnixMs
      ∧ dueUnixMs ≤ deadlineUnixMs

theorem TimerByDeadline.keep {s s' : State} (h : TimerByDeadline s)
    (hphase : s'.phase.due = s.phase.due)
    (hdeadline : s'.wf.snapshot.deadlineUnixMs = s.wf.snapshot.deadlineUnixMs) :
    TimerByDeadline s' := by
  intro dueUnixMs hdue
  rw [hphase] at hdue
  rw [hdeadline]
  exact h dueUnixMs hdue

/-- Where nothing is awaited there is no timer. -/
theorem TimerByDeadline.none {s : State} (h : s.phase.due = none) : TimerByDeadline s := by
  intro dueUnixMs hdue
  rw [h] at hdue
  cases hdue

/-- **An iteration sets its timer to end by the deadline.** -/
theorem timerByDeadline_iterate {s : State} (hinv : LoopInvariant r s)
    (hphase : s.phase = .loopHead) : TimerByDeadline (r.iterate s) := by
  have hrun : s.phase.status ≠ .waiting := by simp [hphase, Phase.status]
  obtain ⟨deadlineUnixMs, hdeadline⟩ := Option.isSome_iff_exists.mp (hinv.deadline hrun)
  have heffective : effectiveDeadline s = deadlineUnixMs := by
    unfold effectiveDeadline
    rw [hdeadline]
    rfl
  have hkept : (r.iterate s).wf.snapshot.deadlineUnixMs = some deadlineUnixMs := by
    have hcontrol := congrArg GameWorkflow.Control.deadlineUnixMs (iterate_frame r s).2.1
    exact hcontrol.trans hdeadline
  intro dueUnixMs hdue
  refine ⟨deadlineUnixMs, hkept, ?_⟩
  have hit := iterated_iterate r s
  revert hit hdue
  generalize r.iterate s = s'
  intro hdue hit
  cases hit with
  | deadline _ => cases hdue
  | exhausted _ _ _ => cases hdue
  | sleeping hlt _ _ hsoon =>
      cases hdue
      omega
  | selecting hlt _ hsoon =>
      cases hdue
      omega

/-- What the timer is worth to the history so far. -/
def TimerAgrees (hist : History) (s : State) : Prop :=
  endedSinceIteration hist = false → TimerByDeadline s

/-- **The step lemma.** -/
theorem timerAgrees_step {hist : History} {s s' : State} {e : Event} (hinv : LoopInvariant r s)
    (h : TimerAgrees hist s) (hstep : r.step s e = some s') : TimerAgrees ((s, e) :: hist) s' := by
  intro hended
  cases transition_of_step hstep with
  | advance _ _ => exact (h hended).keep rfl rfl
  | badgeStarted _ =>
      exact (h hended).keep rfl (congrArg GameWorkflow.Control.deadlineUnixMs
        (GameWorkflow.control_badgeStarted s.wf _))
  | panicEvent _ => exact (h hended).keep rfl rfl
  | recovered _ => exact (h hended).keep rfl rfl
  | @applyChaos command _ _ =>
      cases command with
      | extendThirtySeconds =>
          intro dueUnixMs hdue
          obtain ⟨deadlineUnixMs, hdeadline, hle⟩ := h hended dueUnixMs hdue
          refine ⟨deadlineUnixMs + gameExtensionMs, ?_, Nat.le_add_right_of_le hle⟩
          rw [GameWorkflow.applyChaos_deadline, hdeadline]
          rfl
      | _ => exact (h hended).keep rfl rfl
  | endRound _ _ => cases hended
  | start _ => exact .none rfl
  | iterate hphase => exact timerByDeadline_iterate hinv hphase
  | tick _ _ => exact .none rfl
  | completed _ _ =>
      rcases phase_complete s _ _ _ with hphase | hphase
      · exact .none (by rw [hphase]; rfl)
      · exact .none (by rw [hphase]; rfl)
  | drained _ _ => exact .none rfl
  | close _ => exact .none rfl

theorem timerAgrees_run {hist : History} {s : State} (hrun : r.system.Run hist s) :
    LoopInvariant r s ∧ TimerAgrees hist s := by
  refine hrun.invariant (I := fun hist s => LoopInvariant r s ∧ TimerAgrees hist s) ?_ ?_
  · intro s₀ hinit
    refine ⟨loopInvariant_reachable ⟨_, StepSystem.Run.nil hinit⟩, fun _ => ?_⟩
    rcases hinit with ⟨clock, rfl⟩
    exact .none rfl
  · intro hist s e s' h hstep
    exact ⟨loopInvariant_step h.1 hstep, timerAgrees_step h.1 h.2 hstep⟩

/-- **Promptly delivered answers are in time.** -/
theorem answersInTime_of_promptlyDelivered {hist : History} {s : State}
    (hrun : r.system.Run hist s) (hprompt : promptlyDelivered hist = true) :
    AnswersInTime hist := by
  obtain ⟨s₀, hinit, hpath⟩ := hrun
  induction hpath with
  | nil => exact fun t ht => absurd ht List.not_mem_nil
  | @snoc earlier s₁ s₂ e hpath hstep ih =>
      simp only [promptlyDelivered, Bool.and_eq_true, Bool.or_eq_true, Bool.not_eq_true']
        at hprompt
      intro t ht hanswer
      rcases List.mem_cons.mp ht with rfl | ht
      · have hcompletes : completesNothing e = false := by
          cases e <;> first | rfl | cases hanswer
        obtain ⟨hahead, hended⟩ := hprompt.1.resolve_left (by simp [hcompletes])
        have htimer := (timerAgrees_run ⟨s₀, hinit, hpath⟩).2 hended
        unfold timerAhead at hahead
        cases hdue : s₁.phase.due with
        | none =>
            rw [hdue] at hahead
            cases hahead
        | some dueUnixMs =>
            have hlt : s₁.clock < dueUnixMs := by simpa [hdue] using hahead
            obtain ⟨deadlineUnixMs, hdeadline, hle⟩ := htimer dueUnixMs hdue
            unfold pastDeadline
            rw [hdeadline]
            simp only [Option.any_some, decide_eq_false_iff_not]
            omega
      · exact ih hprompt.2 t ht hanswer

/-! ## When the deadline is worth zero points -/

/-- **Completions at or past the deadline are worth nothing exactly in
the runs whose well-formed answers all come before it**, and so in every
run that delivers its completions promptly. -/
theorem deadline_worth_zero_iff {hist : History} {s : State} (hrun : r.system.Run hist s) :
    (DeadlineWorthZero r hist ↔ AnswersInTime hist)
      ∧ (promptlyDelivered hist = true → DeadlineWorthZero r hist) := by
  have hiff : DeadlineWorthZero r hist ↔ AnswersInTime hist := by
    constructor
    · intro hworth t ht hanswer
      have hcompletes : completesNothing t.2 = false := by
        obtain ⟨s₁, e⟩ := t
        cases e <;> first | rfl | cases hanswer
      obtain ⟨later, earlier, rfl⟩ := List.append_of_mem ht
      obtain ⟨s₀, hinit, hpath⟩ := hrun
      obtain ⟨_, s', hstep, _⟩ := StepSystem.Path.split (s := t.1) (e := t.2) hpath
      by_contra hpast
      rw [Bool.not_eq_false] at hpast
      have hzero := hworth t ht hcompletes hpast s' hstep
      rw [worthless_iff hcompletes hstep, hanswer] at hzero
      cases hzero
    · intro htime t ht hcompletes hpast s' hstep
      rw [worthless_iff hcompletes hstep]
      by_contra hanswer
      rw [Bool.not_eq_false] at hanswer
      rw [htime t ht hanswer] at hpast
      cases hpast
  exact ⟨hiff, fun hprompt => hiff.mpr (answersInTime_of_promptlyDelivered hrun hprompt)⟩

/-- A round answered before its timer, ended, and closed at the tick. -/
theorem deadline_worth_zero_iff_busy :
    ∃ hist s, busyRound.system.Run hist s ∧ (recordedAnswers hist).length = 1
      ∧ DeadlineWorthZero busyRound hist := by
  obtain ⟨hist, s, hrun, htest⟩ := StepSystem.exists_run_of_exec
    (S := busyRound.system) { clock := 0 }
    [.start, .iterate, .advance 900, .completed 0 (.ok demoAnswer), .iterate, .endRound,
      .advance 1900, .tick, .iterate, .close none]
    (fun result => (recordedAnswers result.1).length == 1 && promptlyDelivered result.1)
    ⟨0, rfl⟩ (by decide +kernel)
  simp only [Bool.and_eq_true, beq_iff_eq] at htest
  exact ⟨hist, s, hrun, htest.1, (deadline_worth_zero_iff hrun).2 htest.2⟩

/-- **An answer after the deadline counts**: `end_round` is accepted at
500 ms, the deadline with it, and the answer that completes in the same
millisecond is booked. -/
theorem answer_past_deadline_counts :
    ∃ earlier s later sN,
      busyRound.system.Run (later ++ (s, .completed 0 (.ok demoAnswer)) :: earlier) sN
      ∧ pastDeadline s = true ∧ standing s.wf.snapshot "badge-a" = (0, 0, 0)
      ∧ standing sN.wf.snapshot "badge-a" = (1, 1, 0) ∧ sN.wf.snapshot.completedQuestions = 1
      ∧ ¬ DeadlineWorthZero busyRound (later ++ (s, .completed 0 (.ok demoAnswer)) :: earlier) := by
  obtain ⟨earlier, s, later, sN, hrun, htest⟩ := StepSystem.exists_run_around
    (S := busyRound.system) { clock := 0 }
    [.start, .iterate, .advance 500, .endRound] (.completed 0 (.ok demoAnswer)) []
    (fun run => pastDeadline run.1.2 && standing run.1.2.wf.snapshot "badge-a" == (0, 0, 0)
      && standing run.2.2.wf.snapshot "badge-a" == (1, 1, 0)
      && run.2.2.wf.snapshot.completedQuestions == 1
      && (recordedAnswer (run.1.2, .completed 0 (.ok demoAnswer))).isSome)
    ⟨0, rfl⟩ (by decide +kernel)
  simp only [Bool.and_eq_true, beq_iff_eq] at htest
  obtain ⟨⟨⟨⟨hpast, hbefore⟩, hafter⟩, hcompleted⟩, hanswer⟩ := htest
  refine ⟨earlier, s, later, sN, hrun, hpast, hbefore, hafter, hcompleted, fun hworth => ?_⟩
  obtain ⟨s₀, hinit, hpath⟩ := hrun
  obtain ⟨_, s', hstep, _⟩ := hpath.split
  have hstep : busyRound.step s (.completed 0 (.ok demoAnswer)) = some s' := hstep
  have hzero := hworth (s, .completed 0 (.ok demoAnswer)) (by simp) rfl hpast s' hstep
  rw [worthless_iff rfl hstep, hanswer] at hzero
  cases hzero

end Round

end DurableTrivia.Web
