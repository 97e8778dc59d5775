import DurableTrivia.Web.ScoreLedger

/-!
# Scheduling — the accounts of the run loop

`run` keeps `pending_activities` by hand beside `pending`, and
`scheduled_questions` beside both. A dealt question enters all three; a
completed Activity leaves the first two, and is booked as an answer,
rejected as malformed, or closed with an error. So the counters differ
by what the history says became of the questions.
-/

namespace DurableTrivia.Web

open DurableTrivia.Shared DurableTrivia.Lib

/-! ## What became of a completion -/

/-- A transition that rejects a malformed answer. -/
def rejectsAnswer (t : State × Event) : Bool :=
  match t.2 with
  | .completed index (.ok answer) =>
      (t.1.pending[index]?).any fun outstanding =>
        !GameWorkflow.wellFormed outstanding.question answer
  | _ => false

/-- A transition whose Activity closed with an error. -/
def closesWithError (t : State × Event) : Bool :=
  match t.2 with
  | .completed _ (.error _) => true
  | _ => false

/-- How many answers of a run were refused. -/
def malformedAnswers (round : History) : Nat := round.countP rejectsAnswer

/-- How many Activities of a run failed. -/
def failedActivities (round : History) : Nat := round.countP closesWithError

/-- A transition that completes no Activity. -/
def completesNothing : Event → Bool
  | .completed _ _ => false
  | _ => true

namespace Round

/-- What the counters of the loop say when the transitions since the
start of the round were `round`. -/
structure SchedulingAccounts (r : Round) (round : History) (s : State) : Prop where
  counted : s.pendingActivities = s.pending.length
  constant : activityTarget s.wf.snapshot r.input.backlogOverride r.fullParticipantBacklog
    = r.target
  bounded : s.pendingActivities
    ≤ activityTarget s.wf.snapshot r.input.backlogOverride r.fullParticipantBacklog
  balanced : s.wf.snapshot.scheduledQuestions = s.wf.snapshot.completedQuestions
    + malformedAnswers round + failedActivities round + s.pendingActivities

variable {r : Round}

/-! ## Who moves the counter of scheduled questions -/

theorem scheduled_badgeStarted (wf : GameWorkflow) (event : BadgeEvent) :
    (wf.badgeStarted event).1.snapshot.scheduledQuestions = wf.snapshot.scheduledQuestions := by
  have hattempt : (wf.recordActivityStarted event).1.snapshot.scheduledQuestions
      = wf.snapshot.scheduledQuestions := by
    unfold GameWorkflow.recordActivityStarted GameWorkflow.recordAttempt
    split
    · dsimp only
      split <;> rfl
    · dsimp only
      split <;> rfl
  show ((wf.recordActivityStarted event).1.join event).snapshot.scheduledQuestions = _
  unfold GameWorkflow.join
  split
  · exact hattempt
  · exact hattempt

theorem scheduled_complete (s : State) (index : Nat) (outstanding : Outstanding)
    (result : Except String BadgeAnswer) :
    (s.complete index outstanding result).wf.snapshot.scheduledQuestions
      = s.wf.snapshot.scheduledQuestions := by
  cases result with
  | error error => rfl
  | ok answer =>
      show (s.wf.recordAnswer _ _ _).1.snapshot.scheduledQuestions = _
      unfold GameWorkflow.recordAnswer
      split <;> rfl

theorem scheduled_start (s : State) : (r.start s).wf.snapshot.scheduledQuestions = 0 := by
  unfold start openingSnapshot
  cases r.input.detectedBadgeCount <;> rfl

theorem scheduled_close (s : State) (exit : Exit) (memoError : Option String) :
    (r.close s exit memoError).wf.snapshot.scheduledQuestions
      = s.wf.snapshot.scheduledQuestions := by
  cases memoError <;> rfl

theorem scheduled_scheduleOne (deadlineUnixMs : Nat) (s : State) (question : Question)
    (deck : Deck) :
    (r.scheduleOne deadlineUnixMs s question deck).wf.snapshot.scheduledQuestions
      = s.wf.snapshot.scheduledQuestions + 1 := by
  unfold scheduleOne
  dsimp only
  split <;> rfl

/-- **The inner loop** counts what it adds twice, and adds no more than
it has slots for. -/
theorem scheduleQuestions_counts (deadlineUnixMs : Nat) (rustOnly : Bool) (slots : Nat)
    (s : State) :
    ∃ dealt ≤ slots,
      (r.scheduleQuestions deadlineUnixMs rustOnly slots s).pendingActivities
          = s.pendingActivities + dealt
        ∧ (r.scheduleQuestions deadlineUnixMs rustOnly slots s).wf.snapshot.scheduledQuestions
          = s.wf.snapshot.scheduledQuestions + dealt := by
  induction slots generalizing s with
  | zero => exact ⟨0, Nat.le_refl 0, rfl, rfl⟩
  | succ slots ih =>
      cases hdeal : dealQuestion s.deck r.input.questions rustOnly r.eligibleDeckRefill with
      | mk question deck =>
          cases question with
          | none =>
              rw [scheduleQuestions, hdeal]
              exact ⟨0, Nat.zero_le _, rfl, rfl⟩
          | some question =>
              rw [scheduleQuestions, hdeal]
              dsimp only
              obtain ⟨dealt, hle, hpending, hscheduled⟩ :=
                ih (r.scheduleOne deadlineUnixMs s question deck)
              rw [(scheduleOne_pending deadlineUnixMs s question deck).1] at hpending
              rw [scheduled_scheduleOne] at hscheduled
              exact ⟨dealt + 1, by omega, by omega, by omega⟩

/-- What one iteration adds to the two counters: never more than the
target has room for. -/
theorem iterate_counts {s : State} (hdetected : s.wf.snapshot.detectedBadgeCount = r.badges) :
    ∃ dealt ≤ r.target - s.pendingActivities,
      (r.iterate s).pendingActivities = s.pendingActivities + dealt
        ∧ (r.iterate s).wf.snapshot.scheduledQuestions
          = s.wf.snapshot.scheduledQuestions + dealt := by
  have hcounts : ∃ dealt ≤ r.target - s.pendingActivities,
      (r.scheduled s).pendingActivities = s.pendingActivities + dealt
        ∧ (r.scheduled s).wf.snapshot.scheduledQuestions
          = s.wf.snapshot.scheduledQuestions + dealt := by
    have hswept : s.sweep.wf.snapshot.detectedBadgeCount = r.badges := hdetected
    rw [← activityTarget_eq hswept]
    exact scheduleQuestions_counts _ _ _ s.sweep
  have hit := iterated_iterate r s
  revert hit
  generalize r.iterate s = s'
  intro hit
  cases hit with
  | deadline _ => exact ⟨0, Nat.zero_le _, rfl, rfl⟩
  | exhausted _ _ _ => exact hcounts
  | sleeping _ _ _ _ => exact hcounts
  | selecting _ _ _ => exact hcounts

/-! ## The invariant -/

/-- The part of the accounts that holds in every state. -/
structure Counted (r : Round) (round : History) (s : State) : Prop where
  bounded : s.pendingActivities ≤ r.target
  balanced : s.wf.snapshot.scheduledQuestions = s.wf.snapshot.completedQuestions
    + malformedAnswers round + failedActivities round + s.pendingActivities

/-- A transition that completes nothing and deals nothing. -/
theorem Counted.quiet {round : History} {s s' : State} {e : Event} (h : Counted r round s)
    (he : completesNothing e = true) (hpending : s'.pendingActivities = s.pendingActivities)
    (hscheduled : s'.wf.snapshot.scheduledQuestions = s.wf.snapshot.scheduledQuestions)
    (hbooks : s'.wf.snapshot.completedQuestions = s.wf.snapshot.completedQuestions) :
    Counted r ((s, e) :: round) s' := by
  have hmalformed : rejectsAnswer (s, e) = false := by cases e <;> first | rfl | cases he
  have hfailed : closesWithError (s, e) = false := by cases e <;> first | rfl | cases he
  constructor
  · rw [hpending]
    exact h.bounded
  · rw [hscheduled, hbooks, hpending]
    simpa [malformedAnswers, failedActivities, hmalformed, hfailed] using h.balanced

/-- **A completion leaves by one of three doors.** -/
theorem Counted.complete {round : History} {s : State} {index : Nat} {outstanding : Outstanding}
    {result : Except String BadgeAnswer} (h : Counted r round s)
    (hget : s.pending[index]? = some outstanding)
    (hcounted : s.pendingActivities = s.pending.length) :
    Counted r ((s, .completed index result) :: round) (s.complete index outstanding result) := by
  have hpositive : 0 < s.pendingActivities := by
    have hindex := (List.getElem?_eq_some_iff.mp hget).1
    omega
  have hpending := (locals_complete s index outstanding result).2.1
  have hbounded := h.bounded
  have hbalanced := h.balanced
  constructor
  · rw [hpending]
    omega
  · rw [hpending, scheduled_complete]
    cases result with
    | error error =>
        have hcompleted :
            (s.complete index outstanding (.error error)).wf.snapshot.completedQuestions
            = s.wf.snapshot.completedQuestions := rfl
        simp only [malformedAnswers, failedActivities, List.countP_cons, rejectsAnswer,
          closesWithError, hcompleted, if_true, Bool.false_eq_true, if_false] at hbalanced ⊢
        omega
    | ok answer =>
        cases hwell : GameWorkflow.wellFormed outstanding.question answer with
        | true =>
            have hcompleted :
                (s.complete index outstanding (.ok answer)).wf.snapshot.completedQuestions
                  = s.wf.snapshot.completedQuestions + 1 :=
              congrArg GameWorkflow.Books.completedQuestions
                (GameWorkflow.books_recordAnswer s.wf s.clock outstanding.question answer hwell)
            simp only [malformedAnswers, failedActivities, List.countP_cons, rejectsAnswer,
              closesWithError, hcompleted, hget, Option.any_some, hwell, Bool.not_true,
              Bool.false_eq_true, if_false] at hbalanced ⊢
            omega
        | false =>
            have hcompleted :
                (s.complete index outstanding (.ok answer)).wf.snapshot.completedQuestions
                  = s.wf.snapshot.completedQuestions :=
              congrArg GameWorkflow.Books.completedQuestions
                (GameWorkflow.books_recordAnswer_malformed s.wf s.clock outstanding.question
                  answer hwell)
            simp only [malformedAnswers, failedActivities, List.countP_cons, rejectsAnswer,
              closesWithError, hcompleted, hget, Option.any_some, hwell, Bool.not_false,
              if_true, Bool.false_eq_true, if_false] at hbalanced ⊢
            omega

/-- The books count the same answers before and after. -/
theorem completed_of_books {wf wf' : GameWorkflow} (h : wf'.books = wf.books) :
    wf'.snapshot.completedQuestions = wf.snapshot.completedQuestions :=
  congrArg GameWorkflow.Books.completedQuestions h

/-- **The step lemma.** -/
theorem counted_step {round : History} {s s' : State} {e : Event} (hinv : LoopInvariant r s)
    (he : isStart e = false) (h : Counted r round s) (hstep : r.step s e = some s') :
    Counted r ((s, e) :: round) s' := by
  cases transition_of_step hstep with
  | start _ => cases he
  | @badgeStarted event _ =>
      have hbooks := GameWorkflow.books_badgeStarted s.wf event
      exact h.quiet rfl rfl (scheduled_badgeStarted s.wf event)
        (congrArg GameWorkflow.Books.completedQuestions hbooks)
  | iterate hphase =>
      have hrun : s.phase.status ≠ .waiting := by simp [hphase, Phase.status]
      obtain ⟨dealt, hle, hpending, hscheduled⟩ := iterate_counts (hinv.detected hrun)
      have hbounded := h.bounded
      have hbalanced := h.balanced
      constructor
      · rw [hpending]
        omega
      · rw [hscheduled, hpending, completed_of_books (iterate_frame r s).2.2.1]
        simp only [malformedAnswers, failedActivities, List.countP_cons, rejectsAnswer,
          closesWithError, Bool.false_eq_true, if_false] at hbalanced ⊢
        omega
  | completed hphase hget =>
      have hlive : s.phase.status ≠ .finished := by simp [hphase, Phase.status]
      exact h.complete hget (hinv.counted hlive)
  | close _ =>
      exact h.quiet rfl rfl (scheduled_close s _ _) (completed_of_books (close_books s _ _))
  | _ => exact h.quiet rfl rfl rfl rfl

/-- **The run lemma.** -/
theorem counted_run {hist : History} {s : State} (hrun : r.system.Run hist s) :
    Counted r (sinceStart hist) s := by
  refine sinceStart_invariant hrun (fun clock => ⟨Nat.zero_le _, rfl⟩) ?_ ?_
  · intro s
    refine ⟨Nat.zero_le _, ?_⟩
    rw [scheduled_start, show (r.start s).wf.snapshot.completedQuestions = 0 from
      congrArg GameWorkflow.Books.completedQuestions (start_books s)]
    rfl
  · intro round s e s' hreach he h hstep
    exact counted_step (loopInvariant_reachable hreach) he h hstep

/-- **The scheduling accounts balance at every loop head.** -/
theorem scheduling_accounts_balance {hist : History} {s : State}
    (hrun : r.system.Run hist s) (hhead : s.phase = .loopHead) :
    SchedulingAccounts r (sinceStart hist) s := by
  have hinv := loopInvariant_reachable hrun.reachable
  have hcounted := counted_run hrun
  have hstarted : s.phase.status ≠ .waiting := by simp [hhead, Phase.status]
  have hlive : s.phase.status ≠ .finished := by simp [hhead, Phase.status]
  have htarget := activityTarget_eq (hinv.detected hstarted)
  exact
    { counted := hinv.counted hlive
      constant := htarget
      bounded := htarget.symm ▸ hcounted.bounded
      balanced := hcounted.balanced }

/-- A round of three questions: one answered, one with an index it has
not, one that closed with an error. -/
theorem scheduling_accounts_balance_busy :
    ∃ hist s, busyRound.system.Run hist s ∧ s.phase = .loopHead
      ∧ malformedAnswers (sinceStart hist) = 1 ∧ failedActivities (sinceStart hist) = 1
      ∧ SchedulingAccounts busyRound (sinceStart hist) s := by
  obtain ⟨hist, s, hrun, htest⟩ := StepSystem.exists_run_of_exec
    (S := busyRound.system) { clock := 0 }
    [.start, .iterate, .completed 0 (.ok demoAnswer), .iterate,
      .completed 0 (.ok { demoAnswer with selectedIndex := 9 }), .iterate,
      .completed 0 (.error "canceled")]
    (fun result => !result.2.phase.waiting && !result.2.phase.shut
      && malformedAnswers (sinceStart result.1) == 1
      && failedActivities (sinceStart result.1) == 1)
    ⟨0, rfl⟩ (by decide +kernel)
  simp only [Bool.and_eq_true, beq_iff_eq, Bool.not_eq_true'] at htest
  obtain ⟨⟨⟨hbusy, hopen⟩, hmalformed⟩, hfailed⟩ := htest
  have hhead : s.phase = .loopHead := by
    revert hbusy hopen
    cases s.phase <;> simp [Phase.waiting, Phase.shut]
  exact ⟨hist, s, hrun, hhead, hmalformed, hfailed, scheduling_accounts_balance hrun hhead⟩

end Round

end DurableTrivia.Web
