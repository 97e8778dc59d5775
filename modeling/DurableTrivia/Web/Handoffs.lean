import DurableTrivia.Web.Attempts

/-!
# Handoffs — who had a question and who has it now

A question is handed over when an attempt of it starts on another badge.
`record_activity_started` recognises that by the attempt numbers
(`is_reassignment`), but it stores every start signal, whatever its
attempt. So the assignments are right as long as the signals of each
question come in the order of their attempts: a late one takes the
question back to a badge that lost it, and the next handoff is counted
and attributed from there.
-/

namespace DurableTrivia.Web

open DurableTrivia.Shared DurableTrivia.Lib

/-! ## What the Workflow records -/

/-- The reassignment a transition records. -/
def recordedReassignment (t : State × Event) : Option Reassignment :=
  match t.2 with
  | .badgeStarted event =>
      if (t.1.wf.recordActivityStarted event).2 then
        (t.1.wf.recordActivityStarted event).1.snapshot.latestReassignment
      else none
  | _ => none

/-- The reassignments of a run, the latest first. -/
def recordedReassignments (round : History) : List Reassignment :=
  round.filterMap recordedReassignment

/-- A reassignment without its reason: question, attempt, from whom, to
whom. -/
def attribution (reassignment : Reassignment) : String × Nat × String × String :=
  (reassignment.questionId, reassignment.attempt, reassignment.fromCallsign,
    reassignment.toCallsign)

/-- The attribution of a handoff between two start signals. -/
def attributionOf (pair : BadgeEvent × BadgeEvent) : String × Nat × String × String :=
  (pair.2.questionId, pair.2.attempt, pair.1.callsign, pair.2.callsign)

/-! ## Consecutive attempts -/

/-- Each attempt of a question is one badge's. -/
abbrev OneBadge (events : List BadgeEvent) : Prop :=
  Versions.OneHolder BadgeEvent.questionId BadgeEvent.attempt BadgeEvent.badgeId events

/-- The start signals of each question came in the order of their
attempts. -/
abbrev AttemptsInOrder (events : List BadgeEvent) : Prop :=
  Versions.InOrder BadgeEvent.questionId BadgeEvent.attempt events

/-- Consecutive reported attempts of a question, by different badges. -/
abbrev ChangedHands (events : List BadgeEvent) (first second : BadgeEvent) : Prop :=
  Versions.Neighbours BadgeEvent.questionId BadgeEvent.attempt BadgeEvent.badgeId events
    first second

/-- The questions that changed hands, each with its two attempts. -/
abbrev changes (events : List BadgeEvent) : Finset (String × Nat × Nat) :=
  Versions.neighbourLabels BadgeEvent.questionId BadgeEvent.attempt BadgeEvent.badgeId events

/-- Every question is assigned to a badge of its greatest attempt so far. -/
structure AssignedGreatest (round : History) (s : State) : Prop where
  known : ∀ event ∈ startedEvents round, event.questionId ∈ s.wf.assignments
  greatest : ∀ questionId event, s.wf.assignments[questionId]? = some event →
    event.questionId = questionId
      ∧ Versions.Greatest BadgeEvent.questionId BadgeEvent.attempt (startedEvents round) event

/-- The handoffs of a round are right: the assignments were at every
point, and each change of hands was recorded once and as what it was. -/
structure HandoffsRight (round : History) (s : State) : Prop where
  assigned : StepSystem.Throughout AssignedGreatest round s
  counted : s.wf.snapshot.reassignments = (changes (startedEvents round)).card
  once : ∀ first second, ChangedHands (startedEvents round) first second →
    (recordedReassignments round).countP (fun reassignment =>
      reassignment.questionId = second.questionId ∧ reassignment.attempt = second.attempt) = 1
  attributed : ∀ reassignment ∈ recordedReassignments round, ∃ first second,
    ChangedHands (startedEvents round) first second
      ∧ attribution reassignment = attributionOf (first, second)

namespace Round
variable {r : Round}

/-! ## Assignments -/

/-- What is assigned is greatest where the registers are current. -/
theorem assignedGreatest_iff {round : History} {s : State}
    (h : GameWorkflow.BookAgrees (startedEvents round) s.wf.attemptBook) :
    AssignedGreatest round s ↔
      Versions.Current BadgeEvent.questionId BadgeEvent.attempt (startedEvents round) := by
  have hkept : ∀ questionId, s.wf.assignments[questionId]?
      = GameWorkflow.assignee (startedEvents round) questionId := h.assignments
  constructor
  · intro hassigned questionId event hevent
    rw [← GameWorkflow.assignee, ← hkept] at hevent
    exact (hassigned.greatest questionId event hevent).2
  · intro hcurrent
    constructor
    · intro event hevent
      by_contra hnone
      have hmissing := hkept event.questionId
      rw [Std.TreeMap.getElem?_eq_none hnone] at hmissing
      exact Versions.latest_none hmissing.symm event hevent rfl
    · intro questionId event hevent
      rw [hkept] at hevent
      exact ⟨(Versions.latest_mem hevent).2, hcurrent questionId event hevent⟩

/-- **The assignments were right throughout exactly when the attempts
came in order.** -/
theorem assigned_throughout_iff {hist : History} {s : State} (hrun : r.system.Run hist s) :
    StepSystem.Throughout AssignedGreatest (sinceStart hist) s ↔
      AttemptsInOrder (startedEvents (sinceStart hist)) := by
  have hboth : GameWorkflow.BookAgrees (startedEvents (sinceStart hist)) s.wf.attemptBook
      ∧ (StepSystem.Throughout AssignedGreatest (sinceStart hist) s ↔
        AttemptsInOrder (startedEvents (sinceStart hist))) := by
    refine sinceStart_invariant
      (I := fun round s => GameWorkflow.BookAgrees (startedEvents round) s.wf.attemptBook
        ∧ (StepSystem.Throughout AssignedGreatest round s ↔
          AttemptsInOrder (startedEvents round))) hrun ?_ ?_ ?_
    · intro clock
      have hbook : GameWorkflow.BookAgrees (startedEvents [])
        (State.wf { clock }).attemptBook := .empty
      refine ⟨hbook, fun _ => List.Pairwise.nil, fun hordered => ?_⟩
      exact (assignedGreatest_iff hbook).mpr (Versions.current_of_inOrder hordered)
    · intro s
      have hbook : GameWorkflow.BookAgrees (startedEvents []) (r.start s).wf.attemptBook := by
        rw [attemptBook_start]
        exact .empty
      refine ⟨hbook, fun _ => List.Pairwise.nil, fun hordered => ?_⟩
      exact (assignedGreatest_iff hbook).mpr (Versions.current_of_inOrder hordered)
    · intro round s e s' _ he h hstep
      have hbook := bookAgrees_step he h.1 hstep
      refine ⟨hbook, ?_⟩
      show AssignedGreatest ((s, e) :: round) s' ∧ _ ↔ _
      rw [assignedGreatest_iff hbook, h.2]
      cases hev : startedEvent (s, e) with
      | none =>
          have hsame : startedEvents ((s, e) :: round) = startedEvents round := by
            rw [startedEvents, List.filterMap_cons, hev]
            rfl
          rw [hsame]
          exact ⟨fun h => h.2, fun h => ⟨Versions.current_of_inOrder h, h⟩⟩
      | some event =>
          have hmore : startedEvents ((s, e) :: round) = event :: startedEvents round := by
            rw [startedEvents, List.filterMap_cons, hev]
            rfl
          rw [hmore]
          constructor
          · intro h
            exact Versions.inOrder_cons_of_current h.1 h.2
          · intro h
            exact ⟨Versions.current_of_inOrder h, (List.pairwise_cons.mp h).2⟩
  exact hboth.2

/-! ## Reassignments -/

theorem latestReassignment_recordAttempt (wf : GameWorkflow) (event : BadgeEvent) :
    (wf.recordAttempt event).snapshot.latestReassignment = wf.snapshot.latestReassignment := by
  unfold GameWorkflow.recordAttempt
  dsimp only
  split <;> rfl

/-- A start signal records what the registers count. -/
theorem recordedReassignment_attribution {events : List BadgeEvent} {s : State}
    (h : GameWorkflow.BookAgrees events s.wf.attemptBook) (event : BadgeEvent) :
    (recordedReassignment (s, .badgeStarted event)).map attribution
      = (Versions.handoff BadgeEvent.questionId BadgeEvent.attempt BadgeEvent.badgeId events
          event).map attributionOf := by
  have hkept : s.wf.assignments[event.questionId]?
      = GameWorkflow.assignee events event.questionId := h.assignments event.questionId
  rw [← GameWorkflow.handoff_eq]
  unfold recordedReassignment GameWorkflow.recordActivityStarted
  dsimp only
  rw [hkept]
  cases (GameWorkflow.assignee events event.questionId).filter (isReassignment · event) with
  | none => rfl
  | some previous =>
      show ((s.wf.reassign previous event).recordAttempt event).snapshot.latestReassignment.map _
        = _
      rw [latestReassignment_recordAttempt]
      rfl

/-- **The reassignments recorded are the handoffs counted.** -/
theorem recordedReassignments_attribution {hist : History} {s : State}
    (hrun : r.system.Run hist s) :
    (recordedReassignments (sinceStart hist)).map attribution
      = (GameWorkflow.countedHandoffs (startedEvents (sinceStart hist))).map attributionOf := by
  have hboth : GameWorkflow.BookAgrees (startedEvents (sinceStart hist)) s.wf.attemptBook
      ∧ (recordedReassignments (sinceStart hist)).map attribution
        = (GameWorkflow.countedHandoffs (startedEvents (sinceStart hist))).map attributionOf := by
    refine sinceStart_invariant
      (I := fun round s => GameWorkflow.BookAgrees (startedEvents round) s.wf.attemptBook
        ∧ (recordedReassignments round).map attribution
          = (GameWorkflow.countedHandoffs (startedEvents round)).map attributionOf) hrun
      (fun clock => ⟨.empty, rfl⟩) ?_ ?_
    · intro s
      rw [attemptBook_start]
      exact ⟨.empty, rfl⟩
    · intro round s e s' _ he h hstep
      refine ⟨bookAgrees_step he h.1 hstep, ?_⟩
      cases hev : startedEvent (s, e) with
      | none =>
          have hnone : recordedReassignment (s, e) = none := by
            cases e <;> first | rfl | cases hev
          rw [recordedReassignments, List.filterMap_cons, hnone, startedEvents,
            List.filterMap_cons, hev]
          exact h.2
      | some event =>
          have he' : e = .badgeStarted event := by
            cases e <;> first | (cases hev; rfl) | cases hev
          subst he'
          have hnew := recordedReassignment_attribution h.1 event
          rw [recordedReassignments, List.filterMap_cons, startedEvents, List.filterMap_cons, hev]
          show _ = ((Versions.handoff _ _ _ (startedEvents round) event).toList
            ++ GameWorkflow.countedHandoffs (startedEvents round)).map attributionOf
          rw [List.map_append, ← h.2, ← Option.toList_map, ← hnew]
          cases recordedReassignment (s, .badgeStarted event) <;> rfl
  exact hboth.2

/-! ## When the handoffs are right -/

/-- **The handoffs are right exactly when the start signals of each
question come in the order of their attempts.** -/
theorem handoffs_right_iff {hist : History} {s : State} (hrun : r.system.Run hist s)
    (hone : OneBadge (startedEvents (sinceStart hist))) :
    HandoffsRight (sinceStart hist) s ↔ AttemptsInOrder (startedEvents (sinceStart hist)) := by
  constructor
  · intro hright
    exact (assigned_throughout_iff hrun).mp hright.assigned
  · intro hordered
    have hrecorded := recordedReassignments_attribution hrun
    constructor
    · exact (assigned_throughout_iff hrun).mpr hordered
    · have hcount : s.wf.snapshot.reassignments = _ := (bookAgrees_run hrun).reassignments
      rw [hcount]
      exact Versions.length_handoffs hordered hone
    · intro first second hchanged
      have honce := Versions.countP_handoffs hordered hone hchanged
      -- both counts read the question and the attempt of the attribution
      have hleft := congrArg (List.countP fun x : String × Nat × String × String =>
        x.1 = second.questionId ∧ x.2.1 = second.attempt) hrecorded
      rw [List.countP_map, List.countP_map] at hleft
      exact hleft.trans honce
    · intro reassignment hmem
      have hattribution : attribution reassignment
          ∈ (recordedReassignments (sinceStart hist)).map attribution :=
        List.mem_map.mpr ⟨reassignment, hmem, rfl⟩
      rw [hrecorded] at hattribution
      obtain ⟨pair, hpair, heq⟩ := List.mem_map.mp hattribution
      exact ⟨pair.1, pair.2, Versions.neighbours_of_handoffs hordered pair hpair, heq.symm⟩

/-- A question handed from A to B, and reported twice by B. -/
theorem handoffs_right_iff_demo :
    ∃ hist s, busyRound.system.Run hist s ∧ HandoffsRight (sinceStart hist) s
      ∧ s.wf.snapshot.reassignments = 1 := by
  obtain ⟨hist, s, hrun, htest⟩ := StepSystem.exists_run_of_exec (S := busyRound.system)
    { clock := 0 }
    [.start, .iterate, .badgeStarted (demoStart "demo-go" 1 false),
      .badgeStarted (demoStart "demo-go" 2 true), .badgeStarted (demoStart "demo-go" 2 true)]
    (fun result => startedEvents (sinceStart result.1)
        == [demoStart "demo-go" 2 true, demoStart "demo-go" 2 true, demoStart "demo-go" 1 false]
      && result.2.wf.snapshot.reassignments == 1)
    ⟨0, rfl⟩ (by decide +kernel)
  simp only [Bool.and_eq_true, beq_iff_eq] at htest
  have hone : OneBadge (startedEvents (sinceStart hist)) := by
    rw [htest.1]
    simp [OneBadge, Versions.OneHolder, demoStart]
  have hordered : AttemptsInOrder (startedEvents (sinceStart hist)) := by
    rw [htest.1]
    simp [AttemptsInOrder, Versions.InOrder, demoStart]
  exact ⟨hist, s, hrun, (handoffs_right_iff hrun hone).mpr hordered, htest.2⟩

/-- **A late signal takes the question back**: A's first attempt is
reported again after B's second, A has the question again, and B's
repeated signal counts the one handoff twice. -/
theorem late_signal_takes_question_back :
    ∃ hist s, busyRound.system.Run hist s ∧ OneBadge (startedEvents (sinceStart hist))
      ∧ (changes (startedEvents (sinceStart hist))).card = 1
      ∧ s.wf.snapshot.reassignments = 2
      ∧ (hist[0]?.bind fun t => (t.1.wf.assignments["demo-go"]?).map (·.attempt)) = some 1
      ∧ ¬ HandoffsRight (sinceStart hist) s := by
  obtain ⟨hist, s, hrun, htest⟩ := StepSystem.exists_run_of_exec (S := busyRound.system)
    { clock := 0 }
    [.start, .iterate, .badgeStarted (demoStart "demo-go" 1 false),
      .badgeStarted (demoStart "demo-go" 2 true), .badgeStarted (demoStart "demo-go" 1 false),
      .badgeStarted (demoStart "demo-go" 2 true)]
    (fun result => startedEvents (sinceStart result.1)
        == [demoStart "demo-go" 2 true, demoStart "demo-go" 1 false, demoStart "demo-go" 2 true,
          demoStart "demo-go" 1 false]
      && result.2.wf.snapshot.reassignments == 2
      && (result.1[0]?.bind fun t => (t.1.wf.assignments["demo-go"]?).map (·.attempt)) == some 1)
    ⟨0, rfl⟩ (by decide +kernel)
  simp only [Bool.and_eq_true, beq_iff_eq] at htest
  obtain ⟨⟨hevents, hcount⟩, hback⟩ := htest
  have hone : OneBadge (startedEvents (sinceStart hist)) := by
    rw [hevents]
    simp [OneBadge, Versions.OneHolder, demoStart]
  have hchanges : (changes (startedEvents (sinceStart hist))).card = 1 := by
    rw [hevents]
    decide
  refine ⟨hist, s, hrun, hone, hchanges, hcount, hback, fun hright => ?_⟩
  have htwo := hright.counted
  rw [hcount, hchanges] at htwo
  exact absurd htwo (by decide)

end Round

end DurableTrivia.Web
