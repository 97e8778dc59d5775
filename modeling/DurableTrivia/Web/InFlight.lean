import DurableTrivia.Web.Deadline

/-!
# InFlight — whether a badge in flight outlives its round

A question Activity is scheduled with two limits: the last deadline its
task allows, computed once from the start of the round and the single
extension, and the schedule-to-close timeout. The deadline it has to
outlive moves: `end_round` sets it to the current time, and an extension
adds thirty seconds to whatever it is then.

The planned end of the round is what the ceiling is built on, so an
extension of a deadline that is not past it is safe. Where `end_round`
was accepted behind the planned end, before the loop woke, the extension
that follows it outlasts the tasks still in flight.
-/

namespace DurableTrivia.Web

open DurableTrivia.Shared DurableTrivia.Lib

/-! ## The promise and its condition -/

/-- The Activity and its task last until `unixMs`. -/
structure Outstanding.Outlives (outstanding : Outstanding) (unixMs : Nat) : Prop where
  task : unixMs ≤ outstanding.task.latestPossibleDeadlineUnixMs
  timeout : unixMs ≤ outstanding.scheduledUnixMs + outstanding.scheduleToCloseMs

/-- Every outstanding question outlives the current deadline. -/
def OutlivesDeadline (s : State) : Prop :=
  ∀ deadlineUnixMs, s.wf.snapshot.deadlineUnixMs = some deadlineUnixMs →
    ∀ outstanding ∈ s.pending, outstanding.Outlives deadlineUnixMs

namespace Round

/-- Every iteration that does not break finds its outstanding questions
outliving the deadline, and leaves them so. -/
def InFlightOutlives (r : Round) (hist : History) : Prop :=
  ∀ t ∈ hist, t.2 = .iterate → pastDeadline t.1 = false →
    OutlivesDeadline t.1 ∧ OutlivesDeadline (r.iterate t.1)

/-- The deadline a round started at `startedUnixMs` is given. -/
def plannedEnd (r : Round) (startedUnixMs : Nat) : Nat :=
  startedUnixMs + r.input.durationSeconds * 1000

/-- An extension that finds questions outstanding finds a deadline not
past the planned end, or one too far back to bring the round to life. -/
def extendsInTime (r : Round) (s : State) : Event → Bool
  | .applyChaos .extendThirtySeconds =>
      s.pending.isEmpty || decide (effectiveDeadline s ≤ r.plannedEnd s.startedUnixMs)
        || decide (effectiveDeadline s + gameExtensionMs ≤ s.clock)
  | _ => true

variable {r : Round}

theorem effectiveDeadline_eq {s : State} {deadlineUnixMs : Nat}
    (h : s.wf.snapshot.deadlineUnixMs = some deadlineUnixMs) :
    effectiveDeadline s = deadlineUnixMs := by
  unfold effectiveDeadline
  rw [h]
  rfl

theorem extendsInTime_iff {s : State} {deadlineUnixMs : Nat}
    (h : s.wf.snapshot.deadlineUnixMs = some deadlineUnixMs) :
    extendsInTime r s (.applyChaos .extendThirtySeconds) = true ↔
      s.pending = [] ∨ deadlineUnixMs ≤ r.plannedEnd s.startedUnixMs
        ∨ deadlineUnixMs + gameExtensionMs ≤ s.clock := by
  simp [extendsInTime, effectiveDeadline_eq h, or_assoc]

/-! ## What an iteration schedules -/

/-- The limits every question is scheduled with. -/
structure OnPlan (r : Round) (startedUnixMs : Nat) (outstanding : Outstanding) : Prop where
  ceiling : outstanding.task.maxDeadlineUnixMs = r.plannedEnd startedUnixMs + gameExtensionMs
  scheduled : startedUnixMs ≤ outstanding.scheduledUnixMs
  timeout : outstanding.scheduleToCloseMs = r.activityTimeoutMs

/-- The question was scheduled now, for the current deadline. -/
structure ScheduledNow (r : Round) (s : State) (outstanding : Outstanding) : Prop where
  task : outstanding.task = r.task s.startedUnixMs (effectiveDeadline s) outstanding.question
  scheduled : outstanding.scheduledUnixMs = s.clock
  timeout : outstanding.scheduleToCloseMs = r.activityTimeoutMs

theorem mem_pending_scheduled {s : State} {outstanding : Outstanding}
    (h : outstanding ∈ (r.scheduled s).pending) :
    outstanding ∈ s.pending ∨ ScheduledNow r s outstanding := by
  have hall : (r.scheduled s).clock = s.clock ∧ (r.scheduled s).startedUnixMs = s.startedUnixMs
      ∧ ∀ o ∈ (r.scheduled s).pending, o ∈ s.pending ∨ ScheduledNow r s o := by
    unfold scheduled schedule
    refine scheduleQuestions_keeps
      (P := fun s' => s'.clock = s.clock ∧ s'.startedUnixMs = s.startedUnixMs
        ∧ ∀ o ∈ s'.pending, o ∈ s.pending ∨ ScheduledNow r s o)
      ?_ (fun s' deck h _ => h) ⟨rfl, rfl, fun o ho => .inl ho⟩
    intro s' question deck hs' _
    obtain ⟨hclock, hstarted, hpending⟩ := hs'
    refine ⟨hclock, hstarted, fun o ho => ?_⟩
    rw [(scheduleOne_pending _ _ _ _).2.1, List.mem_append, List.mem_singleton] at ho
    rcases ho with ho | rfl
    · exact hpending o ho
    · exact .inr ⟨by rw [hstarted], hclock, rfl⟩
  exact hall.2.2 outstanding h

/-- An iteration keeps what is outstanding, and schedules more only ahead
of the deadline. -/
theorem mem_pending_iterate {s : State} {outstanding : Outstanding}
    (h : outstanding ∈ (r.iterate s).pending) :
    outstanding ∈ s.pending
      ∨ s.clock < effectiveDeadline s ∧ ScheduledNow r s outstanding := by
  have hit := iterated_iterate r s
  revert hit h
  generalize r.iterate s = s'
  intro h hit
  cases hit with
  | deadline _ => exact .inl h
  | exhausted hlt _ _ => exact (mem_pending_scheduled h).imp_right fun hnow => ⟨hlt, hnow⟩
  | sleeping hlt _ _ _ => exact (mem_pending_scheduled h).imp_right fun hnow => ⟨hlt, hnow⟩
  | selecting hlt _ _ => exact (mem_pending_scheduled h).imp_right fun hnow => ⟨hlt, hnow⟩

/-- An iteration waits only ahead of the deadline, and not past it. -/
theorem due_iterate {s : State} {dueUnixMs : Nat}
    (h : (r.iterate s).phase.due = some dueUnixMs) :
    s.clock < effectiveDeadline s ∧ dueUnixMs ≤ effectiveDeadline s := by
  have hit := iterated_iterate r s
  revert hit h
  generalize r.iterate s = s'
  intro h hit
  cases hit with
  | deadline _ => cases h
  | exhausted _ _ _ => cases h
  | sleeping hlt _ _ hdue =>
      cases h
      omega
  | selecting hlt _ hdue =>
      cases h
      omega

/-! ## The plan of a round -/

/-- What holds until the extension is used. -/
structure Unextended (r : Round) (s : State) : Prop where
  deadline : ∀ deadlineUnixMs, s.wf.snapshot.deadlineUnixMs = some deadlineUnixMs →
    deadlineUnixMs ≤ r.plannedEnd s.startedUnixMs ∨ deadlineUnixMs ≤ s.clock
  tasks : ∀ outstanding ∈ s.pending, outstanding.task.deadlineUnixMs ≤ r.plannedEnd s.startedUnixMs
  timer : ∀ dueUnixMs, s.phase.due = some dueUnixMs → dueUnixMs ≤ r.plannedEnd s.startedUnixMs

/-- What holds in every reachable state, whatever the updates. -/
structure Planned (r : Round) (s : State) : Prop where
  started : s.startedUnixMs ≤ s.clock
  pending : ∀ outstanding ∈ s.pending, OnPlan r s.startedUnixMs outstanding
  near : ∀ deadlineUnixMs, s.wf.snapshot.deadlineUnixMs = some deadlineUnixMs →
    deadlineUnixMs ≤ r.plannedEnd s.startedUnixMs + gameExtensionMs
      ∨ deadlineUnixMs ≤ s.clock + gameExtensionMs
  unextended : s.wf.snapshot.chaos.extensionUsed = false → Unextended r s

/-- An event after which nothing new is outstanding and the deadline is
where it was; time may pass, and a timer may be gone. -/
structure Keeps (s s' : State) : Prop where
  clock : s.clock ≤ s'.clock
  started : s'.startedUnixMs = s.startedUnixMs
  pending : ∀ outstanding ∈ s'.pending, outstanding ∈ s.pending
  deadline : s'.wf.snapshot.deadlineUnixMs = s.wf.snapshot.deadlineUnixMs
  extension : s'.wf.snapshot.chaos.extensionUsed = s.wf.snapshot.chaos.extensionUsed
  timer : s'.phase.due = s.phase.due ∨ s'.phase.due = none

theorem Unextended.keep {s s' : State} (h : Unextended r s) (hk : Keeps s s') :
    Unextended r s' := by
  constructor
  · intro deadlineUnixMs hd
    rw [hk.deadline] at hd
    rw [hk.started]
    exact (h.deadline _ hd).imp_right fun hle => hle.trans hk.clock
  · intro outstanding ho
    rw [hk.started]
    exact h.tasks _ (hk.pending _ ho)
  · intro dueUnixMs hdue
    rw [hk.started]
    rcases hk.timer with htimer | htimer
    · exact h.timer _ (htimer.symm.trans hdue)
    · rw [htimer] at hdue
      cases hdue

theorem Planned.keep {s s' : State} (h : Planned r s) (hk : Keeps s s') : Planned r s' := by
  constructor
  · rw [hk.started]
    exact h.started.trans hk.clock
  · intro outstanding ho
    rw [hk.started]
    exact h.pending _ (hk.pending _ ho)
  · intro deadlineUnixMs hd
    rw [hk.deadline] at hd
    rw [hk.started]
    exact (h.near _ hd).imp_right fun hle => hle.trans (Nat.add_le_add_right hk.clock _)
  · intro hused
    rw [hk.extension] at hused
    exact (h.unextended hused).keep hk

/-! ## The step lemma -/

/-- The deadline and the extension are in the control view. -/
theorem keeps_of_control {s s' : State} (hclock : s.clock ≤ s'.clock)
    (hstarted : s'.startedUnixMs = s.startedUnixMs)
    (hpending : ∀ outstanding ∈ s'.pending, outstanding ∈ s.pending)
    (hcontrol : s'.wf.control = s.wf.control)
    (htimer : s'.phase.due = s.phase.due ∨ s'.phase.due = none) : Keeps s s' :=
  { clock := hclock
    started := hstarted
    pending := hpending
    deadline := congrArg GameWorkflow.Control.deadlineUnixMs hcontrol
    extension := congrArg (ChaosState.extensionUsed ∘ GameWorkflow.Control.chaos) hcontrol
    timer := htimer }

/-- What an event does to the plan. -/
inductive PlanMove (r : Round) (s : State) (e : Event) (s' : State) : Prop
  | kept (hkeep : Keeps s s')
  | extended (he : e = .applyChaos .extendThirtySeconds)
      (hvalid : s.wf.validateApplyChaos .extendThirtySeconds = .ok ())
      (hwait : s.phase.waiting = true)
      (hs' : s' = { s with wf := s.wf.applyChaos s.clock .extendThirtySeconds })
  | ended (he : e = .endRound) (hs' : s' = { s with wf := s.wf.endRound s.clock })
  | started (he : e = .start) (hs' : s' = r.start s)
  | iterated (he : e = .iterate) (hphase : s.phase = .loopHead) (hs' : s' = r.iterate s)

theorem planMove_of_step {s s' : State} {e : Event} (hstep : r.step s e = some s') :
    PlanMove r s e s' := by
  cases transition_of_step hstep with
  | advance _ hle => exact .kept (keeps_of_control hle rfl (fun _ => id) rfl (.inl rfl))
  | badgeStarted _ =>
      exact .kept (keeps_of_control (Nat.le_refl _) rfl (fun _ => id)
        (GameWorkflow.control_badgeStarted s.wf _) (.inl rfl))
  | panicEvent _ => exact .kept (keeps_of_control (Nat.le_refl _) rfl (fun _ => id) rfl (.inl rfl))
  | recovered _ => exact .kept (keeps_of_control (Nat.le_refl _) rfl (fun _ => id) rfl (.inl rfl))
  | @applyChaos command hwait hvalid =>
      cases command with
      | extendThirtySeconds => exact .extended rfl hvalid hwait rfl
      | _ => exact .kept ⟨Nat.le_refl _, rfl, fun _ => id, rfl, rfl, .inl rfl⟩
  | endRound _ _ => exact .ended rfl rfl
  | start _ => exact .started rfl rfl
  | iterate hphase => exact .iterated rfl hphase rfl
  | tick _ _ => exact .kept (keeps_of_control (Nat.le_refl _) rfl (fun _ => id) rfl (.inr rfl))
  | @completed dueUnixMs index outstanding result _ _ =>
      obtain ⟨hpending, _, _, _, hstarted⟩ := locals_complete s index outstanding result
      have hdue : (s.complete index outstanding result).phase.due = none := by
        rcases phase_complete s index outstanding result with hphase | hphase <;> rw [hphase]
          <;> rfl
      refine .kept (keeps_of_control (Nat.le_of_eq (complete_clock s _ _ _).symm) hstarted ?_
        (complete_control s _ _ _) (.inr hdue))
      intro outstanding ho
      rw [hpending] at ho
      exact List.mem_of_mem_eraseIdx ho
  | drained _ _ => exact .kept (keeps_of_control (Nat.le_refl _) rfl (fun _ => id) rfl (.inr rfl))
  | close _ =>
      have hcontrol := close_control (r := r) s
      exact .kept
        { clock := Nat.le_refl _
          started := rfl
          pending := fun _ ho => absurd ho List.not_mem_nil
          deadline := congrArg GameWorkflow.Control.deadlineUnixMs (hcontrol _ _)
          extension :=
            congrArg (ChaosState.extensionUsed ∘ GameWorkflow.Control.chaos) (hcontrol _ _)
          timer := .inr rfl }

/-- The deadline an iteration finds stays where it is. -/
theorem iterate_deadline (s : State) :
    (r.iterate s).wf.snapshot.deadlineUnixMs = s.wf.snapshot.deadlineUnixMs
      ∧ (r.iterate s).wf.snapshot.chaos.extensionUsed = s.wf.snapshot.chaos.extensionUsed := by
  have hcontrol := (iterate_frame r s).2.1
  exact ⟨congrArg GameWorkflow.Control.deadlineUnixMs hcontrol,
    congrArg (ChaosState.extensionUsed ∘ GameWorkflow.Control.chaos) hcontrol⟩

theorem unextended_iterate {s : State} {deadlineUnixMs : Nat} (h : Unextended r s)
    (hdeadline : s.wf.snapshot.deadlineUnixMs = some deadlineUnixMs) :
    Unextended r (r.iterate s) := by
  obtain ⟨hclock, _, _, hstarted⟩ := iterate_frame r s
  have heffective := effectiveDeadline_eq hdeadline
  have hd := h.deadline _ hdeadline
  constructor
  · intro d hiter
    rw [(iterate_deadline s).1] at hiter
    rw [hstarted, hclock]
    exact h.deadline d hiter
  · intro outstanding ho
    rw [hstarted]
    rcases mem_pending_iterate ho with ho | ⟨hlt, hnow⟩
    · exact h.tasks _ ho
    · -- scheduled ahead of a deadline that no `end_round` brought forward
      rw [hnow.task, heffective]
      show deadlineUnixMs ≤ r.plannedEnd s.startedUnixMs
      omega
  · intro dueUnixMs hdue
    rw [hstarted]
    obtain ⟨hlt, hle⟩ := due_iterate hdue
    omega

theorem planned_iterate {s : State} {deadlineUnixMs : Nat} (h : Planned r s)
    (hdeadline : s.wf.snapshot.deadlineUnixMs = some deadlineUnixMs) :
    Planned r (r.iterate s) := by
  obtain ⟨hclock, _, _, hstarted⟩ := iterate_frame r s
  constructor
  · rw [hclock, hstarted]
    exact h.started
  · intro outstanding ho
    rw [hstarted]
    rcases mem_pending_iterate ho with ho | ⟨_, hnow⟩
    · exact h.pending _ ho
    · constructor
      · rw [hnow.task]
        rfl
      · rw [hnow.scheduled]
        exact h.started
      · exact hnow.timeout
  · intro d hd
    rw [(iterate_deadline s).1] at hd
    rw [hstarted, hclock]
    exact h.near d hd
  · intro hused
    rw [(iterate_deadline s).2] at hused
    exact unextended_iterate (h.unextended hused) hdeadline

/-- **The step lemma**: what the plan promises whatever the updates. -/
theorem planned_step {s s' : State} {e : Event} (hinv : LoopInvariant r s) (h : Planned r s)
    (hstep : r.step s e = some s') : Planned r s' := by
  cases planMove_of_step hstep with
  | kept hkeep => exact h.keep hkeep
  | extended _ hvalid _ hs' =>
      subst hs'
      obtain ⟨_, ⟨_, hunused⟩ | ⟨hother, _⟩⟩ := GameWorkflow.validateApplyChaos_ok hvalid
      · -- the one extension: it adds to the planned end or to a deadline at the clock
        refine ⟨h.started, h.pending, fun d hd => ?_, nofun⟩
        rw [GameWorkflow.applyChaos_deadline] at hd
        obtain ⟨before, hbefore, rfl⟩ := Option.map_eq_some_iff.mp hd
        have hle := (h.unextended hunused).deadline before hbefore
        show before + gameExtensionMs ≤ r.plannedEnd s.startedUnixMs + gameExtensionMs
          ∨ before + gameExtensionMs ≤ s.clock + gameExtensionMs
        omega
      · exact absurd rfl hother
  | ended _ hs' =>
      subst hs'
      refine ⟨h.started, h.pending, fun d hd => ?_, fun hused => ?_⟩
      · cases hd
        exact .inr (Nat.le_add_right _ _)
      · have hbefore := h.unextended hused
        refine ⟨fun d hd => ?_, hbefore.tasks, hbefore.timer⟩
        cases hd
        exact .inr (Nat.le_refl _)
  | started _ hs' =>
      subst hs'
      have hdeadline : (r.start s).wf.snapshot.deadlineUnixMs = some (r.plannedEnd s.clock) :=
        congrArg GameWorkflow.Control.deadlineUnixMs (start_control s)
      refine ⟨Nat.le_refl _, fun _ ho => absurd ho List.not_mem_nil, fun d hd => ?_, fun _ => ?_⟩
      · rw [hdeadline] at hd
        cases hd
        exact .inl (Nat.le_add_right _ _)
      · refine ⟨fun d hd => ?_, fun _ ho => absurd ho List.not_mem_nil, nofun⟩
        rw [hdeadline] at hd
        cases hd
        exact .inl (Nat.le_refl _)
  | iterated _ hphase hs' =>
      subst hs'
      have hrun : s.phase.status ≠ .waiting := by simp [hphase, Phase.status]
      obtain ⟨deadlineUnixMs, hdeadline⟩ := Option.isSome_iff_exists.mp (hinv.deadline hrun)
      exact planned_iterate h hdeadline

theorem planned_reachable {s : State} (h : r.system.Reachable s) : Planned r s := by
  have hboth : LoopInvariant r s ∧ Planned r s := by
    refine h.invariant (I := fun s => LoopInvariant r s ∧ Planned r s) ?_ ?_
    · intro s₀ hinit
      refine ⟨loopInvariant_reachable ⟨_, StepSystem.Run.nil hinit⟩, ?_⟩
      rcases hinit with ⟨clock, rfl⟩
      exact ⟨Nat.zero_le _, fun _ ho => absurd ho List.not_mem_nil, nofun,
        fun _ => ⟨nofun, fun _ ho => absurd ho List.not_mem_nil, nofun⟩⟩
    · intro s e s' hs hstep
      exact ⟨loopInvariant_step hs.1 hstep, planned_step hs.1 hs.2 hstep⟩
  exact hboth.2

/-! ## The promise along a run -/

/-- A question on plan outlives every deadline the extension of the
planned end can reach. -/
theorem OnPlan.outlives {startedUnixMs unixMs : Nat} {outstanding : Outstanding}
    (h : OnPlan r startedUnixMs outstanding)
    (hle : unixMs ≤ r.plannedEnd startedUnixMs + gameExtensionMs) :
    outstanding.Outlives unixMs := by
  have hceiling := h.ceiling
  have hscheduled := h.scheduled
  constructor
  · unfold QuestionTask.latestPossibleDeadlineUnixMs
    omega
  · rw [h.timeout]
    unfold plannedEnd gameExtensionMs at hle
    unfold activityTimeoutMs
    omega

/-- So does one scheduled for the deadline itself. -/
theorem ScheduledNow.outlives {s : State} {outstanding : Outstanding}
    (h : ScheduledNow r s outstanding) (hplan : Planned r s) {deadlineUnixMs : Nat}
    (hdeadline : s.wf.snapshot.deadlineUnixMs = some deadlineUnixMs) :
    outstanding.Outlives deadlineUnixMs := by
  have hstarted := hplan.started
  have hnear := hplan.near _ hdeadline
  constructor
  · rw [h.task, effectiveDeadline_eq hdeadline]
    exact Nat.le_max_left _ _
  · rw [h.scheduled, h.timeout]
    unfold plannedEnd gameExtensionMs at hnear
    unfold activityTimeoutMs
    omega

/-- What the run keeps as long as extensions come in time. -/
def Outliving (s : State) : Prop := pastDeadline s = true ∨ OutlivesDeadline s

theorem pastDeadline_iff {s : State} {deadlineUnixMs : Nat}
    (h : s.wf.snapshot.deadlineUnixMs = some deadlineUnixMs) :
    pastDeadline s = true ↔ deadlineUnixMs ≤ s.clock := by
  unfold pastDeadline
  rw [h]
  simp

/-- Time never brings a deadline back. -/
theorem pastDeadline_keep {s s' : State} (h : pastDeadline s = true) (hclock : s.clock ≤ s'.clock)
    (hdeadline : s'.wf.snapshot.deadlineUnixMs = s.wf.snapshot.deadlineUnixMs) :
    pastDeadline s' = true := by
  cases hd : s.wf.snapshot.deadlineUnixMs with
  | none =>
      unfold pastDeadline at h
      rw [hd] at h
      cases h
  | some deadlineUnixMs =>
      rw [pastDeadline_iff (hdeadline.trans hd)]
      exact ((pastDeadline_iff hd).mp h).trans hclock

theorem Outliving.keep {s s' : State} (h : Outliving s) (hk : Keeps s s') : Outliving s' := by
  rcases h with hpast | hout
  · exact .inl (pastDeadline_keep hpast hk.clock hk.deadline)
  · right
    intro deadlineUnixMs hd outstanding ho
    rw [hk.deadline] at hd
    exact hout _ hd _ (hk.pending _ ho)

theorem outlivesDeadline_iterate {s : State} (hplan : Planned r s) (h : OutlivesDeadline s) :
    OutlivesDeadline (r.iterate s) := by
  intro deadlineUnixMs hd outstanding ho
  rw [(iterate_deadline s).1] at hd
  rcases mem_pending_iterate ho with ho | ⟨_, hnow⟩
  · exact h _ hd _ ho
  · exact hnow.outlives hplan hd

theorem extended_deadline {s : State} {deadlineUnixMs : Nat}
    (h : s.wf.snapshot.deadlineUnixMs = some deadlineUnixMs) :
    (s.wf.applyChaos s.clock .extendThirtySeconds).snapshot.deadlineUnixMs
      = some (deadlineUnixMs + gameExtensionMs) := by
  rw [GameWorkflow.applyChaos_deadline, h]
  rfl

/-- **The step lemma** of the promise. -/
theorem outliving_step {s s' : State} {e : Event} (hplan : Planned r s) (h : Outliving s)
    (hintime : extendsInTime r s e = true) (hstep : r.step s e = some s') : Outliving s' := by
  cases planMove_of_step hstep with
  | kept hkeep => exact h.keep hkeep
  | extended he hvalid _ hs' =>
      subst he hs'
      cases hdeadline : s.wf.snapshot.deadlineUnixMs with
      | none =>
          right
          intro d hd
          rw [GameWorkflow.applyChaos_deadline, hdeadline] at hd
          cases hd
      | some before =>
          have hafter := extended_deadline hdeadline
          rcases (extendsInTime_iff hdeadline).mp hintime with hnone | hle | hlate
          · -- no badge is in flight
            right
            intro _ _ outstanding ho
            have hmem : outstanding ∈ s.pending := ho
            simp [hnone] at hmem
          · -- the deadline was not behind the plan, whose ceiling has room for thirty seconds
            right
            intro d hd outstanding ho
            cases hafter.symm.trans hd
            exact (hplan.pending outstanding ho).outlives (Nat.add_le_add_right hle _)
          · -- thirty seconds do not bring the round back
            exact .inl ((pastDeadline_iff hafter).mpr hlate)
  | ended _ hs' =>
      subst hs'
      exact .inl ((@pastDeadline_iff _ s.clock rfl).mpr (Nat.le_refl _))
  | started _ hs' =>
      subst hs'
      exact .inr fun _ _ _ ho => absurd ho List.not_mem_nil
  | iterated _ _ hs' =>
      subst hs'
      rcases h with hpast | hout
      · exact .inl (pastDeadline_keep hpast (Nat.le_of_eq (iterate_frame r s).1.symm)
          (iterate_deadline s).1)
      · exact .inr (outlivesDeadline_iterate hplan hout)

/-- **The run lemma**: in a run that extends in time every iteration
keeps the promise. -/
theorem inFlightOutlives_of_extendsInTime {hist : History} {s : State}
    (hrun : r.system.Run hist s) (hintime : ∀ t ∈ hist, extendsInTime r t.1 t.2 = true) :
    InFlightOutlives r hist := by
  obtain ⟨s₀, hinit, hpath⟩ := hrun
  -- by induction on the run, with what its last state keeps
  have hboth : Outliving s ∧ InFlightOutlives r hist := by
    induction hpath with
    | nil =>
        rcases hinit with ⟨clock, rfl⟩
        exact ⟨.inr nofun, fun _ ht => absurd ht List.not_mem_nil⟩
    | @snoc earlier s₁ s₂ e hpath hstep ih =>
        obtain ⟨hbefore, hearlier⟩ := ih fun t ht => hintime t (List.mem_cons_of_mem _ ht)
        have hplan := planned_reachable ⟨earlier, s₀, hinit, hpath⟩
        refine ⟨outliving_step hplan hbefore (hintime _ List.mem_cons_self) hstep, ?_⟩
        intro t ht hiter hahead
        rcases List.mem_cons.mp ht with rfl | ht
        · have hout := hbefore.resolve_left (by simp [hahead])
          exact ⟨hout, outlivesDeadline_iterate hplan hout⟩
        · exact hearlier t ht hiter hahead
  exact hboth.2

/-! ## The condition is exact -/

/-- A due timer wakes the loop. -/
theorem step_tick {s : State} {dueUnixMs : Nat} (hdue : s.phase.due = some dueUnixMs)
    (hle : dueUnixMs ≤ s.clock) : r.step s .tick = some { s with phase := .loopHead } := by
  simp only [step, hdue]
  exact if_pos hle

/-- **A late extension breaks the promise**: the timer is already due, so
the loop wakes at once and finds a question that ends too early. -/
theorem late_extension_breaks {hist : History} {s s' : State} (hrun : r.system.Run hist s)
    (hstep : r.step s (.applyChaos .extendThirtySeconds) = some s')
    (hlate : extendsInTime r s (.applyChaos .extendThirtySeconds) = false) :
    ∃ later sN, r.system.Path s' later sN ∧ ¬ InFlightOutlives r later := by
  have hplan := planned_reachable hrun.reachable
  have hinv := loopInvariant_reachable hrun.reachable
  cases transition_of_step hstep with
  | applyChaos hwait hvalid =>
      obtain ⟨hrunning, ⟨_, hunused⟩ | ⟨hother, _⟩⟩ := GameWorkflow.validateApplyChaos_ok hvalid
      · have hun := hplan.unextended hunused
        have hstarted : s.phase.status ≠ .waiting := by rw [← hinv.status, hrunning]; decide
        obtain ⟨before, hdeadline⟩ := Option.isSome_iff_exists.mp (hinv.deadline hstarted)
        rw [← Bool.not_eq_true, extendsInTime_iff hdeadline, not_or, not_or] at hlate
        obtain ⟨hpending, hpast, hlive⟩ := hlate
        obtain ⟨outstanding, ho⟩ := List.exists_mem_of_ne_nil _ hpending
        -- an `end_round` behind the planned end, and the timer was set ahead of it
        have hended := (hun.deadline _ hdeadline).resolve_left hpast
        obtain ⟨dueUnixMs, hdue, _⟩ := due_of_running hrun.reachable hwait hrunning
        have hwoken : dueUnixMs ≤ s.clock := by
          have htimer := hun.timer _ hdue
          omega
        let extended : State := { s with wf := s.wf.applyChaos s.clock .extendThirtySeconds }
        let woken : State := { extended with phase := .loopHead }
        have hafter : woken.wf.snapshot.deadlineUnixMs = some (before + gameExtensionMs) :=
          extended_deadline hdeadline
        have htick : r.system.step extended .tick = some woken :=
          @step_tick r extended _ hdue hwoken
        have hiterate : r.system.step woken .iterate = some (r.iterate woken) := rfl
        refine ⟨_, _, (StepSystem.Path.nil.snoc htick).snoc hiterate, fun hall => ?_⟩
        have hahead : pastDeadline woken = false := by
          rw [← Bool.not_eq_true, pastDeadline_iff hafter]
          exact hlive
        have hout := (hall (woken, .iterate) List.mem_cons_self rfl hahead).1 _ hafter _ ho
        -- the task was made for the planned end, its ceiling for one extension of that
        have htask := hout.task
        have hceiling := (hplan.pending _ ho).ceiling
        have hmade := hun.tasks _ ho
        unfold QuestionTask.latestPossibleDeadlineUnixMs at htask
        omega
      · exact absurd rfl hother

/-- **A badge in flight outlives the round in every run whose extensions
come in time, and behind any other extension a round goes on without
it.** -/
theorem in_flight_outlives_round {hist : History} {s : State} (hrun : r.system.Run hist s) :
    ((∀ t ∈ hist, extendsInTime r t.1 t.2 = true) → InFlightOutlives r hist)
      ∧ ∀ s', r.step s (.applyChaos .extendThirtySeconds) = some s' →
        extendsInTime r s (.applyChaos .extendThirtySeconds) = false →
        ∃ later sN, r.system.Path s' later sN ∧ ¬ InFlightOutlives r later :=
  ⟨inFlightOutlives_of_extendsInTime hrun, fun _ hstep => late_extension_breaks hrun hstep⟩

/-- Whether a history has an iteration that went on past `unixMs`. -/
def wentOnPast (unixMs : Nat) (hist : History) : Bool :=
  hist.any fun t => match t.2 with
    | .iterate => !pastDeadline t.1 && decide (unixMs < effectiveDeadline t.1)
    | _ => false

/-- Ended after half a second, extended at once, and going on with the
question that was in flight. -/
theorem in_flight_outlives_round_busy :
    ∃ hist s, busyRound.system.Run hist s ∧ wentOnPast 30000 hist = true
      ∧ s.pending ≠ [] ∧ InFlightOutlives busyRound hist := by
  obtain ⟨hist, s, hrun, htest⟩ := StepSystem.exists_run_of_exec
    (S := busyRound.system) { clock := 0 }
    [.start, .iterate, .advance 500, .endRound, .applyChaos .extendThirtySeconds,
      .advance 1000, .tick, .iterate]
    (fun result => result.1.all (fun t => extendsInTime busyRound t.1 t.2)
      && wentOnPast 30000 result.1 && !result.2.pending.isEmpty)
    ⟨0, rfl⟩ (by decide +kernel)
  simp only [Bool.and_eq_true, List.all_eq_true, Bool.not_eq_true', List.isEmpty_eq_false_iff]
    at htest
  obtain ⟨⟨hintime, hwent⟩, hpending⟩ := htest
  exact ⟨hist, s, hrun, hwent, hpending, (in_flight_outlives_round hrun).1 hintime⟩

/-- **A round that outlives its badge**: after 59 ticks `end_round` is
accepted a tenth of a second behind the planned end, before the sixtieth,
and extended. The loop goes on with a question whose last deadline is a
tenth of a second before the round's. -/
theorem late_end_round_outlives_badge :
    ¬ ∀ (r : Round) (hist : History) (s : State), r.system.Run hist s →
      InFlightOutlives r hist := by
  intro hall
  obtain ⟨earlier, s, later, sN, hrun, htest⟩ := StepSystem.exists_run_around
    (S := busyRound.system) { clock := 0 }
    ([.start, .iterate] ++ (List.range 59).flatMap idleTick
      ++ [.advance 60100, .endRound, .applyChaos .extendThirtySeconds, .tick])
    .iterate []
    (fun run => !pastDeadline run.1.2
      && run.1.2.wf.snapshot.deadlineUnixMs == some 90100
      && run.1.2.pending.map (·.task.latestPossibleDeadlineUnixMs) == [90000])
    ⟨0, rfl⟩ (by decide +kernel)
  simp only [Bool.and_eq_true, Bool.not_eq_true', beq_iff_eq] at htest
  obtain ⟨⟨hahead, hdeadline⟩, hpending⟩ := htest
  have hmem : 90000 ∈ s.pending.map (·.task.latestPossibleDeadlineUnixMs) := by
    rw [hpending]
    exact List.mem_singleton_self _
  obtain ⟨outstanding, ho, hlatest⟩ := List.mem_map.mp hmem
  have hiteration : (s, Event.iterate) ∈ later ++ (s, .iterate) :: earlier := by simp
  have hout := (hall _ _ _ hrun _ hiteration rfl hahead).1 _ hdeadline _ ho
  have htask := hout.task
  rw [hlatest] at htask
  omega

end Round

end DurableTrivia.Web
