import DurableTrivia.Web.RoundSteps

/-!
# RoundInvariant — where `run` stands and what it knows there

The locals of `run` against the phase and the snapshot: the status is
that of the phase, the deadline is set once the round started, the
counter of pending Activities counts them, the activity target never
moves, and a round that schedules nothing keeps its deck.
-/

namespace DurableTrivia.Web

open DurableTrivia.Shared DurableTrivia.Lib

/-- The status the snapshot has in each phase. -/
def Phase.status : Phase → GameStatus
  | .unstarted => .waiting
  | .loopHead | .sleeping _ | .selecting _ | .closing _ => .running
  | .returned _ _ => .finished

namespace Round

/-- The badges the round was started for. -/
def badges (r : Round) : Nat := r.input.detectedBadgeCount.getD 0 % 2 ^ 32

/-- The activity target of every iteration of the round. -/
def target (r : Round) : Nat :=
  activityTarget { detectedBadgeCount := r.badges } r.input.backlogOverride
    r.fullParticipantBacklog

variable {r : Round}

/-- The target reads the badge count and nothing else of the snapshot. -/
theorem activityTarget_eq {snapshot : GameSnapshot} (h : snapshot.detectedBadgeCount = r.badges) :
    activityTarget snapshot r.input.backlogOverride r.fullParticipantBacklog = r.target := by
  unfold target activityTarget
  rw [h]

/-- What holds in every reachable state of a round. -/
structure LoopInvariant (r : Round) (s : State) : Prop where
  status : s.wf.snapshot.status = s.phase.status
  game : s.phase.status ≠ .waiting → s.wf.snapshot.gameId = some r.input.gameId
  deadline : s.phase.status ≠ .waiting → s.wf.snapshot.deadlineUnixMs.isSome = true
  detected : s.phase.status ≠ .waiting → s.wf.snapshot.detectedBadgeCount = r.badges
  counted : s.phase.status ≠ .finished → s.pendingActivities = s.pending.length
  selecting : ∀ dueUnixMs, s.phase = .selecting dueUnixMs → s.pending ≠ []
  due : ∀ dueUnixMs, s.phase.due = some dueUnixMs → dueUnixMs ≤ s.clock + 1000
  idle : s.phase.status ≠ .waiting → r.target = 0 → s.deck.available = r.input.questions

/-! ## What scheduling does to the locals -/

/-- Scheduling as `run` sees it from outside its inner loop. -/
structure Scheduled (r : Round) (s s' : State) : Prop where
  counted : s.pendingActivities = s.pending.length → s'.pendingActivities = s'.pending.length
  kept : s.pending <+: s'.pending
  idle : r.target = 0 → s'.deck = s.deck

theorem scheduleOne_pending (deadlineUnixMs : Nat) (s : State) (question : Question)
    (deck : Deck) :
    (r.scheduleOne deadlineUnixMs s question deck).pendingActivities = s.pendingActivities + 1
      ∧ (r.scheduleOne deadlineUnixMs s question deck).pending
        = s.pending ++ [{ question
                          task := r.task s.startedUnixMs deadlineUnixMs question
                          scheduledUnixMs := s.clock
                          scheduleToCloseMs := r.activityTimeoutMs }]
      ∧ (r.scheduleOne deadlineUnixMs s question deck).deck = deck := ⟨rfl, rfl, rfl⟩

/-- The inner loop only appends to `pending`, and counts what it appends. -/
theorem scheduleQuestions_pending (deadlineUnixMs : Nat) (rustOnly : Bool) (slots : Nat)
    (s : State) :
    s.pending <+: (r.scheduleQuestions deadlineUnixMs rustOnly slots s).pending
      ∧ (s.pendingActivities = s.pending.length →
        (r.scheduleQuestions deadlineUnixMs rustOnly slots s).pendingActivities
          = (r.scheduleQuestions deadlineUnixMs rustOnly slots s).pending.length) := by
  refine scheduleQuestions_keeps
    (P := fun s' => s.pending <+: s'.pending
      ∧ (s.pendingActivities = s.pending.length → s'.pendingActivities = s'.pending.length))
    ?_ (fun s' deck h _ => h) ⟨List.prefix_rfl, id⟩
  intro s' question deck h _
  obtain ⟨hcount, hpending, _⟩ := scheduleOne_pending (r := r) deadlineUnixMs s' question deck
  rw [hcount, hpending]
  refine ⟨h.1.trans (List.prefix_append _ _), fun h0 => ?_⟩
  rw [h.2 h0, List.length_append, List.length_singleton]

theorem scheduled_schedule {s : State} (deadlineUnixMs : Nat)
    (hdetected : s.wf.snapshot.detectedBadgeCount = r.badges) :
    Scheduled r s (r.schedule s deadlineUnixMs) := by
  unfold schedule
  have hpending := scheduleQuestions_pending (r := r) deadlineUnixMs
    (inForce s.wf.snapshot.chaos.rustOnlyUntilUnixMs s.clock)
    (activityTarget s.wf.snapshot r.input.backlogOverride r.fullParticipantBacklog
      - s.pendingActivities) s
  refine ⟨hpending.2, hpending.1, fun hidle => ?_⟩
  dsimp only
  rw [activityTarget_eq hdetected, hidle, Nat.zero_sub]
  rfl

/-- **A pass that has slots to fill leaves something to wait for**: a
pending Activity, or cards that could not be dealt now. -/
theorem scheduleQuestions_leaves {deadlineUnixMs : Nat} {rustOnly : Bool} {slots : Nat}
    {s : State} (hne : r.input.questions ≠ []) (hslots : 0 < slots) :
    (r.scheduleQuestions deadlineUnixMs rustOnly slots s).pending ≠ []
      ∨ (r.scheduleQuestions deadlineUnixMs rustOnly slots s).deck.available ≠ [] := by
  obtain ⟨slots, rfl⟩ := Nat.exists_eq_succ_of_ne_zero (Nat.pos_iff_ne_zero.mp hslots)
  cases hdeal : dealQuestion s.deck r.input.questions rustOnly r.eligibleDeckRefill with
  | mk question deck =>
      cases question with
      | none =>
          refine .inr ?_
          rw [scheduleQuestions, hdeal]
          exact dealQuestion_none_available hne hdeal
      | some question =>
          refine .inl fun hnil => ?_
          rw [scheduleQuestions, hdeal] at hnil
          have hkept := (scheduleQuestions_pending (r := r) deadlineUnixMs rustOnly slots
            (r.scheduleOne deadlineUnixMs s question deck)).1
          rw [hnil, (scheduleOne_pending deadlineUnixMs s question deck).2.1] at hkept
          simp at hkept

/-! ## The invariant is inductive -/

/-- An event that keeps the phase, the control view and the locals keeps
the invariant; time may pass. -/
theorem LoopInvariant.keep {s s' : State} (h : LoopInvariant r s)
    (hphase : s'.phase = s.phase) (hcontrol : s'.wf.control = s.wf.control)
    (hclock : s.clock ≤ s'.clock) (hpending : s'.pending = s.pending)
    (hcount : s'.pendingActivities = s.pendingActivities) (hdeck : s'.deck = s.deck) :
    LoopInvariant r s' := by
  have hstatus : s'.wf.snapshot.status = s.wf.snapshot.status :=
    congrArg GameWorkflow.Control.status hcontrol
  have hdeadline : s'.wf.snapshot.deadlineUnixMs = s.wf.snapshot.deadlineUnixMs :=
    congrArg GameWorkflow.Control.deadlineUnixMs hcontrol
  have hdetected : s'.wf.snapshot.detectedBadgeCount = s.wf.snapshot.detectedBadgeCount :=
    congrArg GameWorkflow.Control.detectedBadgeCount hcontrol
  have hgame : s'.wf.snapshot.gameId = s.wf.snapshot.gameId :=
    congrArg GameWorkflow.Control.gameId hcontrol
  constructor
  · rw [hstatus, hphase, h.status]
  · rw [hgame, hphase]
    exact h.game
  · rw [hdeadline, hphase]
    exact h.deadline
  · rw [hdetected, hphase]
    exact h.detected
  · rw [hcount, hpending, hphase]
    exact h.counted
  · rw [hpending, hphase]
    exact h.selecting
  · rw [hphase]
    exact fun dueUnixMs hd => (h.due dueUnixMs hd).trans (Nat.add_le_add_right hclock 1000)
  · rw [hdeck, hphase]
    exact h.idle

theorem loopInvariant_applyChaos {s : State} (h : LoopInvariant r s) (command : ChaosCommand) :
    LoopInvariant r { s with wf := s.wf.applyChaos s.clock command } := by
  refine ⟨h.status, h.game, fun hs => ?_, h.detected, h.counted, h.selecting, h.due, h.idle⟩
  rw [GameWorkflow.applyChaos_deadline]
  cases command <;> simpa [GameWorkflow.chaosDeadline] using h.deadline hs

theorem loopInvariant_start (s : State) : LoopInvariant r (r.start s) := by
  have hcontrol := start_control (r := r) s
  exact
    { status := congrArg GameWorkflow.Control.status hcontrol
      game := fun _ => congrArg GameWorkflow.Control.gameId hcontrol
      deadline := fun _ => by
        have hd : (r.start s).wf.snapshot.deadlineUnixMs = _ :=
          congrArg GameWorkflow.Control.deadlineUnixMs hcontrol
        rw [hd]
        rfl
      detected := fun _ => congrArg GameWorkflow.Control.detectedBadgeCount hcontrol
      counted := fun _ => rfl
      selecting := nofun
      due := nofun
      idle := fun _ _ => rfl }

/-- What an iteration's scheduling leaves of the invariant, whatever
phase it ends in. -/
theorem loopInvariant_scheduled {s : State} (h : LoopInvariant r s)
    (hphase : s.phase = .loopHead) :
    SameRound s.sweep (r.scheduled s) ∧ Scheduled r s (r.scheduled s) := by
  have hrun : s.phase.status ≠ .waiting := by simp [hphase, Phase.status]
  have hdetected : s.sweep.wf.snapshot.detectedBadgeCount = r.badges := h.detected hrun
  have hsched := scheduled_schedule (effectiveDeadline s) hdetected
  exact ⟨sameRound_schedule s.sweep _, ⟨hsched.counted, hsched.kept, hsched.idle⟩⟩

theorem loopInvariant_iterate {s : State} (h : LoopInvariant r s) (hphase : s.phase = .loopHead) :
    LoopInvariant r (r.iterate s) := by
  have hrun : s.phase.status ≠ .waiting := by simp [hphase, Phase.status]
  have hlive : s.phase.status ≠ .finished := by simp [hphase, Phase.status]
  have hstatus : s.wf.snapshot.status = .running := by rw [h.status, hphase]; rfl
  obtain ⟨hsame, hsched⟩ := loopInvariant_scheduled h hphase
  have hstatus' : (r.scheduled s).wf.snapshot.status = .running :=
    (congrArg GameWorkflow.Control.status hsame.control).trans hstatus
  have hgame' : (r.scheduled s).wf.snapshot.gameId = some r.input.gameId :=
    (congrArg GameWorkflow.Control.gameId hsame.control).trans (h.game hrun)
  have hdeadline' : (r.scheduled s).wf.snapshot.deadlineUnixMs.isSome = true :=
    (congrArg (Option.isSome ·.deadlineUnixMs) hsame.control).trans (h.deadline hrun)
  have hdetected' : (r.scheduled s).wf.snapshot.detectedBadgeCount = r.badges :=
    (congrArg GameWorkflow.Control.detectedBadgeCount hsame.control).trans (h.detected hrun)
  have hcounted' := hsched.counted (h.counted hlive)
  have hidle' : r.target = 0 → (r.scheduled s).deck.available = r.input.questions := fun hz => by
    rw [hsched.idle hz]
    exact h.idle hrun hz
  have hsoon : s.clock + min (effectiveDeadline s - s.clock) 1000
      ≤ (r.scheduled s).clock + 1000 := by
    have hclock : (r.scheduled s).clock = s.clock := hsame.clock
    omega
  have hit := iterated_iterate r s
  revert hit
  generalize r.iterate s = s'
  intro hit
  cases hit with
  | deadline _ =>
      exact ⟨hstatus, fun _ => h.game hrun, fun _ => h.deadline hrun, fun _ => h.detected hrun,
        fun _ => h.counted hlive, nofun, nofun, fun _ => h.idle hrun⟩
  | exhausted _ _ _ =>
      exact ⟨hstatus', fun _ => hgame', fun _ => hdeadline', fun _ => hdetected',
        fun _ => hcounted', nofun, nofun, fun _ => hidle'⟩
  | sleeping _ _ _ hdue =>
      refine ⟨hstatus', fun _ => hgame', fun _ => hdeadline', fun _ => hdetected',
        fun _ => hcounted', nofun, fun dueUnixMs hc => ?_, fun _ => hidle'⟩
      cases hc
      rw [hdue]
      exact hsoon
  | selecting _ hpending hdue =>
      refine ⟨hstatus', fun _ => hgame', fun _ => hdeadline', fun _ => hdetected',
        fun _ => hcounted', fun _ _ => hpending, fun dueUnixMs hc => ?_, fun _ => hidle'⟩
      cases hc
      rw [hdue]
      exact hsoon

theorem loopInvariant_complete {s : State} {dueUnixMs index : Nat} {outstanding : Outstanding}
    {result : Except String BadgeAnswer} (h : LoopInvariant r s)
    (hphase : s.phase = .selecting dueUnixMs) (hget : s.pending[index]? = some outstanding) :
    LoopInvariant r (s.complete index outstanding result) := by
  have hrun : s.phase.status ≠ .waiting := by simp [hphase, Phase.status]
  have hlive : s.phase.status ≠ .finished := by simp [hphase, Phase.status]
  have hcontrol := complete_control s index outstanding result
  obtain ⟨hpending, hcount, hdeck, _, _⟩ := locals_complete s index outstanding result
  have hindex : index < s.pending.length := (List.getElem?_eq_some_iff.mp hget).1
  have hcounted : (s.complete index outstanding result).pendingActivities
      = (s.complete index outstanding result).pending.length := by
    rw [hcount, hpending, h.counted hlive, List.length_eraseIdx_of_lt hindex]
  have hstatus : (s.complete index outstanding result).phase.status = .running := by
    rcases phase_complete s index outstanding result with hp | hp <;> rw [hp] <;> rfl
  have hdue : (s.complete index outstanding result).phase.due = none := by
    rcases phase_complete s index outstanding result with hp | hp <;> rw [hp] <;> rfl
  constructor
  · rw [hstatus]
    have hs : s.wf.snapshot.status = .running := by rw [h.status, hphase]; rfl
    exact (congrArg GameWorkflow.Control.status hcontrol).trans hs
  · intro _
    exact (congrArg GameWorkflow.Control.gameId hcontrol).trans (h.game hrun)
  · intro _
    exact (congrArg (Option.isSome ·.deadlineUnixMs) hcontrol).trans (h.deadline hrun)
  · intro _
    exact (congrArg GameWorkflow.Control.detectedBadgeCount hcontrol).trans (h.detected hrun)
  · exact fun _ => hcounted
  · intro dueUnixMs hc
    rw [hc] at hdue
    cases hdue
  · intro dueUnixMs hc
    rw [hc] at hdue
    cases hdue
  · intro _ hz
    rw [hdeck]
    exact h.idle hrun hz

/-- **The step lemma.** -/
theorem loopInvariant_step {s s' : State} {e : Event} (h : LoopInvariant r s)
    (hstep : r.step s e = some s') : LoopInvariant r s' := by
  cases transition_of_step hstep with
  | advance _ hle => exact h.keep rfl rfl hle rfl rfl rfl
  | badgeStarted _ =>
      exact h.keep rfl (GameWorkflow.control_badgeStarted s.wf _) (Nat.le_refl _) rfl rfl rfl
  | panicEvent _ => exact h.keep rfl rfl (Nat.le_refl _) rfl rfl rfl
  | recovered _ => exact h.keep rfl rfl (Nat.le_refl _) rfl rfl rfl
  | applyChaos _ _ => exact loopInvariant_applyChaos h _
  | endRound _ _ =>
      exact ⟨h.status, h.game, fun _ => rfl, h.detected, h.counted, h.selecting, h.due, h.idle⟩
  | start _ => exact loopInvariant_start s
  | iterate hphase => exact loopInvariant_iterate h hphase
  | @tick dueUnixMs hphase _ =>
      have hstatus : s.phase.status = .running := by
        revert hphase
        cases s.phase <;> simp [Phase.due, Phase.status]
      have hrun : s.phase.status ≠ .waiting := by rw [hstatus]; decide
      have hlive : s.phase.status ≠ .finished := by rw [hstatus]; decide
      exact ⟨h.status.trans hstatus, fun _ => h.game hrun, fun _ => h.deadline hrun,
        fun _ => h.detected hrun, fun _ => h.counted hlive, nofun, nofun,
        fun _ => h.idle hrun⟩
  | completed hphase hget => exact loopInvariant_complete h hphase hget
  | drained hphase hempty => exact absurd hempty (h.selecting _ hphase)
  | close hphase =>
      have hrun : s.phase.status ≠ .waiting := by simp [hphase, Phase.status]
      have hcontrol := close_control (r := r) s
      refine ⟨congrArg GameWorkflow.Control.status (hcontrol _ _), fun _ => ?_, fun _ => ?_,
        fun _ => ?_,
        fun hc => absurd rfl hc, nofun, nofun,
        fun _ => h.idle hrun⟩
      · exact (congrArg GameWorkflow.Control.gameId (hcontrol _ _)).trans (h.game hrun)
      · exact (congrArg (Option.isSome ·.deadlineUnixMs) (hcontrol _ _)).trans (h.deadline hrun)
      · exact (congrArg GameWorkflow.Control.detectedBadgeCount (hcontrol _ _)).trans
          (h.detected hrun)

theorem loopInvariant_reachable {s : State} (h : r.system.Reachable s) : LoopInvariant r s := by
  refine h.invariant ?_ fun s e s' hs hstep => loopInvariant_step hs hstep
  intro s₀ hinit
  rcases hinit with ⟨clock, rfl⟩
  exact ⟨rfl, fun hc => absurd rfl hc, fun hc => absurd rfl hc, fun hc => absurd rfl hc,
    fun _ => rfl,
    nofun, nofun, fun hc => absurd rfl hc⟩

end Round

end DurableTrivia.Web
