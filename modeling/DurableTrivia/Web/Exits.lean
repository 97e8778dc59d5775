import DurableTrivia.Web.EndRound

/-!
# Exits — a round ends only for a stated reason

Two of the four ways out of the loop are dead code: a deck copied from a
non-empty template cannot run dry while nothing is pending, and
`select_biased!` is only entered with something pending. The other two
are the deadline and a correct answer under sudden death; the latter
closes the round in the very step that books the answer, so it is the
last one booked.
-/

namespace DurableTrivia.Web

open DurableTrivia.Shared DurableTrivia.Lib

/-- A correct answer booked by a transition. -/
def recordsCorrect (t : State × Event) : Bool :=
  (recordedAnswer t).any (·.wasCorrect)

namespace Round
variable {r : Round}

/-- The two reasons to leave the loop. -/
inductive LeftFor (s : State) : Event → Exit → Prop
  | deadline {deadlineUnixMs : Nat} (hset : s.wf.snapshot.deadlineUnixMs = some deadlineUnixMs)
      (hdue : deadlineUnixMs ≤ s.clock) : LeftFor s .iterate .deadline
  | suddenDeath {index : Nat} {answer : BadgeAnswer} {outstanding : Outstanding}
      (hget : s.pending[index]? = some outstanding)
      (hwell : GameWorkflow.wellFormed outstanding.question answer = true)
      (hcorrect : answer.selectedIndex = outstanding.question.correctIndex)
      (hsudden : s.wf.snapshot.chaos.suddenDeath = true) :
      LeftFor s (.completed index (.ok answer)) .suddenDeath

/-! ## The dead exits -/

/-- **An iteration that goes on has something to wait for.** -/
theorem scheduled_leaves {s : State} (h : LoopInvariant r s) (hphase : s.phase = .loopHead)
    (hne : r.input.questions ≠ []) :
    (r.scheduled s).pending ≠ [] ∨ (r.scheduled s).deck.available ≠ [] := by
  have hrun : s.phase.status ≠ .waiting := by simp [hphase, Phase.status]
  have hlive : s.phase.status ≠ .finished := by simp [hphase, Phase.status]
  have hsched := (loopInvariant_scheduled h hphase).2
  by_cases htarget : r.target = 0
  · -- nothing is ever dealt
    refine .inr ?_
    rw [hsched.idle htarget, h.idle hrun htarget]
    exact hne
  · by_cases hfull : r.target ≤ s.pendingActivities
    · -- every slot is taken
      refine .inl fun hnil => ?_
      have hkept := hsched.kept
      rw [hnil, List.prefix_nil] at hkept
      have hcount := h.counted hlive
      rw [hkept, List.length_nil] at hcount
      omega
    · have hdetected : s.sweep.wf.snapshot.detectedBadgeCount = r.badges := h.detected hrun
      unfold scheduled schedule
      dsimp only
      rw [activityTarget_eq hdetected]
      exact scheduleQuestions_leaves hne (Nat.sub_pos_of_lt (Nat.not_le.mp hfull))

/-! ## The two exits -/

theorem phase_complete_ok (s : State) (index : Nat) (outstanding : Outstanding)
    (answer : BadgeAnswer) :
    (s.complete index outstanding (.ok answer)).phase =
      if (s.wf.recordAnswer outstanding.question answer s.clock).2 then .closing .suddenDeath
      else .loopHead := rfl

/-- **The step lemma**: a step that leaves the loop has one of the two
reasons. -/
theorem leftFor_of_step {s s' : State} {e : Event} {exit : Exit} (h : LoopInvariant r s)
    (hne : r.input.questions ≠ []) (hstep : r.step s e = some s')
    (hexit : s'.phase = .closing exit) : LeftFor s e exit := by
  have hwaits : s.phase.waiting = true → s.phase ≠ .closing exit := by
    intro hwait hc
    simp [hc, Phase.waiting] at hwait
  cases transition_of_step hstep with
  | advance hwait _ => exact absurd hexit (hwaits hwait)
  | badgeStarted hwait => exact absurd hexit (hwaits hwait)
  | panicEvent hwait => exact absurd hexit (hwaits hwait)
  | recovered hwait => exact absurd hexit (hwaits hwait)
  | applyChaos hwait _ => exact absurd hexit (hwaits hwait)
  | endRound hwait _ => exact absurd hexit (hwaits hwait)
  | start _ => cases hexit
  | iterate hphase =>
      have hrun : s.phase.status ≠ .waiting := by simp [hphase, Phase.status]
      have hit := iterated_iterate r s
      revert hit hexit
      generalize r.iterate s = s'
      intro hexit hit
      cases hit with
      | deadline hdue =>
          cases hexit
          obtain ⟨deadlineUnixMs, hset⟩ := Option.isSome_iff_exists.mp (h.deadline hrun)
          refine .deadline hset ?_
          simpa [effectiveDeadline, hset] using hdue
      | exhausted _ hpending hdeck =>
          rcases scheduled_leaves h hphase hne with hleft | hleft
          · exact absurd hpending hleft
          · exact absurd hdeck hleft
      | sleeping _ _ _ _ => cases hexit
      | selecting _ _ _ => cases hexit
  | tick _ _ => cases hexit
  | @completed _ index outstanding result _ hget =>
      cases result with
      | error error => cases hexit
      | ok answer =>
          rw [phase_complete_ok] at hexit
          split at hexit
          · next hends =>
              cases hexit
              obtain ⟨hwell, hsudden, hcorrect⟩ :=
                (GameWorkflow.recordAnswer_ends s.wf s.clock outstanding.question answer).mp hends
              exact .suddenDeath hget hwell hcorrect hsudden
          · cases hexit
  | drained hphase hempty => exact absurd hempty (h.selecting _ hphase)
  | close _ => cases hexit

/-- A loop that was left was left for one of the two. -/
structure ExitInvariant (r : Round) (s : State) : Prop where
  loop : LoopInvariant r s
  closing : ∀ exit, s.phase = .closing exit → exit = .deadline ∨ exit = .suddenDeath
  returned : ∀ exit result, s.phase = .returned exit result →
    exit = .deadline ∨ exit = .suddenDeath

theorem exitInvariant_reachable {s : State} (hne : r.input.questions ≠ [])
    (h : r.system.Reachable s) : ExitInvariant r s := by
  refine h.invariant ?_ ?_
  · intro s₀ hinit
    rcases hinit with ⟨clock, rfl⟩
    have hinit : r.system.Run [] { clock } := .nil ⟨clock, rfl⟩
    refine ⟨loopInvariant_reachable hinit.reachable, fun _ hc => ?_, fun _ _ hc => ?_⟩
    · cases hc
    · cases hc
  · intro s e s' hs hstep
    have hstep : r.step s e = some s' := hstep
    refine ⟨loopInvariant_step hs.loop hstep, fun exit hexit => ?_, fun exit result hexit => ?_⟩
    · cases leftFor_of_step hs.loop hne hstep hexit with
      | deadline _ _ => exact .inl rfl
      | suddenDeath _ _ _ _ => exact .inr rfl
    · exact hs.closing exit (closing_of_returned hstep hexit)

/-! ## Sudden death -/

/-- Under sudden death, in a round that has started. -/
structure Sudden (s : State) : Prop where
  started : s.phase ≠ .unstarted
  sudden : s.wf.snapshot.chaos.suddenDeath = true

/-- Sudden death is never lifted. -/
theorem Sudden.step {s s' : State} {e : Event} (h : Sudden s) (hstep : r.step s e = some s') :
    Sudden s' := by
  refine ⟨started_step h.started hstep, ?_⟩
  have hchaos : ∀ {control : GameWorkflow.Control}, s'.wf.control = control →
      control.chaos.suddenDeath = true → s'.wf.snapshot.chaos.suddenDeath = true := by
    intro control hcontrol hsudden
    rw [show s'.wf.snapshot.chaos = control.chaos from
      congrArg GameWorkflow.Control.chaos hcontrol]
    exact hsudden
  cases controlMove_of_transition (transition_of_step hstep) with
  | kept _ hcontrol => exact hchaos hcontrol h.sudden
  | @chaos command _ _ _ hcontrol =>
      refine hchaos hcontrol ?_
      cases command <;> first | exact h.sudden | rfl
  | ended _ _ _ hcontrol => exact hchaos hcontrol h.sudden
  | started _ hphase _ _ => exact absurd hphase h.started
  | swept _ _ hcontrol => exact hchaos hcontrol h.sudden
  | closed _ _ hcontrol => exact hchaos hcontrol h.sudden

theorem phase_of_recordsCorrect {s s' : State} {e : Event} (h : Sudden s)
    (hrec : recordsCorrect (s, e) = true) (hstep : r.step s e = some s') :
    s'.phase.shut = true := by
  cases transition_of_step hstep with
  | @completed _ index outstanding result _ hget =>
      cases result with
      | error error => cases hrec
      | ok answer =>
          simp only [recordsCorrect, recordedAnswer, hget, Option.bind_some] at hrec
          split at hrec
          · next hwell =>
              have hcorrect : answer.selectedIndex = outstanding.question.correctIndex := by
                simpa using hrec
              have hends := (GameWorkflow.recordAnswer_ends s.wf s.clock outstanding.question
                answer).mpr ⟨hwell, h.sudden, hcorrect⟩
              rw [phase_complete_ok, hends]
              rfl
          · cases hrec
  | _ => cases hrec

/-- Behind the loop nothing is recorded. -/
theorem recordedAnswer_of_shut {s' sN : State} {later : List (State × Event)}
    (hshut : s'.phase.shut = true) (hp : r.system.Path s' later sN) :
    sN.phase.shut = true ∧ ∀ t ∈ later, recordedAnswer t = none := by
  induction hp with
  | nil => exact ⟨hshut, fun _ ht => absurd ht List.not_mem_nil⟩
  | @snoc later s₁ s₂ event _ hstep ih =>
      have hstep : r.step s₁ event = some s₂ := hstep
      obtain ⟨exit, memoError, rfl, rfl⟩ := shut_step ih.1 hstep
      refine ⟨rfl, fun t ht => ?_⟩
      rcases List.mem_cons.mp ht with rfl | ht
      · rfl
      · exact ih.2 t ht

/-- **The run lemma**: under sudden death nothing is recorded after a
correct answer. -/
theorem recorded_last {s' sN : State} {later : List (State × Event)}
    (after : List (State × Event)) (t : State × Event) (before : List (State × Event))
    (h : Sudden s') (hp : r.system.Path s' later sN)
    (hsplit : later = after ++ t :: before) (hrec : recordsCorrect t = true) :
    ∀ t' ∈ after, recordedAnswer t' = none := by
  subst hsplit
  obtain ⟨hbefore, s₂, hstep, hafter⟩ := hp.split
  have hstep : r.step t.1 t.2 = some s₂ := hstep
  have hsudden : Sudden t.1 := hbefore.preserves h fun s e s' hs hstep => hs.step hstep
  exact (recordedAnswer_of_shut (phase_of_recordsCorrect hsudden hrec hstep) hafter).2

/-- Where every hit ends the list, there is at most one. -/
theorem length_filter_le_one {α : Type*} {p : α → Bool} {l : List α}
    (h : ∀ after t before, l = after ++ t :: before → p t = true → ∀ t' ∈ after, p t' = false) :
    (l.filter p).length ≤ 1 := by
  induction l with
  | nil => simp
  | cons a l ih =>
      have htail := ih fun after t before hl ht t' ht' =>
        h (a :: after) t before (by rw [hl, List.cons_append]) ht t' (List.mem_cons_of_mem _ ht')
      cases ha : p a with
      | false => simpa [ha] using htail
      | true =>
          have hnone : l.filter p = [] := by
            refine List.filter_eq_nil_iff.mpr fun b hb hpb => ?_
            obtain ⟨after, before, rfl⟩ := List.append_of_mem hb
            have hfirst := h (a :: after) b before rfl hpb a List.mem_cons_self
            rw [ha] at hfirst
            cases hfirst
          simp [ha, hnone]

/-! ## A round ends only for a stated reason -/

/-- **A round with questions ends only for a stated reason**: the loop is
left at the deadline or by a correct answer under sudden death, and for
no other; after sudden death at most one more correct answer is booked,
and nothing after it; an answer that is wrong or malformed leads back to
the loop. -/
theorem round_ends_for_a_reason (r : Round) (hne : r.input.questions ≠ []) :
    (∀ s e s' exit, r.system.Reachable s → r.step s e = some s' → s'.phase = .closing exit →
        LeftFor s e exit)
      ∧ (∀ s exit, r.system.Reachable s →
          (s.phase = .closing exit ∨ ∃ result, s.phase = .returned exit result) →
          exit = .deadline ∨ exit = .suddenDeath)
      ∧ (∀ earlier later s sN,
          r.system.Run (later ++ (s, .applyChaos .suddenDeath) :: earlier) sN →
          (later.filter recordsCorrect).length ≤ 1
            ∧ ∀ after t before, later = after ++ t :: before → recordsCorrect t = true →
                ∀ t' ∈ after, recordedAnswer t' = none)
      ∧ (∀ s index answer s', r.system.Reachable s →
          r.step s (.completed index (.ok answer)) = some s' →
          recordsCorrect (s, .completed index (.ok answer)) = false → s'.phase = .loopHead) := by
  refine ⟨?_, ?_, ?_, ?_⟩
  · intro s e s' exit hreach hstep hexit
    exact leftFor_of_step (loopInvariant_reachable hreach) hne hstep hexit
  · rintro s exit hreach (hexit | ⟨result, hexit⟩)
    · exact (exitInvariant_reachable hne hreach).closing exit hexit
    · exact (exitInvariant_reachable hne hreach).returned exit result hexit
  · rintro earlier later s sN ⟨s₀, hinit, hpath⟩
    obtain ⟨hbefore, s', hstep, hafter⟩ := hpath.split
    have hstep : r.step s (.applyChaos .suddenDeath) = some s' := hstep
    have hinv := loopInvariant_reachable ⟨earlier, s₀, hinit, hbefore⟩
    have hsudden : Sudden s' := by
      cases transition_of_step hstep with
      | applyChaos _ hvalid =>
          refine ⟨fun hc => ?_, rfl⟩
          have hrun := (GameWorkflow.validateApplyChaos_ok hvalid).1
          rw [hinv.status, show s.phase = .unstarted from hc] at hrun
          cases hrun
    have hlast := fun after t before hl ht =>
      recorded_last after t before hsudden hafter hl ht
    refine ⟨length_filter_le_one fun after t before hl ht t' ht' => ?_, hlast⟩
    unfold recordsCorrect
    rw [hlast after t before hl ht t' ht']
    rfl
  · intro s index answer s' hreach hstep hrec
    cases transition_of_step hstep with
    | @completed _ _ outstanding _ _ hget =>
        rcases phase_complete s index outstanding (.ok answer) with hphase | hphase
        · exact hphase
        · -- leaving the loop means a correct answer was recorded
          have hleft := leftFor_of_step (loopInvariant_reachable hreach) hne hstep hphase
          cases hleft with
          | suddenDeath hget' hwell hcorrect _ =>
              rw [hget] at hget'
              cases hget'
              simp [recordsCorrect, recordedAnswer, hget, hwell, hcorrect] at hrec

/-- The exit of a round that left its loop and has not returned. -/
def leaving : Phase → Option Exit
  | .closing exit => some exit
  | .unstarted | .loopHead | .sleeping _ | .selecting _ | .returned _ _ => none

theorem leaving_eq_some {phase : Phase} {exit : Exit} :
    leaving phase = some exit ↔ phase = .closing exit := by
  cases phase <;> simp [leaving]

/-- Sudden death, one correct answer, and the round is closing. -/
theorem round_ends_for_a_reason_busy :
    ∃ s, busyRound.system.Reachable s ∧ s.phase = .closing .suddenDeath
      ∧ ∀ s' exit, busyRound.system.Reachable s' → s'.phase = .closing exit →
          exit = .deadline ∨ exit = .suddenDeath := by
  obtain ⟨hist, s, hrun, htest⟩ := StepSystem.exists_run_of_exec (S := busyRound.system)
    { clock := 0 }
    [.start, .iterate, .applyChaos .suddenDeath, .completed 0 (.ok demoAnswer)]
    (fun result => leaving result.2.phase == some .suddenDeath) ⟨0, rfl⟩ (by decide +kernel)
  refine ⟨s, hrun.reachable, leaving_eq_some.mp (by simpa using htest),
    fun s' exit hreach hexit => ?_⟩
  · exact (round_ends_for_a_reason busyRound (List.cons_ne_nil _ _)).2.1 s' exit hreach
      (.inl hexit)

end Round

end DurableTrivia.Web
