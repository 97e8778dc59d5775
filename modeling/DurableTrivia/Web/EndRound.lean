import DurableTrivia.Web.Modifiers
import DurableTrivia.Web.RoundInvariant

/-!
# EndRound — what an accepted `end_round` settles

`end_round` sets the deadline to now and relies on the run loop to read
it again. Up to the loop's next iteration the status is still running,
so further updates are validated and applied: the extension adds thirty
seconds to the deadline just set, and a second `end_round` moves it to
its own, later time. Nothing else can touch it (`Ended`), so these two
are exactly what keeps an accepted `end_round` from being final.
-/

namespace DurableTrivia.Web

open DurableTrivia.Shared DurableTrivia.Lib

/-- The loop is left behind. -/
def Phase.shut : Phase → Bool
  | .closing _ | .returned _ _ => true
  | .unstarted | .loopHead | .sleeping _ | .selecting _ => false

/-- There `run` waits for nothing. -/
theorem Phase.idle_of_shut {phase : Phase} (h : phase.shut = true) :
    ¬ phase.waiting = true ∧ ∀ dueUnixMs, ¬ phase.due = some dueUnixMs := by
  cases phase <;> simp_all [Phase.shut, Phase.waiting, Phase.due]

namespace Round

/-! ## Finality and its condition -/

/-- Histories here are those after the accepted update, latest first. -/
def iterated (later : List (State × Event)) : Bool :=
  later.any fun t => match t.2 with
    | .iterate => true
    | _ => false

/-- An event that leaves a deadline of `e` alone. -/
def leavesDeadline (e : Nat) (s : State) : Event → Bool
  | .applyChaos .extendThirtySeconds => false
  | .endRound => s.clock == e
  | _ => true

/-- Up to the loop's next iteration no extension is accepted, and no
`end_round` at another time. -/
def undisturbed (e : Nat) : List (State × Event) → Bool
  | [] => true
  | t :: earlier => undisturbed e earlier && (iterated earlier || leavesDeadline e t.1 t.2)

/-- The event is an update. -/
def isUpdate : Event → Bool
  | .applyChaos _ | .endRound => true
  | _ => false

/-- What a final `end_round`, accepted in state `s`, means for the events
`later` that follow it up to state `sN`. -/
structure EndRoundFinal (r : Round) (s : State) (later : List (State × Event)) (sN : State) :
    Prop where
  /-- no later update moves the deadline past it -/
  deadline : ∀ t ∈ later, isUpdate t.2 = true → ∀ s', r.step t.1 t.2 = some s' →
    ∀ d, s'.wf.snapshot.deadlineUnixMs = some d → d ≤ s.clock
  /-- no further question is scheduled -/
  schedule : sN.scheduledIds = s.scheduledIds
  /-- the loop breaks at its next iteration -/
  breaks : ∀ t ∈ later, t.2 = .iterate → (r.iterate t.1).phase = .closing .deadline

variable {r : Round}

/-! ## The state of an ended round -/

/-- The deadline is the time of the update, and the clock is there. -/
structure Ended (e : Nat) (ids : List String) (s : State) : Prop where
  deadline : s.wf.snapshot.deadlineUnixMs = some e
  reached : e ≤ s.clock
  started : s.phase ≠ .unstarted
  ids : s.scheduledIds = ids

/-- Behind the loop only `close` is left. -/
theorem shut_step {s s' : State} {event : Event} (h : s.phase.shut = true)
    (hstep : r.step s event = some s') :
    ∃ exit memoError, event = .close memoError ∧ s' = r.close s exit memoError := by
  have hidle := Phase.idle_of_shut h
  cases transition_of_step hstep with
  | close _ => exact ⟨_, _, rfl, rfl⟩
  | advance hwait _ => exact absurd hwait hidle.1
  | badgeStarted hwait => exact absurd hwait hidle.1
  | panicEvent hwait => exact absurd hwait hidle.1
  | recovered hwait => exact absurd hwait hidle.1
  | applyChaos hwait _ => exact absurd hwait hidle.1
  | endRound hwait _ => exact absurd hwait hidle.1
  | start hphase => simp [hphase, Phase.shut] at h
  | iterate hphase => simp [hphase, Phase.shut] at h
  | tick hphase _ => exact absurd hphase (hidle.2 _)
  | completed hphase _ => simp [hphase, Phase.shut] at h
  | drained hphase _ => simp [hphase, Phase.shut] at h

theorem Ended.close {e : Nat} {ids : List String} {s : State} (h : Ended e ids s) (exit : Exit)
    (memoError : Option String) : Ended e ids (r.close s exit memoError) :=
  { deadline := (congrArg GameWorkflow.Control.deadlineUnixMs
      (close_control s exit memoError)).trans h.deadline
    reached := h.reached
    started := nofun
    ids := (sameSchedule_close s exit memoError).ids.trans h.ids }

/-- At or past its deadline an iteration leaves the loop. -/
theorem iterate_at_deadline {s : State} (h : effectiveDeadline s ≤ s.clock) :
    r.iterate s = { s.sweep with phase := .closing .deadline } := by
  show (if effectiveDeadline s ≤ s.clock then { s.sweep with phase := .closing .deadline }
    else (r.scheduled s).await (effectiveDeadline s)) = _
  exact if_pos h

theorem Ended.due {e : Nat} {ids : List String} {s : State} (h : Ended e ids s) :
    effectiveDeadline s ≤ s.clock := by
  unfold effectiveDeadline
  rw [h.deadline]
  exact h.reached

/-- **The step lemma**: an event that leaves the deadline alone leaves
the round ended. -/
theorem Ended.step {e : Nat} {ids : List String} {s s' : State} {event : Event}
    (h : Ended e ids s) (hleave : leavesDeadline e s event = true)
    (hstep : r.step s event = some s') : Ended e ids s' := by
  have htr := transition_of_step hstep
  have hids : s'.scheduledIds = ids :=
    (sameSchedule_of_transition htr fun _ => h.due).ids.trans h.ids
  have hstarted : s'.phase ≠ .unstarted := started_step h.started hstep
  cases controlMove_of_transition htr with
  | kept hclock hcontrol =>
      exact ⟨(congrArg GameWorkflow.Control.deadlineUnixMs hcontrol).trans h.deadline,
        h.reached.trans hclock, hstarted, hids⟩
  | @chaos command he _ hclock hcontrol =>
      refine ⟨?_, hclock ▸ h.reached, hstarted, hids⟩
      have hd : s'.wf.snapshot.deadlineUnixMs
          = GameWorkflow.chaosDeadline s.wf.snapshot.deadlineUnixMs command :=
        congrArg GameWorkflow.Control.deadlineUnixMs hcontrol
      subst he
      cases command with
      | extendThirtySeconds => cases hleave
      | _ => exact hd.trans h.deadline
  | ended he _ hclock hcontrol =>
      subst he
      have hnow : s.clock = e := by simpa [leavesDeadline] using hleave
      refine ⟨?_, hclock ▸ h.reached, hstarted, hids⟩
      rw [show s'.wf.snapshot.deadlineUnixMs = some s.clock from
        congrArg GameWorkflow.Control.deadlineUnixMs hcontrol, hnow]
  | started _ hphase _ _ => exact absurd hphase h.started
  | swept _ hclock hcontrol =>
      exact ⟨(congrArg GameWorkflow.Control.deadlineUnixMs hcontrol).trans h.deadline,
        hclock ▸ h.reached, hstarted, hids⟩
  | closed _ hclock hcontrol =>
      exact ⟨(congrArg GameWorkflow.Control.deadlineUnixMs hcontrol).trans h.deadline,
        hclock ▸ h.reached, hstarted, hids⟩

/-- An update that does not leave the deadline alone moves it past `e`. -/
theorem Ended.disturbed {e : Nat} {ids : List String} {s s' : State} {event : Event}
    (h : Ended e ids s) (hmoves : leavesDeadline e s event = false)
    (hstep : r.step s event = some s') :
    isUpdate event = true ∧ ∃ d, s'.wf.snapshot.deadlineUnixMs = some d ∧ e < d := by
  cases event with
  | applyChaos command =>
      cases command with
      | extendThirtySeconds =>
          cases transition_of_step hstep with
          | applyChaos _ _ =>
              refine ⟨rfl, e + gameExtensionMs, ?_, Nat.lt_add_of_pos_right (by decide)⟩
              rw [GameWorkflow.applyChaos_deadline, h.deadline]
              rfl
      | _ => cases hmoves
  | endRound =>
      have hother : s.clock ≠ e := by simpa [leavesDeadline] using hmoves
      cases transition_of_step hstep with
      | endRound _ _ =>
          exact ⟨rfl, s.clock, rfl, Nat.lt_of_le_of_ne h.reached (Ne.symm hother)⟩
  | _ => cases hmoves

/-! ## The run after the update -/

/-- What holds along an undisturbed continuation. -/
structure Closing (e : Nat) (ids : List String) (later : List (State × Event)) (s : State) :
    Prop where
  ended : Ended e ids s
  shut : iterated later = true → s.phase.shut = true

theorem Closing.step {e : Nat} {ids : List String} {later : List (State × Event)} {s s' : State}
    {event : Event} (h : Closing e ids later s)
    (hleave : iterated later = true ∨ leavesDeadline e s event = true)
    (hstep : r.step s event = some s') : Closing e ids ((s, event) :: later) s' := by
  by_cases hit : iterated later = true
  · obtain ⟨exit, memoError, rfl, rfl⟩ := shut_step (h.shut hit) hstep
    exact ⟨h.ended.close exit memoError, fun _ => rfl⟩
  · have hended := h.ended.step (hleave.resolve_left hit) hstep
    refine ⟨hended, fun hnow => ?_⟩
    have hiter : event = .iterate := by
      simp only [iterated, List.any_cons, Bool.or_eq_true] at hnow
      rcases hnow with hnow | hnow
      · cases event <;> simp_all
      · exact absurd hnow hit
    subst hiter
    cases transition_of_step hstep with
    | iterate _ =>
        rw [iterate_at_deadline h.ended.due]
        rfl

/-- **The run lemma**: an undisturbed continuation stays closing. -/
theorem closing_path {e : Nat} {ids : List String} {s' sN : State}
    {later : List (State × Event)} (h0 : Ended e ids s') (hp : r.system.Path s' later sN)
    (hund : undisturbed e later = true) : Closing e ids later sN := by
  induction hp with
  | nil => exact ⟨h0, nofun⟩
  | @snoc later s₁ s₂ event _ hstep ih =>
      have hstep : r.step s₁ event = some s₂ := hstep
      simp only [undisturbed, Bool.and_eq_true, Bool.or_eq_true] at hund
      exact (ih hund.1).step hund.2 hstep

/-- Along an undisturbed continuation the promises are kept. -/
theorem endRoundFinal_of_undisturbed {s s' sN : State} {later : List (State × Event)}
    (h0 : Ended s.clock s.scheduledIds s') (hp : r.system.Path s' later sN)
    (hund : undisturbed s.clock later = true) : EndRoundFinal r s later sN := by
  induction hp with
  | nil =>
      exact ⟨fun _ ht => absurd ht List.not_mem_nil, h0.ids,
        fun _ ht => absurd ht List.not_mem_nil⟩
  | @snoc later s₁ s₂ event hp hstep ih =>
      have hnext := closing_path h0 (hp.snoc hstep) hund
      simp only [undisturbed, Bool.and_eq_true, Bool.or_eq_true] at hund
      have hclosing := closing_path h0 hp hund.1
      have hbefore := ih hund.1
      refine ⟨?_, hnext.ended.ids, ?_⟩
      · intro t ht hupdate s'' hs'' d hd
        rcases List.mem_cons.mp ht with heq | ht
        · -- the update just applied left the deadline where it was
          subst heq
          have hs : r.step s₁ event = some s'' := hs''
          rw [show r.step s₁ event = some s₂ from hstep] at hs
          cases hs
          rw [hnext.ended.deadline] at hd
          cases hd
          exact Nat.le_refl _
        · exact hbefore.deadline t ht hupdate s'' hs'' d hd
      · intro t ht hiter
        rcases List.mem_cons.mp ht with heq | ht
        · subst heq
          rw [iterate_at_deadline hclosing.ended.due]
        · exact hbefore.breaks t ht hiter

/-- The first disturbance moves the deadline past the update. -/
theorem disturbed_path {e : Nat} {ids : List String} {s' sN : State}
    {later : List (State × Event)} (h0 : Ended e ids s') (hp : r.system.Path s' later sN)
    (hdist : undisturbed e later = false) :
    ∃ t ∈ later, isUpdate t.2 = true ∧ ∃ s'', r.step t.1 t.2 = some s''
      ∧ ∃ d, s''.wf.snapshot.deadlineUnixMs = some d ∧ e < d := by
  induction hp with
  | nil => cases hdist
  | @snoc later s₁ s₂ event hp hstep ih =>
      cases hund : undisturbed e later with
      | false =>
          obtain ⟨t, ht, hrest⟩ := ih hund
          exact ⟨t, List.mem_cons_of_mem _ ht, hrest⟩
      | true =>
          have hclosing := closing_path h0 hp hund
          simp only [undisturbed, hund, Bool.true_and, Bool.or_eq_false_iff] at hdist
          obtain ⟨hupdate, hmoved⟩ := hclosing.ended.disturbed hdist.2 hstep
          exact ⟨(s₁, event), List.mem_cons_self, hupdate, s₂, hstep, hmoved⟩

/-! ## When an accepted `end_round` is final -/

/-- A round that accepts `end_round` waits for a timer, at most a second
ahead. -/
theorem due_of_running {s : State} (h : r.system.Reachable s)
    (hwait : s.phase.waiting = true) (hrun : s.wf.snapshot.status = .running) :
    ∃ dueUnixMs, s.phase.due = some dueUnixMs ∧ dueUnixMs ≤ s.clock + 1000 := by
  have hinv := loopInvariant_reachable h
  have hstatus : s.phase.status = .running := hinv.status.symm.trans hrun
  have hdue : ∃ dueUnixMs, s.phase.due = some dueUnixMs := by
    revert hwait hstatus
    cases s.phase <;> simp [Phase.waiting, Phase.status, Phase.due]
  obtain ⟨dueUnixMs, hd⟩ := hdue
  exact ⟨dueUnixMs, hd, hinv.due dueUnixMs hd⟩

/-- **An accepted `end_round` is final exactly when nothing moves the
deadline again before the loop's next iteration**, which the pending
timer brings within a second. -/
theorem end_round_final_iff {earlier later : List (State × Event)} {s sN : State}
    (hrun : r.system.Run (later ++ (s, .endRound) :: earlier) sN) :
    (∃ dueUnixMs, s.phase.due = some dueUnixMs ∧ dueUnixMs ≤ s.clock + 1000)
      ∧ (EndRoundFinal r s later sN ↔ undisturbed s.clock later = true) := by
  obtain ⟨s₀, hinit, hpath⟩ := hrun
  obtain ⟨hbefore, s', hstep, hafter⟩ := hpath.split
  have hstep : r.step s .endRound = some s' := hstep
  have hreach : r.system.Reachable s := ⟨earlier, s₀, hinit, hbefore⟩
  cases transition_of_step hstep with
  | endRound hwait hvalid =>
      have hstarted : s.phase ≠ .unstarted := fun hc => by
        have hstatus := (loopInvariant_reachable hreach).status
        rw [hvalid, hc] at hstatus
        cases hstatus
      have h0 : Ended s.clock s.scheduledIds { s with wf := s.wf.endRound s.clock } :=
        ⟨rfl, Nat.le_refl _, hstarted, rfl⟩
      refine ⟨due_of_running hreach hwait hvalid, fun hfinal => ?_, fun hund => ?_⟩
      · by_contra hnot
        obtain ⟨t, ht, hupdate, s'', hs'', d, hd, hlt⟩ :=
          disturbed_path h0 hafter (by simpa using hnot)
        exact absurd (hfinal.deadline t ht hupdate s'' hs'' d hd) (Nat.not_le.mpr hlt)
      · exact endRoundFinal_of_undisturbed h0 hafter hund

/-- The round of `quietRound`, with one badge to play it. -/
def busyRound : Round :=
  { quietRound with input := { quietRound.input with detectedBadgeCount := some 1 } }

/-- Ended after half a second, and closed at the next tick. -/
theorem end_round_final_iff_busy :
    ∃ earlier s later sN, busyRound.system.Run (later ++ (s, .endRound) :: earlier) sN
      ∧ later.length = 4 ∧ EndRoundFinal busyRound s later sN := by
  obtain ⟨earlier, s, later, sN, hrun, htest⟩ := StepSystem.exists_run_around
    (S := busyRound.system) { clock := 0 }
    [.start, .iterate, .advance 500] .endRound
    [.advance 1000, .tick, .iterate, .close none]
    (fun run => undisturbed run.1.2.clock run.2.1 && run.2.1.length == 4)
    ⟨0, rfl⟩ (by decide +kernel)
  simp only [Bool.and_eq_true, beq_iff_eq] at htest
  exact ⟨earlier, s, later, sN, hrun, htest.2, (end_round_final_iff hrun).2.mpr htest.1⟩

/-- A badge's answer to the demo's first question. -/
def demoAnswer : BadgeAnswer :=
  { badgeId := "badge-a", callsign := "A", questionId := "demo-go", selectedIndex := 0 }

/-- **An extension accepted after `end_round` revives the round**: the
deadline moves past the update, and the next iteration deals on. -/
theorem extension_revives_ended_round :
    ∃ earlier s later sN, busyRound.system.Run (later ++ (s, .endRound) :: earlier) sN
      ∧ s.clock = 500 ∧ sN.wf.snapshot.deadlineUnixMs = some 30500
      ∧ s.scheduledIds = ["demo-go"] ∧ sN.scheduledIds = ["demo-go", "demo-rust"]
      ∧ ¬ EndRoundFinal busyRound s later sN := by
  obtain ⟨earlier, s, later, sN, hrun, htest⟩ := StepSystem.exists_run_around
    (S := busyRound.system) { clock := 0 }
    [.start, .iterate, .advance 500] .endRound
    [.applyChaos .extendThirtySeconds, .completed 0 (.ok demoAnswer), .iterate]
    (fun run => run.1.2.clock == 500
      && run.2.2.wf.snapshot.deadlineUnixMs == some 30500
      && run.1.2.scheduledIds == ["demo-go"]
      && run.2.2.scheduledIds == ["demo-go", "demo-rust"])
    ⟨0, rfl⟩ (by decide +kernel)
  simp only [Bool.and_eq_true, beq_iff_eq] at htest
  obtain ⟨⟨⟨hclock, hdeadline⟩, hbefore⟩, hafter⟩ := htest
  refine ⟨earlier, s, later, sN, hrun, hclock, hdeadline, hbefore, hafter, fun hfinal => ?_⟩
  have hsame := hfinal.schedule
  rw [hbefore, hafter] at hsame
  exact absurd hsame (by decide)

end Round

end DurableTrivia.Web
