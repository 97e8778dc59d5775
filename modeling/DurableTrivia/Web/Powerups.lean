import DurableTrivia.Web.Recovery

/-!
# Powerups — the numbers of the accepted updates

Every accepted `apply_chaos` numbers its notice with the next `u32`,
saturating: the `k`-th accepted update carries the number `k`, up to the
last of a `u32`. Timed modifiers exclude each other for their ten seconds,
and sudden death and the extension are accepted once, so a round cannot
accept more than its clock has room for (`Paced`). The numbers run out
after some 1361 years of power-ups, and in a round that lasts as long they
do (`Resting.powerups`).
-/

namespace DurableTrivia.Web

open DurableTrivia.Shared DurableTrivia.Lib

/-- A transition that accepts a power-up; a rejected update is no event. -/
def acceptsChaos (t : State × Event) : Bool :=
  match t.2 with
  | .applyChaos _ => true
  | _ => false

/-- How many power-ups were accepted. -/
def powerups (hist : List (State × Event)) : Nat := hist.countP acceptsChaos

/-- The latest of the clock and the stored expiry times. -/
def horizon (chaos : ChaosState) (clock : Nat) : Nat :=
  max clock (max (chaos.doublePointsUntilUnixMs.getD 0) (chaos.rustOnlyUntilUnixMs.getD 0))

/-- There was time for the accepted power-ups: ten seconds for each timed
one, and the other two once each. -/
structure Paced (chaos : ChaosState) (clock accepted : Nat) : Prop where
  spent : ∃ timed, accepted = timed + chaos.suddenDeath.toNat + chaos.extensionUsed.toNat
    ∧ chaosDurationMs * timed ≤ horizon chaos clock
  near : horizon chaos clock ≤ clock + chaosDurationMs

namespace Paced
variable {chaos : ChaosState} {clock accepted : Nat}

theorem bound (h : Paced chaos clock accepted) :
    chaosDurationMs * accepted ≤ clock + 3 * chaosDurationMs := by
  obtain ⟨⟨timed, haccepted, htimed⟩, hnear⟩ := h
  have hsudden : chaos.suddenDeath.toNat ≤ 1 := Bool.toNat_le _
  have hextension : chaos.extensionUsed.toNat ≤ 1 := Bool.toNat_le _
  unfold chaosDurationMs at *
  omega

/-- Time passing leaves more room. -/
theorem later (h : Paced chaos clock accepted) {now : Nat} (hle : clock ≤ now) :
    Paced chaos now accepted := by
  obtain ⟨⟨timed, haccepted, htimed⟩, hnear⟩ := h
  unfold horizon at *
  exact ⟨⟨timed, haccepted, by unfold horizon; omega⟩, by unfold horizon; omega⟩

/-- A sweep forgets only what the clock has passed. -/
theorem horizon_swept (control : GameWorkflow.Control) (clock : Nat) :
    horizon (Round.sweptControl control clock).chaos clock = horizon control.chaos clock := by
  have hkept : ∀ untilUnixMs : Option Nat,
      max clock ((keepUnexpired untilUnixMs clock).getD 0) = max clock (untilUnixMs.getD 0) := by
    intro untilUnixMs
    cases untilUnixMs with
    | none => rfl
    | some u =>
        by_cases hu : clock < u
        · simp [keepUnexpired, Option.filter_some, hu]
        · simp only [keepUnexpired, Option.filter_some, hu, decide_false, Bool.false_eq_true,
            if_false, Option.getD_none, Option.getD_some]
          omega
  have hdouble := hkept control.chaos.doublePointsUntilUnixMs
  have hrust := hkept control.chaos.rustOnlyUntilUnixMs
  show max clock (max ((keepUnexpired control.chaos.doublePointsUntilUnixMs clock).getD 0)
    ((keepUnexpired control.chaos.rustOnlyUntilUnixMs clock).getD 0)) = max clock (max _ _)
  omega

theorem swept {control : GameWorkflow.Control} (h : Paced control.chaos clock accepted) :
    Paced (Round.sweptControl control clock).chaos clock accepted := by
  obtain ⟨⟨timed, haccepted, htimed⟩, hnear⟩ := h
  rw [← horizon_swept control clock] at htimed hnear
  exact ⟨⟨timed, haccepted, htimed⟩, hnear⟩

/-- A modifier that lasts ten seconds from now. -/
theorem lasting {next : ChaosState} {timed : Nat} (hroom : chaosDurationMs * timed ≤ clock)
    (hcount : accepted = timed + next.suddenDeath.toNat + next.extensionUsed.toNat)
    (hnext : horizon next clock = clock + chaosDurationMs) : Paced next clock (accepted + 1) := by
  refine ⟨⟨timed + 1, ?_, ?_⟩, Nat.le_of_eq hnext⟩
  · omega
  · rw [hnext]
    unfold chaosDurationMs at *
    omega

/-- **An accepted update had the room it takes.** -/
theorem applyChaos {wf : GameWorkflow} {command : ChaosCommand}
    (h : Paced wf.snapshot.chaos clock accepted) (hone : OneModifier wf.control clock)
    (hvalid : wf.validateApplyChaos command = .ok ()) :
    Paced (wf.applyChaos clock command).snapshot.chaos clock (accepted + 1) := by
  obtain ⟨⟨timed, haccepted, htimed⟩, hnear⟩ := h
  obtain ⟨_, ⟨rfl, hunused⟩ | ⟨hmod, hnone⟩⟩ := GameWorkflow.validateApplyChaos_ok hvalid
  · refine ⟨⟨timed, ?_, htimed⟩, hnear⟩
    rw [haccepted, hunused]
    show _ = timed + wf.snapshot.chaos.suddenDeath.toNat + 1
    rfl
  · obtain ⟨hdouble, hrust, hsudden⟩ := (activeModifier_none_iff hone).mp hnone
    have hclock : horizon wf.snapshot.chaos clock = clock := by
      unfold horizon
      rw [hdouble, hrust]
      simp
    rw [hclock] at htimed
    cases command with
    | extendThirtySeconds => exact absurd rfl hmod
    | doublePoints =>
        refine lasting htimed haccepted ?_
        show max clock
          (max (clock + chaosDurationMs) (wf.snapshot.chaos.rustOnlyUntilUnixMs.getD 0))
          = _
        rw [hrust, Option.getD_none]
        omega
    | rustOnly =>
        refine lasting htimed haccepted ?_
        show max clock (max (wf.snapshot.chaos.doublePointsUntilUnixMs.getD 0)
          (clock + chaosDurationMs)) = _
        rw [hdouble, Option.getD_none]
        omega
    | suddenDeath =>
        have hnext : horizon (wf.applyChaos clock .suddenDeath).snapshot.chaos clock = clock :=
          hclock
        refine ⟨⟨timed, ?_, ?_⟩, ?_⟩
        · show accepted + 1 = timed + 1 + wf.snapshot.chaos.extensionUsed.toNat
          rw [hsudden, Bool.toNat_false] at haccepted
          omega
        · rw [hnext]
          exact htimed
        · rw [hnext]
          omega

end Paced

namespace Round
variable {r : Round}

/-- What the number of a round says when `accepted` updates were accepted. -/
structure Numbered (accepted : Nat) (s : State) : Prop where
  fresh : s.phase = .unstarted → accepted = 0
  sequence : powerupSequence s.wf.snapshot.chaos = min accepted (2 ^ 32 - 1)
  paced : Paced s.wf.snapshot.chaos s.clock accepted

variable {accepted : Nat} {s s' : State} {e : Event} {command : ChaosCommand}

/-- An accepted update takes the next number. -/
theorem Numbered.next (h : Numbered accepted s) (hone : OneModifier s.wf.control s.clock)
    (hstarted : s.phase ≠ .unstarted) (hvalid : s.wf.validateApplyChaos command = .ok ()) :
    Numbered (accepted + 1) { s with wf := s.wf.applyChaos s.clock command } := by
  refine ⟨fun hphase => absurd hphase hstarted, ?_, h.paced.applyChaos hone hvalid⟩
  have hsequence := h.sequence
  rw [powerupSequence_applyChaos]
  omega

/-- The same modifiers at a later time. -/
theorem Numbered.kept (h : Numbered accepted s) (hclock : s.clock ≤ s'.clock)
    (hchaos : s'.wf.snapshot.chaos = s.wf.snapshot.chaos)
    (hfresh : s'.phase = .unstarted → accepted = 0) : Numbered accepted s' := by
  refine ⟨hfresh, ?_, ?_⟩
  · rw [hchaos]
    exact h.sequence
  · rw [hchaos]
    exact h.paced.later hclock

/-- Any other transition keeps the number, and the time there was. -/
theorem Numbered.other (h : Numbered accepted s) (he : acceptsChaos (s, e) = false)
    (hstep : r.step s e = some s') : Numbered accepted s' := by
  have hfresh : s'.phase = .unstarted → accepted = 0 := by
    intro hphase
    apply h.fresh
    by_contra hstarted
    exact started_step hstarted hstep hphase
  cases controlMove_of_transition (transition_of_step hstep) with
  | kept hclock hcontrol =>
      exact h.kept hclock (congrArg GameWorkflow.Control.chaos hcontrol) hfresh
  | chaos hchaos _ _ _ =>
      rw [hchaos] at he
      cases he
  | ended _ _ hclock hcontrol =>
      exact h.kept hclock.ge (congrArg GameWorkflow.Control.chaos hcontrol) hfresh
  | started _ hphase hclock hcontrol =>
      have hchaos : s'.wf.snapshot.chaos = {} := congrArg GameWorkflow.Control.chaos hcontrol
      have hnone := h.fresh hphase
      refine ⟨hfresh, ?_, ?_⟩
      · rw [hchaos, hnone]
        rfl
      · rw [hchaos, hnone]
        exact ⟨⟨0, rfl, Nat.zero_le _⟩, by simp [horizon]⟩
  | swept _ hclock hcontrol =>
      have hchaos : s'.wf.snapshot.chaos = (sweptControl s.wf.control s.clock).chaos :=
        congrArg GameWorkflow.Control.chaos hcontrol
      refine ⟨hfresh, ?_, ?_⟩
      · rw [hchaos]
        exact h.sequence
      · have hpaced : Paced s.wf.control.chaos s.clock accepted := h.paced
        rw [hchaos, hclock]
        exact hpaced.swept
  | closed _ hclock hcontrol =>
      exact h.kept hclock.ge (congrArg GameWorkflow.Control.chaos hcontrol) hfresh

/-- **The number counts the accepted updates of the run.** -/
theorem numbered_run {hist : List (State × Event)} (hrun : r.system.Run hist s) :
    Numbered (powerups hist) s := by
  obtain ⟨s₀, ⟨clock, rfl⟩, hpath⟩ := hrun
  induction hpath with
  | nil => exact ⟨fun _ => rfl, rfl, ⟨0, rfl, Nat.zero_le _⟩, by simp [horizon]⟩
  | @snoc hist s s' e hpath hstep ih =>
      have hreach : r.system.Reachable s := ⟨hist, _, ⟨clock, rfl⟩, hpath⟩
      cases he : acceptsChaos (s, e) with
      | false =>
          have hcount : powerups ((s, e) :: hist) = powerups hist :=
            List.countP_cons_of_neg (by simp [he])
          rw [hcount]
          exact ih.other he hstep
      | true =>
          have hcount : powerups ((s, e) :: hist) = powerups hist + 1 :=
            List.countP_cons_of_pos he
          rw [hcount]
          cases transition_of_step hstep with
          | applyChaos _ hvalid =>
              have hrunning := (GameWorkflow.validateApplyChaos_ok hvalid).1
              refine ih.next (oneModifier_reachable hreach) ?_ hvalid
              intro hphase
              rw [(loopInvariant_reachable hreach).status, hphase] at hrunning
              cases hrunning
          | _ => cases he

/-- Before the year 3331 the numbers have not run out. -/
theorem powerups_lt {hist : List (State × Event)} (hrun : r.system.Run hist s)
    (hclock : s.clock + 4 * chaosDurationMs < chaosDurationMs * 2 ^ 32) :
    powerups hist + 1 < 2 ^ 32 := by
  have hbound := (numbered_run hrun).paced.bound
  unfold chaosDurationMs at hbound hclock
  omega

/-- **The `k`-th accepted update is number `k`**, up to the last number. -/
theorem latestPowerup_of_accepted {hist : List (State × Event)} (hrun : r.system.Run hist s)
    (hstep : r.step s (.applyChaos command) = some s') :
    s'.wf.snapshot.chaos.latestPowerup
      = some
          { sequence := min (powerups hist + 1) (2 ^ 32 - 1)
            command
            issuedUnixMs := s.clock } := by
  have hafter : r.system.Run ((s, .applyChaos command) :: hist) s' := hrun.snoc hstep
  have hsequence := (numbered_run hafter).sequence
  have hcount : powerups ((s, .applyChaos command) :: hist) = powerups hist + 1 :=
    List.countP_cons_of_pos rfl
  rw [hcount] at hsequence
  cases transition_of_step hstep with
  | applyChaos _ _ =>
      rw [← hsequence]
      rfl

/-! ## Until the numbers run out -/

/-- A round that keeps no Activity outstanding sleeps, with no modifier in
force. -/
structure Resting (deadlineUnixMs : Nat) (s : State) : Prop where
  sleeping : ∃ dueUnixMs, s.phase = .sleeping dueUnixMs ∧ dueUnixMs ≤ s.clock + 1000
  pending : s.pending = []
  deck : s.deck.available ≠ []
  running : s.wf.snapshot.status = .running
  deadline : s.wf.snapshot.deadlineUnixMs = some deadlineUnixMs
  doublePoints : s.wf.snapshot.chaos.doublePointsUntilUnixMs = none
  rustOnly : s.wf.snapshot.chaos.rustOnlyUntilUnixMs = none
  suddenDeath : s.wf.snapshot.chaos.suddenDeath = false

variable {deadlineUnixMs : Nat}

/-- A resting round accepts double points. -/
theorem Resting.accepts (r : Round) (h : Resting deadlineUnixMs s) :
    r.step s (.applyChaos .doublePoints)
      = some { s with wf := s.wf.applyChaos s.clock .doublePoints } := by
  obtain ⟨dueUnixMs, hphase, _⟩ := h.sleeping
  have hnone : activeModifier s.wf.snapshot s.wf.lastChaosSweepUnixMs = none := by
    simp [activeModifier, inForce, h.doublePoints, h.rustOnly, h.suddenDeath]
  have hvalid : s.wf.validateApplyChaos .doublePoints = .ok () := by
    unfold GameWorkflow.validateApplyChaos
    rw [if_neg (not_not.mpr h.running), if_neg (by decide), hnone]
  have hwait : s.phase.waiting = true := by
    rw [hphase]
    rfl
  unfold step
  dsimp only
  rw [hvalid]
  unfold State.handle
  rw [if_pos hwait, List.append_nil]

/-- With no Activities wanted, none are scheduled. -/
theorem schedule_none (hoverride : r.input.backlogOverride = some 0) (s : State)
    (deadlineUnixMs : Nat) : r.schedule s deadlineUnixMs = s := by
  have htarget : activityTarget s.wf.snapshot r.input.backlogOverride r.fullParticipantBacklog
      = 0 := by
    rw [hoverride]
    rfl
  unfold schedule
  dsimp only
  rw [htarget, Nat.zero_sub]
  rfl

/-- **One power-up, until it has run out**: ten seconds later the round
rests again. -/
theorem Resting.powerup (h : Resting deadlineUnixMs s)
    (hoverride : r.input.backlogOverride = some 0)
    (hroom : s.clock + chaosDurationMs < deadlineUnixMs) :
    ∃ hist s', r.system.Path s hist s' ∧ powerups hist = 1
      ∧ s'.clock = s.clock + chaosDurationMs ∧ Resting deadlineUnixMs s' := by
  obtain ⟨dueUnixMs, hphase, hdue⟩ := h.sleeping
  let doubled : State := { s with wf := s.wf.applyChaos s.clock .doublePoints }
  let later : State := { doubled with clock := s.clock + chaosDurationMs }
  let woken : State := { later with phase := .loopHead }
  have haccept : r.system.step s (.applyChaos .doublePoints) = some doubled := h.accepts r
  have hadvance : r.system.step doubled (.advance (s.clock + chaosDurationMs)) = some later := by
    have hwait : doubled.phase.waiting = true := by
      show s.phase.waiting = true
      rw [hphase]
      rfl
    exact if_pos ⟨hwait, Nat.le_add_right _ _⟩
  have htick : r.system.step later .tick = some woken := by
    have hwaits : later.phase.due = some dueUnixMs := by
      show s.phase.due = some dueUnixMs
      rw [hphase]
      rfl
    have hpast : dueUnixMs ≤ later.clock := by
      show dueUnixMs ≤ s.clock + chaosDurationMs
      unfold chaosDurationMs
      omega
    show r.step later .tick = some woken
    unfold step
    dsimp only
    rw [hwaits]
    exact if_pos hpast
  have hiterate : r.system.step woken .iterate = some (r.iterate woken) := rfl
  have hrest : r.iterate woken
      = { woken.sweep with
          phase := .sleeping (woken.clock + min (deadlineUnixMs - woken.clock) 1000) } := by
    have hahead : ¬ deadlineUnixMs ≤ woken.sweep.clock := Nat.not_le.mpr hroom
    have hdeadline : woken.sweep.wf.snapshot.deadlineUnixMs.getD woken.sweep.clock
        = deadlineUnixMs := by
      show s.wf.snapshot.deadlineUnixMs.getD _ = _
      rw [h.deadline]
      rfl
    have hpending : woken.sweep.pending = [] := h.pending
    have hdeck : woken.sweep.deck.available.isEmpty = false := by
      show s.deck.available.isEmpty = false
      simpa using h.deck
    unfold iterate
    dsimp only
    rw [hdeadline, if_neg hahead, schedule_none hoverride]
    unfold State.await
    simp only [hpending, hdeck, List.isEmpty_nil, Bool.and_false, Bool.false_eq_true, if_false,
      if_true]
    rfl
  refine ⟨_, r.iterate woken, (((StepSystem.Path.nil.snoc haccept).snoc hadvance).snoc htick).snoc
    hiterate, rfl, ?_, ?_⟩
  · rw [hrest]
    rfl
  · have hchaos : (r.iterate woken).wf.snapshot.chaos
        = (expireChaos (s.wf.applyChaos s.clock .doublePoints).snapshot woken.clock).chaos := by
      rw [hrest]
      rfl
    have hspent : (r.iterate woken).wf.snapshot.chaos.doublePointsUntilUnixMs = none
        ∧ (r.iterate woken).wf.snapshot.chaos.rustOnlyUntilUnixMs = none
        ∧ (r.iterate woken).wf.snapshot.chaos.suddenDeath = false := by
      rw [hchaos]
      unfold expireChaos GameWorkflow.applyChaos GameWorkflow.chaosEffect
      simp [keepUnexpired, h.rustOnly, h.suddenDeath, woken, later]
    obtain ⟨hdouble, hrust, hsudden⟩ := hspent
    rw [hrest] at hdouble hrust hsudden ⊢
    exact ⟨⟨_, rfl, Nat.add_le_add_left (Nat.min_le_right _ _) _⟩, h.pending, h.deck, h.running,
      h.deadline, hdouble, hrust, hsudden⟩

/-- **A resting round accepts as many power-ups as there is time for.** -/
theorem Resting.powerups (h : Resting deadlineUnixMs s)
    (hoverride : r.input.backlogOverride = some 0) (count : Nat)
    (hroom : s.clock + count * chaosDurationMs < deadlineUnixMs) :
    ∃ hist s', r.system.Path s hist s' ∧ Web.powerups hist = count
      ∧ s'.clock = s.clock + count * chaosDurationMs ∧ Resting deadlineUnixMs s' := by
  induction count with
  | zero => exact ⟨[], s, .nil, rfl, by simp, h⟩
  | succ count ih =>
      rw [Nat.succ_mul] at hroom
      obtain ⟨hist, s', hpath, hcount, hclock, hrest⟩ := ih (by omega)
      obtain ⟨more, s'', hpath', hone, hclock', hrest'⟩ := hrest.powerup hoverride (by omega)
      refine ⟨more ++ hist, s'', hpath.append hpath', ?_, ?_, hrest'⟩
      · unfold Web.powerups at hcount hone ⊢
        rw [List.countP_append, hone, hcount, Nat.add_comm]
      · rw [hclock', hclock, Nat.succ_mul, Nat.add_assoc]

/-- A round of 2178 years that keeps no Activity outstanding. -/
def longRound : Round :=
  { quietRound with
    input := { quietRound.input with durationSeconds := 2 ^ 36, backlogOverride := some 0 } }

/-- **The numbers run out**: after `2 ^ 32 - 1` power-ups the next one has
the same number again. -/
theorem sequence_saturates :
    ∃ hist s s', longRound.system.Run hist s ∧ s.clock < 2 ^ 64 ∧ powerups hist + 1 = 2 ^ 32
      ∧ longRound.step s (.applyChaos .doublePoints) = some s'
      ∧ s'.wf.snapshot.chaos.latestPowerup.map (·.sequence) = some (2 ^ 32 - 1) := by
  let opened : State := longRound.iterate (longRound.start { clock := 0 })
  have hopened : longRound.system.Path { clock := 0 }
      [(longRound.start { clock := 0 }, .iterate), ({ clock := 0 }, .start)] opened :=
    (StepSystem.Path.nil.snoc rfl).snoc rfl
  have hrest : Resting (2 ^ 36 * 1000) opened :=
    { sleeping := ⟨1000, rfl, Nat.le_refl _⟩, pending := rfl, deck := by decide, running := rfl
      deadline := rfl, doublePoints := rfl, rustOnly := rfl, suddenDeath := rfl }
  obtain ⟨hist, s, hpath, hcount, hclock, hrest'⟩ :=
    hrest.powerups (r := longRound) rfl (2 ^ 32 - 1) (by decide)
  have hrun : longRound.system.Run (hist ++ _) s := ⟨_, ⟨0, rfl⟩, hopened.append hpath⟩
  have hall :
      powerups (hist ++ [(longRound.start { clock := 0 }, .iterate), ({ clock := 0 }, .start)])
      = 2 ^ 32 - 1 := by
    unfold powerups at hcount ⊢
    rw [List.countP_append, hcount]
    rfl
  refine ⟨_, s, _, hrun, ?_, ?_, (hrest'.accepts longRound), ?_⟩
  · rw [hclock]
    decide
  · rw [hall]
    rfl
  · rw [latestPowerup_of_accepted hrun (hrest'.accepts longRound), hall]
    rfl

end Round

end DurableTrivia.Web
