import DurableTrivia.Firmware.Choices
import DurableTrivia.Firmware.Heartbeat

/-!
# GiveUp — who lets go of a question first

The server times the attempt out 15 seconds after the last heartbeat it
received. The badge counts its 10 seconds from the acknowledgement it
recorded last, so it lets go in time as long as each acknowledgement it
records leaves the server 10 more seconds to wait. One that took longer
than 5 seconds does not.
-/

namespace DurableTrivia.Firmware

open DurableTrivia.Shared DurableTrivia.Lib

namespace Attempt

/-- A choice `wait_for_choice` accepts. -/
def accepted (t : Attempt × AttemptEvent) : Option Choice :=
  match t.2, t.1.stage, t.1.heartbeat with
  | .poll cancelled nowUnixMs choice, .waiting localDeadline, some h =>
      if ((t.1.observe h cancelled nowUnixMs).givesUp t.1.task localDeadline).isSome then none
      else choice
  | _, _, _ => none

/-- After the server timed the attempt out, no choice is accepted. -/
def NoLateChoice (s : Attempt) : Prop := s.timedOut = true → ∀ e, accepted (s, e) = none

/-- What starts the budget leaves the server at least as long to wait:
the first heartbeat task, and every acknowledgement that is recorded. The
32 bits of `last_ack_ms` last for the whole wait. -/
def timely (t : Attempt × AttemptEvent) : Bool :=
  match t.2, t.1.heartbeat with
  | .spawnHeartbeat, _ =>
      decide (({ base := t.1.now } : ActivityHeartbeat).budgetEnd ≤ t.1.timesOutAt)
  | .wait, some h => decide (t.1.now + maxActivityRuntime ≤ h.wrapsAt)
  | .respond i, some h =>
      match t.1.responses[i]? with
      | some reply =>
          decide (h.task = .calling reply.call → reply.response.heartbeat = .acknowledged →
            (h.report .acknowledged t.1.now).budgetEnd ≤ t.1.timesOutAt)
      | none => true
  | _, _ => true

/-! ## What is timely -/

section Timely
variable {s : Attempt} {h : ActivityHeartbeat}

theorem timely_spawn : timely (s, .spawnHeartbeat) = true ↔
    ({ base := s.now } : ActivityHeartbeat).budgetEnd ≤ s.timesOutAt := by
  simp only [timely, decide_eq_true_eq]

theorem timely_wait (hh : s.heartbeat = some h) : timely (s, .wait) = true ↔
    s.now + maxActivityRuntime ≤ h.wrapsAt := by
  simp only [timely, hh, decide_eq_true_eq]

theorem timely_respond {i : Nat} {reply : Reply} (hh : s.heartbeat = some h)
    (hreply : s.responses[i]? = some reply) : timely (s, .respond i) = true ↔
      (h.task = .calling reply.call → reply.response.heartbeat = .acknowledged →
        (h.report .acknowledged s.now).budgetEnd ≤ s.timesOutAt) := by
  simp only [timely, hh, hreply, decide_eq_true_eq]

end Timely

/-! ## The budget ends first -/

/-- The server waits at least as long as the budget lasts, and the wait
is over before the 32 bits are. -/
structure Covered (s : Attempt) : Prop where
  clock : s.lastHeartbeat ≤ s.now
  budget : ∀ h, s.heartbeat = some h → h.budgetEnd ≤ s.timesOutAt
  ceiling : ∀ localDeadline h, s.stage = .waiting localDeadline → s.heartbeat = some h →
    localDeadline ≤ h.wrapsAt

variable {hist : List (Attempt × AttemptEvent)} {s s' : Attempt} {e : AttemptEvent}

/-- The server's record moves forward. -/
theorem receive_lastHeartbeat (timedOut : Bool) (call : Option Nat) (response : HeartbeatResponse)
    (hclock : s.lastHeartbeat ≤ s.now) :
    s.lastHeartbeat ≤ (s.receive timedOut call response).lastHeartbeat
      ∧ (s.receive timedOut call response).lastHeartbeat ≤ s.now := by
  cases timedOut with
  | true => exact ⟨le_refl _, hclock⟩
  | false => exact ⟨hclock, le_refl _⟩

namespace Covered

/-- Steps that start no budget and no wait. -/
theorem keep (hs : Covered s) (hclock : s'.lastHeartbeat ≤ s'.now)
    (htimeout : s.lastHeartbeat ≤ s'.lastHeartbeat)
    (hstage : ∀ localDeadline, s'.stage = .waiting localDeadline → s.stage = .waiting localDeadline)
    (hheartbeat : ∀ h', s'.heartbeat = some h' → ∃ h, s.heartbeat = some h ∧ h'.base = h.base
      ∧ (h'.lastAckMs = h.lastAckMs ∨ h'.budgetEnd ≤ s'.timesOutAt)) : Covered s' := by
  have hlater : s.timesOutAt ≤ s'.timesOutAt := Nat.add_le_add_right htimeout _
  refine ⟨hclock, ?_, ?_⟩
  · intro h' hh'
    obtain ⟨h, hh, hbase, hsame | hbudget⟩ := hheartbeat h' hh'
    · have hbefore := hs.budget h hh
      simp only [ActivityHeartbeat.budgetEnd, hbase, hsame] at hbefore ⊢
      exact hbefore.trans hlater
    · exact hbudget
  · intro localDeadline h' hat hh'
    obtain ⟨h, hh, hbase, -⟩ := hheartbeat h' hh'
    have hbefore := hs.ceiling localDeadline h (hstage localDeadline hat) hh
    simp only [ActivityHeartbeat.wrapsAt, hbase] at hbefore ⊢
    exact hbefore

theorem setHeartbeat (hs : Covered s) {h h' : ActivityHeartbeat} (hh : s.heartbeat = some h)
    (hbase : h'.base = h.base)
    (hack : h'.lastAckMs = h.lastAckMs ∨ h'.budgetEnd ≤ s.timesOutAt) :
    Covered (s.setHeartbeat h') := by
  refine hs.keep hs.clock (le_refl _) (fun _ hat => hat) ?_
  intro new hnew
  cases hnew
  exact ⟨h, hh, hbase, hack⟩

/-- **The step lemma.** -/
theorem step (hs : Covered s) (hnext : s.step e = some s') (htimely : timely (s, e) = true) :
    Covered s' := by
  have hsame : ∀ h, s.heartbeat = some h → ∃ h₀, s.heartbeat = some h₀ ∧ h.base = h₀.base
      ∧ (h.lastAckMs = h₀.lastAckMs ∨ h.budgetEnd ≤ s.timesOutAt) :=
    fun h hh => ⟨h, hh, rfl, Or.inl rfl⟩
  cases move_of_step hnext with
  | pass ns =>
      exact hs.keep (hs.clock.trans (Nat.le_add_right _ _)) (le_refl _) (fun _ hat => hat) hsame
  | spawn hat =>
      refine ⟨hs.clock, ?_, ?_⟩
      · intro h hh
        cases hh
        exact timely_spawn.mp htimely
      · intro localDeadline h hwaiting
        cases hwaiting
  | wait hat =>
      refine ⟨hs.clock, hs.budget, ?_⟩
      intro localDeadline h hwaiting hh
      cases hwaiting
      exact (timely_wait hh).mp htimely
  | turn hstage =>
      refine hs.keep hs.clock (le_refl _) (fun localDeadline hat => ?_) hsame
      exact (hstage localDeadline hat).trans hat
  | @call h hheartbeat =>
      have hcall : Covered (s.setHeartbeat { h with task := .calling s.calls }) :=
        hs.setHeartbeat hheartbeat rfl (Or.inl rfl)
      exact ⟨hcall.clock, hcall.budget, hcall.ceiling⟩
  | resend => exact hs.keep hs.clock (le_refl _) (fun _ hat => hat) hsame
  | missed hheartbeat => exact hs.setHeartbeat hheartbeat rfl (Or.inl rfl)
  | @deliver i response timedOut call hout hcall =>
      obtain ⟨hearlier, hnow⟩ := receive_lastHeartbeat timedOut call response hs.clock
      exact hs.keep hnow hearlier (fun _ hat => hat) fun h hh => ⟨h, hh, rfl, Or.inl rfl⟩
  | @respond i reply h hreply hheartbeat htask =>
      have hanswered : Covered (s.setHeartbeat (h.report reply.response.heartbeat s.now)) := by
        cases hresponse : reply.response.heartbeat with
        | missed => exact hs.setHeartbeat hheartbeat rfl (Or.inl rfl)
        | stopped => exact hs.setHeartbeat hheartbeat rfl (Or.inl rfl)
        | acknowledged =>
            refine hs.setHeartbeat hheartbeat rfl (Or.inr ?_)
            exact (timely_respond hheartbeat hreply).mp htimely htask hresponse
      exact ⟨hanswered.clock, hanswered.budget, hanswered.ceiling⟩
  | late => exact hs.keep hs.clock (le_refl _) (fun _ hat => hat) hsame
  | wakeUp hheartbeat => exact hs.setHeartbeat hheartbeat rfl (Or.inl rfl)

end Covered

/-- Silence below the budget, while the 32 bits last, is time before the
budget ends. -/
theorem lt_budgetEnd {h : ActivityHeartbeat} {now : Nat} (hwrap : now < h.wrapsAt)
    (hsilent : heartbeatBudgetExhausted (h.silentMs now) = false) : now < h.budgetEnd := by
  have helapsed : h.elapsedMs now = (now - h.base) / 10 ^ 6 := by
    have hbefore : now - h.base < 10 ^ 6 * 2 ^ 32 := by
      unfold ActivityHeartbeat.wrapsAt at hwrap
      omega
    exact Nat.mod_eq_of_lt (Nat.div_lt_of_lt_mul hbefore)
  have hbudget : (now - h.base) / 10 ^ 6 < h.lastAckMs + badgeHeartbeatFailureBudgetMs := by
    simp only [heartbeatBudgetExhausted, ActivityHeartbeat.silentMs, helapsed,
      decide_eq_false_iff_not] at hsilent
    omega
  have hspan : now - h.base < (h.lastAckMs + badgeHeartbeatFailureBudgetMs) * 10 ^ 6 :=
    (Nat.div_lt_iff_lt_mul (by omega)).mp hbudget
  unfold ActivityHeartbeat.budgetEnd
  omega

/-- What a turn of the loop checked before it took a choice. -/
theorem of_accepted {choice : Choice} (h : accepted (s, e) = some choice) :
    ∃ localDeadline heartbeat, s.stage = .waiting localDeadline ∧ s.heartbeat = some heartbeat
      ∧ s.now < localDeadline ∧ heartbeatBudgetExhausted (heartbeat.silentMs s.now) = false := by
  unfold accepted at h
  split at h
  · next cancelled nowUnixMs _ localDeadline heartbeat _ hat hheartbeat =>
      refine ⟨localDeadline, heartbeat, hat, hheartbeat, ?_⟩
      by_cases hgives : ((s.observe heartbeat cancelled nowUnixMs).givesUp s.task
          localDeadline).isSome = true
      · rw [if_pos hgives] at h
        cases h
      · obtain ⟨-, -, hceiling, -, hsilent⟩ :=
          Observation.givesUp_eq_none.mp (Option.not_isSome_iff_eq_none.mp hgives)
        exact ⟨hceiling, hsilent⟩
  · cases h

/-- **What is accepted is what the loop returns.** -/
theorem accepted_iff {cancelled : Bool} {nowUnixMs : Nat} {next : Option Choice} {choice : Choice} :
    accepted (s, .poll cancelled nowUnixMs next) = some choice ↔
      s.step (.poll cancelled nowUnixMs next) = some { s with stage := .left (.ok choice) } := by
  cases hat : s.stage with
  | waiting localDeadline =>
      cases hheartbeat : s.heartbeat with
      | none => simp [accepted, Attempt.step, hat, hheartbeat]
      | some h =>
          cases hgives : (s.observe h cancelled nowUnixMs).givesUp s.task localDeadline with
          | some error =>
              simp only [accepted, Attempt.step, hat, hheartbeat, hgives]
              simp
          | none =>
              simp only [accepted, Attempt.step, hat, hheartbeat, hgives]
              cases next <;> simp
  | _ => simp [accepted, Attempt.step, hat]

theorem Covered.noLateChoice (hs : Covered s) : NoLateChoice s := by
  intro hout e
  rw [Option.eq_none_iff_forall_ne_some]
  intro choice haccepted
  obtain ⟨localDeadline, h, hat, hh, hceiling, hsilent⟩ := of_accepted haccepted
  have hwrap : s.now < h.wrapsAt := hceiling.trans_le (hs.ceiling localDeadline h hat hh)
  have hbefore : s.now < h.budgetEnd := lt_budgetEnd hwrap hsilent
  have hcovered : h.budgetEnd ≤ s.timesOutAt := hs.budget h hh
  have hafter : s.timesOutAt ≤ s.now := timedOut_iff.mp hout
  omega

/-- **The badge gives up first** in every run whose steps are timely:
after the server timed the attempt out, `wait_for_choice` accepts no
choice. -/
theorem gives_up_first (hrun : system.Run hist s) (htimely : ∀ t ∈ hist, timely t = true) :
    StepSystem.Throughout (fun _ s => NoLateChoice s) hist s := by
  refine hrun.throughout (I := fun _ s => Covered s) (C := fun s e => timely (s, e) = true)
    htimely ?_ ?_ ?_
  · rintro s₀ ⟨task, start, rfl⟩
    exact {
      clock := le_refl _
      budget := fun h hh => by cases hh
      ceiling := fun localDeadline h hat => by cases hat }
  · intro hist s e s' _ hs htimely hnext
    exact hs.step hnext htimely
  · intro hist s _ hs
    exact hs.noLateChoice

/-! ## A slow acknowledgement -/

/-- An attempt to test with. -/
def demoAttempt : Attempt := { task := Badge.demoQuestion "first", now := 0, lastHeartbeat := 0 }

/-- The first heartbeat is received at once, and acknowledged later. -/
def acknowledgedAfter (ns : Nat) : List AttemptEvent :=
  [.spawnHeartbeat, .wait, .record true, .deliver 0 (.status false false false), .pass ns,
    .respond 0]

theorem init_demoAttempt : system.init demoAttempt := ⟨_, _, rfl⟩

/-- A choice 9 seconds after an acknowledgement that took 1 second. -/
theorem gives_up_first_demo : ∃ hist s, system.Run hist s ∧ s.stage.answered = true
    ∧ StepSystem.Throughout (fun _ s => NoLateChoice s) hist s := by
  obtain ⟨hist, s, hrun, htest⟩ := StepSystem.exists_run_of_exec (S := system) demoAttempt
    (acknowledgedAfter (10 ^ 9) ++ [.pass (9 * 10 ^ 9), .poll false 10000 (some (.answer 0))])
    (fun result => result.2.stage.answered && result.1.all timely) init_demoAttempt
    (by decide +kernel)
  simp only [Bool.and_eq_true, List.all_eq_true] at htest
  exact ⟨hist, s, hrun, htest.1, gives_up_first hrun htest.2⟩

/-- **A slow acknowledgement**: the heartbeat of second 0 is acknowledged
in second 6, nothing more is heard, and the choice of 15.5 seconds is
accepted half a second after the server gave the attempt up. -/
theorem slow_ack_accepts_late : ∃ hist s, system.Run hist s ∧ s.timedOut = true
    ∧ accepted (s, .poll false 15500 (some (.answer 0))) = some (.answer 0)
    ∧ ¬ NoLateChoice s := by
  obtain ⟨hist, s, hrun, htest⟩ := StepSystem.exists_run_of_exec (S := system) demoAttempt
    (acknowledgedAfter (6 * 10 ^ 9) ++ [.pass (9500 * 10 ^ 6)])
    (fun result => result.2.timedOut
      && decide (accepted (result.2, .poll false 15500 (some (.answer 0))) = some (.answer 0)))
    init_demoAttempt (by decide +kernel)
  simp only [Bool.and_eq_true, decide_eq_true_eq] at htest
  obtain ⟨hout, haccepted⟩ := htest
  refine ⟨hist, s, hrun, hout, haccepted, ?_⟩
  intro hnone
  rw [hnone hout] at haccepted
  cases haccepted

/-! ## Prompt acknowledgements -/

/-- What the server waits longer than the badge. -/
def slack : Nat := (badgeHeartbeatTimeoutMs - badgeHeartbeatFailureBudgetMs) * 10 ^ 6

/-- The attempt starts to heartbeat, and every acknowledgement arrives,
before the slack is used up. -/
def prompt (t : Attempt × AttemptEvent) : Bool :=
  match t.2, t.1.heartbeat with
  | .spawnHeartbeat, _ => decide (t.1.now ≤ t.1.lastHeartbeat + slack)
  | .wait, some h => decide (t.1.now + maxActivityRuntime ≤ h.wrapsAt)
  | .respond i, some _ =>
      match t.1.responses[i]? with
      | some reply =>
          decide (reply.response.heartbeat = .acknowledged → t.1.now ≤ reply.receivedAt + slack)
      | none => true
  | _, _ => true

/-- What the clock says about the heartbeats: the server has heard at
least what it acknowledges. -/
structure Heard (s : Attempt) : Prop where
  clock : s.lastHeartbeat ≤ s.now
  base : ∀ h, s.heartbeat = some h → h.base ≤ s.now
  received : ∀ reply ∈ s.responses, reply.response.heartbeat = .acknowledged →
    reply.receivedAt ≤ s.lastHeartbeat

theorem slack_add_budget :
    slack + badgeHeartbeatFailureBudgetMs * 10 ^ 6 = badgeHeartbeatTimeoutMs * 10 ^ 6 := by
  decide

theorem slack_covers {now heard : Nat} (hnow : now ≤ heard + slack) :
    now + badgeHeartbeatFailureBudgetMs * 10 ^ 6 ≤ heard + badgeHeartbeatTimeoutMs * 10 ^ 6 := by
  rw [← slack_add_budget, ← Nat.add_assoc]
  exact Nat.add_le_add_right hnow _

/-- A budget that starts now ends no later than its length from now. -/
theorem budgetEnd_report_le {h : ActivityHeartbeat} {now : Nat} (hbase : h.base ≤ now) :
    (h.report .acknowledged now).budgetEnd ≤ now + badgeHeartbeatFailureBudgetMs * 10 ^ 6 := by
  have hack : h.elapsedMs now * 10 ^ 6 ≤ now - h.base :=
    (Nat.mul_le_mul_right _ (Nat.mod_le _ _)).trans (Nat.div_mul_le_self _ _)
  show h.base + (h.elapsedMs now + badgeHeartbeatFailureBudgetMs) * 10 ^ 6 ≤ _
  generalize badgeHeartbeatFailureBudgetMs = budget
  omega

namespace Heard

/-- Steps that hear nothing. -/
theorem keep (hs : Heard s) (hnow : s.now ≤ s'.now) (hlast : s'.lastHeartbeat = s.lastHeartbeat)
    (hheartbeat : ∀ h', s'.heartbeat = some h' → ∃ h, s.heartbeat = some h ∧ h'.base = h.base)
    (hresponses : s'.responses ⊆ s.responses) : Heard s' where
  clock := by
    rw [hlast]
    exact hs.clock.trans hnow
  base := by
    intro h' hh'
    obtain ⟨h, hh, hbase⟩ := hheartbeat h' hh'
    rw [hbase]
    exact (hs.base h hh).trans hnow
  received := by
    intro reply hmem hack
    rw [hlast]
    exact hs.received reply (hresponses hmem) hack

theorem receive (hs : Heard s) (timedOut : Bool) (call : Option Nat)
    (response : HeartbeatResponse) : Heard (s.receive timedOut call response) where
  clock := (receive_lastHeartbeat timedOut call response hs.clock).2
  base := hs.base
  received := by
    intro reply hmem hack
    obtain hbefore | hnew := List.mem_append.mp hmem
    · exact (hs.received reply hbefore hack).trans
        (receive_lastHeartbeat timedOut call response hs.clock).1
    · obtain ⟨call, -, rfl⟩ := List.mem_map.mp hnew
      cases timedOut with
      | true => cases hack
      | false => exact le_refl _

theorem step (hs : Heard s) (hnext : s.step e = some s') : Heard s' := by
  have hsame : ∀ h, s.heartbeat = some h → ∃ h₀, s.heartbeat = some h₀ ∧ h.base = h₀.base :=
    fun h hh => ⟨h, hh, rfl⟩
  have hset : ∀ h h' : ActivityHeartbeat, s.heartbeat = some h → h'.base = h.base →
      Heard (s.setHeartbeat h') := by
    intro h h' hh hbase
    refine hs.keep (le_refl _) rfl (fun new hnew => ?_) (List.Subset.refl _)
    cases hnew
    exact ⟨h, hh, hbase⟩
  cases move_of_step hnext with
  | pass ns => exact hs.keep (Nat.le_add_right _ _) rfl hsame (List.Subset.refl _)
  | spawn hat =>
      refine ⟨hs.clock, fun h hh => ?_, hs.received⟩
      cases hh
      exact le_refl _
  | wait hat => exact hs.keep (le_refl _) rfl hsame (List.Subset.refl _)
  | turn hstage => exact hs.keep (le_refl _) rfl hsame (List.Subset.refl _)
  | @call h hheartbeat hat =>
      have hcall := hset _ { h with task := .calling s.calls } hheartbeat rfl
      exact ⟨hcall.clock, hcall.base, hcall.received⟩
  | resend => exact hs.keep (le_refl _) rfl hsame (List.Subset.refl _)
  | missed hheartbeat => exact hset _ _ hheartbeat rfl
  | @deliver i response timedOut call hout hcall =>
      have hreceived := hs.receive timedOut call response
      exact ⟨hreceived.clock, hreceived.base, hreceived.received⟩
  | @respond i reply h hreply hheartbeat htask =>
      have hanswered : Heard (s.setHeartbeat (h.report reply.response.heartbeat s.now)) := by
        refine hset h _ hheartbeat ?_
        cases reply.response.heartbeat <;> rfl
      exact ⟨hanswered.clock, hanswered.base, fun reply hmem =>
        hanswered.received reply (List.mem_of_mem_eraseIdx hmem)⟩
  | late => exact hs.keep (le_refl _) rfl hsame List.eraseIdx_subset
  | wakeUp hheartbeat => exact hset _ _ hheartbeat rfl

/-- What starts within the slack ends before the server does. -/
theorem timely (hs : Heard s) (hprompt : prompt (s, e) = true) : timely (s, e) = true := by
  cases e with
  | spawnHeartbeat =>
      have hnow : s.now ≤ s.lastHeartbeat + slack := by
        simpa only [prompt, decide_eq_true_eq] using hprompt
      rw [timely_spawn, ActivityHeartbeat.budgetEnd, Nat.zero_add]
      exact slack_covers hnow
  | wait =>
      cases hh : s.heartbeat with
      | none => simp only [Attempt.timely, hh]
      | some h =>
          rw [timely_wait hh]
          simpa only [prompt, hh, decide_eq_true_eq] using hprompt
  | respond i =>
      cases hh : s.heartbeat with
      | none => simp only [Attempt.timely, hh]
      | some h =>
          cases hreply : s.responses[i]? with
          | none => simp only [Attempt.timely, hh, hreply]
          | some reply =>
              rw [timely_respond hh hreply]
              intro _ hack
              have hnow : reply.response.heartbeat = .acknowledged →
                  s.now ≤ reply.receivedAt + slack := by
                simpa only [prompt, hh, hreply, decide_eq_true_eq] using hprompt
              have hheard := hs.received reply (List.mem_of_getElem? hreply) hack
              exact (budgetEnd_report_le (hs.base h hh)).trans
                (slack_covers ((hnow hack).trans (Nat.add_le_add_right hheard _)))
  | _ => rfl

end Heard

theorem heard_reachable (h : system.Reachable s) : Heard s := by
  refine h.invariant ?_ fun s e s' hs hnext => hs.step hnext
  rintro s₀ ⟨task, start, rfl⟩
  exact {
    clock := le_refl _
    base := fun h hh => by cases hh
    received := fun reply hmem => by cases hmem }

/-- **Prompt runs are timely.** -/
theorem timely_of_prompt (hrun : system.Run hist s) (hprompt : ∀ t ∈ hist, prompt t = true) :
    ∀ t ∈ hist, timely t = true := by
  intro t ht
  have hheard : Heard t.1 := heard_reachable (hrun.reachable_of_mem ht)
  exact hheard.timely (hprompt t ht)

end Attempt

end DurableTrivia.Firmware
