import DurableTrivia.Lib.Mealy
import DurableTrivia.Firmware.Play
import DurableTrivia.Web.Powerups

/-!
# Notices — a power-up on the badges

`monitor_powerups` (`firmware/src/main.rs`) polls the snapshot, which
holds the latest notice only, and keeps a cursor: the game it watches and
the number of the last notice it has seen there. Whatever it misses, and
however it polls, a notice it shows is newer than all it has shown of
the game.
-/

namespace DurableTrivia.Firmware

open DurableTrivia.Shared DurableTrivia.Lib DurableTrivia.Web

/-- A notice older than this is not shown. -/
def powerupFreshnessMs : Nat := 5000

/-- Milliseconds between two polls during a round. -/
def powerupPollActiveMs : Nat := 1000

/-- Milliseconds between two polls otherwise, and after an error. -/
def powerupPollIdleMs : Nat := 4000

/-- One turn of the loop: the snapshot the query returned, with the
badge's clock when its points are looked at, or `none` for an error; and
the clock when its notice is. -/
structure PollTurn where
  result : Option Poll := none
  noticeUnixMs : Nat := 0

/-- The locals of the loop, and the points it publishes for a right
answer. -/
structure Monitor where
  gameId : Option String := none
  sequence : Nat := 0
  consecutiveErrors : Nat := 0
  pollIntervalMs : Nat := powerupPollIdleMs
  pointValue : Int := 1
  deriving DecidableEq, Repr

/-- A request the loop sends, with the snapshot's game and notice. -/
structure Announcement where
  gameId : Option String
  notice : PowerupNotice
  deriving DecidableEq, Repr

/-- What an announcement asks of the UI. -/
def Announcement.request (announcement : Announcement) : UiRequest :=
  .powerup announcement.notice.command

namespace Monitor

/-- A snapshot of another game starts the cursor again. -/
def watch (m : Monitor) (gameId : Option String) : Monitor :=
  if gameId ≠ m.gameId then { m with gameId, sequence := 0 } else m

/-- One turn of the monitor's loop. -/
def turn (m : Monitor) (t : PollTurn) : Monitor × Option Announcement :=
  match t.result with
  | none =>
      ({ m with
        consecutiveErrors := min (m.consecutiveErrors + 1) (2 ^ 32 - 1)
        pollIntervalMs := powerupPollIdleMs }, none)
  | some poll =>
      let snapshot := poll.snapshot
      let polled : Monitor := { m with
        consecutiveErrors := 0
        pollIntervalMs :=
          if snapshot.status = .running then powerupPollActiveMs else powerupPollIdleMs
        pointValue := pointValueOf poll.doubled }
      let m := polled.watch snapshot.gameId
      match snapshot.chaos.latestPowerup with
      | none => (m, none)
      | some notice =>
          if m.sequence < notice.sequence then
            -- a notice that is not shown is passed over for good
            ({ m with sequence := notice.sequence },
              if snapshot.status = .running
                  ∧ t.noticeUnixMs - notice.issuedUnixMs ≤ powerupFreshnessMs then
                some { gameId := snapshot.gameId, notice }
              else none)
          else (m, none)

end Monitor

/-- The loop as a machine that reads what its polls return. -/
def monitorPowerups : Mealy Monitor PollTurn Announcement where
  step := Monitor.turn

/-- Once the game has changed its id does not come back. -/
def NoReturn (turns : Nat → PollTurn) : Prop :=
  ∀ i j k first between last, i < j → j < k → (turns i).result = some first →
    (turns j).result = some between → (turns k).result = some last →
    last.snapshot.gameId = first.snapshot.gameId →
    between.snapshot.gameId = first.snapshot.gameId

namespace Monitor

/-! ## One turn -/

/-- The number the cursor has when a snapshot of `gameId` is looked at. -/
def cursor (m : Monitor) (gameId : Option String) : Nat :=
  if gameId = m.gameId then m.sequence else 0

/-- What one turn can do to the cursor, and when it announces. -/
inductive Turned (m : Monitor) (t : PollTurn) : Monitor × Option Announcement → Prop
  | failed {m' : Monitor} (hresult : t.result = none) (hgame : m'.gameId = m.gameId)
      (hsequence : m'.sequence = m.sequence) : Turned m t (m', none)
  | passed {m' : Monitor} {poll : Poll} (hresult : t.result = some poll)
      (hgame : m'.gameId = poll.snapshot.gameId)
      (hsequence : m.cursor poll.snapshot.gameId ≤ m'.sequence) : Turned m t (m', none)
  | announced {m' : Monitor} {poll : Poll} {notice : PowerupNotice}
      (hresult : t.result = some poll) (hgame : m'.gameId = poll.snapshot.gameId)
      (hnew : m.cursor poll.snapshot.gameId < notice.sequence)
      (hsequence : m'.sequence = notice.sequence)
      (hlatest : poll.snapshot.chaos.latestPowerup = some notice)
      (hrunning : poll.snapshot.status = .running)
      (hfresh : t.noticeUnixMs - notice.issuedUnixMs ≤ powerupFreshnessMs) :
      Turned m t (m', some { gameId := poll.snapshot.gameId, notice })

theorem watch_gameId (m : Monitor) (gameId : Option String) : (m.watch gameId).gameId = gameId := by
  unfold watch
  by_cases hgame : gameId = m.gameId
  · rw [if_neg (not_not.mpr hgame), hgame]
  · rw [if_pos hgame]

theorem watch_sequence (m : Monitor) (gameId : Option String) :
    (m.watch gameId).sequence = m.cursor gameId := by
  unfold watch cursor
  by_cases hgame : gameId = m.gameId
  · rw [if_neg (not_not.mpr hgame), if_pos hgame]
  · rw [if_pos hgame, if_neg hgame]

theorem turned_turn (m : Monitor) (t : PollTurn) : Turned m t (m.turn t) := by
  unfold turn
  cases hresult : t.result with
  | none => exact .failed hresult rfl rfl
  | some poll =>
      dsimp only
      generalize hpolled : (Monitor.mk m.gameId m.sequence 0 _ _) = polled
      have hcursor :
          (polled.watch poll.snapshot.gameId).sequence = m.cursor poll.snapshot.gameId := by
        rw [watch_sequence, ← hpolled]
        rfl
      have hwatched := watch_gameId polled poll.snapshot.gameId
      cases hlatest : poll.snapshot.chaos.latestPowerup with
      | none => exact .passed hresult hwatched hcursor.ge
      | some notice =>
          dsimp only
          by_cases hnew : (polled.watch poll.snapshot.gameId).sequence < notice.sequence
          · rw [if_pos hnew]
            rw [hcursor] at hnew
            by_cases hshown : poll.snapshot.status = .running
                ∧ t.noticeUnixMs - notice.issuedUnixMs ≤ powerupFreshnessMs
            · rw [if_pos hshown]
              exact .announced hresult hwatched hnew rfl hlatest hshown.1 hshown.2
            · rw [if_neg hshown]
              exact .passed hresult hwatched (Nat.le_of_lt hnew)
          · rw [if_neg hnew]
            exact .passed hresult hwatched hcursor.ge

/-! ## All turns -/

section Turns
variable {m : Monitor} {turns : Nat → PollTurn} {i n : Nat} {announcement : Announcement}

/-- **An announcement is a fresh notice of a running game**, and newer than
the cursor. -/
theorem of_outputAt (h : monitorPowerups.outputAt m turns n = some announcement) :
    ∃ poll, (turns n).result = some poll ∧ poll.snapshot.gameId = announcement.gameId
      ∧ poll.snapshot.chaos.latestPowerup = some announcement.notice
      ∧ poll.snapshot.status = .running
      ∧ (turns n).noticeUnixMs - announcement.notice.issuedUnixMs ≤ powerupFreshnessMs
      ∧ (monitorPowerups.stateAt m turns n).cursor announcement.gameId
        < announcement.notice.sequence := by
  have hturned := turned_turn (monitorPowerups.stateAt m turns n) (turns n)
  change (Monitor.turn _ _).2 = _ at h
  generalize (monitorPowerups.stateAt m turns n).turn (turns n) = result at hturned h
  cases hturned with
  | failed _ _ _ => cases h
  | passed _ _ _ => cases h
  | announced hresult _ hnew _ hlatest hrunning hfresh =>
      cases h
      exact ⟨_, hresult, rfl, hlatest, hrunning, hfresh, hnew⟩

/-- What the cursor knows of an announcement at `i`: of its own game it is
not older, and otherwise the game has changed since. -/
def Known (turns : Nat → PollTurn) (i n : Nat) (announcement : Announcement) (m : Monitor) : Prop :=
  announcement.gameId = m.gameId ∧ announcement.notice.sequence ≤ m.sequence
    ∨ m.gameId ≠ announcement.gameId
      ∧ ∃ j poll, i < j ∧ j < n ∧ (turns j).result = some poll ∧ poll.snapshot.gameId = m.gameId

/-- A later snapshot keeps what is known, when no game comes back. -/
theorem Known.polled {m m' : Monitor} {first last : Poll} (hreturn : NoReturn turns)
    (h : Known turns i n announcement m) (hin : i < n) (hfirst : (turns i).result = some first)
    (hgame : first.snapshot.gameId = announcement.gameId) (hlast : (turns n).result = some last)
    (hgame' : m'.gameId = last.snapshot.gameId)
    (hsequence : m.cursor last.snapshot.gameId ≤ m'.sequence) :
    Known turns i (n + 1) announcement m' := by
  by_cases hsame : last.snapshot.gameId = m.gameId
  · rw [cursor, if_pos hsame] at hsequence
    rcases h with ⟨hown, hle⟩ | ⟨hother, j, poll, hij, hjn, hpoll, hwatched⟩
    · exact .inl ⟨hown.trans (hsame.symm.trans hgame'.symm), by omega⟩
    · refine .inr ⟨?_, j, poll, hij, by omega, hpoll, ?_⟩
      · rw [hgame', hsame]
        exact hother
      · rw [hwatched, hgame', hsame]
  · -- the game changes at `n`, and not back to the announced one
    refine .inr ⟨?_, n, last, hin, by omega, hlast, hgame'.symm⟩
    rw [hgame']
    rcases h with ⟨hown, _⟩ | ⟨hother, j, poll, hij, hjn, hpoll, hwatched⟩
    · rw [hown]
      exact hsame
    · intro hback
      have hbetween := hreturn i j n first poll last hij hjn hfirst hpoll hlast
        (hback.trans hgame.symm)
      exact hother (hwatched.symm.trans (hbetween.trans hgame))

/-- **Every announcement is known from then on.** -/
theorem known_of_announced (hreturn : NoReturn turns) (hin : i < n)
    (h : monitorPowerups.outputAt m turns i = some announcement) :
    Known turns i n announcement (monitorPowerups.stateAt m turns n) := by
  obtain ⟨first, hfirst, hgame, _⟩ := of_outputAt h
  induction n, hin using Nat.le_induction with
  | base =>
      have hturned := turned_turn (monitorPowerups.stateAt m turns i) (turns i)
      change (Monitor.turn _ _).2 = _ at h
      show Known turns i (i + 1) announcement (Monitor.turn _ _).1
      generalize (monitorPowerups.stateAt m turns i).turn (turns i) = result at hturned h ⊢
      cases hturned with
      | failed _ _ _ => cases h
      | passed _ _ _ => cases h
      | announced _ hgame' _ hsequence _ _ _ =>
          cases h
          exact .inl ⟨hgame'.symm, hsequence.ge⟩
  | succ n hin ih =>
      have hturned := turned_turn (monitorPowerups.stateAt m turns n) (turns n)
      show Known turns i (n + 1) announcement (Monitor.turn _ _).1
      generalize (monitorPowerups.stateAt m turns n).turn (turns n) = result at hturned ⊢
      cases hturned with
      | failed _ hsame hsequence =>
          rcases ih with ⟨hown, hle⟩ | ⟨hother, j, poll, hij, hjn, hpoll, hwatched⟩
          · exact .inl ⟨hown.trans hsame.symm, hle.trans hsequence.ge⟩
          · refine .inr ⟨?_, j, poll, hij, by omega, hpoll, hwatched.trans hsame.symm⟩
            rw [hsame]
            exact hother
      | passed hlast hgame' hsequence =>
          exact ih.polled hreturn hin hfirst hgame hlast hgame' hsequence
      | announced hlast hgame' hnew hsequence _ _ _ =>
          exact ih.polled hreturn hin hfirst hgame hlast hgame'
            (hnew.le.trans hsequence.ge)

/-- **The announcements of one game are numbered upwards.** -/
theorem sequence_lt_of_announced (hreturn : NoReturn turns) (hin : i < n) {later : Announcement}
    (h : monitorPowerups.outputAt m turns i = some announcement)
    (hlater : monitorPowerups.outputAt m turns n = some later)
    (hgame : announcement.gameId = later.gameId) :
    announcement.notice.sequence < later.notice.sequence := by
  obtain ⟨last, hlast, hgame_last, _, _, _, hnew⟩ := of_outputAt hlater
  obtain ⟨first, hfirst, hgame_first, _⟩ := of_outputAt h
  rcases known_of_announced hreturn hin h with ⟨hown, hle⟩ |
    ⟨hother, j, poll, hij, hjn, hpoll, hwatched⟩
  · rw [cursor, if_pos (hgame.symm.trans hown)] at hnew
    omega
  · exfalso
    have hbetween := hreturn i j n first poll last hij hjn hfirst hpoll hlast
      (hgame_last.trans (hgame.symm.trans hgame_first.symm))
    exact hother (hwatched.symm.trans (hbetween.trans hgame_first))

end Turns

/-- **Every power-up is announced at most once**: the updates a round
accepts are numbered from one up to the last `u32`, which no round reaches
before the year 3331; and what a badge announces of one game, however it
polls, is numbered upwards, each a fresh notice of a running game. -/
theorem powerups_announced_once :
    (∀ (r : Round) hist s, r.system.Run hist s →
        (∀ s' command, r.step s (.applyChaos command) = some s' →
          s'.wf.snapshot.chaos.latestPowerup
            = some
                { sequence := min (powerups hist + 1) (2 ^ 32 - 1)
                  command
                  issuedUnixMs := s.clock })
        ∧ (s.clock + 4 * chaosDurationMs < chaosDurationMs * 2 ^ 32 → powerups hist + 1 < 2 ^ 32))
      ∧ ∀ turns, NoReturn turns →
        (∀ i j first later, i < j → monitorPowerups.outputAt {} turns i = some first →
          monitorPowerups.outputAt {} turns j = some later → first.gameId = later.gameId →
          first.notice.sequence < later.notice.sequence)
        ∧ ∀ n announcement, monitorPowerups.outputAt {} turns n = some announcement →
          ∃ poll, (turns n).result = some poll ∧ poll.snapshot.gameId = announcement.gameId
            ∧ poll.snapshot.chaos.latestPowerup = some announcement.notice
            ∧ poll.snapshot.status = .running
            ∧ (turns n).noticeUnixMs - announcement.notice.issuedUnixMs ≤ 5000 := by
  refine ⟨fun r hist s hrun => ⟨fun s' command hstep => ?_, ?_⟩, fun turns hreturn => ⟨?_, ?_⟩⟩
  · exact Round.latestPowerup_of_accepted hrun hstep
  · exact Round.powerups_lt hrun
  · intro i j first later hij hfirst hlater hgame
    exact sequence_lt_of_announced hreturn hij hfirst hlater hgame
  · intro n announcement h
    obtain ⟨poll, hresult, hgame, hlatest, hrunning, hfresh, _⟩ := of_outputAt h
    exact ⟨poll, hresult, hgame, hlatest, hrunning, hfresh⟩

/-- A poll of a running game that finds notice `sequence` issued at `ms`. -/
def noticed (gameId : String) (sequence ms : Nat) : Option Poll :=
  some
    { snapshot :=
        { gameId := some gameId, status := .running
          chaos :=
            { latestPowerup := some { sequence, command := .suddenDeath, issuedUnixMs := ms } } }
      readUnixMs := ms }

/-- Two polls that find the first notice, one that fails, one behind a
missed notice, one that finds a stale notice, and the next game. -/
def demoTurns : Nat → PollTurn
  | 0 => { result := noticed "a" 1 0 }
  | 1 => { result := noticed "a" 1 0 }
  | 3 => { result := noticed "a" 3 7000, noticeUnixMs := 8000 }
  | 4 => { result := noticed "a" 4 9000, noticeUnixMs := 15000 }
  | 5 => { result := noticed "b" 1 20000, noticeUnixMs := 20000 }
  | _ => {}

/-- Each notice is shown once, and a stale one not at all. -/
example :
    (List.range 6).map (fun n =>
        (monitorPowerups.outputAt {} demoTurns n).map fun announcement =>
          (announcement.gameId, announcement.notice.sequence))
      = [some (some "a", 1), none, none, some (some "a", 3), none, some (some "b", 1)] := by
  decide

/-- The game a poll of the demo finds. -/
theorem demoTurns_game {n : Nat} {poll : Poll} (h : (demoTurns n).result = some poll) :
    poll.snapshot.gameId = (if n < 5 then some "a" else some "b") ∧ n ≤ 5 := by
  match n, h with
  | 0, h | 1, h | 3, h | 4, h | 5, h =>
      cases h
      exact ⟨rfl, by decide⟩
  | 2, h => cases h
  | n + 6, h => cases h

theorem noReturn_demoTurns : NoReturn demoTurns := by
  intro i j k first between last hij hjk hfirst hbetween hlast _
  obtain ⟨hgame, _⟩ := demoTurns_game hfirst
  obtain ⟨hgame', _⟩ := demoTurns_game hbetween
  obtain ⟨_, hk⟩ := demoTurns_game hlast
  have hi : i < 5 := by omega
  have hj : j < 5 := by omega
  rw [hgame, hgame', if_pos hi, if_pos hj]

/-- The second power-up of a round is number 2, and a badge that missed a
notice announces a later one. -/
theorem powerups_announced_once_demo :
    (∃ hist s s', Round.quietRound.system.Run hist s ∧ powerups hist = 1
        ∧ Round.quietRound.step s (.applyChaos .extendThirtySeconds) = some s'
        ∧ s'.wf.snapshot.chaos.latestPowerup.map (·.sequence) = some 2)
      ∧ ∃ first later, monitorPowerups.outputAt {} demoTurns 0 = some first
        ∧ monitorPowerups.outputAt {} demoTurns 3 = some later
        ∧ later.request = .powerup .suddenDeath
        ∧ first.notice.sequence < later.notice.sequence := by
  obtain ⟨hnumbers, hannounced⟩ := powerups_announced_once
  constructor
  · obtain ⟨hist, s, hrun, htest⟩ := StepSystem.exists_run_of_exec (S := Round.quietRound.system)
      { clock := 0 } Round.doubledEvents
      (fun result => powerups result.1 == 1
        && (Round.quietRound.step result.2 (.applyChaos .extendThirtySeconds)).isSome)
      ⟨0, rfl⟩ (by decide +kernel)
    rw [Bool.and_eq_true, beq_iff_eq, Option.isSome_iff_exists] at htest
    obtain ⟨hcount, s', hstep⟩ := htest
    have hlatest := (hnumbers Round.quietRound hist s hrun).1 s' _ hstep
    rw [hcount] at hlatest
    exact ⟨hist, s, s', hrun, hcount, hstep, by rw [hlatest]; rfl⟩
  · have hfirst : monitorPowerups.outputAt {} demoTurns 0
        = some ⟨some "a", { sequence := 1, command := .suddenDeath, issuedUnixMs := 0 }⟩ := by
      decide
    have hlater : monitorPowerups.outputAt {} demoTurns 3
        = some ⟨some "a", { sequence := 3, command := .suddenDeath, issuedUnixMs := 7000 }⟩ := by
      decide
    exact ⟨_, _, hfirst, hlater, rfl,
      (hannounced demoTurns noReturn_demoTurns).1 0 3 _ _ (by decide) hfirst hlater rfl⟩

end Monitor

end DurableTrivia.Firmware
