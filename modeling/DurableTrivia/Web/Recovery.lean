import DurableTrivia.Web.Attempts
import DurableTrivia.Web.Scheduling

/-!
# Recovery — the state of a round only moves forward

After a Worker crash the TV compares the restored snapshot with the one
before: `stateContinued` in `web/static/index.html` accepts it when the
game is the same and no badge went backwards. A round in which every
event moves the snapshot forward (`Forward`) therefore always recovers,
whatever was processed in between.
-/

namespace DurableTrivia.Web

open DurableTrivia.Shared DurableTrivia.Lib

/-! ## What the TV accepts -/

/-- `game_id || null`: the empty text counts as no id. -/
def gameIdOrNull (snapshot : GameSnapshot) : Option String :=
  snapshot.gameId.filter fun gameId => gameId != ""

/-- `new Map(Object.values(players).map(p => [p.badge_id, p]))` -/
def playersByBadge (snapshot : GameSnapshot) : Std.TreeMap String PlayerScore :=
  Std.TreeMap.ofList (snapshot.playerValues.map fun player => (player.badgeId, player))

/-- The check of the loop over the restored players. -/
def continues (was : Std.TreeMap String PlayerScore) (player : PlayerScore) : Bool :=
  match was[player.badgeId]? with
  | none => true
  | some previous =>
      !decide (player.correct < previous.correct) && !decide (player.wrong < previous.wrong)
        && !decide (player.panics < previous.panics)

/-- The same game, and no badge went backwards or was lost. -/
def stateContinued (before after : Option GameSnapshot) : Bool :=
  match before, after with
  | some before, some after =>
      let was := playersByBadge before
      gameIdOrNull before == gameIdOrNull after
        && after.playerValues.all (continues was)
        && (after.playerValues.filter fun player => was.contains player.badgeId).length == was.size
  | _, _ => false

/-! ## Forward -/

/-- A player's row only moves forward. -/
structure PlayerForward (before after : PlayerScore) : Prop where
  badgeId : after.badgeId = before.badgeId
  callsign : after.callsign = before.callsign
  correct : before.correct ≤ after.correct
  wrong : before.wrong ≤ after.wrong
  panics : before.panics ≤ after.panics

/-- The sequence number of the latest power-up; zero before the first. -/
def powerupSequence (chaos : ChaosState) : Nat := (chaos.latestPowerup.map (·.sequence)).getD 0

/-- No player is lost, and none goes backwards. -/
def RosterForward (before after : Std.TreeMap String PlayerScore) : Prop :=
  ∀ (badgeId : String) (player : PlayerScore), before[badgeId]? = some player →
    ∃ player', after[badgeId]? = some player' ∧ PlayerForward player player'

/-- A snapshot of the same game, no earlier than the other. -/
structure Forward (before after : GameSnapshot) : Prop where
  gameId : after.gameId = before.gameId
  players : RosterForward before.players after.players
  completed : before.completedQuestions ≤ after.completedQuestions
  scheduled : before.scheduledQuestions ≤ after.scheduledQuestions
  reassignments : before.reassignments ≤ after.reassignments
  heartbeatTimeouts : before.heartbeatTimeouts ≤ after.heartbeatTimeouts
  activityAttempts : before.activityAttempts ≤ after.activityAttempts
  extensionUsed : before.chaos.extensionUsed = true → after.chaos.extensionUsed = true
  powerups : powerupSequence before.chaos ≤ powerupSequence after.chaos
  finished : before.status = .finished → after.status = .finished

/-- Every player is listed under its own badge. -/
def Keyed (players : Std.TreeMap String PlayerScore) : Prop :=
  ∀ (badgeId : String) (player : PlayerScore), players[badgeId]? = some player →
    player.badgeId = badgeId

theorem PlayerForward.refl (player : PlayerScore) : PlayerForward player player :=
  ⟨rfl, rfl, Nat.le_refl _, Nat.le_refl _, Nat.le_refl _⟩

theorem PlayerForward.trans {p q t : PlayerScore} (h : PlayerForward p q)
    (h' : PlayerForward q t) : PlayerForward p t :=
  ⟨h'.badgeId.trans h.badgeId, h'.callsign.trans h.callsign, h.correct.trans h'.correct,
    h.wrong.trans h'.wrong, h.panics.trans h'.panics⟩

theorem RosterForward.refl (players : Std.TreeMap String PlayerScore) :
    RosterForward players players :=
  fun _ player h => ⟨player, h, .refl player⟩

theorem RosterForward.trans {a b c : Std.TreeMap String PlayerScore} (h : RosterForward a b)
    (h' : RosterForward b c) : RosterForward a c := by
  intro badgeId player hplayer
  obtain ⟨second, hsecond, hforward⟩ := h badgeId player hplayer
  obtain ⟨third, hthird, hforward'⟩ := h' badgeId second hsecond
  exact ⟨third, hthird, hforward.trans hforward'⟩

theorem Forward.refl (snapshot : GameSnapshot) : Forward snapshot snapshot :=
  { gameId := rfl
    players := .refl _
    completed := Nat.le_refl _
    scheduled := Nat.le_refl _
    reassignments := Nat.le_refl _
    heartbeatTimeouts := Nat.le_refl _
    activityAttempts := Nat.le_refl _
    extensionUsed := id
    powerups := Nat.le_refl _
    finished := id }

theorem Forward.trans {a b c : GameSnapshot} (h : Forward a b) (h' : Forward b c) : Forward a c :=
  { gameId := h'.gameId.trans h.gameId
    players := h.players.trans h'.players
    completed := h.completed.trans h'.completed
    scheduled := h.scheduled.trans h'.scheduled
    reassignments := h.reassignments.trans h'.reassignments
    heartbeatTimeouts := h.heartbeatTimeouts.trans h'.heartbeatTimeouts
    activityAttempts := h.activityAttempts.trans h'.activityAttempts
    extensionUsed := fun hused => h'.extensionUsed (h.extensionUsed hused)
    powerups := h.powerups.trans h'.powerups
    finished := fun hfinished => h'.finished (h.finished hfinished) }

/-! ## Forward is accepted -/

section Accepted
variable {players : Std.TreeMap String PlayerScore}

/-- Listed by its badge, a roster is its own map. -/
theorem Keyed.map_badgeId (h : Keyed players) :
    (players.toList.map Prod.snd).map (fun player => (player.badgeId, player))
      = players.toList := by
  rw [List.map_map]
  refine (List.map_congr_left ?_).trans (List.map_id _)
  intro entry hentry
  have hplayer := Std.TreeMap.mem_toList_iff_getElem?_eq_some.mp hentry
  rw [Function.comp_apply, h entry.1 entry.2 hplayer]
  rfl

theorem playersByBadge_get {snapshot : GameSnapshot} (h : Keyed snapshot.players)
    (badgeId : String) : (playersByBadge snapshot)[badgeId]? = snapshot.players[badgeId]? := by
  unfold playersByBadge GameSnapshot.playerValues
  rw [h.map_badgeId]
  cases hplayer : snapshot.players[badgeId]? with
  | none =>
      refine Std.TreeMap.getElem?_ofList_of_contains_eq_false ?_
      rw [Std.TreeMap.map_fst_toList_eq_keys, Std.TreeMap.contains_keys,
        Std.TreeMap.contains_eq_isSome_getElem?, hplayer]
      rfl
  | some player =>
      exact Std.TreeMap.getElem?_ofList_of_mem (compare_eq_iff_eq.mpr rfl)
        Std.TreeMap.distinct_keys_toList (Std.TreeMap.mem_toList_iff_getElem?_eq_some.mpr hplayer)

theorem playersByBadge_size {snapshot : GameSnapshot} (h : Keyed snapshot.players) :
    (playersByBadge snapshot).size = snapshot.players.size := by
  unfold playersByBadge GameSnapshot.playerValues
  rw [h.map_badgeId, Std.TreeMap.size_ofList Std.TreeMap.distinct_keys_toList,
    Std.TreeMap.length_toList]

/-- The players the map knows are as many as it holds. -/
theorem length_survivors {before after : Std.TreeMap String PlayerScore} (hafter : Keyed after)
    (h : RosterForward before after) :
    ((after.toList.map Prod.snd).filter fun player => before.contains player.badgeId).length
      = before.size := by
  have hkeys : ((after.toList.map Prod.snd).filter fun player =>
      before.contains player.badgeId).map (·.badgeId)
      = after.keys.filter fun badgeId => before.contains badgeId := by
    have hids : (after.toList.map Prod.snd).map (·.badgeId) = after.keys := by
      rw [← Std.TreeMap.map_fst_toList_eq_keys, List.map_map]
      refine List.map_congr_left ?_
      intro entry hentry
      exact hafter entry.1 entry.2 (Std.TreeMap.mem_toList_iff_getElem?_eq_some.mp hentry)
    rw [← hids]
    exact List.filter_map.symm
  have hperm : (after.keys.filter fun badgeId => before.contains badgeId).Perm before.keys := by
    rw [List.perm_ext_iff_of_nodup (Std.TreeMap.nodup_keys.filter _) Std.TreeMap.nodup_keys]
    intro badgeId
    rw [List.mem_filter, Std.TreeMap.mem_keys, Std.TreeMap.mem_keys,
      ← Std.TreeMap.mem_iff_contains]
    refine ⟨fun hboth => hboth.2, fun hmem => ⟨?_, hmem⟩⟩
    rw [Std.TreeMap.mem_iff_isSome_getElem?] at hmem
    obtain ⟨player, hplayer⟩ := Option.isSome_iff_exists.mp hmem
    obtain ⟨player', hplayer', _⟩ := h badgeId player hplayer
    rw [Std.TreeMap.mem_iff_isSome_getElem?, hplayer']
    rfl
  rw [← Std.TreeMap.length_keys, ← hperm.length_eq, ← hkeys, List.length_map]

/-- **The TV accepts every snapshot that moved forward.** -/
theorem stateContinued_of_forward {before after : GameSnapshot} (hbefore : Keyed before.players)
    (hafter : Keyed after.players) (h : Forward before after) :
    stateContinued (some before) (some after) = true := by
  have hgame : gameIdOrNull before = gameIdOrNull after := by
    unfold gameIdOrNull
    rw [h.gameId]
  have hall : ∀ player ∈ after.playerValues, continues (playersByBadge before) player = true := by
    intro player hplayer
    obtain ⟨entry, hentry, rfl⟩ := List.mem_map.mp hplayer
    have hnow := Std.TreeMap.mem_toList_iff_getElem?_eq_some.mp hentry
    unfold continues
    rw [hafter entry.1 entry.2 hnow, playersByBadge_get hbefore]
    cases hwas : before.players[entry.1]? with
    | none => rfl
    | some previous =>
        obtain ⟨player', hplayer', hforward⟩ := h.players entry.1 previous hwas
        rw [hnow] at hplayer'
        cases hplayer'
        simp [hforward.correct, hforward.wrong, hforward.panics]
  have hknown : ∀ player : PlayerScore, (playersByBadge before).contains player.badgeId
      = before.players.contains player.badgeId := by
    intro player
    rw [Std.TreeMap.contains_eq_isSome_getElem?, playersByBadge_get hbefore,
      ← Std.TreeMap.contains_eq_isSome_getElem?]
  have hsurvivors : (after.playerValues.filter fun player =>
      (playersByBadge before).contains player.badgeId).length = (playersByBadge before).size := by
    simp only [hknown]
    rw [playersByBadge_size hbefore]
    exact length_survivors hafter h.players
  unfold stateContinued
  dsimp only
  rw [hgame, hsurvivors, List.all_eq_true.mpr hall]
  simp

end Accepted

/-! ## Every event moves forward -/

/-- A roster after an event: as it was, or with one entry that moved
forward. -/
inductive RosterMove (before : Std.TreeMap String PlayerScore) :
    Std.TreeMap String PlayerScore → Prop
  | kept : RosterMove before before
  | changed {badgeId callsign : String} {change : PlayerScore → PlayerScore}
      (hchange : ∀ player, PlayerForward player (change player)) :
      RosterMove before (upsertPlayer before badgeId callsign change)

theorem RosterMove.forward {before after : Std.TreeMap String PlayerScore}
    (h : RosterMove before after) : RosterForward before after := by
  cases h with
  | kept => exact .refl before
  | @changed badgeId callsign change hchange =>
      intro other player hplayer
      unfold upsertPlayer
      rw [Std.TreeMap.getElem?_insert]
      by_cases hid : badgeId = other
      · subst hid
        rw [if_pos (compare_eq_iff_eq.mpr rfl), hplayer]
        exact ⟨change player, rfl, hchange player⟩
      · rw [if_neg (by simpa using hid)]
        exact ⟨player, hplayer, .refl player⟩

theorem RosterMove.keyed {before after : Std.TreeMap String PlayerScore}
    (h : RosterMove before after) (hkeyed : Keyed before) : Keyed after := by
  cases h with
  | kept => exact hkeyed
  | @changed badgeId callsign change hchange =>
      intro other player hplayer
      unfold upsertPlayer at hplayer
      rw [Std.TreeMap.getElem?_insert] at hplayer
      by_cases hid : badgeId = other
      · subst hid
        rw [if_pos (compare_eq_iff_eq.mpr rfl)] at hplayer
        cases hplayer
        rw [(hchange _).badgeId]
        cases hold : before[badgeId]? with
        | none => rfl
        | some previous => exact hkeyed badgeId previous hold
      · rw [if_neg (by simpa using hid)] at hplayer
        exact hkeyed other player hplayer

/-- A join is a change of an entry that was not there. -/
theorem rosterMove_join (players : Std.TreeMap String PlayerScore) (event : BadgeEvent) :
    RosterMove players (if players.contains event.badgeId then players
      else players.insert event.badgeId
        { badgeId := event.badgeId, callsign := event.callsign }) := by
  split
  · exact .kept
  · next hnew =>
      have habsent : players[event.badgeId]? = none :=
        Std.TreeMap.getElem?_eq_none fun hmem => hnew (Std.TreeMap.mem_iff_contains.mp hmem)
      have hupsert : upsertPlayer players event.badgeId event.callsign id
          = players.insert event.badgeId
              { badgeId := event.badgeId, callsign := event.callsign } := by
        unfold upsertPlayer
        rw [habsent]
        rfl
      rw [← hupsert]
      exact .changed fun player => .refl player

theorem playerForward_tally (wasCorrect : Bool) (points : Int) (player : PlayerScore) :
    PlayerForward player (GameWorkflow.tally wasCorrect points player) := by
  unfold GameWorkflow.tally
  cases wasCorrect
  · exact ⟨rfl, rfl, Nat.le_refl _, Nat.le_succ _, Nat.le_refl _⟩
  · exact ⟨rfl, rfl, Nat.le_succ _, Nat.le_refl _, Nat.le_refl _⟩

namespace Round
variable {r : Round}

/-- **The books move forward.** -/
theorem books_forward {s s' : State} {e : Event} (he : isStart e = false)
    (hstep : r.step s e = some s') :
    RosterMove s.wf.snapshot.players s'.wf.snapshot.players
      ∧ s.wf.snapshot.completedQuestions ≤ s'.wf.snapshot.completedQuestions := by
  have hmove := booksMove_of_step he hstep
  show RosterMove s.wf.snapshot.players s'.wf.books.players
    ∧ s.wf.snapshot.completedQuestions ≤ s'.wf.books.completedQuestions
  generalize s'.wf.books = books at hmove
  cases hmove with
  | kept _ _ _ => exact ⟨.kept, Nat.le_refl _⟩
  | joined event => exact ⟨rosterMove_join _ event, Nat.le_refl _⟩
  | panicked event =>
      have hpanic : ∀ player : PlayerScore,
          PlayerForward player { player with panics := player.panics + 1 } :=
        fun player => ⟨rfl, rfl, Nat.le_refl _, Nat.le_refl _, Nat.le_succ _⟩
      exact ⟨.changed hpanic, Nat.le_refl _⟩
  | answered _ => exact ⟨.changed (playerForward_tally _ _), Nat.le_succ _⟩

/-- **The counter of scheduled questions moves forward.** -/
theorem scheduled_forward {s s' : State} {e : Event} (hinv : LoopInvariant r s)
    (he : isStart e = false) (hstep : r.step s e = some s') :
    s.wf.snapshot.scheduledQuestions ≤ s'.wf.snapshot.scheduledQuestions := by
  cases transition_of_step hstep with
  | start _ => cases he
  | badgeStarted _ => exact Nat.le_of_eq (scheduled_badgeStarted s.wf _).symm
  | iterate hphase =>
      have hrun : s.phase.status ≠ .waiting := by simp [hphase, Phase.status]
      obtain ⟨dealt, _, _, hscheduled⟩ := iterate_counts (hinv.detected hrun)
      omega
  | completed _ _ => exact Nat.le_of_eq (scheduled_complete s _ _ _).symm
  | close _ => exact Nat.le_of_eq (scheduled_close s _ _).symm
  | _ => exact Nat.le_refl _

end Round

/-- The counters of the attempt book move forward. -/
structure BookForward (before after : GameWorkflow.AttemptBook) : Prop where
  reassignments : before.reassignments ≤ after.reassignments
  heartbeatTimeouts : before.heartbeatTimeouts ≤ after.heartbeatTimeouts
  activityAttempts : before.activityAttempts ≤ after.activityAttempts

theorem BookForward.refl (book : GameWorkflow.AttemptBook) : BookForward book book :=
  ⟨Nat.le_refl _, Nat.le_refl _, Nat.le_refl _⟩

theorem bookForward_handOver (book : GameWorkflow.AttemptBook) (event : BadgeEvent) :
    BookForward book (book.handOver event) := by
  unfold GameWorkflow.AttemptBook.handOver
  split
  · exact ⟨Nat.le_succ _, Nat.le_succ _, Nat.le_refl _⟩
  · exact .refl book

theorem bookForward_recordAttempt (book : GameWorkflow.AttemptBook) (event : BadgeEvent) :
    BookForward book (book.recordAttempt event) := by
  refine ⟨Nat.le_refl _, Nat.le_refl _, ?_⟩
  unfold GameWorkflow.AttemptBook.recordAttempt
  dsimp only
  split
  · exact Nat.le_refl _
  · exact Nat.le_succ _

theorem BookForward.trans {a b c : GameWorkflow.AttemptBook} (h : BookForward a b)
    (h' : BookForward b c) : BookForward a c :=
  ⟨h.reassignments.trans h'.reassignments, h.heartbeatTimeouts.trans h'.heartbeatTimeouts,
    h.activityAttempts.trans h'.activityAttempts⟩

/-- The control view moves forward. -/
structure ControlForward (before after : GameWorkflow.Control) : Prop where
  gameId : after.gameId = before.gameId
  extensionUsed : before.chaos.extensionUsed = true → after.chaos.extensionUsed = true
  powerups : powerupSequence before.chaos ≤ powerupSequence after.chaos
  finished : before.status = .finished → after.status = .finished

/-- A power-up takes the next sequence number, up to the last of a `u32`. -/
theorem powerupSequence_applyChaos (wf : GameWorkflow) (nowUnixMs : Nat)
    (command : ChaosCommand) :
    powerupSequence (wf.applyChaos nowUnixMs command).snapshot.chaos
      = min (powerupSequence wf.snapshot.chaos + 1) (2 ^ 32 - 1) := by
  have hlatest : (GameWorkflow.chaosEffect wf.snapshot.chaos nowUnixMs command).latestPowerup
      = wf.snapshot.chaos.latestPowerup := by
    cases command <;> rfl
  show ((GameWorkflow.chaosEffect wf.snapshot.chaos nowUnixMs command).latestPowerup.map
    fun notice => min (notice.sequence + 1) (2 ^ 32 - 1)).getD 1 = _
  rw [hlatest]
  unfold powerupSequence
  cases wf.snapshot.chaos.latestPowerup with
  | none => rfl
  | some notice => rfl

/-- The sequence number fits its `u32`. -/
def SequenceFits (control : GameWorkflow.Control) : Prop :=
  powerupSequence control.chaos ≤ 2 ^ 32 - 1

namespace Round
variable {r : Round}

/-- **The control view moves forward.** -/
theorem control_forward {s s' : State} {e : Event} (he : isStart e = false)
    (hfits : SequenceFits s.wf.control) (hstep : r.step s e = some s') :
    ControlForward s.wf.control s'.wf.control ∧ SequenceFits s'.wf.control := by
  cases controlMove_of_transition (transition_of_step hstep) with
  | kept _ hcontrol =>
      rw [hcontrol]
      exact ⟨⟨rfl, id, Nat.le_refl _, id⟩, hfits⟩
  | @chaos command _ _ _ hcontrol =>
      rw [hcontrol]
      have hsequence : powerupSequence (s.wf.applyChaos s.clock command).control.chaos
          = min (powerupSequence s.wf.control.chaos + 1) (2 ^ 32 - 1) :=
        powerupSequence_applyChaos s.wf s.clock command
      unfold SequenceFits at hfits ⊢
      refine ⟨⟨rfl, ?_, ?_, id⟩, ?_⟩
      · intro hused
        cases command with
        | extendThirtySeconds => rfl
        | _ => exact hused
      · rw [hsequence]
        omega
      · rw [hsequence]
        omega
  | ended _ _ _ hcontrol =>
      rw [hcontrol]
      exact ⟨⟨rfl, id, Nat.le_refl _, id⟩, hfits⟩
  | started he' _ _ _ =>
      subst he'
      cases he
  | swept _ _ hcontrol =>
      rw [hcontrol]
      exact ⟨⟨rfl, id, Nat.le_refl _, id⟩, hfits⟩
  | closed _ _ hcontrol =>
      rw [hcontrol]
      exact ⟨⟨rfl, id, Nat.le_refl _, fun _ => rfl⟩, hfits⟩

/-- **The attempt book moves forward.** -/
theorem attemptBook_forward {s s' : State} {e : Event} (he : isStart e = false)
    (hstep : r.step s e = some s') : BookForward s.wf.attemptBook s'.wf.attemptBook := by
  cases hev : startedEvent (s, e) with
  | none =>
      rw [attemptBook_step he hev hstep]
      exact .refl _
  | some event =>
      cases transition_of_step hstep with
      | badgeStarted _ =>
          rw [GameWorkflow.attemptBook_badgeStarted,
            GameWorkflow.attemptBook_recordActivityStarted]
          exact (bookForward_handOver _ _).trans (bookForward_recordAttempt _ _)
      | _ => cases hev

/-- What the snapshot of a round always is. -/
structure Tidy (s : State) : Prop where
  keyed : Keyed s.wf.snapshot.players
  fits : SequenceFits s.wf.control

/-- **The step lemma.** -/
theorem forward_step {s s' : State} {e : Event} (hinv : LoopInvariant r s) (htidy : Tidy s)
    (he : isStart e = false) (hstep : r.step s e = some s') :
    Forward s.wf.snapshot s'.wf.snapshot ∧ Tidy s' := by
  obtain ⟨hroster, hcompleted⟩ := books_forward he hstep
  obtain ⟨hcontrol, hfits⟩ := control_forward he htidy.fits hstep
  have hbook := attemptBook_forward he hstep
  refine ⟨?_, hroster.keyed htidy.keyed, hfits⟩
  exact
    { gameId := hcontrol.gameId
      players := hroster.forward
      completed := hcompleted
      scheduled := scheduled_forward hinv he hstep
      reassignments := hbook.reassignments
      heartbeatTimeouts := hbook.heartbeatTimeouts
      activityAttempts := hbook.activityAttempts
      extensionUsed := hcontrol.extensionUsed
      powerups := hcontrol.powerups
      finished := hcontrol.finished }

theorem tidy_run {hist : History} {s : State} (hrun : r.system.Run hist s) : Tidy s := by
  refine sinceStart_invariant (I := fun _ s => Tidy s) hrun ?_ ?_ ?_
  · intro clock
    refine ⟨?_, Nat.zero_le _⟩
    intro badgeId player hplayer
    cases hplayer
  · intro s
    constructor
    · intro badgeId player hplayer
      rw [show (r.start s).wf.snapshot.players = ∅ from
        congrArg GameWorkflow.Books.players (start_books s)] at hplayer
      cases hplayer
    · unfold SequenceFits
      rw [start_control]
      exact Nat.zero_le _
  · intro round s e s' hreach he htidy hstep
    exact (forward_step (loopInvariant_reachable hreach) htidy he hstep).2

/-- **The run lemma.** -/
theorem forward_path {hist later : History} {s s' : State} (hrun : r.system.Run hist s)
    (hstarted : s.phase ≠ .unstarted) (hpath : r.system.Path s later s') :
    Forward s.wf.snapshot s'.wf.snapshot := by
  induction hpath with
  | nil => exact .refl _
  | @snoc later s₁ s₂ e hpath hstep ih =>
      have hrun₁ := hrun.append hpath
      have hstarted₁ : s₁.phase ≠ .unstarted :=
        hpath.preserves (I := fun s => s.phase ≠ .unstarted) hstarted
          fun s e s' h hs => started_step (r := r) h hs
      have he : isStart e = false := by
        cases e with
        | start =>
            cases transition_of_step (show r.step s₁ .start = some s₂ from hstep) with
            | start hphase => exact absurd hphase hstarted₁
        | _ => rfl
      have hone := forward_step (loopInvariant_reachable hrun₁.reachable) (tidy_run hrun₁) he hstep
      exact ih.trans hone.1

/-- **State only moves forward**, and so the TV accepts every later
snapshot of the round. -/
theorem state_moves_forward {hist later : History} {s s' : State} (hrun : r.system.Run hist s)
    (hstarted : s.phase ≠ .unstarted) (hpath : r.system.Path s later s') :
    Forward s.wf.snapshot s'.wf.snapshot
      ∧ stateContinued (some s.wf.snapshot) (some s'.wf.snapshot) = true := by
  have hforward := forward_path hrun hstarted hpath
  refine ⟨hforward, stateContinued_of_forward (tidy_run hrun).keyed ?_ hforward⟩
  exact (tidy_run (hrun.append hpath)).keyed

/-- A round with an answer and a panic before the comparison, and a
join, a power-up and the end after it. -/
theorem state_moves_forward_busy :
    ∃ hist s later s', busyRound.system.Run hist s ∧ busyRound.system.Path s later s'
      ∧ s.wf.snapshot.players.size = 1 ∧ s'.wf.snapshot.players.size = 2
      ∧ s'.wf.snapshot.status = .finished
      ∧ stateContinued (some s.wf.snapshot) (some s'.wf.snapshot) = true := by
  obtain ⟨hist, s, later, s', hrun, htest⟩ := StepSystem.exists_run_around
    (S := busyRound.system) { clock := 0 }
    [.start, .iterate, .panicEvent demoPanic, .completed 0 (.ok demoAnswer), .iterate]
    (.badgeStarted (demoStart "demo-rust" 2 true))
    [.applyChaos .doublePoints, .endRound, .advance 1000, .tick, .iterate, .close none]
    (fun run => !decide (run.1.2.phase.due = none) && run.1.2.wf.snapshot.players.size == 1
      && run.2.2.wf.snapshot.players.size == 2 && run.2.2.wf.snapshot.status == .finished)
    ⟨0, rfl⟩ (by decide +kernel)
  simp only [Bool.and_eq_true, beq_iff_eq, Bool.not_eq_true', decide_eq_false_iff_not] at htest
  obtain ⟨⟨⟨hdue, hbefore⟩, hafter⟩, hfinished⟩ := htest
  have hstarted : s.phase ≠ .unstarted := fun hc => hdue (by rw [hc]; rfl)
  obtain ⟨s₀, hinit, hpath⟩ := hrun
  obtain ⟨hfirst, s₁, hstep, hlast⟩ := hpath.split
  have hlater := (StepSystem.Path.nil.snoc hstep).append hlast
  have hrun : busyRound.system.Run hist s := ⟨s₀, hinit, hfirst⟩
  exact ⟨hist, s, _, s', hrun, hlater, hbefore, hafter, hfinished,
    (state_moves_forward hrun hstarted hlater).2⟩

end Round

end DurableTrivia.Web
