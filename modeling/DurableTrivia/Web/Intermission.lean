import DurableTrivia.Web.Wedge

/-!
# Intermission — the results of a round stay up, and then make room

The other timeout of the page: once a finished round is on the board its
results stay up for half a minute, then the board turns to the
intermission, unless a recovery is under way. The timeout of the results
is the only one of its kind, and it is always of the round on the board.
-/

namespace DurableTrivia.Web

open DurableTrivia.Shared DurableTrivia.Lib

namespace Page
variable {p p' p'' : Page}

/-- The results of the round are up, and not the intermission. -/
def ShowsResults (p : Page) : Prop := p.intermissionMode = false ∧ p.state.status = .finished

/-- What a timeout of the results tells. -/
structure Holds (p : Page) (i : Nat) (t : Timer) (gameId : Option String) : Prop where
  timer : p.postRoundTimer = some i
  status : p.state.status = .finished
  game : p.state.gameId = gameId
  full : p.heldAt + postRoundHoldMs ≤ t.due
  due : t.due ≤ max (p.heldAt + postRoundHoldMs) (p.deferredAt + transitionRetryMs)

/-- What holds of the results screen in every run. -/
structure Results (p : Page) : Prop where
  holds : ∀ i t gameId, p.timers.task i = some t → t.callback = .transition gameId →
    p.Holds i t gameId
  idle : p.intermissionMode = true → p.postRoundTimer = none
  marked : p.ShowsResults → p.postRoundGameId = p.state.gameId
  waits : p.intermissionMode = false → ∀ gameId, p.postRoundGameId = some gameId →
    p.state.status = .finished
      ∧ ∃ i t, p.timers.task i = some t ∧ t.callback = .transition (some gameId)

/-! ## The recovery, seen from the results -/

/-- `p'` is `p` but for its recovery. -/
structure Backstage (p p' : Page) : Prop where
  state : p'.state = p.state
  mode : p'.intermissionMode = p.intermissionMode
  timer : p'.postRoundTimer = p.postRoundTimer
  gameId : p'.postRoundGameId = p.postRoundGameId
  heldAt : p'.heldAt = p.heldAt
  deferredAt : p'.deferredAt = p.deferredAt
  same : SameTimers Callback.ofResults p.timers p'.timers

theorem Backstage.refl (p : Page) : Backstage p p := ⟨rfl, rfl, rfl, rfl, rfl, rfl, .refl _⟩

theorem Backstage.trans (h : Backstage p p') (h' : Backstage p' p'') : Backstage p p'' where
  state := h'.state.trans h.state
  mode := h'.mode.trans h.mode
  timer := h'.timer.trans h.timer
  gameId := h'.gameId.trans h.gameId
  heldAt := h'.heldAt.trans h.heldAt
  deferredAt := h'.deferredAt.trans h.deferredAt
  same := h.same.trans h'.same

theorem backstage_fetch (p : Page) (request : Request) : Backstage p (p.fetch request) :=
  ⟨rfl, rfl, rfl, rfl, rfl, rfl, .refl _⟩

theorem Backstage.pollRecovery (h : Backstage p p') : Backstage p p'.pollRecovery := by
  unfold Page.pollRecovery
  split
  · exact h.trans (backstage_fetch p' _)
  · exact h

/-- Every timeout of the results is in its variable. -/
def Owned (p : Page) : Prop :=
  ∀ i t, p.timers.task i = some t → t.callback.ofResults = true → p.postRoundTimer = some i

/-- No timeout of the results is left. -/
def Cleared (p : Page) : Prop := ∀ i t, p.timers.task i = some t → t.callback.ofResults = false

theorem ofResults_eq {callback : Callback} (h : callback.ofResults = true) :
    ∃ gameId, callback = .transition gameId := by
  cases callback with
  | pollRecovery | settle => cases h
  | transition gameId => exact ⟨gameId, rfl⟩

theorem Results.owned (h : Results p) : Owned p := by
  intro i t hi hkind
  obtain ⟨gameId, hcallback⟩ := ofResults_eq hkind
  exact (h.holds i t gameId hi hcallback).timer

theorem Cleared.owned (h : Cleared p) : Owned p := by
  intro i t hi hkind
  rw [h i t hi] at hkind
  cases hkind

theorem cleared_clear (h : Owned p) : Cleared p.clearPostRoundTimer := by
  intro i t hi
  by_contra hkind
  replace hkind : t.callback.ofResults = true := by simpa using hkind
  unfold clearPostRoundTimer clearTimeout at hi
  cases htimer : p.postRoundTimer with
  | none =>
      rw [htimer] at hi
      have hsome := h i t hi hkind
      rw [htimer] at hsome
      cases hsome
  | some j =>
      rw [htimer] at hi
      replace hi : (p.timers.become j none).task i = some t := hi
      rw [Tasks.task_end] at hi
      by_cases hji : j = i
      · rw [if_pos hji] at hi
        cases hi
      · rw [if_neg hji] at hi
        have hsome := h i t hi hkind
        rw [htimer] at hsome
        exact hji (Option.some.inj hsome)

@[simp] theorem clearPostRoundTimer_timer (p : Page) :
    p.clearPostRoundTimer.postRoundTimer = none :=
  rfl

@[simp] theorem clearPostRoundTimer_mode (p : Page) :
    p.clearPostRoundTimer.intermissionMode = p.intermissionMode := by
  unfold clearPostRoundTimer clearTimeout
  split <;> rfl

@[simp] theorem clearPostRoundTimer_state (p : Page) : p.clearPostRoundTimer.state = p.state := by
  unfold clearPostRoundTimer clearTimeout
  split <;> rfl

@[simp] theorem clearPostRoundTimer_now (p : Page) : p.clearPostRoundTimer.now = p.now := by
  unfold clearPostRoundTimer clearTimeout
  split <;> rfl

@[simp] theorem clearPostRoundTimer_gameId (p : Page) :
    p.clearPostRoundTimer.postRoundGameId = p.postRoundGameId := by
  unfold clearPostRoundTimer clearTimeout
  split <;> rfl

/-- A page without results on it has nothing to wait for. -/
theorem results_of_cleared (h : Cleared p) (htimer : p.postRoundTimer = none)
    (hmarked : p.ShowsResults → p.postRoundGameId = p.state.gameId)
    (hunmarked : p.intermissionMode = false → p.postRoundGameId = none) : Results p where
  holds := by
    intro i t gameId hi hcallback
    have hkind := h i t hi
    rw [hcallback] at hkind
    cases hkind
  idle := fun _ => htimer
  marked := hmarked
  waits := by
    intro hmode gameId hgame
    rw [hunmarked hmode] at hgame
    cases hgame

/-- A timeout for the game on the board is the only one. -/
theorem results_timer (h : Cleared p) (hshows : p.ShowsResults)
    (hgame : p.postRoundGameId = p.state.gameId) (delay heldAt deferredAt : Nat)
    (hfull : heldAt + postRoundHoldMs ≤ p.now + delay)
    (hdue : p.now + delay ≤ max (heldAt + postRoundHoldMs) (deferredAt + transitionRetryMs)) :
    Results { p.setTimeout (.transition p.postRoundGameId) delay with
      postRoundTimer := some p.nextTimer, heldAt, deferredAt } where
  holds := by
    intro i t gameId hi hcallback
    replace hi : (p.timers.spawn _).task i = some t := hi
    rw [Tasks.task_spawn] at hi
    by_cases hnew : i = p.timers.length
    · rw [if_pos hnew] at hi
      cases hi
      cases hcallback
      subst hnew
      exact ⟨rfl, hshows.2, hgame.symm, hfull, hdue⟩
    · rw [if_neg hnew] at hi
      have hkind := h i t hi
      rw [hcallback] at hkind
      cases hkind
  idle := by
    intro hmode
    replace hmode : p.intermissionMode = true := hmode
    rw [hshows.1] at hmode
    cases hmode
  marked := fun _ => hgame
  waits := by
    intro _ gameId hid
    replace hid : p.postRoundGameId = some gameId := hid
    refine ⟨hshows.2, p.timers.length,
      { due := p.now + delay, callback := .transition p.postRoundGameId }, ?_, ?_⟩
    · show (p.timers.spawn _).task p.timers.length = _
      rw [Tasks.task_spawn, if_pos rfl]
    · rw [hid]

/-- What is rendered is waited for. -/
theorem results_schedule (howned : Owned p)
    (hsame : p.ShowsResults → p.postRoundGameId = p.state.gameId → Results p) :
    Results (p.schedulePostRoundIntermission p.state) := by
  have hclear := cleared_clear howned
  unfold schedulePostRoundIntermission
  split
  · next hno =>
      split
      · next hstatus =>
          refine results_of_cleared hclear rfl (fun hshows => ?_) fun _ => rfl
          exact absurd (by simpa using hshows.2) hstatus
      · next hstatus =>
          have hmode : p.intermissionMode = true := hno.resolve_left hstatus
          refine results_of_cleared hclear rfl (fun hshows => ?_) fun hfalse => ?_
          · have hfalse := hshows.1
            rw [clearPostRoundTimer_mode, hmode] at hfalse
            cases hfalse
          · rw [clearPostRoundTimer_mode, hmode] at hfalse
            cases hfalse
  · next hyes =>
      rw [not_or, not_not, Bool.not_eq_true] at hyes
      obtain ⟨hstatus, hmode⟩ := hyes
      split
      · next hgame => exact hsame ⟨hmode, hstatus⟩ hgame
      · refine results_timer (p := { p.clearPostRoundTimer with postRoundGameId := p.state.gameId })
          hclear ⟨?_, ?_⟩ ?_ postRoundHoldMs p.now p.clearPostRoundTimer.deferredAt ?_ ?_
        · exact (clearPostRoundTimer_mode p).trans hmode
        · exact (congrArg GameSnapshot.status (clearPostRoundTimer_state p)).trans hstatus
        · exact (congrArg GameSnapshot.gameId (clearPostRoundTimer_state p)).symm
        · exact Nat.le_of_eq (by rw [clearPostRoundTimer_now])
        · exact Nat.le_trans (Nat.le_of_eq (by rw [clearPostRoundTimer_now])) (Nat.le_max_left _ _)

/-- A snapshot is rendered over another. -/
theorem Results.render (h : Results p) (snapshot : GameSnapshot) : Results (p.render snapshot) := by
  refine results_schedule (p := { p with state := snapshot }) h.owned fun hshows hgame => ?_
  replace hgame : p.postRoundGameId = snapshot.gameId := hgame
  refine
    { holds := fun i t gameId hi hcallback => ?_
      idle := h.idle
      marked := fun _ => hgame
      waits := fun hmode gameId hid => ?_ }
  · have hold := h.holds i t gameId hi hcallback
    refine { hold with status := hshows.2, game := ?_ }
    have hmarked := h.marked ⟨hshows.1, hold.status⟩
    rw [hold.game, hgame] at hmarked
    exact hmarked
  · exact ⟨hshows.2, (h.waits hmode gameId hid).2⟩

theorem Results.roundStarted (h : Results p) (snapshot : GameSnapshot) :
    Results (p.roundStarted snapshot) := by
  have howned : Owned { p with intermissionMode := false, postRoundGameId := none } := h.owned
  have hclear := cleared_clear howned
  unfold Page.roundStarted Page.render
  refine results_schedule (p := { ({ p with
    intermissionMode := false, postRoundGameId := none } : Page).clearPostRoundTimer with
    state := snapshot }) (Cleared.owned hclear) fun _ hgame => ?_
  refine results_of_cleared hclear rfl (fun _ => hgame) fun _ => ?_
  exact clearPostRoundTimer_gameId _

end Page

end DurableTrivia.Web
