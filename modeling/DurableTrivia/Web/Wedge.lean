import DurableTrivia.Web.Page

/-!
# Wedge — a recovery ends, and so do the results

Two promises of the page's script that rest on timeouts: a recovery never
wedges the board, and the results of a round stay up for their time and
then make room. The script keeps one variable for the timeout of either,
overwrites it and clears what it names, while polls of one recovery may
run side by side. What is needed is that a variable only ever names a
timeout of its own kind, so that neither promise can lose the other one's
timeout; then something that ends it is always under way (`recovery_run`,
`results_run`).
-/

namespace DurableTrivia.Web

open DurableTrivia.Shared DurableTrivia.Lib

/-! ## Kinds of timeouts -/

/-- Of a recovery; the others are of the results. -/
def Callback.recovers : Callback → Bool
  | .pollRecovery | .settle => true
  | .transition _ => false

/-- The tables hold the same timeouts of a kind. -/
def SameTimers (kind : Callback → Bool) (timers timers' : Tasks Timer) : Prop :=
  ∀ i t, kind t.callback = true → (timers'.task i = some t ↔ timers.task i = some t)

/-- The variable names no timeout of another kind, now or later. -/
def Names (kind : Callback → Bool) (timers : Tasks Timer) (timer : Option Nat) : Prop :=
  ∀ i, timer = some i → i < timers.length ∧ ∀ t, timers.task i = some t → kind t.callback = true

section
variable {kind other : Callback → Bool} {timers timers' timers'' : Tasks Timer}

theorem SameTimers.refl (timers : Tasks Timer) : SameTimers kind timers timers :=
  fun _ _ _ => Iff.rfl

theorem SameTimers.trans (h : SameTimers kind timers timers')
    (h' : SameTimers kind timers' timers'') : SameTimers kind timers timers'' :=
  fun i t ht => (h' i t ht).trans (h i t ht)

theorem SameTimers.spawn {t : Timer} (ht : kind t.callback = false) :
    SameTimers kind timers (timers.spawn t) := by
  intro i u hu
  rw [Tasks.task_spawn]
  by_cases hi : i = timers.length
  · subst hi
    have hempty : timers.task timers.length = none := by simp [Tasks.task]
    rw [if_pos rfl, hempty]
    constructor
    · intro heq
      cases heq
      rw [ht] at hu
      cases hu
    · intro hnone
      cases hnone
  · rw [if_neg hi]

/-- Ending a timeout of another kind. -/
theorem SameTimers.end {i : Nat} (h : ∀ t, timers.task i = some t → kind t.callback = false) :
    SameTimers kind timers (timers.become i none) := by
  intro j u hu
  rw [Tasks.task_end]
  by_cases hij : i = j
  · subst hij
    rw [if_pos rfl]
    constructor
    · intro hnone
      cases hnone
    · intro hsome
      rw [h u hsome] at hu
      cases hu
  · rw [if_neg hij]

theorem names_none : Names kind timers none := by
  intro i hi
  cases hi

theorem names_spawn {t : Timer} (ht : kind t.callback = true) :
    Names kind (timers.spawn t) (some timers.length) := by
  intro i hi
  cases hi
  refine ⟨by simp [Tasks.spawn], fun u hu => ?_⟩
  rw [Tasks.task_spawn, if_pos rfl] at hu
  cases hu
  exact ht

theorem Names.spawn {timer : Option Nat} (h : Names kind timers timer) (t : Timer) :
    Names kind (timers.spawn t) timer := by
  intro i hi
  obtain ⟨hlt, hkind⟩ := h i hi
  refine ⟨by simp [Tasks.spawn]; omega, fun u hu => hkind u ?_⟩
  rwa [Tasks.task_spawn, if_neg (Nat.ne_of_lt hlt)] at hu

theorem Names.end {timer : Option Nat} (h : Names kind timers timer) (j : Nat) :
    Names kind (timers.become j none) timer := by
  intro i hi
  obtain ⟨hlt, hkind⟩ := h i hi
  refine ⟨by simpa [Tasks.become] using hlt, fun u hu => hkind u ?_⟩
  rw [Tasks.task_end] at hu
  by_cases hji : j = i
  · rw [if_pos hji] at hu
    cases hu
  · rwa [if_neg hji] at hu

end

/-- Of the results of a round. -/
def Callback.ofResults (callback : Callback) : Bool := !callback.recovers

namespace Page
variable {p p' p'' : Page}

/-- The two variables for timeouts name their own kind. -/
structure Apart (p : Page) : Prop where
  poll : Names Callback.recovers p.timers p.recoveryPollTimer
  post : Names Callback.ofResults p.timers p.postRoundTimer

/-! ## The results, seen from the recovery -/

/-- `p'` is `p` but for the board and what the results wait for. -/
structure Aside (p p' : Page) : Prop where
  now : p'.now = p.now
  active : p'.recoveryActive = p.recoveryActive
  recovering : p'.recovering = p.recovering
  proof : p'.recoveryProof = p.recoveryProof
  startedAt : p'.recoveryStartedAt = p.recoveryStartedAt
  joinedAt : p'.joinedAt = p.joinedAt
  requests : p'.requests = p.requests
  same : SameTimers Callback.recovers p.timers p'.timers
  apart : Apart p'

theorem Aside.refl (h : Apart p) : Aside p p :=
  ⟨rfl, rfl, rfl, rfl, rfl, rfl, rfl, .refl _, h⟩

theorem Aside.trans (h : Aside p p') (h' : Aside p' p'') : Aside p p'' where
  now := h'.now.trans h.now
  active := h'.active.trans h.active
  recovering := h'.recovering.trans h.recovering
  proof := h'.proof.trans h.proof
  startedAt := h'.startedAt.trans h.startedAt
  joinedAt := h'.joinedAt.trans h.joinedAt
  requests := h'.requests.trans h.requests
  same := h.same.trans h'.same
  apart := h'.apart

theorem aside_clearPostRoundTimer (h : Apart p) : Aside p p.clearPostRoundTimer := by
  unfold clearPostRoundTimer clearTimeout
  cases htimer : p.postRoundTimer with
  | none => exact ⟨rfl, rfl, rfl, rfl, rfl, rfl, rfl, .refl _, h.poll, names_none⟩
  | some i =>
      have hkind : ∀ t, p.timers.task i = some t → t.callback.recovers = false := by
        intro t ht
        simpa [Callback.ofResults] using (h.post i htimer).2 t ht
      exact ⟨rfl, rfl, rfl, rfl, rfl, rfl, rfl, .end hkind, h.poll.end i, names_none⟩

/-- A timeout of the results is set in its variable. -/
theorem aside_transition_timer (h : Apart p) (gameId : Option String)
    (delay heldAt deferredAt : Nat)
    (postRoundGameId : Option String) :
    Aside p { p.setTimeout (.transition gameId) delay with
      postRoundTimer := some p.nextTimer, postRoundGameId, heldAt, deferredAt } :=
  ⟨rfl, rfl, rfl, rfl, rfl, rfl, rfl, .spawn rfl, h.poll.spawn _, names_spawn rfl⟩

theorem aside_schedule (h : Apart p) (snapshot : GameSnapshot) :
    Aside p (p.schedulePostRoundIntermission snapshot) := by
  have hclear := aside_clearPostRoundTimer h
  unfold schedulePostRoundIntermission
  split
  · split
    · exact ⟨hclear.now, hclear.active, hclear.recovering, hclear.proof, hclear.startedAt,
        hclear.joinedAt, hclear.requests, hclear.same, hclear.apart.poll, hclear.apart.post⟩
    · exact hclear
  · split
    · exact .refl h
    · exact hclear.trans (aside_transition_timer hclear.apart snapshot.gameId postRoundHoldMs p.now
        p.clearPostRoundTimer.deferredAt snapshot.gameId)

theorem aside_render (h : Apart p) (snapshot : GameSnapshot) : Aside p (p.render snapshot) := by
  have hstate : Aside p { p with state := snapshot } :=
    ⟨rfl, rfl, rfl, rfl, rfl, rfl, rfl, .refl _, h.poll, h.post⟩
  exact hstate.trans (aside_schedule hstate.apart snapshot)

theorem aside_enterIntermission (h : Apart p) : Aside p p.enterIntermission := by
  have hclear := aside_clearPostRoundTimer h
  have hmode : Aside p { p.clearPostRoundTimer with intermissionMode := true } :=
    ⟨hclear.now, hclear.active, hclear.recovering, hclear.proof, hclear.startedAt, hclear.joinedAt,
      hclear.requests, hclear.same, hclear.apart.poll, hclear.apart.post⟩
  exact hmode.trans (aside_render hmode.apart p.state)

theorem aside_transition (h : Apart p) (gameId : Option String) :
    Aside p (p.transition gameId) := by
  have hnone : Aside p { p with postRoundTimer := none } :=
    ⟨rfl, rfl, rfl, rfl, rfl, rfl, rfl, .refl _, h.poll, names_none⟩
  unfold transition
  dsimp only
  split
  · exact hnone
  · split
    · exact hnone.trans (aside_transition_timer hnone.apart gameId transitionRetryMs _ _ _)
    · exact hnone.trans (aside_enterIntermission hnone.apart)

theorem aside_roundStarted (h : Apart p) (snapshot : GameSnapshot) :
    Aside p (p.roundStarted snapshot) := by
  have hmode : Aside p { p with intermissionMode := false, postRoundGameId := none } :=
    ⟨rfl, rfl, rfl, rfl, rfl, rfl, rfl, .refl _, h.poll, h.post⟩
  have hclear := hmode.trans (aside_clearPostRoundTimer hmode.apart)
  exact hclear.trans (aside_render hclear.apart snapshot)

theorem aside_refreshed (h : Apart p) (snapshot : GameSnapshot) :
    Aside p (p.refreshed snapshot) := by
  unfold refreshed
  split
  · exact .refl h
  · exact aside_render h snapshot

/-! ## A recovery is on its way -/

/-- Something that ends the recovery is under way: a poll, or the wait for
the next one, or the wait at its end. -/
def Pending (p : Page) : Prop :=
  (∃ i t, p.timers.task i = some t ∧ t.callback.recovers = true)
    ∨ ∃ i sent, p.requests.task i = some sent ∧ sent.request = .recovery

/-- What the handlers of a recovery find. -/
structure Tame (p : Page) : Prop where
  apart : Apart p
  shown : p.recovering = p.recoveryActive

/-- What holds of a recovery in every run: while it shows, something is
pending. -/
structure Recovering (p : Page) : Prop where
  tame : Tame p
  pending : p.recoveryActive = true → p.Pending

theorem Tame.aside (h : Tame p) (haside : Aside p p') : Tame p' where
  apart := haside.apart
  shown := by rw [haside.recovering, haside.active, h.shown]

theorem Recovering.aside (h : Recovering p) (haside : Aside p p') : Recovering p' where
  tame := h.tame.aside haside
  pending := by
    intro hactive
    rw [haside.active] at hactive
    unfold Pending
    rw [haside.requests]
    rcases h.pending hactive with ⟨i, t, hi, hkind⟩ | hrequest
    · exact .inl ⟨i, t, (haside.same i t hkind).mpr hi, hkind⟩
    · exact .inr hrequest

/-- A timeout of the recovery is set in its variable. -/
theorem recovering_waitFor (h : Tame p) {callback : Callback} (hkind : callback.recovers = true)
    (delay : Nat) : Recovering (p.waitFor callback delay) where
  tame := ⟨⟨names_spawn hkind, h.apart.post.spawn _⟩, h.shown⟩
  pending := fun _ => .inl ⟨p.timers.length, _, by
    show (p.timers.spawn _).task p.timers.length = _
    rw [Tasks.task_spawn, if_pos rfl], hkind⟩

theorem Tame.clear (h : Tame p) (timer : Option Nat) : Tame (p.clearTimeout timer) := by
  cases timer with
  | none => exact h
  | some i => exact ⟨⟨h.apart.poll.end i, h.apart.post.end i⟩, h.shown⟩

theorem tame_stage (h : Tame p) (stage : Fin 4) (detail : String) :
    Tame (p.setRecoveryStage stage detail) := ⟨⟨h.apart.poll, h.apart.post⟩, h.shown⟩

theorem tame_showProof (h : Tame p) (proof : Option RecoveryProof) : Tame (p.showProof proof) := by
  cases proof with
  | none => exact h
  | some proof =>
      have hproof : Tame { p with currentProcessProof := some proof } :=
        ⟨⟨h.apart.poll, h.apart.post⟩, h.shown⟩
      exact hproof.aside (aside_render hproof.apart proof.snapshot)

theorem recovering_finish (h : Tame p) (proof : Option RecoveryProof) (detail : String) :
    Recovering (p.finishRecovery proof detail) := by
  have hstage := tame_stage (tame_showProof h proof) 3 detail
  exact recovering_waitFor (hstage.clear _) rfl recoverySettleMs

theorem recovering_pollAgain (h : Tame p) : Recovering p.pollAgain := by
  unfold pollAgain
  split
  · exact recovering_finish h _ _
  · exact recovering_waitFor h rfl recoveryPollMs

theorem tame_observed (h : Tame p) : Tame { p with processLossObserved := true } :=
  ⟨⟨h.apart.poll, h.apart.post⟩, h.shown⟩

theorem tame_noteProof (h : Tame p) (before proof : RecoveryProof) :
    Tame (p.noteProof before proof) := by
  have hlost : Tame (if p.processLossObserved then p
      else { p with processLossObserved := true }.setRecoveryStage 0 "") := by
    split
    · exact h
    · exact tame_stage (tame_observed h) 0 ""
  unfold noteProof
  dsimp only
  split
  · exact tame_stage (tame_stage hlost _ _) _ _
  · exact tame_stage hlost _ _

theorem recovering_polled (h : Tame p) (result : Option RecoveryProof) :
    Recovering (p.recoveryPolled result) := by
  unfold recoveryPolled
  cases result with
  | none => exact recovering_pollAgain (tame_stage (tame_observed h) 0 "")
  | some proof =>
      dsimp only
      cases p.recoveryProof with
      | none => exact recovering_pollAgain h
      | some before =>
          dsimp only
          split
          · exact recovering_pollAgain h
          · split
            · exact recovering_finish (tame_noteProof h before proof) _ _
            · exact recovering_pollAgain (tame_noteProof h before proof)

/-- A poll is sent, while the recovery lasts. -/
theorem recovering_pollRecovery (h : Tame p) : Recovering p.pollRecovery := by
  unfold pollRecovery
  split
  · refine ⟨⟨⟨h.apart.poll, h.apart.post⟩, h.shown⟩, fun _ => .inr ?_⟩
    refine ⟨p.requests.length, { sentAt := p.now, request := .recovery }, ?_, rfl⟩
    show (p.requests.spawn _).task p.requests.length = _
    rw [Tasks.task_spawn, if_pos rfl]
  · next hidle => exact ⟨h, fun hactive => absurd hactive hidle⟩

theorem recovering_begin (h : Recovering p) (proof : Option RecoveryProof) :
    Recovering (p.beginRecovery proof) := by
  unfold beginRecovery
  split
  · exact ⟨tame_stage (tame_observed h.tame) 0 "", h.pending⟩
  · have hclear := h.tame.clear p.recoveryPollTimer
    exact recovering_pollRecovery ⟨⟨hclear.apart.poll, hclear.apart.post⟩, rfl⟩

theorem recovering_complete (h : Recovering p) : Recovering p.completeRecovery := by
  unfold completeRecovery
  split
  · have hpoll := recovering_pollRecovery h.tame
    exact ⟨⟨⟨hpoll.tame.apart.poll, hpoll.tame.apart.post⟩, hpoll.tame.shown⟩, hpoll.pending⟩
  · exact h

/-- One more request does not end anything. -/
theorem recovering_fetch (h : Recovering p) (request : Request) : Recovering (p.fetch request) where
  tame := ⟨⟨h.tame.apart.poll, h.tame.apart.post⟩, h.tame.shown⟩
  pending := by
    intro hactive
    rcases h.pending hactive with htimer | ⟨i, sent, hi, hkind⟩
    · exact .inl htimer
    · refine .inr ⟨i, sent, ?_, hkind⟩
      show (p.requests.spawn _).task i = some sent
      rw [Tasks.task_spawn, if_neg ?_]
      · exact hi
      · rintro rfl
        simp [Tasks.task] at hi

theorem recovering_loaded (h : Recovering p) : Recovering p.loaded := by
  unfold loaded
  split
  · exact ⟨⟨⟨h.tame.apart.poll, h.tame.apart.post⟩, h.tame.shown⟩, h.pending⟩
  · exact h
  · exact h

theorem recovering_loadFailed (h : Recovering p) : Recovering p.loadFailed := by
  unfold loadFailed
  split
  · have hbegin := recovering_begin h p.currentProcessProof
    exact ⟨⟨⟨hbegin.tame.apart.poll, hbegin.tame.apart.post⟩, hbegin.tame.shown⟩, hbegin.pending⟩
  · exact h

theorem recovering_refreshAnswered (h : Recovering p) (caller : Caller)
    (result : Option GameSnapshot) : Recovering (p.refreshAnswered caller result) := by
  cases result with
  | some snapshot =>
      have hrefreshed := h.aside (aside_refreshed h.tame.apart snapshot)
      cases caller with
      | load =>
          refine recovering_loaded ⟨⟨⟨?_, ?_⟩, hrefreshed.tame.shown⟩, hrefreshed.pending⟩
          · exact hrefreshed.tame.apart.poll
          · exact hrefreshed.tame.apart.post
      | opened => exact recovering_complete hrefreshed
      | settled | operator => exact hrefreshed
  | none =>
      cases caller with
      | load => exact recovering_loadFailed h
      | opened => exact recovering_begin h _
      | settled | operator => exact h

/-- A timeout fires. -/
theorem recovering_call (h : Recovering p) {i : Nat} {timer : Timer}
    (hi : p.timers.task i = some timer) :
    Recovering ({ p with timers := p.timers.become i none }.call timer.callback) := by
  have htame : Tame { p with timers := p.timers.become i none } :=
    ⟨⟨h.tame.apart.poll.end i, h.tame.apart.post.end i⟩, h.tame.shown⟩
  cases hcallback : timer.callback with
  | pollRecovery => exact recovering_pollRecovery htame
  | settle => exact ⟨⟨⟨htame.apart.poll, htame.apart.post⟩, rfl⟩, fun hactive => by cases hactive⟩
  | transition gameId =>
      have hother : ∀ t, p.timers.task i = some t → t.callback.recovers = false := by
        intro t ht
        rw [hi] at ht
        cases ht
        rw [hcallback]
        rfl
      have hfired : Aside p { p with timers := p.timers.become i none } :=
        ⟨rfl, rfl, rfl, rfl, rfl, rfl, rfl, .end hother, htame.apart⟩
      exact h.aside (hfired.trans (aside_transition htame.apart gameId))

/-- A handler goes on with an answer. -/
theorem recovering_answered (h : Recovering p) {i : Nat} {sent : Sent}
    (hi : p.requests.task i = some sent)
    (hanswered : Answered { p with requests := p.requests.become i none } sent.request p') :
    Recovering p' := by
  have htame : Tame { p with requests := p.requests.become i none } :=
    ⟨⟨h.tame.apart.poll, h.tame.apart.post⟩, h.tame.shown⟩
  have hkept : sent.request ≠ .recovery →
      Recovering { p with requests := p.requests.become i none } := by
    intro hother
    refine ⟨htame, fun hactive => ?_⟩
    rcases h.pending hactive with htimer | ⟨j, sent', hj, hkind⟩
    · exact .inl htimer
    · refine .inr ⟨j, sent', ?_, hkind⟩
      show (p.requests.become i none).task j = some sent'
      rw [Tasks.task_end, if_neg ?_]
      · exact hj
      · rintro rfl
        rw [hi] at hj
        cases hj
        exact hother hkind
  revert hkept
  generalize sent.request = request at hanswered
  intro hkept
  cases hanswered with
  | polled result => exact recovering_polled htame result
  | refreshed caller result =>
      exact recovering_refreshAnswered (hkept (by simp)) caller result
  | proofLoaded proof =>
      have hq := hkept (by simp)
      exact recovering_loaded
        ⟨⟨⟨hq.tame.apart.poll, hq.tame.apart.post⟩, hq.tame.shown⟩, hq.pending⟩
  | proofFailed => exact recovering_loadFailed (hkept (by simp))
  | crashing proof => exact recovering_fetch (hkept (by simp)) _
  | crashed proof => exact recovering_begin (hkept (by simp)) _
  | started snapshot =>
      have hq := hkept (by simp)
      exact hq.aside (aside_roundStarted hq.tame.apart snapshot)
  | failed hother => exact hkept hother

theorem recovering_move {e : PageEvent} (h : Recovering p) (hmove : Move p e p') :
    Recovering p' := by
  cases hmove with
  | advance _ => exact ⟨⟨⟨h.tame.apart.poll, h.tame.apart.post⟩, h.tame.shown⟩, h.pending⟩
  | fire hi _ => exact recovering_call h hi
  | respond hi hanswered => exact recovering_answered h hi hanswered
  | opened | clickStart | clickCrash | updated => exact recovering_fetch h _
  | message => exact h.aside (aside_refreshed h.tame.apart _)
  | streamError => exact recovering_begin h _
  | clickIntermission => exact h.aside (aside_enterIntermission h.tame.apart)

theorem recovering_reachable (h : system.Reachable p) : Recovering p := by
  refine h.invariant (I := Recovering) ?_ fun p e p' hp hstep =>
    recovering_move hp (move_of_step hstep)
  rintro p₀ ⟨now, rfl⟩
  exact ⟨⟨⟨names_none, names_none⟩, rfl⟩, fun hactive => by cases hactive⟩

/-! ## How long a recovery lasts -/

/-- The browser fires a timeout at most `lag` after it is due, and a poll
is answered or fails within `patience`. -/
structure Prompt (lag patience : Nat) (p : Page) : Prop where
  timers : Tasks.All (fun t => p.now ≤ t.due + lag) p.timers
  polls : Tasks.All (fun sent => sent.request = .recovery → p.now ≤ sent.sentAt + patience)
    p.requests

/-- When the last poll of the recovery is sent, unless the stream comes
back again. -/
def lastPoll (lag : Nat) (p : Page) : Nat :=
  max (p.recoveryStartedAt + recoveryTimeoutMs + recoveryPollMs + lag) p.joinedAt

/-- When the timeouts of a recovery are due. -/
def InTime (lag patience : Nat) (p : Page) (t : Timer) : Prop :=
  match t.callback with
  | .pollRecovery => t.due ≤ p.recoveryStartedAt + recoveryTimeoutMs + recoveryPollMs
  | .settle => t.due ≤ p.lastPoll lag + patience + recoverySettleMs
  | .transition _ => True

/-- What holds of the times of a recovery where the page is prompt. -/
structure Timely (lag patience : Nat) (p : Page) : Prop where
  startedAt : p.recoveryStartedAt ≤ p.now
  joinedAt : p.joinedAt ≤ p.now
  timers : Tasks.All (InTime lag patience p) p.timers
  polls : Tasks.All (fun sent => sent.request = .recovery → sent.sentAt ≤ p.lastPoll lag) p.requests

section
variable {lag patience : Nat}

theorem lastPoll_eq (hstarted : p'.recoveryStartedAt = p.recoveryStartedAt)
    (hjoined : p'.joinedAt = p.joinedAt) : p'.lastPoll lag = p.lastPoll lag := by
  unfold lastPoll
  rw [hstarted, hjoined]

theorem inTime_eq {t : Timer} (hstarted : p'.recoveryStartedAt = p.recoveryStartedAt)
    (hjoined : p'.joinedAt = p.joinedAt) (h : InTime lag patience p t) :
    InTime lag patience p' t := by
  unfold InTime at *
  rw [hstarted, lastPoll_eq hstarted hjoined]
  exact h

/-- A page whose recovery is the same, with no more timeouts and polls. -/
theorem Timely.keep (h : Timely lag patience p)
    (hstarted : p'.recoveryStartedAt = p.recoveryStartedAt) (hjoined : p'.joinedAt = p.joinedAt)
    (hnow : p.now ≤ p'.now) (htimers : Tasks.All (InTime lag patience p) p'.timers)
    (hpolls : Tasks.All (fun sent => sent.request = .recovery → sent.sentAt ≤ p.lastPoll lag)
      p'.requests) : Timely lag patience p' where
  startedAt := by
    rw [hstarted]
    exact Nat.le_trans h.startedAt hnow
  joinedAt := by
    rw [hjoined]
    exact Nat.le_trans h.joinedAt hnow
  timers := htimers.imp fun t ht => inTime_eq hstarted hjoined ht
  polls := by
    rw [lastPoll_eq hstarted hjoined]
    exact hpolls

theorem Timely.aside (h : Timely lag patience p) (haside : Aside p p') :
    Timely lag patience p' := by
  refine h.keep haside.startedAt haside.joinedAt (Nat.le_of_eq haside.now.symm) ?_ ?_
  · intro i t hi
    cases hcallback : t.callback with
    | transition gameId =>
        unfold InTime
        rw [hcallback]
        trivial
    | pollRecovery => exact h.timers i t ((haside.same i t (by rw [hcallback]; rfl)).mp hi)
    | settle => exact h.timers i t ((haside.same i t (by rw [hcallback]; rfl)).mp hi)
  · rw [haside.requests]
    exact h.polls

@[simp] theorem clearTimeout_now (p : Page) (timer : Option Nat) :
    (p.clearTimeout timer).now = p.now := by
  cases timer <;> rfl

@[simp] theorem clearTimeout_startedAt (p : Page) (timer : Option Nat) :
    (p.clearTimeout timer).recoveryStartedAt = p.recoveryStartedAt := by
  cases timer <;> rfl

@[simp] theorem clearTimeout_joinedAt (p : Page) (timer : Option Nat) :
    (p.clearTimeout timer).joinedAt = p.joinedAt := by
  cases timer <;> rfl

@[simp] theorem clearTimeout_lastPoll (p : Page) (timer : Option Nat) :
    (p.clearTimeout timer).lastPoll lag = p.lastPoll lag := by
  cases timer <;> rfl

theorem timely_clear (h : Timely lag patience p) (timer : Option Nat) :
    Timely lag patience (p.clearTimeout timer) := by
  cases timer with
  | none => exact h
  | some i => exact h.keep rfl rfl (Nat.le_refl _) (h.timers.end i) h.polls

/-- A timeout of the recovery is set in time. -/
theorem timely_waitFor (h : Timely lag patience p) {callback : Callback} {delay : Nat}
    (hdue : InTime lag patience p { due := p.now + delay, callback }) :
    Timely lag patience (p.waitFor callback delay) :=
  h.keep rfl rfl (Nat.le_refl _) (h.timers.spawn hdue) h.polls

theorem timely_stage (h : Timely lag patience p) (stage : Fin 4) (detail : String) :
    Timely lag patience (p.setRecoveryStage stage detail) :=
  h.keep rfl rfl (Nat.le_refl _) h.timers h.polls

theorem timely_observed (h : Timely lag patience p) :
    Timely lag patience { p with processLossObserved := true } :=
  h.keep rfl rfl (Nat.le_refl _) h.timers h.polls

/-- The end of a recovery, within a poll. -/
theorem timely_finish (h : Timely lag patience p) (htame : Tame p)
    (hnow : p.now ≤ p.lastPoll lag + patience) (proof : Option RecoveryProof) (detail : String) :
    Timely lag patience (p.finishRecovery proof detail) := by
  have hshown : Timely lag patience (p.showProof proof) ∧ (p.showProof proof).now = p.now
      ∧ (p.showProof proof).lastPoll lag = p.lastPoll lag := by
    cases proof with
    | none => exact ⟨h, rfl, rfl⟩
    | some proof =>
        have hproof : Aside p { p with currentProcessProof := some proof } :=
          ⟨rfl, rfl, rfl, rfl, rfl, rfl, rfl, .refl _, htame.apart.poll, htame.apart.post⟩
        have haside := hproof.trans (aside_render hproof.apart proof.snapshot)
        exact ⟨h.aside haside, haside.now, lastPoll_eq haside.startedAt haside.joinedAt⟩
  obtain ⟨hshown, hsame, hlast⟩ := hshown
  have hstage := timely_clear (timely_stage hshown 3 detail)
    ((p.showProof proof).setRecoveryStage 3 detail).recoveryPollTimer
  refine timely_waitFor hstage ?_
  show ((p.showProof proof).setRecoveryStage 3 detail |>.clearTimeout _).now + recoverySettleMs
    ≤ ((p.showProof proof).setRecoveryStage 3 detail |>.clearTimeout _).lastPoll lag + patience
      + recoverySettleMs
  rw [clearTimeout_now, clearTimeout_lastPoll]
  show (p.showProof proof).now + recoverySettleMs
    ≤ (p.showProof proof).lastPoll lag + patience + recoverySettleMs
  rw [hsame, hlast]
  exact Nat.add_le_add_right hnow _

theorem timely_pollAgain (h : Timely lag patience p) (htame : Tame p)
    (hnow : p.now ≤ p.lastPoll lag + patience) : Timely lag patience p.pollAgain := by
  unfold pollAgain
  split
  · exact timely_finish h htame hnow _ _
  · next hearly =>
      refine timely_waitFor h ?_
      show p.now + recoveryPollMs ≤ p.recoveryStartedAt + recoveryTimeoutMs + recoveryPollMs
      omega

theorem timely_noteProof (h : Timely lag patience p) (before proof : RecoveryProof) :
    Timely lag patience (p.noteProof before proof)
      ∧ (p.noteProof before proof).now = p.now
      ∧ (p.noteProof before proof).lastPoll lag = p.lastPoll lag := by
  unfold noteProof
  dsimp only
  split
  · split
    · exact ⟨timely_stage (timely_stage h _ _) _ _, rfl, rfl⟩
    · exact ⟨timely_stage (timely_stage (timely_stage (timely_observed h) _ _) _ _) _ _, rfl, rfl⟩
  · split
    · exact ⟨timely_stage h _ _, rfl, rfl⟩
    · exact ⟨timely_stage (timely_stage (timely_observed h) _ _) _ _, rfl, rfl⟩

/-- A poll that was sent in time comes back in time. -/
theorem timely_polled (h : Timely lag patience p) (htame : Tame p)
    (hnow : p.now ≤ p.lastPoll lag + patience) (result : Option RecoveryProof) :
    Timely lag patience (p.recoveryPolled result) := by
  unfold recoveryPolled
  cases result with
  | none =>
      exact timely_pollAgain (timely_stage (timely_observed h) 0 "")
        (tame_stage (tame_observed htame) 0 "") hnow
  | some proof =>
      dsimp only
      cases p.recoveryProof with
      | none => exact timely_pollAgain h htame hnow
      | some before =>
          obtain ⟨hnoted, hsame, hlast⟩ := timely_noteProof h before proof
          have hnow' : (p.noteProof before proof).now
              ≤ (p.noteProof before proof).lastPoll lag + patience := by
            rw [hsame, hlast]
            exact hnow
          have htame' := tame_noteProof htame before proof
          dsimp only
          split
          · exact timely_pollAgain h htame hnow
          · split
            · exact timely_finish hnoted htame' hnow' _ _
            · exact timely_pollAgain hnoted htame' hnow'

/-- A poll is sent in time. -/
theorem timely_pollRecovery (h : Timely lag patience p) (hnow : p.now ≤ p.lastPoll lag) :
    Timely lag patience p.pollRecovery := by
  unfold pollRecovery
  split
  · exact h.keep rfl rfl (Nat.le_refl _) h.timers (h.polls.spawn fun _ => hnow)
  · exact h

theorem timely_fetch (h : Timely lag patience p) {request : Request}
    (hother : request ≠ .recovery) :
    Timely lag patience (p.fetch request) :=
  h.keep rfl rfl (Nat.le_refl _) h.timers (h.polls.spawn fun hsame => absurd hsame hother)

theorem timely_settle (h : Timely lag patience p) : Timely lag patience p.settle := by
  have hended : Timely lag patience { p with recovering := false, recoveryActive := false } :=
    h.keep rfl rfl (Nat.le_refl _) h.timers h.polls
  exact timely_fetch hended (by simp)

theorem timely_init (h : system.init p) : Timely lag patience p := by
  obtain ⟨now, rfl⟩ := h
  refine
    { startedAt := Nat.zero_le _
      joinedAt := Nat.zero_le _
      timers := fun i t hi => by cases hi
      polls := fun i sent hi hkind => ?_ }
  -- the two requests of the load
  rcases i with _ | _ | i
  · cases hi
    cases hkind
  · cases hi
    cases hkind
  · simp [Tasks.task] at hi

/-- A later start leaves more time. -/
theorem lastPoll_le (hstarted : p.recoveryStartedAt ≤ p'.recoveryStartedAt)
    (hjoined : p.joinedAt ≤ p'.joinedAt) : p.lastPoll lag ≤ p'.lastPoll lag := by
  unfold lastPoll
  omega

theorem Timely.later (h : Timely lag patience p)
    (hstarted : p.recoveryStartedAt ≤ p'.recoveryStartedAt) (hjoined : p.joinedAt ≤ p'.joinedAt)
    (hstartedNow : p'.recoveryStartedAt ≤ p'.now) (hjoinedNow : p'.joinedAt ≤ p'.now)
    (htimers : p'.timers = p.timers) (hrequests : p'.requests = p.requests) :
    Timely lag patience p' where
  startedAt := hstartedNow
  joinedAt := hjoinedNow
  timers := by
    rw [htimers]
    refine h.timers.imp fun t ht => ?_
    have hlast : p.lastPoll lag ≤ p'.lastPoll lag := lastPoll_le hstarted hjoined
    unfold InTime at *
    cases hcallback : t.callback with
    | pollRecovery =>
        rw [hcallback] at ht
        dsimp only at ht ⊢
        omega
    | settle =>
        rw [hcallback] at ht
        dsimp only at ht ⊢
        omega
    | transition gameId => trivial
  polls := by
    rw [hrequests]
    exact h.polls.imp fun sent hsent hkind =>
      Nat.le_trans (hsent hkind) (lastPoll_le hstarted hjoined)

theorem timely_begin (h : Timely lag patience p) (proof : Option RecoveryProof) :
    Timely lag patience (p.beginRecovery proof) := by
  unfold beginRecovery
  split
  · exact timely_stage (timely_observed h) 0 ""
  · have hclear := timely_clear h p.recoveryPollTimer
    refine timely_pollRecovery (hclear.later ?_ (Nat.le_refl _) ?_ hclear.joinedAt rfl rfl) ?_
    · rw [clearTimeout_startedAt]
      exact h.startedAt
    · exact Nat.le_of_eq (clearTimeout_now p p.recoveryPollTimer).symm
    · show (p.clearTimeout p.recoveryPollTimer).now ≤ max (p.now + _ + _ + _) _
      rw [clearTimeout_now]
      omega

theorem timely_complete (h : Timely lag patience p) : Timely lag patience p.completeRecovery := by
  unfold completeRecovery pollRecovery
  split
  · have hlater : Timely lag patience { p with joinedAt := p.now } :=
      h.later (Nat.le_refl _) h.joinedAt h.startedAt (Nat.le_refl _) rfl rfl
    refine Timely.keep (p := { p with joinedAt := p.now }) hlater rfl rfl (Nat.le_refl _)
      hlater.timers (hlater.polls.spawn fun _ => ?_)
    exact Nat.le_max_right _ _
  · exact h

theorem timely_loaded (h : Timely lag patience p) : Timely lag patience p.loaded := by
  unfold loaded
  split
  · exact h.keep rfl rfl (Nat.le_refl _) h.timers h.polls
  · exact h
  · exact h

theorem timely_loadFailed (h : Timely lag patience p) : Timely lag patience p.loadFailed := by
  unfold loadFailed
  split
  · have hbegin := timely_begin h p.currentProcessProof
    exact hbegin.keep rfl rfl (Nat.le_refl _) hbegin.timers hbegin.polls
  · exact h

theorem timely_refreshAnswered (h : Timely lag patience p) (htame : Tame p) (caller : Caller)
    (result : Option GameSnapshot) : Timely lag patience (p.refreshAnswered caller result) := by
  cases result with
  | some snapshot =>
      have hrefreshed := h.aside (aside_refreshed htame.apart snapshot)
      cases caller with
      | load =>
          exact timely_loaded
            (hrefreshed.keep rfl rfl (Nat.le_refl _) hrefreshed.timers hrefreshed.polls)
      | opened => exact timely_complete hrefreshed
      | settled | operator => exact hrefreshed
  | none =>
      cases caller with
      | load => exact timely_loadFailed h
      | opened => exact timely_begin h _
      | settled | operator => exact h

/-- **One event.** -/
theorem timely_move {e : PageEvent} (h : Timely lag patience p) (htame : Tame p)
    (hprompt : Prompt lag patience p) (hmove : Move p e p') : Timely lag patience p' := by
  cases hmove with
  | advance hle => exact h.keep rfl rfl hle h.timers h.polls
  | @fire i timer hi hdue =>
      have hfired : Timely lag patience { p with timers := p.timers.become i none } :=
        h.keep rfl rfl (Nat.le_refl _) (h.timers.end i) h.polls
      have htame' : Tame { p with timers := p.timers.become i none } :=
        ⟨⟨htame.apart.poll.end i, htame.apart.post.end i⟩, htame.shown⟩
      have hlate := hprompt.timers i timer hi
      have htime := h.timers i timer hi
      unfold InTime at htime
      cases hcallback : timer.callback with
      | pollRecovery =>
          rw [hcallback] at htime
          refine timely_pollRecovery hfired ?_
          show p.now ≤ p.lastPoll lag
          unfold lastPoll
          dsimp only at htime
          omega
      | settle =>
          exact timely_settle hfired
      | transition gameId => exact hfired.aside (aside_transition htame'.apart gameId)
  | @respond i response sent p' hi hanswered =>
      have hkept : Timely lag patience { p with requests := p.requests.become i none } :=
        h.keep rfl rfl (Nat.le_refl _) h.timers (h.polls.end i)
      have htame' : Tame { p with requests := p.requests.become i none } :=
        ⟨⟨htame.apart.poll, htame.apart.post⟩, htame.shown⟩
      have hlate : sent.request = .recovery → p.now ≤ sent.sentAt + patience :=
        hprompt.polls i sent hi
      have hsent : sent.request = .recovery → sent.sentAt ≤ p.lastPoll lag := h.polls i sent hi
      revert hlate hsent
      generalize sent.request = request at hanswered
      intro hlate hsent
      cases hanswered with
      | polled result =>
          refine timely_polled hkept htame' ?_ result
          show p.now ≤ p.lastPoll lag + patience
          exact Nat.le_trans (hlate rfl) (Nat.add_le_add_right (hsent rfl) _)
      | refreshed caller result => exact timely_refreshAnswered hkept htame' caller result
      | proofLoaded proof =>
          exact timely_loaded (hkept.keep rfl rfl (Nat.le_refl _) hkept.timers hkept.polls)
      | proofFailed => exact timely_loadFailed hkept
      | crashing proof => exact timely_fetch hkept (by simp)
      | crashed proof => exact timely_begin hkept _
      | started snapshot => exact hkept.aside (aside_roundStarted htame'.apart snapshot)
      | failed _ => exact hkept
  | opened | clickStart | clickCrash | updated => exact timely_fetch h (by simp)
  | message => exact h.aside (aside_refreshed htame.apart _)
  | streamError => exact timely_begin h _
  | clickIntermission => exact h.aside (aside_enterIntermission htame.apart)

/-- **A recovery never wedges the board.** In every run of the page its
recovery mode is what the stage shows, and while it lasts, something that
ends it is under way, however many polls, reopened streams and leftovers
of earlier recoveries run side by side. Where timeouts and polls come in
time, it ends in time: at the latest once the polls that its time limit or
the last return of the stream let out have come back, and the last stage
was up. -/
theorem recovery_ends {hist : List (Page × PageEvent)} (hrun : system.Run hist p) :
    p.recovering = p.recoveryActive
      ∧ (p.recoveryActive = true → p.Pending)
      ∧ ∀ lag patience, (∀ t ∈ hist, Prompt lag patience t.1) → Prompt lag patience p →
        p.recoveryActive = true →
          p.now ≤ max (p.recoveryStartedAt + recoveryTimeoutMs + recoveryPollMs + lag) p.joinedAt
            + patience + recoverySettleMs + lag := by
  have hrecovering := recovering_reachable hrun.reachable
  refine ⟨hrecovering.tame.shown, hrecovering.pending, fun lag patience hhist hprompt hactive => ?_⟩
  have htimely : Timely lag patience p := by
    obtain ⟨p₀, hinit, hpath⟩ := hrun
    have hboth : Recovering p ∧ Timely lag patience p := by
      refine hpath.preserves_guarded (I := fun p => Recovering p ∧ Timely lag patience p)
        (C := fun p _ => Prompt lag patience p) hhist ?_ ?_
      · exact ⟨recovering_reachable ⟨[], p₀, hinit, .nil⟩, timely_init hinit⟩
      · intro p e p' h hprompt hstep
        have hmove := move_of_step hstep
        exact ⟨recovering_move h.1 hmove, timely_move h.2 h.1.tame hprompt hmove⟩
    exact hboth.2
  have hlast : p.lastPoll lag
      = max (p.recoveryStartedAt + recoveryTimeoutMs + recoveryPollMs + lag) p.joinedAt := rfl
  rw [← hlast]
  rcases hrecovering.pending hactive with ⟨i, t, hi, hkind⟩ | ⟨i, sent, hi, hkind⟩
  · have hlate := hprompt.timers i t hi
    have htime := htimely.timers i t hi
    unfold InTime at htime
    cases hcallback : t.callback with
    | pollRecovery =>
        rw [hcallback] at htime
        dsimp only at htime
        omega
    | settle =>
        rw [hcallback] at htime
        dsimp only at htime
        omega
    | transition gameId =>
        rw [hcallback] at hkind
        cases hkind
  · have hlate := hprompt.polls i sent hi hkind
    have htime := htimely.polls i sent hi hkind
    omega

end

/-- The first proof that a page gets. -/
def firstProof : RecoveryProof :=
  { processId := 1, instanceId := "first", temporalQuerySucceeded := true
    restoredSnapshotDigest := "", snapshotDigest := "", snapshot := {} }

/-- The proof of the process after it. -/
def secondProof : RecoveryProof := { firstProof with processId := 2, instanceId := "second" }

/-- `Prompt` as a test. -/
def onTime (lag patience : Nat) (p : Page) : Bool :=
  p.timers.every (fun t => decide (p.now ≤ t.due + lag))
    && p.requests.every fun sent =>
      match sent.request with
      | .recovery => decide (p.now ≤ sent.sentAt + patience)
      | .refresh _ | .loadProof | .crashProof | .crashWorker _ | .start => true

theorem prompt_of_onTime {lag patience : Nat} (h : onTime lag patience p = true) :
    Prompt lag patience p := by
  unfold onTime at h
  rw [Bool.and_eq_true, Tasks.every_iff, Tasks.every_iff] at h
  refine ⟨h.1.imp fun t ht => of_decide_eq_true ht, h.2.imp fun sent hsent hrecovery => ?_⟩
  rw [hrecovery] at hsent
  exact of_decide_eq_true hsent

/-- The stream breaks, the first poll fails, the second one finds another
process, and the last stage is still up. -/
theorem recovery_ends_broken :
    ∃ hist p, system.Run hist p ∧ p.recoveryActive = true ∧ p.Pending
      ∧ p.strip.title = "STATE CONTINUED" ∧ p.now = 4110
      ∧ p.now ≤ max (p.recoveryStartedAt + recoveryTimeoutMs + recoveryPollMs + 10) p.joinedAt
        + 200 + recoverySettleMs + 10 := by
  obtain ⟨hist, p, hrun, htest⟩ := StepSystem.exists_run_of_exec (S := system)
    { now := 0
      requests := [some { sentAt := 0, request := .refresh .load },
        some { sentAt := 0, request := .loadProof }] }
    [.respond 0 (.snapshot {}), .respond 1 (.proof firstProof), .advance 1000, .streamError,
      .advance 1200, .respond 2 .failed, .advance 1460, .fire 0, .advance 1600,
      .respond 3 (.proof secondProof), .advance 4110]
    (fun result => result.1.all (fun t => onTime 10 200 t.1) && onTime 10 200 result.2
      && result.2.recoveryActive && result.2.strip.title == "STATE CONTINUED"
      && result.2.now == 4110) ⟨0, rfl⟩ (by decide +kernel)
  simp only [Bool.and_eq_true, List.all_eq_true, beq_iff_eq] at htest
  obtain ⟨⟨⟨⟨hhist, hnow⟩, hactive⟩, htitle⟩, hclock⟩ := htest
  obtain ⟨_, hpending, hbound⟩ := recovery_ends hrun
  exact ⟨hist, p, hrun, hactive, hpending hactive, htitle, hclock,
    hbound 10 200 (fun t ht => prompt_of_onTime (hhist t ht)) (prompt_of_onTime hnow) hactive⟩

end Page

end DurableTrivia.Web
