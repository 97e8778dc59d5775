import DurableTrivia.Web.Controller

/-!
# ControllerInvariant — who owns the slot, and what a held snapshot says

In every interleaving the slot `active_workflow` names the game of the
one task that owns it: a `start_game` behind its reservation, or the
observer it became. While an observer lives its execution stays
Temporal's current one, so the snapshots it holds are of its own game,
and a finished one tells that the execution is closed for good.
-/

namespace DurableTrivia.Web

open DurableTrivia.Shared DurableTrivia.Lib

/-! ## Executions -/

namespace Round
variable {r : Round} {s s' : State} {e : Event}

/-- A Workflow that returned takes no further event. -/
theorem no_step_of_finished (h : s.phase.status = .finished) : r.step s e ≠ some s' := by
  intro hstep
  cases hphase : s.phase with
  | unstarted | loopHead | sleeping | selecting | closing => simp [hphase, Phase.status] at h
  | returned exit result =>
      cases transition_of_step hstep with
      | advance hwait _ | badgeStarted hwait | panicEvent hwait | recovered hwait
      | applyChaos hwait _ | endRound hwait _ => simp [hphase, Phase.waiting] at hwait
      | start hbefore | iterate hbefore | completed hbefore _ | drained hbefore _
      | close hbefore => simp [hphase] at hbefore
      | tick hdue _ => simp [hphase, Phase.due] at hdue

/-- The snapshot names no game before the round started. -/
theorem gameId_of_unstarted (h : r.system.Reachable s) (hphase : s.phase = .unstarted) :
    s.wf.snapshot.gameId = none := by
  revert hphase
  refine h.invariant (I := fun s => s.phase = .unstarted → s.wf.snapshot.gameId = none) ?_ ?_
  · rintro s₀ ⟨clock, rfl⟩ _
    rfl
  · intro s e s' hs hstep hphase
    have hstep : r.step s e = some s' := hstep
    have hbefore : s.phase = .unstarted := by
      by_contra hc
      exact started_step hc hstep hphase
    have hkept : s'.wf.control.gameId = s.wf.control.gameId := by
      cases transition_of_step hstep with
      | advance _ _ | panicEvent _ | recovered _ | applyChaos _ _ | endRound _ _ => rfl
      | badgeStarted _ =>
          exact congrArg GameWorkflow.Control.gameId (GameWorkflow.control_badgeStarted s.wf _)
      | start _ => cases hphase
      | iterate hloop | completed hloop _ | drained hloop _ | close hloop =>
          simp [hbefore] at hloop
      | tick hdue _ =>
          simp [hbefore, Phase.due] at hdue
    exact hkept.trans (hs hbefore)

/-- An accepted update finds the round running and leaves it so. -/
theorem status_of_update {update : Update} (hstep : r.step s update.event = some s') :
    s.wf.snapshot.status = .running ∧ s'.wf.snapshot.status = .running := by
  cases update with
  | applyChaos command =>
      cases transition_of_step hstep with
      | applyChaos _ hvalid =>
          have hrun := (GameWorkflow.validateApplyChaos_ok hvalid).1
          exact ⟨hrun, (GameWorkflow.applyChaos_status s.wf s.clock command).trans hrun⟩
  | endRound =>
      cases transition_of_step hstep with
      | endRound _ hrun => exact ⟨hrun, hrun⟩

end Round

/-- What a snapshot taken from `x` at any time says about `x` from then
on. -/
structure Execution.Took (x : Execution) (snapshot : GameSnapshot) : Prop where
  game : ∀ gameId, snapshot.gameId = some gameId → gameId = x.gameId
  named : snapshot.status ≠ .waiting → snapshot.gameId = some x.gameId
  finished : snapshot.status = .finished → x.closed

namespace Execution
variable {x : Execution} {state : State}

theorem took_now (h : x.round.system.Reachable x.state) : x.Took x.state.wf.snapshot := by
  have hinv := Round.loopInvariant_reachable h
  have hnamed : x.state.wf.snapshot.status ≠ .waiting →
      x.state.wf.snapshot.gameId = some x.gameId := by
    rw [hinv.status]
    exact hinv.game
  refine ⟨fun gameId hgame => ?_, hnamed, fun hover => hinv.status.symm.trans hover⟩
  by_cases hwaiting : x.state.wf.snapshot.status = .waiting
  · have hphase : x.state.phase = .unstarted := by
      rw [hinv.status] at hwaiting
      cases hp : x.state.phase <;> simp [hp, Phase.status] at hwaiting
      rfl
    rw [Round.gameId_of_unstarted h hphase] at hgame
    cases hgame
  · rw [hnamed hwaiting] at hgame
    exact (Option.some.inj hgame).symm

/-- A closed execution does not move. -/
theorem no_step_of_closed {e : Event} (h : x.closed) : x.round.step x.state e ≠ some state :=
  Round.no_step_of_finished h

/-- A snapshot taken earlier stays one. -/
theorem Took.step {snapshot : GameSnapshot} {e : Event} (h : x.Took snapshot)
    (hstep : x.round.step x.state e = some state) :
    ({ x with state } : Execution).Took snapshot :=
  ⟨h.game, h.named, fun hover => absurd hstep (no_step_of_closed (h.finished hover))⟩

end Execution

/-! ## What the tasks rely on -/

/-- The game whose slot a task holds. -/
def Task.owns : Task → Option String
  | .starting round | .startSent round => some round.input.gameId
  | .observing gameId _ => some gameId
  | .updating _ | .answered _ => none

/-- The slot, Temporal's current execution, what the board showed, and
the game ids drawn. -/
structure Facts where
  active : Option String
  current : Option Execution
  published : List GameSnapshot
  usedIds : List String

/-- The facts of the controller's state. -/
def Controller.facts (c : Controller) : Facts :=
  { active := c.activeWorkflow, current := c.current, published := c.published
    usedIds := c.usedIds }

namespace Facts

/-- A Finished snapshot of the game was published. -/
def ShownFinished (f : Facts) (gameId : String) : Prop :=
  ∃ snapshot ∈ f.published, snapshot.gameId = some gameId ∧ snapshot.status = .finished

/-- The game has the slot and Temporal's current execution, and the board
has not shown it finished. -/
structure Live (f : Facts) (gameId : String) : Prop where
  slot : f.active = some gameId
  current : ∃ x, f.current = some x ∧ x.gameId = gameId
  unfinished : ¬ f.ShownFinished gameId

/-- The facts after a snapshot is published. -/
def publish (f : Facts) (snapshot : GameSnapshot) : Facts :=
  { f with published := snapshot :: f.published }

/-- What the facts owe each other. -/
structure Sound (f : Facts) : Prop where
  current : ∀ x, f.current = some x → x.round.system.Reachable x.state ∧ x.gameId ∈ f.usedIds
  drawn : ∀ gameId, f.ShownFinished gameId → gameId ∈ f.usedIds
  ended : ∀ gameId, f.ShownFinished gameId → ∀ x, f.current = some x → x.gameId = gameId →
    x.closed

variable {f : Facts} {x : Execution} {snapshot : GameSnapshot} {gameId : String}

theorem shownFinished_publish : (f.publish snapshot).ShownFinished gameId ↔
    (snapshot.gameId = some gameId ∧ snapshot.status = .finished) ∨ f.ShownFinished gameId := by
  simp [ShownFinished, publish]

theorem shownFinished_publish_of_ne (h : snapshot.status ≠ .finished) :
    (f.publish snapshot).ShownFinished gameId ↔ f.ShownFinished gameId := by
  rw [shownFinished_publish]
  exact or_iff_right fun hc => h hc.2

/-- Who holds the slot is nobody else's business. -/
theorem Sound.withActive (h : f.Sound) (active : Option String) :
    ({ f with active } : Facts).Sound :=
  ⟨h.current, h.drawn, h.ended⟩

theorem Sound.publish (h : f.Sound)
    (hsnapshot : snapshot.status = .finished → ∃ x, f.current = some x ∧ x.Took snapshot) :
    (f.publish snapshot).Sound := by
  refine ⟨h.current, fun gameId hshown => ?_, fun gameId hshown x hx hgame => ?_⟩
  · rcases shownFinished_publish.mp hshown with ⟨hid, hfinished⟩ | hbefore
    · obtain ⟨x, hx, htook⟩ := hsnapshot hfinished
      rw [htook.game gameId hid]
      exact (h.current x hx).2
    · exact h.drawn gameId hbefore
  · rcases shownFinished_publish.mp hshown with ⟨_, hfinished⟩ | hbefore
    · obtain ⟨y, hy, htook⟩ := hsnapshot hfinished
      rw [show f.current = some x from hx] at hy
      cases hy
      exact htook.finished hfinished
    · exact h.ended gameId hbefore x hx hgame

/-- The current execution takes a step; a closed one does not. -/
theorem Sound.step {state : State} {event : Event} (h : f.Sound) (hx : f.current = some x)
    (hstep : x.round.step x.state event = some state) :
    ({ f with current := some { x with state } } : Facts).Sound := by
  obtain ⟨hreach, hid⟩ := h.current x hx
  refine ⟨?_, h.drawn, ?_⟩
  · intro y heq
    cases heq
    exact ⟨hreach.next hstep, hid⟩
  · rintro gameId hshown y ⟨⟩ hgame
    exact absurd hstep (Execution.no_step_of_closed (h.ended gameId hshown x hx hgame))

/-- A new execution becomes the current one. -/
theorem Sound.start {round : Round} (h : f.Sound) (clock : Nat)
    (hid : round.input.gameId ∈ f.usedIds) (hnew : ¬ f.ShownFinished round.input.gameId) :
    ({ f with current := some { round, state := { clock } } } : Facts).Sound := by
  refine ⟨?_, h.drawn, ?_⟩
  · intro y heq
    cases heq
    exact ⟨⟨[], .nil ⟨clock, rfl⟩⟩, hid⟩
  · rintro gameId hshown y ⟨⟩ rfl
    exact absurd hshown hnew

theorem Sound.draw (h : f.Sound) (gameId : String) :
    ({ f with usedIds := gameId :: f.usedIds } : Facts).Sound :=
  ⟨fun x hx => ⟨(h.current x hx).1, List.mem_cons_of_mem _ (h.current x hx).2⟩,
    fun g hshown => List.mem_cons_of_mem _ (h.drawn g hshown), h.ended⟩

end Facts

/-! ## Where a task may stand -/

/-- What holds while an observer is in a phase. -/
def ObserverPhase.Fits (f : Facts) (gameId : String) : ObserverPhase → Prop
  | .checking | .querying => f.Live gameId
  | .holding snapshot => f.Live gameId ∧ ∃ x, f.current = some x ∧ x.Took snapshot
  | .releasing => f.active = some gameId ∧ f.ShownFinished gameId

/-- What holds while a task is at an await. -/
def Task.Fits (f : Facts) : Task → Prop
  | .starting round => f.active = some round.input.gameId ∧ round.input.gameId ∈ f.usedIds
      ∧ ¬ f.ShownFinished round.input.gameId
  | .startSent round => f.Live round.input.gameId
  | .observing gameId phase => phase.Fits f gameId
  | .updating _ => True
  | .answered snapshot => snapshot.status = .running ∧ snapshot.gameId.isSome

namespace Task
variable {f f' : Facts} {t : Task}

/-- An owner has its game in the slot. -/
theorem Fits.slot (h : t.Fits f) {gameId : String} (howns : t.owns = some gameId) :
    f.active = some gameId := by
  cases t with
  | starting round =>
      cases howns
      exact h.1
  | startSent round =>
      cases howns
      exact h.slot
  | observing _ phase =>
      cases howns
      cases phase with
      | checking | querying => exact Facts.Live.slot h
      | holding _ => exact h.1.slot
      | releasing => exact h.1
  | updating _ | answered _ => cases howns

/-- The handlers of updates rely on no fact. -/
theorem Fits.of_ownerless (h : t.Fits f) (hnone : ¬ t.owns.isSome) : t.Fits f' := by
  cases t with
  | starting _ | startSent _ | observing _ _ => exact absurd rfl hnone
  | updating _ | answered _ => exact h

/-- No owner minds what is published unless its game is shown finished. -/
theorem Fits.publish {snapshot : GameSnapshot} (h : t.Fits f) (hrun : snapshot.status ≠ .finished) :
    t.Fits (f.publish snapshot) := by
  have hlive {gameId : String} (hl : f.Live gameId) : (f.publish snapshot).Live gameId :=
    ⟨hl.slot, hl.current,
      fun hc => hl.unfinished ((Facts.shownFinished_publish_of_ne hrun).mp hc)⟩
  cases t with
  | starting round =>
      exact ⟨h.1, h.2.1, fun hc => h.2.2 ((Facts.shownFinished_publish_of_ne hrun).mp hc)⟩
  | startSent round => exact hlive h
  | observing gameId phase =>
      cases phase with
      | checking | querying => exact hlive h
      | holding _ => exact ⟨hlive h.1, h.2⟩
      | releasing => exact ⟨h.1, (Facts.shownFinished_publish_of_ne hrun).mpr h.2⟩
  | updating _ | answered _ => exact h

theorem Fits.step {x : Execution} {state : State} {event : Event} (h : t.Fits f)
    (hx : f.current = some x) (hstep : x.round.step x.state event = some state) :
    t.Fits { f with current := some { x with state } } := by
  have hlive {gameId : String} (hl : f.Live gameId) :
      ({ f with current := some { x with state } } : Facts).Live gameId := by
    obtain ⟨y, hy, hgame⟩ := hl.current
    rw [hx] at hy
    cases hy
    exact ⟨hl.slot, ⟨_, rfl, hgame⟩, hl.unfinished⟩
  cases t with
  | starting _ | updating _ | answered _ => exact h
  | startSent round => exact hlive h
  | observing gameId phase =>
      cases phase with
      | checking | querying => exact hlive h
      | releasing => exact h
      | holding snapshot =>
          obtain ⟨hl, y, hy, htook⟩ := h
          rw [hx] at hy
          cases hy
          exact ⟨hlive hl, _, rfl, htook.step hstep⟩

end Task

/-! ## The invariant -/

/-- Before the server accepts requests. -/
structure Controller.Booting (c : Controller) : Prop where
  tasks : c.tasks = []
  published : c.published = []
  held : ∀ snapshot, c.boot = .holding snapshot → ∃ x, c.current = some x ∧ x.Took snapshot

/-- What holds in every reachable state of the controller. -/
structure ControllerInvariant (c : Controller) : Prop where
  sound : c.facts.Sound
  one : Tasks.AtMostOneOf (fun t => t.owns.isSome = true) c.tasks
  fits : Tasks.All (Task.Fits c.facts) c.tasks
  boot : c.boot = .done ∨ c.Booting

namespace Controller.Booting
variable {c : Controller}

/-- No task runs yet. -/
theorem no_task (h : c.Booting) {P : Task → Prop} : Tasks.All P c.tasks := by
  intro i t hi
  rw [h.tasks] at hi
  cases hi

/-- No round was shown yet. -/
theorem unshown (h : c.Booting) (gameId : String) : ¬ c.facts.ShownFinished gameId := by
  simp [Facts.ShownFinished, Controller.facts, h.published]

end Controller.Booting

namespace ControllerInvariant
variable {c : Controller} {i : Nat} {t : Task}

theorem booting (h : ControllerInvariant c) (hboot : c.boot ≠ .done) : c.Booting :=
  h.boot.resolve_left hboot

/-- Tasks exist once the startup is over. -/
theorem done (h : ControllerInvariant c) (hi : c.tasks.task i = some t) : c.boot = .done := by
  by_contra hboot
  rw [(h.booting hboot).tasks] at hi
  cases hi

/-- The owner changes and the facts with it; the other tasks rely on
none. -/
theorem fits_owner (h : ControllerInvariant c) (hi : c.tasks.task i = some t)
    (howns : t.owns.isSome = true) (f : Facts) {new : Option Task}
    (hnew : ∀ t', new = some t' → t'.Fits f) : Tasks.All (Task.Fits f) (c.tasks.become i new) := by
  intro j tj hj
  rw [Tasks.task_become new hi] at hj
  by_cases hij : i = j
  · rw [if_pos hij] at hj
    exact hnew tj hj
  · rw [if_neg hij] at hj
    exact (h.fits j tj hj).of_ownerless (h.one.other hi howns hj hij)

/-- A step that leaves the facts alone and moves one task. -/
theorem become (h : ControllerInvariant c) (hi : c.tasks.task i = some t) {new : Option Task}
    (howns : ∀ t', new = some t' → t'.owns.isSome = true → t.owns.isSome = true)
    (hfits : ∀ t', new = some t' → t'.Fits c.facts) : ControllerInvariant (c.become i new) where
  sound := h.sound
  one := h.one.become hi howns
  fits := h.fits.become hi hfits
  boot := .inl (h.done hi)

theorem releaseSlot (h : ControllerInvariant c) (hi : c.tasks.task i = some t) {gameId : String}
    (howns : t.owns = some gameId) :
    ControllerInvariant ((c.releaseSlot gameId).become i none) := by
  have hactive : c.activeWorkflow = some gameId := (h.fits i t hi).slot howns
  have howner : t.owns.isSome = true := by rw [howns]; rfl
  rw [Controller.releaseSlot, if_pos hactive]
  exact
    { sound := h.sound.withActive none
      one := h.one.become hi fun t' hnone => by cases hnone
      fits := h.fits_owner hi howner _ fun t' hnone => by cases hnone
      boot := .inl (h.done hi) }

/-- A handler publishes the snapshot of a running round. -/
theorem answer (h : ControllerInvariant c) {snapshot : GameSnapshot}
    (hi : c.tasks.task i = some (.answered snapshot)) :
    ControllerInvariant ((c.publish snapshot).become i none) := by
  have hrun : snapshot.status ≠ .finished := by
    rw [(h.fits i _ hi).1]
    decide
  exact
    { sound := h.sound.publish fun hc => absurd hc hrun
      one := h.one.become hi fun t' hnone => by cases hnone
      fits := (h.fits.imp fun t ht => ht.publish hrun).become hi fun t' hnone => by cases hnone
      boot := .inl (h.done hi) }

/-- The observer publishes, and knows what the board shows then. -/
theorem publish (h : ControllerInvariant c) {gameId : String} {snapshot : GameSnapshot}
    (hi : c.tasks.task i = some (.observing gameId (.holding snapshot))) :
    ControllerInvariant ((c.publish snapshot).become i (some (.observing gameId
      (if snapshot.status = .finished then .releasing else .checking)))) := by
  obtain ⟨hlive, x, hx, htook⟩ := h.fits i _ hi
  refine
    { sound := h.sound.publish fun _ => ⟨x, hx, htook⟩
      one := h.one.become hi fun _ _ _ => rfl
      fits := h.fits_owner hi rfl _ ?_
      boot := .inl (h.done hi) }
  intro t' heq
  cases heq
  by_cases hfinished : snapshot.status = .finished
  · rw [if_pos hfinished]
    have hgame : snapshot.gameId = some gameId := by
      obtain ⟨y, hy, rfl⟩ := hlive.current
      rw [hx] at hy
      cases hy
      exact htook.named (by rw [hfinished]; decide)
    have hshown : (c.facts.publish snapshot).ShownFinished gameId :=
      Facts.shownFinished_publish.mpr (.inl ⟨hgame, hfinished⟩)
    exact ⟨hlive.slot, hshown⟩
  · rw [if_neg hfinished]
    exact Task.Fits.publish (t := .observing gameId .checking) hlive hfinished

/-- The startup publishes what Temporal had, or nothing. -/
theorem resume (h : ControllerInvariant c) {snapshot : GameSnapshot}
    (hboot : c.boot = .holding snapshot) : ControllerInvariant (c.resume snapshot) := by
  have hbooting := h.booting (by simp [hboot])
  obtain ⟨x, hx, htook⟩ := hbooting.held snapshot hboot
  unfold Controller.resume
  cases hgame : snapshot.gameId with
  | none => exact { h with boot := .inl rfl }
  | some gameId =>
      dsimp only
      by_cases hrun : snapshot.status = .running
      · rw [if_pos hrun]
        have hne : snapshot.status ≠ .finished := by
          rw [hrun]
          decide
        refine
          { sound := (h.sound.withActive (some gameId)).publish fun hc => absurd hc hne
            one := h.one.spawn fun _ => ?_
            fits := ?_
            boot := .inl rfl }
        · exact hbooting.no_task
        · refine Tasks.All.spawn hbooting.no_task
            ⟨rfl, ⟨x, hx, (htook.game gameId hgame).symm⟩, fun hc => ?_⟩
          exact hbooting.unshown gameId ((Facts.shownFinished_publish_of_ne hne).mp hc)
      · rw [if_neg hrun]
        exact
          { sound := h.sound.publish fun _ => ⟨x, hx, htook⟩
            one := h.one
            fits := hbooting.no_task
            boot := .inl rfl }

theorem reserve (h : ControllerInvariant c) {round : Round} (hboot : c.boot = .done)
    (hfree : c.activeWorkflow = none) (hfresh : round.input.gameId ∉ c.usedIds) :
    ControllerInvariant (({ c with
      activeWorkflow := some round.input.gameId
      usedIds := round.input.gameId :: c.usedIds } : Controller).spawn (.starting round)) := by
  -- an owner would have its game in the slot
  have hnone : Tasks.All (fun t => ¬ t.owns.isSome = true) c.tasks := by
    intro j t hj howns
    obtain ⟨gameId, hgame⟩ := Option.isSome_iff_exists.mp howns
    have hslot : c.activeWorkflow = some gameId := (h.fits j t hj).slot hgame
    rw [hfree] at hslot
    cases hslot
  refine
    { sound := (h.sound.withActive _).draw _
      one := h.one.spawn fun _ => hnone
      fits := ?_
      boot := .inl hboot }
  refine Tasks.All.spawn (fun j t hj => ?_) ?_
  · exact (h.fits j t hj).of_ownerless (hnone j t hj)
  · exact ⟨rfl, List.mem_cons_self, fun hc => hfresh (h.sound.drawn _ hc)⟩

theorem startWorkflow (h : ControllerInvariant c) {round : Round} (clock : Nat)
    (hi : c.tasks.task i = some (.starting round)) :
    ControllerInvariant (({ c with current := some { round, state := { clock } } } :
      Controller).become i (some (.startSent round))) := by
  obtain ⟨hslot, hid, hunshown⟩ := h.fits i _ hi
  refine
    { sound := h.sound.start clock hid hunshown
      one := h.one.become hi fun _ _ _ => rfl
      fits := h.fits_owner hi rfl _ ?_
      boot := .inl (h.done hi) }
  intro t' heq
  cases heq
  exact ⟨hslot, ⟨_, rfl, rfl⟩, hunshown⟩

theorem announce (h : ControllerInvariant c) {round : Round}
    (hi : c.tasks.task i = some (.startSent round)) :
    ControllerInvariant ((c.publish (Controller.startingSnapshot round)).become i
      (some (.observing round.input.gameId .checking))) := by
  have hrun : (Controller.startingSnapshot round).status ≠ .finished := by
    simp [Controller.startingSnapshot]
  exact
    { sound := h.sound.publish fun hc => absurd hc hrun
      one := h.one.become hi fun _ _ _ => rfl
      fits := (h.fits.imp fun t ht => ht.publish hrun).become hi fun t' ht' => by
        cases ht'
        exact Task.Fits.publish (t := .startSent round) (h.fits i _ hi) hrun
      boot := .inl (h.done hi) }

/-- The current execution moves on its own. -/
theorem workflow (h : ControllerInvariant c) {x : Execution} {event : Event} {state : State}
    (hx : c.current = some x) (hstep : x.round.step x.state event = some state) :
    ControllerInvariant { c with current := some { x with state } } where
  sound := h.sound.step hx hstep
  one := h.one
  fits := h.fits.imp fun t ht => ht.step hx hstep
  boot := by
    rcases h.boot with hdone | hboot
    · exact .inl hdone
    · refine .inr ⟨hboot.tasks, hboot.published, fun snapshot hholding => ?_⟩
      obtain ⟨y, hy, htook⟩ := hboot.held snapshot hholding
      rw [hx] at hy
      cases hy
      exact ⟨_, rfl, htook.step hstep⟩

theorem init {c : Controller} (h : Controller.system.init c) : ControllerInvariant c := by
  obtain ⟨current, usedIds, rfl, hcurrent⟩ := h
  refine
    { sound := ⟨hcurrent, ?_, ?_⟩
      one := ?_
      fits := ?_
      boot := .inr ⟨rfl, rfl, ?_⟩ }
  · intro gameId h
    rcases h with ⟨snapshot, hmem, _⟩
    cases hmem
  · intro gameId h
    rcases h with ⟨snapshot, hmem, _⟩
    cases hmem
  · intro j k tj tk hj
    cases hj
  · intro j t hj
    cases hj
  · intro snapshot hc
    cases hc

/-- **The invariant is inductive.** -/
theorem step {c' : Controller} {e : ControllerEvent} (h : ControllerInvariant c)
    (hnext : c.step e = some c') : ControllerInvariant c' := by
  cases Controller.move_of_step hnext with
  | workflow hx hstep => exact h.workflow hx hstep
  | bootFailed _ => exact { h with boot := .inl rfl }
  | @bootAnswered x hboot hx =>
      have hbooting := h.booting (by simp [hboot])
      refine { h with boot := .inr ⟨hbooting.tasks, hbooting.published, ?_⟩ }
      intro snapshot heq
      cases heq
      exact ⟨x, hx, Execution.took_now (h.sound.current x hx).1⟩
  | bootPublish hboot => exact h.resume hboot
  | reserve hboot hfree hfresh => exact h.reserve hboot hfree hfresh
  | startWorkflow hi _ => exact h.startWorkflow _ hi
  | startFailed hi =>
      rcases hi with hi | hi
      · exact h.releaseSlot hi rfl
      · exact h.releaseSlot hi rfl
  | announce hi => exact h.announce hi
  | checked hi _ =>
      have hlive := h.fits _ _ hi
      refine h.become hi (fun _ _ _ => rfl) ?_
      intro t' heq
      cases heq
      exact hlive
  | checkedOut hi _ =>
      exact h.become hi (fun t' hnone => by cases hnone) (fun t' hnone => by cases hnone)
  | @queryAnswered i gameId x hi hx =>
      refine h.become hi (fun _ _ _ => rfl) ?_
      intro t' heq
      cases heq
      exact ⟨h.fits _ _ hi, x, hx, Execution.took_now (h.sound.current x hx).1⟩
  | queryFailed hi =>
      have hlive := h.fits _ _ hi
      refine h.become hi (fun _ _ _ => rfl) ?_
      intro t' heq
      cases heq
      exact hlive
  | publish hi => exact h.publish hi
  | release hi => exact h.releaseSlot hi rfl
  | request hboot _ =>
      exact
        { sound := h.sound
          one := h.one.spawn fun hc => by cases hc
          fits := h.fits.spawn trivial
          boot := .inl hboot }
  | execute hi hx hstep =>
      refine (h.workflow hx hstep).become hi (fun t' ht' howns => ?_) ?_
      · cases ht'
        cases howns
      · intro t' heq
        cases heq
        have hafter := (Round.status_of_update hstep).2
        have hreach := (h.sound.current _ hx).1.next hstep
        refine ⟨hafter, ?_⟩
        rw [(Execution.took_now (x := ⟨_, _⟩) hreach).named (by rw [hafter]; decide)]
        rfl
  | refuse hi =>
      exact h.become hi (fun t' hnone => by cases hnone) (fun t' hnone => by cases hnone)
  | answer hi => exact h.answer hi
  | drop hi _ =>
      exact h.become hi (fun t' hnone => by cases hnone) (fun t' hnone => by cases hnone)

end ControllerInvariant

theorem controllerInvariant_reachable {c : Controller} (h : Controller.system.Reachable c) :
    ControllerInvariant c :=
  h.invariant (fun _ hinit => .init hinit) fun _ _ _ hc hstep => hc.step hstep

end DurableTrivia.Web
