import DurableTrivia.Web.Restarts

/-!
# Continuity — what the page finds after a crash

Every process of the controller is a run of its own, and together they
keep one order: what any of them shows of a game continues what the ones
before it showed, because all of it was taken from one execution that
only moves forward, and a game is announced by one process only. From
this the recovery proof is judged (`recovery_run`).
-/

namespace DurableTrivia.Web

open DurableTrivia.Shared DurableTrivia.Lib

/-! ## The invariant -/

/-- What the tasks of a start know of the games: one that has not been
started is new, and one that was is of this process. -/
def Task.Due (started : List String) (earlier : List GameSnapshot) : Task → Prop
  | .starting round => round.input.gameId ∉ started
  | .startSent round => round.input.gameId ∈ started
      ∧ ∀ snapshot ∈ earlier, snapshot.gameId ≠ some round.input.gameId
  | .observing _ _ | .updating _ | .answered _ => True

/-- Everything of earlier processes is continued by the snapshot. -/
def Continues (earlier : List GameSnapshot) (snapshot : GameSnapshot) : Prop :=
  ∀ old ∈ earlier, ∀ gameId, old.gameId = some gameId → snapshot.gameId = some gameId →
    Forward old snapshot

/-- While Temporal runs the game that the startup restored, the snapshot
names that game. -/
def Named (restored : Option GameSnapshot) (current : Option Execution) (snapshot : GameSnapshot) :
    Prop :=
  ∀ r x, restored = some r → current = some x → r.gameId = some x.gameId →
    snapshot.gameId = some x.gameId

/-- What holds of a snapshot that any process has. -/
structure Supervised.Fits (s : Supervised) (snapshot : GameSnapshot) : Prop where
  past : Past s.started s.controller.current snapshot
  continues : Continues s.earlier snapshot
  named : Named s.restored s.controller.current snapshot

/-- The recovery proof tells the truth: the digest is of what the startup
got, and the flag is set once Temporal answered. -/
structure Supervised.Truthful (d : Deployment) (s : Supervised) : Prop where
  restored : ∀ r, s.restored = some r →
    r ∈ s.answers ∧ s.restoredSnapshotDigest = d.snapshotDigest r
  held : ∀ snapshot, s.controller.boot = .holding snapshot → s.restored = some snapshot
  querying : s.controller.boot = .querying → s.answers = [] ∧ s.restored = none
  shown : s.controller.boot = .done → ∀ r, s.restored = some r → r.gameId ≠ none →
    s.controller.published ≠ []
  health : s.temporalQuerySucceeded = true ↔ s.answers ≠ []

/-- What holds in every run of the supervised controller. -/
structure SupervisedInvariant (d : Deployment) (s : Supervised) : Prop where
  /-- each process is a run of its own -/
  controller : Controller.system.Reachable s.controller
  current : ∀ x, s.controller.current = some x →
    x.gameId ∈ s.started ∧ Named s.restored (some x) x.state.wf.snapshot
  used : ∀ gameId ∈ s.started, gameId ∈ s.controller.usedIds
  due : Tasks.All (Task.Due s.started s.earlier) s.controller.tasks
  every : s.controller.Every s.Fits
  restored : ∀ r, s.restored = some r →
    Past s.started s.controller.current r ∧ Continues s.earlier r
  earlier : ∀ snapshot ∈ s.earlier, Past s.started s.controller.current snapshot
  board : s.controller.snapshot = s.controller.published.head?.getD {}
  truthful : s.Truthful d

/-! ### The execution under an event -/

/-- What an event of the controller does to Temporal's execution. -/
inductive Advance (c c' : Controller) (e : ControllerEvent) : Prop
  | same (hcurrent : c'.current = c.current) (hstarts : e.starts c' = [])
  | step {x : Execution} {event : Event} {state : State} (hx : c.current = some x)
      (hstep : x.round.step x.state event = some state)
      (hcurrent : c'.current = some { x with state }) (hstarts : e.starts c' = [])
  | start {i clock : Nat} {round : Round} (hi : c.tasks.task i = some (.starting round))
      (hcurrent : c'.current = some { round, state := { clock } })
      (hstarts : e.starts c' = [round.input.gameId])

@[simp] theorem releaseSlot_current (c : Controller) (gameId : String) :
    (c.releaseSlot gameId).current = c.current := by
  unfold Controller.releaseSlot
  split <;> rfl

@[simp] theorem resume_current (c : Controller) (snapshot : GameSnapshot) :
    (c.resume snapshot).current = c.current := by
  unfold Controller.resume
  split
  · rfl
  · split <;> rfl

theorem advance_of_move {c c' : Controller} {e : ControllerEvent} (h : Controller.Move c e c') :
    Advance c c' e := by
  cases h with
  | workflow hx hstep => exact .step hx hstep rfl rfl
  | execute hi hx hstep => exact .step hx hstep rfl rfl
  | startWorkflow hi _ => exact .start hi rfl rfl
  | bootPublish _ => exact .same (resume_current _ _) rfl
  | startFailed _ | release _ => exact .same (releaseSlot_current _ _) rfl
  | bootFailed _ | bootAnswered _ _ | reserve _ _ _ | announce _ | checked _ _ | checkedOut _ _
  | queryAnswered _ _ | queryFailed _ | publish _ | request _ _ | refuse _ | answer _ | drop _ _ =>
      exact .same rfl rfl

section
variable {c c' : Controller} {e : ControllerEvent} {started : List String}
  {earlier : List GameSnapshot} {snapshot : GameSnapshot}

theorem Past.advance (h : Past started c.current snapshot) (hadvance : Advance c c' e)
    (hdue : Tasks.All (Task.Due started earlier) c.tasks) :
    Past (e.starts c' ++ started) c'.current snapshot := by
  cases hadvance with
  | same hcurrent hstarts =>
      rw [hcurrent, hstarts]
      exact h
  | step hx hstep hcurrent hstarts =>
      rw [hcurrent, hstarts]
      rw [hx] at h
      exact h.step hstep
  | @start i clock round hi hcurrent hstarts =>
      rw [hcurrent, hstarts]
      exact h.start (x := { round, state := { clock } }) (hdue i _ hi)

/-- What the startup restored is of a game that was started, so that
another one is not it. -/
theorem Named.advance {restored : Option GameSnapshot} (h : Named restored c.current snapshot)
    (hadvance : Advance c c' e) (hdue : Tasks.All (Task.Due started earlier) c.tasks)
    (hrestored : ∀ r, restored = some r → Past started c.current r) :
    Named restored c'.current snapshot := by
  cases hadvance with
  | same hcurrent _ => rwa [hcurrent]
  | @step x event state hx _ hcurrent _ =>
      rw [hcurrent]
      intro r y hr hy hgame
      cases hy
      exact h r x hr hx hgame
  | @start i clock round hi hcurrent _ =>
      rw [hcurrent]
      intro r y hr hy hgame
      cases hy
      exact absurd ((hrestored r hr).started _ hgame) (hdue i _ hi)

/-- A task that is behind no start owes nothing. -/
theorem due_of_ownerless {t : Task} (h : ¬ t.owns.isSome = true) (started : List String)
    (earlier : List GameSnapshot) : t.Due started earlier := by
  cases t with
  | starting round => exact absurd rfl h
  | startSent round => exact absurd rfl h
  | observing _ _ | updating _ | answered _ => trivial

theorem due_move (hinv : ControllerInvariant c) (hmove : Controller.Move c e c')
    (hused : ∀ gameId ∈ started, gameId ∈ c.usedIds)
    (hearlier : ∀ snapshot ∈ earlier, Past started c.current snapshot)
    (h : Tasks.All (Task.Due started earlier) c.tasks) :
    Tasks.All (Task.Due (e.starts c' ++ started) earlier) c'.tasks := by
  cases hmove with
  | workflow _ _ | bootFailed _ | bootAnswered _ _ => exact h
  | @bootPublish snapshot hboot =>
      show Tasks.All (Task.Due started earlier) (c.resume snapshot).tasks
      unfold Controller.resume
      split
      · exact h
      · split
        · exact h.spawn trivial
        · exact h
  | reserve _ _ hfresh => exact h.spawn fun hstarted => hfresh (hused _ hstarted)
  | @startWorkflow i clock round hi _ =>
      intro j t hj
      replace hj : (c.tasks.become i (some (.startSent round))).task j = some t := hj
      rw [Tasks.task_become _ hi] at hj
      by_cases hij : i = j
      · rw [if_pos hij] at hj
        cases hj
        refine ⟨List.mem_cons_self, fun snapshot hmem hgame => ?_⟩
        exact h i _ hi ((hearlier snapshot hmem).started _ hgame)
      · rw [if_neg hij] at hj
        exact due_of_ownerless (hinv.one.other hi rfl hj hij) _ _
  | startFailed hi =>
      rcases hi with hi | hi
      · exact Tasks.All.become (by rwa [Controller.releaseSlot_tasks])
          (by rwa [Controller.releaseSlot_tasks]) fun t' hnone => by cases hnone
      · exact Tasks.All.become (by rwa [Controller.releaseSlot_tasks])
          (by rwa [Controller.releaseSlot_tasks]) fun t' hnone => by cases hnone
  | release hi =>
      exact Tasks.All.become (by rwa [Controller.releaseSlot_tasks])
        (by rwa [Controller.releaseSlot_tasks]) fun t' hnone => by cases hnone
  | request _ _ => exact h.spawn trivial
  | announce hi | checked hi _ | queryAnswered hi _ | queryFailed hi | publish hi
  | execute hi _ _ =>
      refine h.become hi fun t' ht' => ?_
      cases ht'
      trivial
  | checkedOut hi _ | refuse hi | answer hi | drop hi _ =>
      exact h.become hi fun t' hnone => by cases hnone

end

/-! ### One event of the controller -/

section
variable {d : Deployment} {s : Supervised} {e : ControllerEvent} {c' : Controller}

/-- What the announcement of a game says is new to every earlier process,
and of the game that Temporal runs. -/
theorem fits_starting (h : SupervisedInvariant d s) {i : Nat} {round : Round}
    (hi : s.controller.tasks.task i = some (.startSent round)) :
    s.Fits (Controller.startingSnapshot round) where
  past := past_starting (h.due i _ hi).1
  continues := by
    intro old hold gameId hgame hgame'
    cases hgame'
    exact absurd hgame ((h.due i _ hi).2 old hold)
  named := by
    intro r x hr hx hgame
    obtain ⟨_, ⟨y, hy, hname⟩, _⟩ :=
      (controllerInvariant_reachable h.controller).fits i _ hi
    have hsame : s.controller.current = some y := hy
    rw [hx] at hsame
    cases hsame
    rw [hname]
    rfl

/-- What an event leaves in its process. -/
inductive Recorded (d : Deployment) (s : Supervised) (e : ControllerEvent) (c' : Controller) : Prop
  | quiet (hboot : c'.boot = s.controller.boot)
      (hrestored : (d.record s e c').restored = s.restored)
      (hdigest : (d.record s e c').restoredSnapshotDigest = s.restoredSnapshotDigest)
      (hanswers : (d.record s e c').answers = s.answers)
      (hhealth : (d.record s e c').temporalQuerySucceeded = s.temporalQuerySucceeded)
  | resumed {snapshot : GameSnapshot} (hheld : s.controller.boot = .holding snapshot)
      (hresume : c' = s.controller.resume snapshot)
      (hrestored : (d.record s e c').restored = s.restored)
      (hdigest : (d.record s e c').restoredSnapshotDigest = s.restoredSnapshotDigest)
      (hanswers : (d.record s e c').answers = s.answers)
      (hhealth : (d.record s e c').temporalQuerySucceeded = s.temporalQuerySucceeded)
  | answered {x : Execution} (hx : c'.current = some x) (hdone : s.controller.boot = .done)
      (hboot : c'.boot = .done)
      (hrestored : (d.record s e c').restored = s.restored)
      (hdigest : (d.record s e c').restoredSnapshotDigest = s.restoredSnapshotDigest)
      (hanswers : (d.record s e c').answers = x.state.wf.snapshot :: s.answers)
      (hhealth : (d.record s e c').temporalQuerySucceeded = true)
  | bootAnswered {x : Execution} (hquerying : s.controller.boot = .querying)
      (hx : c'.current = some x) (hboot : c'.boot = .holding x.state.wf.snapshot)
      (hrestored : (d.record s e c').restored = some x.state.wf.snapshot)
      (hdigest : (d.record s e c').restoredSnapshotDigest = d.snapshotDigest x.state.wf.snapshot)
      (hanswers : (d.record s e c').answers = x.state.wf.snapshot :: s.answers)
      (hhealth : (d.record s e c').temporalQuerySucceeded = true)
  | bootFailed (hquerying : s.controller.boot = .querying) (hboot : c'.boot = .done)
      (hrestored : (d.record s e c').restored = s.restored)
      (hanswers : (d.record s e c').answers = s.answers)
      (hhealth : (d.record s e c').temporalQuerySucceeded = false)

theorem recorded_of_move (hinv : ControllerInvariant s.controller)
    (hmove : Controller.Move s.controller e c') : Recorded d s e c' := by
  cases hmove with
  | bootAnswered hquerying hx =>
      exact .bootAnswered hquerying hx rfl rfl rfl (by simp [Deployment.record, hx,
        ControllerEvent.query?]) rfl
  | bootFailed hquerying =>
      exact .bootFailed hquerying rfl rfl (by simp [Deployment.record, ControllerEvent.query?]) rfl
  | queryAnswered hi hx =>
      have hdone := hinv.done hi
      exact .answered hx hdone hdone rfl rfl (by simp [Deployment.record, Controller.become, hx,
        ControllerEvent.query?]) rfl
  | queryFailed _ =>
      exact .quiet rfl rfl rfl (by simp [Deployment.record, ControllerEvent.query?]) rfl
  | bootPublish hheld =>
      exact .resumed hheld rfl rfl rfl (by simp [Deployment.record, ControllerEvent.query?]) rfl
  | startFailed _ | release _ =>
      refine .quiet ?_ rfl rfl (by simp [Deployment.record, ControllerEvent.query?]) rfl
      show (s.controller.releaseSlot _).boot = s.controller.boot
      unfold Controller.releaseSlot
      split <;> rfl
  | workflow _ _ | reserve _ _ _ | startWorkflow _ _ | announce _ | checked _ _ | checkedOut _ _
  | publish _ | request _ _ | execute _ _ _ | refuse _ | answer _ | drop _ _ =>
      exact .quiet rfl rfl rfl (by simp [Deployment.record, ControllerEvent.query?]) rfl

/-- The game of the startup's answer keeps its name in Temporal. -/
theorem named_taken (h : SupervisedInvariant d s) (hmove : Controller.Move s.controller e c')
    {x : Execution} (hx : c'.current = some x) :
    Named (d.record s e c').restored (some x) x.state.wf.snapshot := by
  have hsound := (controllerInvariant_reachable h.controller).sound
  have hkept : Named s.restored (some x) x.state.wf.snapshot := by
    cases advance_of_move hmove with
    | same hcurrent _ => exact (h.current x (hcurrent ▸ hx)).2
    | @step y event state hy hstep hcurrent _ =>
        rw [hcurrent] at hx
        cases hx
        intro r z hr hz hgame
        cases hz
        exact named_step (hsound.current y hy).1 ((h.current y hy).2 r y hr rfl hgame) hstep
    | @start i clock round hi hcurrent _ =>
        rw [hcurrent] at hx
        cases hx
        intro r z hr hz hgame
        cases hz
        exact absurd ((h.restored r hr).1.started _ hgame) (h.due i _ hi)
  cases recorded_of_move (d := d) (controllerInvariant_reachable h.controller) hmove with
  | quiet _ hrestored _ _ _ | resumed _ _ hrestored _ _ _ | answered _ _ _ hrestored _ _ _
  | bootFailed _ _ hrestored _ _ => rwa [hrestored]
  | bootAnswered _ hy _ hrestored _ _ _ =>
      rw [hrestored]
      rw [hx] at hy
      cases hy
      intro r z hr hz hgame
      cases hr
      cases hz
      exact hgame

theorem started_current (h : SupervisedInvariant d s) (hadvance : Advance s.controller c' e)
    {x : Execution} (hx : c'.current = some x) : x.gameId ∈ e.starts c' ++ s.started := by
  cases hadvance with
  | same hcurrent hstarts =>
      rw [hstarts]
      exact (h.current x (hcurrent ▸ hx)).1
  | step hy _ hcurrent hstarts =>
      rw [hcurrent] at hx
      cases hx
      rw [hstarts]
      exact (h.current _ hy).1
  | start _ hcurrent hstarts =>
      rw [hcurrent] at hx
      cases hx
      rw [hstarts]
      exact List.mem_cons_self

/-- What is taken from Temporal now. -/
theorem fits_taken (h : SupervisedInvariant d s) (hstep : s.controller.step e = some c')
    {x : Execution} (hx : c'.current = some x) : (d.record s e c').Fits x.state.wf.snapshot := by
  have hmove := Controller.move_of_step hstep
  have hadvance := advance_of_move hmove
  have hreach : x.round.system.Reachable x.state :=
    ((controllerInvariant_reachable (h.controller.next hstep)).sound.current x hx).1
  refine ⟨?_, ?_, ?_⟩
  · show Past (e.starts c' ++ s.started) c'.current x.state.wf.snapshot
    rw [hx]
    exact past_taken hreach (started_current h hadvance hx)
  · intro old hold gameId hgame hgame'
    have hpast := (h.earlier old hold).advance hadvance h.due
    obtain rfl := (Execution.took_now hreach).game gameId hgame'
    exact hpast.behind x hx hgame _ _ .nil hgame'
  · show Named (d.record s e c').restored c'.current x.state.wf.snapshot
    rw [hx]
    exact named_taken h hmove hx

theorem usedIds_move {c : Controller} (hmove : Controller.Move c e c') {gameId : String}
    (h : gameId ∈ c.usedIds) : gameId ∈ c'.usedIds := by
  cases hmove with
  | reserve _ _ _ => exact List.mem_cons_of_mem _ h
  | bootPublish _ =>
      unfold Controller.resume
      split
      · exact h
      · split <;> exact h
  | startFailed _ | release _ =>
      simp only [Controller.become, Controller.releaseSlot]
      split <;> exact h
  | workflow _ _ | bootFailed _ | bootAnswered _ _ | startWorkflow _ _ | announce _ | checked _ _
  | checkedOut _ _ | queryAnswered _ _ | queryFailed _ | publish _ | request _ _ | execute _ _ _
  | refuse _ | answer _ | drop _ _ => exact h

/-- The board is what was published last. -/
theorem board_move {c : Controller} (hmove : Controller.Move c e c')
    (h : c.snapshot = c.published.head?.getD {}) : c'.snapshot = c'.published.head?.getD {} := by
  cases hmove with
  | announce _ | publish _ | answer _ => rfl
  | bootPublish _ =>
      unfold Controller.resume
      split
      · exact h
      · split <;> rfl
  | startFailed _ | release _ =>
      simp only [Controller.become, Controller.releaseSlot]
      split <;> exact h
  | workflow _ _ | bootFailed _ | bootAnswered _ _ | reserve _ _ _ | startWorkflow _ _
  | checked _ _ | checkedOut _ _ | queryAnswered _ _ | queryFailed _ | request _ _ | execute _ _ _
  | refuse _ | drop _ _ => exact h

theorem resume_published {c : Controller} {snapshot : GameSnapshot} (h : snapshot.gameId ≠ none) :
    (c.resume snapshot).published ≠ [] := by
  unfold Controller.resume
  cases hgame : snapshot.gameId with
  | none => exact absurd hgame h
  | some gameId =>
      dsimp only
      split <;> exact List.cons_ne_nil _ _

theorem resume_boot (c : Controller) (snapshot : GameSnapshot) :
    (c.resume snapshot).boot = .done := by
  unfold Controller.resume
  split
  · rfl
  · split <;> rfl

/-- The proof stays truthful. -/
theorem truthful_run (h : s.Truthful d) (hinv : ControllerInvariant s.controller)
    (hstep : s.controller.step e = some c') : (d.record s e c').Truthful d := by
  cases recorded_of_move (d := d) hinv (Controller.move_of_step hstep) with
  | quiet hboot hrestored hdigest hanswers hhealth =>
      refine ⟨?_, ?_, ?_, ?_, ?_⟩
      · rw [hrestored, hdigest, hanswers]
        exact h.restored
      · rw [hrestored]
        exact hboot ▸ h.held
      · rw [hrestored, hanswers]
        exact hboot ▸ h.querying
      · rw [hrestored]
        intro hdone r hr hgame hempty
        have hsuffix := Controller.published_step hstep
        rw [show c'.published = [] from hempty, List.suffix_nil] at hsuffix
        exact h.shown (hboot ▸ hdone) r hr hgame hsuffix
      · rw [hhealth, hanswers]
        exact h.health
  | @resumed snapshot hheld hresume hrestored hdigest hanswers hhealth =>
      have hboot : (d.record s e c').controller.boot = .done := by
        show c'.boot = .done
        rw [hresume, resume_boot]
      refine ⟨?_, ?_, ?_, ?_, ?_⟩
      · rw [hrestored, hdigest, hanswers]
        exact h.restored
      · simp [hboot]
      · simp [hboot]
      · rw [hrestored, h.held snapshot hheld]
        intro _ r hr hgame
        cases hr
        show c'.published ≠ []
        rw [hresume]
        exact resume_published hgame
      · rw [hhealth, hanswers]
        exact h.health
  | @answered x hx hdone hboot hrestored hdigest hanswers hhealth =>
      refine ⟨?_, ?_, ?_, ?_, ?_⟩
      · rw [hrestored, hdigest, hanswers]
        intro r hr
        exact ⟨List.mem_cons_of_mem _ (h.restored r hr).1, (h.restored r hr).2⟩
      · simp [show (d.record s e c').controller.boot = .done from hboot]
      · simp [show (d.record s e c').controller.boot = .done from hboot]
      · rw [hrestored]
        intro _ r hr hgame hempty
        have hsuffix := Controller.published_step hstep
        rw [show c'.published = [] from hempty, List.suffix_nil] at hsuffix
        exact h.shown hdone r hr hgame hsuffix
      · simp [hhealth, hanswers]
  | @bootAnswered x hquerying hx hboot hrestored hdigest hanswers hhealth =>
      have hholding : (d.record s e c').controller.boot = .holding x.state.wf.snapshot := hboot
      refine ⟨?_, ?_, ?_, ?_, ?_⟩
      · rw [hrestored, hdigest, hanswers]
        intro r hr
        cases hr
        exact ⟨List.mem_cons_self, rfl⟩
      · rw [hrestored, hholding]
        intro snapshot heq
        cases heq
        rfl
      · simp [hholding]
      · simp [hholding]
      · simp [hhealth, hanswers]
  | bootFailed hquerying hboot hrestored hanswers hhealth =>
      have hdone : (d.record s e c').controller.boot = .done := hboot
      obtain ⟨hnone, hunrestored⟩ := h.querying hquerying
      refine ⟨?_, ?_, ?_, ?_, ?_⟩
      · simp [hrestored, hunrestored]
      · simp [hdone]
      · simp [hdone]
      · simp [hrestored, hunrestored]
      · simp [hhealth, hanswers, hnone]

/-- The step lemma of a process. -/
theorem supervisedInvariant_run (h : SupervisedInvariant d s)
    (hstep : s.controller.step e = some c') : SupervisedInvariant d (d.record s e c') := by
  have hinv := controllerInvariant_reachable h.controller
  have hmove := Controller.move_of_step hstep
  have hadvance := advance_of_move hmove
  have hpast : ∀ snapshot, Past s.started s.controller.current snapshot →
      Past (d.record s e c').started c'.current snapshot := fun snapshot hold =>
    hold.advance hadvance h.due
  have htaken : ∀ x, c'.current = some x → (d.record s e c').Fits x.state.wf.snapshot :=
    fun x hx => fits_taken h hstep hx
  have hfits : (d.record s e c').restored = s.restored → ∀ snapshot, s.Fits snapshot →
      (d.record s e c').Fits snapshot := by
    intro hrestored snapshot hold
    refine ⟨hpast snapshot hold.past, hold.continues, ?_⟩
    rw [hrestored]
    exact hold.named.advance hadvance h.due fun r hr => (h.restored r hr).1
  have hkept : (d.record s e c').restored = s.restored → c'.Every (d.record s e c').Fits :=
    fun hrestored => (h.every.imp (hfits hrestored)).move hmove htaken fun i round hi =>
      hfits hrestored _ (fits_starting h hi)
  have hsame : (d.record s e c').restored = s.restored → ∀ r, (d.record s e c').restored = some r →
      Past (d.record s e c').started c'.current r ∧ Continues s.earlier r := by
    intro hrestored r hr
    rw [hrestored] at hr
    exact ⟨hpast r (h.restored r hr).1, (h.restored r hr).2⟩
  have hnew : c'.Every (d.record s e c').Fits ∧ ∀ r, (d.record s e c').restored = some r →
      Past (d.record s e c').started c'.current r ∧ Continues s.earlier r := by
    cases recorded_of_move (d := d) hinv hmove with
    | quiet _ hrestored _ _ _ | resumed _ _ hrestored _ _ _ | answered _ _ _ hrestored _ _ _
    | bootFailed _ _ hrestored _ _ => exact ⟨hkept hrestored, hsame hrestored⟩
    | @bootAnswered x hquerying hx hboot hrestored _ _ _ =>
        -- the first snapshot of the process
        have hbooting := hinv.booting (by simp [hquerying])
        refine ⟨Controller.Every.move ⟨?_, hbooting.no_task, ?_⟩ hmove htaken ?_, ?_⟩
        · simp [hbooting.published]
        · simp [hquerying, Boot.snapshot?]
        · intro i round hi
          rw [hbooting.tasks] at hi
          cases hi
        · intro r hr
          rw [hrestored] at hr
          cases hr
          exact ⟨(htaken x hx).past, (htaken x hx).continues⟩
  refine
    { controller := h.controller.next hstep
      current := fun x hx => ⟨started_current h hadvance hx, named_taken h hmove hx⟩
      used := ?_
      due := due_move hinv hmove h.used h.earlier h.due
      every := hnew.1
      restored := hnew.2
      earlier := fun snapshot hmem => hpast snapshot (h.earlier snapshot hmem)
      board := board_move hmove h.board
      truthful := truthful_run h.truthful hinv hstep }
  intro gameId hgame
  rcases List.mem_append.mp hgame with hgame | hgame
  · cases hadvance with
    | same _ hstarts | step _ _ _ hstarts =>
        rw [hstarts] at hgame
        cases hgame
    | @start i clock round hi _ hstarts =>
        rw [hstarts, List.mem_singleton] at hgame
        rw [hgame]
        exact usedIds_move hmove (hinv.fits i _ hi).2.1
  · exact usedIds_move hmove (h.used gameId hgame)

end

/-! ### Every run -/

section
variable {d : Deployment} {s s' : Supervised}

/-- A new process knows nothing, and what it will show continues all that
was shown. -/
theorem supervisedInvariant_fresh {current : Option Execution}
    {usedIds started instances : List String}
    {earlier : List GameSnapshot} {processId : Nat} {instanceId : String}
    (hcurrent : ∀ x, current = some x → x.round.system.Reachable x.state ∧ x.gameId ∈ usedIds)
    (hstarted : ∀ x, current = some x → x.gameId ∈ started)
    (hused : ∀ gameId ∈ started, gameId ∈ usedIds)
    (hearlier : ∀ snapshot ∈ earlier, Past started current snapshot) :
    SupervisedInvariant d
      { controller := { current, usedIds }, processId, instanceId, earlier, started,
        instances } where
  controller := (StepSystem.Run.nil (S := Controller.system) ⟨_, _, rfl, hcurrent⟩).reachable
  current x hx := ⟨hstarted x hx, fun _ _ hc => by cases hc⟩
  used := hused
  due i t hi := by cases hi
  every :=
    { published := fun _ hmem => by cases hmem
      tasks := fun i t hi => by cases hi
      boot := fun _ hc => by cases hc }
  restored _ hc := by cases hc
  earlier := hearlier
  board := rfl
  truthful :=
    { restored := fun _ hc => by cases hc
      held := fun _ hc => by cases hc
      querying := fun _ => ⟨rfl, rfl⟩
      shown := fun hc => by cases hc
      health := by simp }

theorem supervisedInvariant_init (h : d.system.init s) : SupervisedInvariant d s := by
  obtain ⟨controller, processId, instanceId, ⟨current, usedIds, rfl, hcurrent⟩, rfl⟩ := h
  refine supervisedInvariant_fresh hcurrent (fun x hx => ?_) (fun gameId hgame => ?_)
    fun _ hmem => by cases hmem
  · simp [hx]
  · obtain ⟨x, hx, rfl⟩ : ∃ x, current = some x ∧ x.gameId = gameId := by
      simpa using hgame
    exact (hcurrent x hx).2

/-- What one event of the system is. -/
theorem step_cases {e : SupervisedEvent} (hstep : d.step s e = some s') :
    (∃ event c', e = .run event ∧ s.controller.step event = some c' ∧ s' = d.record s event c')
      ∨ (e = .crashWorker ∧ s' = { s with exiting := true })
      ∨ ∃ processId instanceId, e = .restart processId instanceId ∧ instanceId ∉ s.instances
        ∧ s' =
          { controller := { current := s.controller.current, usedIds := s.controller.usedIds }
            processId
            instanceId
            earlier := s.controller.published ++ s.earlier
            started := s.started
            instances := instanceId :: s.instances } := by
  cases e with
  | run event =>
      obtain ⟨c', hc', rfl⟩ := Option.map_eq_some_iff.mp hstep
      exact .inl ⟨event, c', rfl, hc', rfl⟩
  | crashWorker =>
      simp only [Deployment.step] at hstep
      split at hstep
      · cases hstep
        exact .inr (.inl ⟨rfl, rfl⟩)
      · cases hstep
  | restart processId instanceId =>
      simp only [Deployment.step] at hstep
      split at hstep
      · next hmay =>
          cases hstep
          exact .inr (.inr ⟨processId, instanceId, rfl, hmay.2, rfl⟩)
      · cases hstep

theorem supervisedInvariant_step {e : SupervisedEvent} (h : SupervisedInvariant d s)
    (hstep : d.step s e = some s') : SupervisedInvariant d s' := by
  obtain ⟨event, c', rfl, hc', rfl⟩ | ⟨rfl, rfl⟩ | ⟨processId, instanceId, rfl, _, rfl⟩ :=
    step_cases hstep
  · exact supervisedInvariant_run h hc'
  · exact
      { controller := h.controller
        current := h.current
        used := h.used
        due := h.due
        every := h.every.imp fun snapshot hfits => ⟨hfits.past, hfits.continues, hfits.named⟩
        restored := h.restored
        earlier := h.earlier
        board := h.board
        truthful := ⟨h.truthful.restored, h.truthful.held, h.truthful.querying, h.truthful.shown,
          h.truthful.health⟩ }
  · refine supervisedInvariant_fresh (controllerInvariant_reachable h.controller).sound.current
      (fun x hx => (h.current x hx).1) h.used fun snapshot hmem => ?_
    rcases List.mem_append.mp hmem with hmem | hmem
    · exact (h.every.published snapshot hmem).past
    · exact h.earlier snapshot hmem

theorem supervisedInvariant_reachable (h : d.system.Reachable s) : SupervisedInvariant d s :=
  h.invariant (fun _ hinit => supervisedInvariant_init hinit) fun _ _ _ hinv hstep =>
    supervisedInvariant_step hinv hstep

/-- What a process showed stays on record in it, and is an earlier one's
in every other process. -/
theorem shown_later {later : List (Supervised × SupervisedEvent)}
    (hpath : d.system.Path s later s') :
    (s'.instanceId = s.instanceId ∧ s.controller.published <:+ s'.controller.published)
      ∨ ∀ snapshot ∈ s.controller.published, snapshot ∈ s'.earlier := by
  refine hpath.preserves
    (I := fun s' => (s'.instanceId = s.instanceId
      ∧ s.controller.published <:+ s'.controller.published)
      ∨ ∀ snapshot ∈ s.controller.published, snapshot ∈ s'.earlier)
    (.inl ⟨rfl, List.suffix_rfl⟩) ?_
  intro s₁ e s₂ h hstep
  obtain ⟨event, c', rfl, hc', rfl⟩ | ⟨rfl, rfl⟩ | ⟨processId, instanceId, rfl, _, rfl⟩ :=
    step_cases hstep
  · rcases h with ⟨hsame, hsuffix⟩ | hearlier
    · exact .inl ⟨hsame, hsuffix.trans (Controller.published_step hc')⟩
    · exact .inr hearlier
  · exact h
  · refine .inr fun snapshot hmem => List.mem_append.mpr ?_
    rcases h with ⟨_, hsuffix⟩ | hearlier
    · exact .inl (hsuffix.subset hmem)
    · exact .inr (hearlier snapshot hmem)

/-- A board with a name was published. -/
theorem board_published (h : SupervisedInvariant d s) {gameId : String}
    (hgame : s.controller.snapshot.gameId = some gameId) :
    s.controller.snapshot ∈ s.controller.published := by
  have hboard := h.board
  cases hpublished : s.controller.published with
  | nil =>
      rw [hboard, hpublished] at hgame
      cases hgame
  | cons head tail =>
      rw [hboard, hpublished]
      exact List.mem_cons_self

/-- What the page accepts names the same game. -/
theorem gameId_of_continued {before after : GameSnapshot} {gameId : String}
    (h : stateContinued (some before) (some after) = true) (hgame : before.gameId = some gameId)
    (hnamed : gameId ≠ "") : after.gameId = some gameId := by
  have hsame : gameIdOrNull before = gameIdOrNull after := by
    simp only [stateContinued, Bool.and_eq_true, beq_iff_eq] at h
    exact h.1.1
  have hbefore : gameIdOrNull before = some gameId := by
    simp [gameIdOrNull, hgame, hnamed]
  rw [hsame] at hbefore
  exact (Option.filter_eq_some_iff.mp hbefore).1

end

namespace Deployment
variable {d : Deployment} {s s' : Supervised}

/-- **A recovery is what it says.** The page holds the proof of a process
that shows a game, and reads the proof of another process later, over any
number of crashes. Its comparison succeeds exactly when the new process
shows the same game, since no board goes back over a crash; the recovery
counts as proved exactly when Temporal has answered that process too; and
where the Query of the startup returned the game, it is proved for as long
as Temporal has no other one. -/
theorem recovery_run {hist later : List (Supervised × SupervisedEvent)} {gameId : String}
    (hrun : d.system.Run hist s) (hpath : d.system.Path s later s')
    (hother : s'.instanceId ≠ s.instanceId) (hgame : s.controller.snapshot.gameId = some gameId)
    (hnamed : gameId ≠ "") :
    let before := d.recoveryProof s
    let after := d.recoveryProof s'
    (stateContinued (some before.snapshot) (some after.snapshot) = true
        ↔ after.snapshot.gameId = some gameId)
      ∧ (before.accepts after = true ↔ after.snapshot.gameId = some gameId ∧ s'.answers ≠ [])
      ∧ (after.snapshot.gameId = some gameId → Forward before.snapshot after.snapshot)
      ∧ ∀ r, s'.restored = some r → r.gameId = some gameId →
        Forward before.snapshot r ∧ after.restoredSnapshotDigest = d.snapshotDigest r
          ∧ (s'.controller.boot = .done →
            (∃ x, s'.controller.current = some x ∧ x.gameId = gameId) →
              before.accepts after = true) := by
  intro before after
  have hinv := supervisedInvariant_reachable hrun.reachable
  have hinv' := supervisedInvariant_reachable (hrun.append hpath).reachable
  -- the old board is on record as an earlier process's
  have hmem := board_published hinv hgame
  have hearlier : s.controller.snapshot ∈ s'.earlier := by
    rcases shown_later hpath with ⟨hsame, _⟩ | hearlier
    · exact absurd hsame hother
    · exact hearlier _ hmem
  have hforward : after.snapshot.gameId = some gameId → Forward before.snapshot after.snapshot := by
    intro hgame'
    exact (hinv'.every.published _ (board_published hinv' hgame')).continues _ hearlier gameId
      hgame hgame'
  have hcontinued : stateContinued (some before.snapshot) (some after.snapshot) = true
      ↔ after.snapshot.gameId = some gameId := by
    constructor
    · exact fun h => gameId_of_continued h hgame hnamed
    · intro hgame'
      exact stateContinued_of_forward (hinv.every.published _ hmem).past.keyed
        (hinv'.every.published _ (board_published hinv' hgame')).past.keyed (hforward hgame')
  have haccepts : before.accepts after = true
      ↔ after.snapshot.gameId = some gameId ∧ s'.answers ≠ [] := by
    have hnew : (after.instanceId != before.instanceId) = true := by
      simpa [before, after, recoveryProof] using hother
    have hhealth : after.temporalQuerySucceeded = true ↔ s'.answers ≠ [] := hinv'.truthful.health
    unfold RecoveryProof.accepts
    rw [hnew, Bool.true_and, Bool.and_eq_true, hcontinued, hhealth]
    exact And.comm
  refine ⟨hcontinued, haccepts, hforward, fun r hr hrgame => ?_⟩
  obtain ⟨hanswer, hdigest⟩ := hinv'.truthful.restored r hr
  refine ⟨(hinv'.restored r hr).2 _ hearlier gameId hgame hrgame, hdigest, fun hdone => ?_⟩
  rintro ⟨x, hx, rfl⟩
  -- the startup published, and every board since then names the game
  have hshown := hinv'.truthful.shown hdone r hr (by simp [hrgame])
  obtain ⟨head, tail, hpublished⟩ := List.exists_cons_of_ne_nil hshown
  have hboard : s'.controller.snapshot = head := by
    rw [hinv'.board, hpublished]
    rfl
  have hfits := hinv'.every.published head (by simp [hpublished])
  refine haccepts.mpr ⟨?_, List.ne_nil_of_mem hanswer⟩
  show s'.controller.snapshot.gameId = some x.gameId
  rw [hboard]
  exact hfits.named r x hr hx hrgame

/-- Started by `run-web.sh`. -/
def underSupervisor : Deployment := { supervised := true, digest := fun _ => "" }

/-- A game runs, the controller crashes, and the next one asks Temporal. -/
theorem recovery_run_crash :
    ∃ hist s later s', underSupervisor.system.Run hist s ∧ underSupervisor.system.Path s later s'
      ∧ (underSupervisor.recoveryProof s).snapshot.gameId = some "quiet"
      ∧ (underSupervisor.recoveryProof s).accepts (underSupervisor.recoveryProof s') = true := by
  obtain ⟨hist, s, later, s', hrun, htest⟩ := StepSystem.exists_run_around
    (S := underSupervisor.system)
    { controller := {}, processId := 1, instanceId := "first", instances := ["first"]
      started := [] }
    [.run (.bootQuery false), .run (.reserve Round.quietRound), .run (.startWorkflow 0 0),
      .run (.announce 0), .run (.workflow .start), .run (.workflow .iterate)]
    .crashWorker
    [.restart 2 "second", .run (.bootQuery true), .run .bootPublish]
    (fun run => run.1.2.instanceId == "first" && run.1.2.controller.snapshot.gameId == some "quiet"
      && run.2.2.instanceId == "second" && run.2.2.controller.snapshot.gameId == some "quiet"
      && !run.2.2.answers.isEmpty)
    ⟨{}, 1, "first", Controller.init_idle, rfl⟩ (by decide +kernel)
  simp only [Bool.and_eq_true, beq_iff_eq, Bool.not_eq_true', List.isEmpty_eq_false_iff] at htest
  obtain ⟨⟨⟨⟨hfirst, hgame⟩, hsecond⟩, hgame'⟩, hanswers⟩ := htest
  obtain ⟨s₀, hinit, hpath⟩ := hrun
  obtain ⟨hbefore, s₁, hstep, hafter⟩ := hpath.split
  have hrun : underSupervisor.system.Run hist s := ⟨s₀, hinit, hbefore⟩
  have hlater := (StepSystem.Path.nil.snoc hstep).append hafter
  have hother : s'.instanceId ≠ s.instanceId := by
    rw [hfirst, hsecond]
    decide
  exact ⟨hist, s, _, s', hrun, hlater, hgame,
    (recovery_run hrun hlater hother hgame (by decide)).2.1.mpr ⟨hgame', hanswers⟩⟩

end Deployment

end DurableTrivia.Web
