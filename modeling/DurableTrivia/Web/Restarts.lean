import DurableTrivia.Shared.Wire
import DurableTrivia.Web.Board
import DurableTrivia.Web.Recovery

/-!
# Restarts — the controller under its supervisor

`run-web.sh` starts the controller again whenever it left with the exit
code of `crash_worker`. A new process has nothing of the old one:
`AppState` is empty, its tasks are gone, and only Temporal's execution is
still there. `/api/recovery` says what the new process knows, and the
page compares it with what the old one said.

While no process runs the execution stands still, since its Workflow code
runs on the Worker in the same process. What was under way to Temporal at
the crash arrives before it, or never. So the end of one process and the
start of the next are one event here.
-/

namespace DurableTrivia.Web

open DurableTrivia.Shared DurableTrivia.Lib

/-! ## The recovery proof -/

/-- What a failed Query means for the claim that Temporal answered. -/
inductive OnQueryFailure where
  /-- startup: this process did not rebuild from Temporal -/
  | retract
  /-- steady state: a failed poll does not undo a rebuild -/
  | keep
  deriving DecidableEq, Repr

/-- The flag after a Query. -/
def queryRecordingHealth (answers health : Bool) (onFailure : OnQueryFailure) : Bool :=
  if answers then true else if onFailure = .retract then false else health

/-- What `/api/recovery` answers. -/
structure RecoveryProof where
  processId : Nat
  instanceId : String
  temporalQuerySucceeded : Bool
  restoredSnapshotDigest : String
  snapshotDigest : String
  snapshot : GameSnapshot

/-- The page takes the recovery as proved: the proof is of another
process, Temporal answered it, and the state continued. -/
def RecoveryProof.accepts (before after : RecoveryProof) : Bool :=
  after.instanceId != before.instanceId && after.temporalQuerySucceeded
    && stateContinued (some before.snapshot) (some after.snapshot)

/-! ## Processes -/

/-- The server accepts requests. -/
def Boot.serving : Boot → Bool
  | .done => true
  | .querying | .holding _ => false

/-- How the controller was started, and the digest of a document: the
hash of its text. -/
structure Deployment where
  /-- `TRIVIA_SUPERVISED=1` -/
  supervised : Bool
  digest : Json → String

/-- The process that runs, in its environment. `answers` is what its
Queries returned, latest first; `earlier` is what the boards of the
processes before it showed, `started` the games that Temporal ran, and
`instances` the ids drawn so far. -/
structure Supervised where
  controller : Controller
  processId : Nat
  instanceId : String
  restoredSnapshotDigest : String := ""
  temporalQuerySucceeded : Bool := false
  /-- an exit is under way -/
  exiting : Bool := false
  /-- what the Query of the startup returned -/
  restored : Option GameSnapshot := none
  answers : List GameSnapshot := []
  earlier : List GameSnapshot := []
  started : List String
  instances : List String

/-- One event of the supervised controller. -/
inductive SupervisedEvent where
  | run (event : ControllerEvent)
  /-- a `crash_worker` request that is accepted -/
  | crashWorker
  /-- the process exits, and `run-web.sh` starts the next one -/
  | restart (processId : Nat) (instanceId : String)

/-- A Query returns, or fails. -/
def ControllerEvent.query? : ControllerEvent → Option (Bool × OnQueryFailure)
  | .bootQuery answers => some (answers, .retract)
  | .query _ answers => some (answers, .keep)
  | _ => none

/-- The game that an event makes Temporal run. -/
def ControllerEvent.starts (c' : Controller) : ControllerEvent → List String
  | .startWorkflow _ _ => (c'.current.map Execution.gameId).toList
  | _ => []

namespace Deployment
variable (d : Deployment)

/-- The digest of a snapshot's JSON. -/
def snapshotDigest (snapshot : GameSnapshot) : String :=
  d.digest (GameSnapshot.wire.encode snapshot)

/-- What an event of the controller leaves in its process. -/
def record (s : Supervised) (e : ControllerEvent) (c' : Controller) : Supervised :=
  let answer :=
    if e.query?.any Prod.fst then c'.current.map fun x => x.state.wf.snapshot else none
  { s with
    controller := c'
    temporalQuerySucceeded := match e.query? with
      | some (answers, onFailure) =>
          queryRecordingHealth answers s.temporalQuerySucceeded onFailure
      | none => s.temporalQuerySucceeded
    restoredSnapshotDigest := match e, c'.boot with
      | .bootQuery _, .holding snapshot => d.snapshotDigest snapshot
      | .bootQuery _, _ => d.snapshotDigest s.controller.snapshot
      | _, _ => s.restoredSnapshotDigest
    restored := match e, c'.boot with
      | .bootQuery _, .holding snapshot => some snapshot
      | _, _ => s.restored
    answers := answer.toList ++ s.answers
    started := e.starts c' ++ s.started }

/-- One event; `none` where it cannot occur. -/
def step (s : Supervised) : SupervisedEvent → Option Supervised
  | .run event => (s.controller.step event).map (d.record s event)
  | .crashWorker =>
      -- refused where nothing would start the controller again
      if d.supervised ∧ s.controller.boot.serving then some { s with exiting := true } else none
  | .restart processId instanceId =>
      -- a fresh UUID
      if s.exiting ∧ instanceId ∉ s.instances then
        some
          { controller := { current := s.controller.current, usedIds := s.controller.usedIds }
            processId
            instanceId
            earlier := s.controller.published ++ s.earlier
            started := s.started
            instances := instanceId :: s.instances }
      else none

/-- The first process. -/
def system : StepSystem Supervised SupervisedEvent where
  init s := ∃ controller processId instanceId, Controller.system.init controller
    ∧ s = { controller, processId, instanceId, instances := [instanceId]
            started := (controller.current.map Execution.gameId).toList }
  step := d.step

/-- `/api/recovery` -/
def recoveryProof (s : Supervised) : RecoveryProof :=
  { processId := s.processId
    instanceId := s.instanceId
    temporalQuerySucceeded := s.temporalQuerySucceeded
    restoredSnapshotDigest := s.restoredSnapshotDigest
    snapshotDigest := d.snapshotDigest s.controller.snapshot
    snapshot := s.controller.snapshot }

end Deployment

/-! ## Snapshots in a controller -/

/-- The snapshot that a task got and has not published. -/
def Task.snapshot? : Task → Option GameSnapshot
  | .observing _ (.holding snapshot) | .answered snapshot => some snapshot
  | .observing _ .checking | .observing _ .querying | .observing _ .releasing => none
  | .starting _ | .startSent _ | .updating _ => none

/-- The snapshot the boot task holds. -/
def Boot.snapshot? : Boot → Option GameSnapshot
  | .holding snapshot => some snapshot
  | .querying | .done => none

/-- `P` holds of every snapshot that was published or is held. -/
structure Controller.Every (P : GameSnapshot → Prop) (c : Controller) : Prop where
  published : ∀ snapshot ∈ c.published, P snapshot
  tasks : Tasks.All (fun t => ∀ snapshot, t.snapshot? = some snapshot → P snapshot) c.tasks
  boot : ∀ snapshot, c.boot.snapshot? = some snapshot → P snapshot

namespace Controller.Every
variable {P Q : GameSnapshot → Prop} {c c' : Controller}

theorem imp (h : c.Every P) (himp : ∀ snapshot, P snapshot → Q snapshot) : c.Every Q where
  published snapshot hmem := himp snapshot (h.published snapshot hmem)
  tasks := h.tasks.imp fun _ ht snapshot hsnapshot => himp snapshot (ht snapshot hsnapshot)
  boot snapshot hsnapshot := himp snapshot (h.boot snapshot hsnapshot)

/-- A controller with the same board and tasks, and no more at its startup. -/
theorem keep (h : c.Every P) (hpublished : c'.published = c.published) (htasks : c'.tasks = c.tasks)
    (hboot : c'.boot = c.boot ∨ c'.boot = .done) : c'.Every P where
  published := by
    rw [hpublished]
    exact h.published
  tasks := by
    rw [htasks]
    exact h.tasks
  boot := by
    rcases hboot with hboot | hboot
    · rw [hboot]
      exact h.boot
    · rw [hboot]
      intro snapshot hnone
      cases hnone

theorem become (h : c.Every P) {i : Nat} {t : Task} (hi : c.tasks.task i = some t)
    {new : Option Task} (hnew : ∀ t', new = some t' → ∀ snapshot, t'.snapshot? = some snapshot →
      P snapshot) : (c.become i new).Every P where
  published := h.published
  tasks := h.tasks.become hi hnew
  boot := h.boot

/-- A task that ends, or goes on without a snapshot. -/
theorem become_empty (h : c.Every P) {i : Nat} {t : Task} (hi : c.tasks.task i = some t)
    {new : Option Task} (hnew : ∀ t', new = some t' → t'.snapshot? = none) :
    (c.become i new).Every P := by
  refine h.become hi fun t' ht' snapshot hsnapshot => ?_
  rw [hnew t' ht'] at hsnapshot
  cases hsnapshot

theorem spawn (h : c.Every P) {t : Task} (ht : t.snapshot? = none) : (c.spawn t).Every P where
  published := h.published
  tasks := by
    refine h.tasks.spawn fun snapshot hsnapshot => ?_
    rw [ht] at hsnapshot
    cases hsnapshot
  boot := h.boot

theorem publish (h : c.Every P) {snapshot : GameSnapshot} (hP : P snapshot) :
    (c.publish snapshot).Every P where
  published := by
    intro other hmem
    rcases List.mem_cons.mp hmem with rfl | hmem
    · exact hP
    · exact h.published other hmem
  tasks := h.tasks
  boot := h.boot

theorem releaseSlot (h : c.Every P) (gameId : String) : (c.releaseSlot gameId).Every P := by
  unfold Controller.releaseSlot
  split
  · exact h.keep rfl rfl (.inl rfl)
  · exact h

theorem resume (h : c.Every P) {snapshot : GameSnapshot} (hP : P snapshot) :
    (c.resume snapshot).Every P := by
  unfold Controller.resume
  cases snapshot.gameId with
  | none => exact h.keep rfl rfl (.inr rfl)
  | some gameId =>
      have hdone : ({ c with boot := .done } : Controller).Every P := h.keep rfl rfl (.inr rfl)
      have hactive :
          ({ c with boot := .done, activeWorkflow := some gameId } : Controller).Every P :=
        h.keep rfl rfl (.inr rfl)
      dsimp only
      split
      · exact (hactive.publish hP).spawn (t := .observing gameId .checking) rfl
      · exact hdone.publish hP

/-- **One event**: what it takes is a snapshot of Temporal's execution, or
the one that announces a new game. -/
theorem move {e : ControllerEvent} (h : c.Every P) (hmove : Controller.Move c e c')
    (htaken : ∀ x, c'.current = some x → P x.state.wf.snapshot)
    (hstarting : ∀ i round, c.tasks.task i = some (.startSent round) →
      P (Controller.startingSnapshot round)) : c'.Every P := by
  cases hmove with
  | workflow _ _ => exact h.keep rfl rfl (.inl rfl)
  | bootFailed _ => exact h.keep rfl rfl (.inr rfl)
  | bootAnswered _ hx =>
      refine ⟨h.published, h.tasks, fun snapshot hsnapshot => ?_⟩
      cases hsnapshot
      exact htaken _ hx
  | bootPublish hboot => exact h.resume (h.boot _ (by rw [hboot]; rfl))
  | @reserve round _ _ _ =>
      have hreserved : ({ c with
          activeWorkflow := some round.input.gameId
          usedIds := round.input.gameId :: c.usedIds } : Controller).Every P :=
        h.keep rfl rfl (.inl rfl)
      exact hreserved.spawn (t := .starting round) rfl
  | @startWorkflow i clock round hi _ =>
      have hcurrent :
          ({ c with current := some { round, state := { clock } } } : Controller).Every P :=
        h.keep rfl rfl (.inl rfl)
      refine hcurrent.become_empty hi fun t' ht' => ?_
      cases ht'
      rfl
  | startFailed hi =>
      rcases hi with hi | hi
      · exact (h.releaseSlot _).become_empty (by rwa [Controller.releaseSlot_tasks])
          fun t' hnone => by cases hnone
      · exact (h.releaseSlot _).become_empty (by rwa [Controller.releaseSlot_tasks])
          fun t' hnone => by cases hnone
  | announce hi =>
      refine (h.publish (hstarting _ _ hi)).become_empty hi fun t' ht' => ?_
      cases ht'
      rfl
  | checked hi _ =>
      refine h.become_empty hi fun t' ht' => ?_
      cases ht'
      rfl
  | checkedOut hi _ => exact h.become_empty hi fun t' hnone => by cases hnone
  | queryAnswered hi hx =>
      refine h.become hi fun t' ht' snapshot hsnapshot => ?_
      cases ht'
      cases hsnapshot
      exact htaken _ hx
  | queryFailed hi =>
      refine h.become_empty hi fun t' ht' => ?_
      cases ht'
      rfl
  | publish hi =>
      refine (h.publish (h.tasks _ _ hi _ rfl)).become_empty hi fun t' ht' => ?_
      cases ht'
      split <;> rfl
  | release hi =>
      exact (h.releaseSlot _).become_empty (by rwa [Controller.releaseSlot_tasks])
        fun t' hnone => by cases hnone
  | @request update _ _ _ => exact h.spawn (t := .updating update) rfl
  | @execute i update x state hi _ _ =>
      have hcurrent : ({ c with current := some { x with state } } : Controller).Every P :=
        h.keep rfl rfl (.inl rfl)
      refine hcurrent.become hi fun t' ht' snapshot hsnapshot => ?_
      cases ht'
      cases hsnapshot
      exact htaken _ rfl
  | refuse hi => exact h.become_empty hi fun t' hnone => by cases hnone
  | answer hi =>
      exact (h.publish (h.tasks _ _ hi _ rfl)).become_empty hi fun t' hnone => by cases hnone
  | drop hi _ => exact h.become_empty hi fun t' hnone => by cases hnone

end Controller.Every

/-! ## What was shown, against what is to come -/

/-- Every state that the execution still comes to continues the snapshot,
once it names its game. -/
def Behind (snapshot : GameSnapshot) (x : Execution) : Prop :=
  ∀ later s', x.round.system.Path x.state later s' → s'.wf.snapshot.gameId = some x.gameId →
    Forward snapshot s'.wf.snapshot

/-- A snapshot of a game that Temporal ran, and of no later state of it
than the current one. -/
structure Past (started : List String) (current : Option Execution) (snapshot : GameSnapshot) :
    Prop where
  keyed : Keyed snapshot.players
  started : ∀ gameId, snapshot.gameId = some gameId → gameId ∈ started
  behind : ∀ x, current = some x → snapshot.gameId = some x.gameId → Behind snapshot x

section
variable {x : Execution} {started : List String} {current : Option Execution}
  {snapshot : GameSnapshot}

/-- An execution whose snapshot names a game has started. -/
theorem started_of_named (h : x.round.system.Reachable x.state) {gameId : String}
    (hgame : x.state.wf.snapshot.gameId = some gameId) : x.state.phase ≠ .unstarted := by
  intro hphase
  rw [Round.gameId_of_unstarted h hphase] at hgame
  cases hgame

/-- The name stays. -/
theorem named_step (h : x.round.system.Reachable x.state) {gameId : String}
    (hgame : x.state.wf.snapshot.gameId = some gameId) {event : Event} {state : State}
    (hstep : x.round.step x.state event = some state) : state.wf.snapshot.gameId = some gameId := by
  obtain ⟨hist, hrun⟩ := h
  have hforward := Round.forward_path hrun (started_of_named hrun.reachable hgame)
    (.snoc .nil hstep)
  rw [hforward.gameId]
  exact hgame

/-- What is taken from the execution now. -/
theorem past_taken (h : x.round.system.Reachable x.state) (hstarted : x.gameId ∈ started) :
    Past started (some x) x.state.wf.snapshot where
  keyed := by
    obtain ⟨hist, hrun⟩ := h
    exact (Round.tidy_run hrun).keyed
  started := by
    intro gameId hgame
    rw [(Execution.took_now h).game gameId hgame]
    exact hstarted
  behind := by
    intro y hy hgame later s' hpath _
    cases hy
    obtain ⟨hist, hrun⟩ := h
    exact Round.forward_path hrun (started_of_named hrun.reachable hgame) hpath

/-- The announcement of a game is behind all of it. -/
theorem past_starting {round : Round} (hstarted : round.input.gameId ∈ started) :
    Past started current (Controller.startingSnapshot round) where
  keyed := by
    intro badgeId player hplayer
    cases hplayer
  started := by
    intro gameId hgame
    cases hgame
    exact hstarted
  behind := by
    intro x _ hgame later s' _ hgame'
    refine
      { gameId := hgame'.trans hgame.symm
        players := ?_
        completed := Nat.zero_le _
        scheduled := Nat.zero_le _
        reassignments := Nat.zero_le _
        heartbeatTimeouts := Nat.zero_le _
        activityAttempts := Nat.zero_le _
        extensionUsed := fun hused => by cases hused
        powerups := Nat.zero_le _
        finished := fun hfinished => by cases hfinished }
    intro badgeId player hplayer
    cases hplayer

/-- The execution moves on. -/
theorem Past.step (h : Past started (some x) snapshot) {event : Event} {state : State}
    (hstep : x.round.step x.state event = some state) :
    Past started (some { x with state }) snapshot where
  keyed := h.keyed
  started := h.started
  behind := by
    intro y hy hgame later s' hpath hgame'
    cases hy
    exact h.behind x rfl hgame _ s' (.append (.snoc .nil hstep) hpath) hgame'

/-- Another game starts. -/
theorem Past.start (h : Past started current snapshot) (hnew : x.gameId ∉ started) :
    Past (x.gameId :: started) (some x) snapshot where
  keyed := h.keyed
  started gameId hgame := List.mem_cons_of_mem _ (h.started gameId hgame)
  behind := by
    intro y hy hgame
    cases hy
    exact absurd (h.started _ hgame) hnew

end

end DurableTrivia.Web
