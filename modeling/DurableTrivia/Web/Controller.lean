import DurableTrivia.Lib.Tasks
import DurableTrivia.Web.RoundInvariant

/-!
# Controller — the HTTP server between the operator and Temporal

`start_game`, `end_round`, `apply_chaos`, `resume_active_game`,
`observe_workflow` and `publish` of `web/src/main.rs` as concurrent
tasks, cut at their awaits, next to the Workflow execution Temporal runs
under the controller's one Workflow id.

A task asks Temporal for a snapshot, holds what it got, and publishes it
at some later time; the last writer wins. A handler's future may be
dropped at any await, because its client disconnected; the observer and
the startup are nobody's request and run to their end. Temporal accepts
a new execution only when the last one is closed, so the current one is
all a handle without a run id can reach, and the observer's own run is
the current one for as long as it observes (`ControllerInvariant`).
-/

namespace DurableTrivia.Web

open DurableTrivia.Shared DurableTrivia.Lib

/-! ## Parties -/

/-- A run of `GameWorkflow`. -/
structure Execution where
  round : Round
  state : State

/-- The game an execution plays. -/
def Execution.gameId (x : Execution) : String := x.round.input.gameId

/-- Temporal has closed it. -/
def Execution.closed (x : Execution) : Prop := x.state.phase.status = .finished

/-- The two updates the API sends. -/
inductive Update where
  | applyChaos (command : ChaosCommand)
  | endRound
  deriving DecidableEq, Repr

/-- The update as an event of the Workflow. -/
def Update.event : Update → Event
  | .applyChaos command => .applyChaos command
  | .endRound => .endRound

/-- Where `observe_workflow` stands. -/
inductive ObserverPhase where
  | checking
  | querying
  /-- the Query answered, `publish` is next -/
  | holding (snapshot : GameSnapshot)
  /-- a finished snapshot was published, the slot is given back next -/
  | releasing

/-- A task of the controller, at one of its awaits. -/
inductive Task where
  /-- `start_game` behind its reservation, at `start_workflow` -/
  | starting (round : Round)
  /-- Temporal started the Workflow, the answer is under way -/
  | startSent (round : Round)
  | observing (gameId : String) (phase : ObserverPhase)
  /-- an update handler behind its check of the slot -/
  | updating (update : Update)
  /-- the update's snapshot is there, `publish` is next -/
  | answered (snapshot : GameSnapshot)

/-- `resume_active_game`, which runs before the server accepts requests. -/
inductive Boot where
  | querying
  | holding (snapshot : GameSnapshot)
  | done

/-- `AppState`, the tasks, and Temporal's current execution. `published`
is every value `snapshot` was given, latest first; `usedIds` are the game
ids drawn so far. -/
structure Controller where
  boot : Boot := .querying
  activeWorkflow : Option String := none
  snapshot : GameSnapshot := {}
  published : List GameSnapshot := []
  current : Option Execution := none
  tasks : Tasks Task := []
  usedIds : List String := []

/-- One event of the controller. -/
inductive ControllerEvent where
  /-- the current execution takes a step of its own -/
  | workflow (event : Event)
  | bootQuery (answers : Bool)
  | bootPublish
  /-- a `start_game` request that finds the slot free -/
  | reserve (round : Round)
  | startWorkflow (task clock : Nat)
  /-- `start_workflow` returned an error -/
  | startFailed (task : Nat)
  /-- `start_workflow` returned: publish and spawn the observer -/
  | announce (task : Nat)
  | check (task : Nat)
  | query (task : Nat) (answers : Bool)
  | publish (task : Nat)
  | release (task : Nat)
  /-- an update request that finds the slot taken -/
  | request (update : Update)
  /-- the Workflow accepts and applies the update -/
  | execute (task : Nat)
  | refuse (task : Nat)
  /-- the handler publishes what the update returned -/
  | answer (task : Nat)
  /-- the client of a handler disconnected -/
  | drop (task : Nat)

namespace Controller

/-! ## Steps -/

/-- Publish a snapshot. -/
def publish (c : Controller) (snapshot : GameSnapshot) : Controller :=
  { c with snapshot, published := snapshot :: c.published }

/-- The task is at its next await, or over. -/
def become (c : Controller) (i : Nat) (t : Option Task) : Controller :=
  { c with tasks := c.tasks.become i t }

/-- Spawn a task. -/
def spawn (c : Controller) (t : Task) : Controller := { c with tasks := c.tasks.spawn t }

/-- Gives the slot back, unless another game holds it. -/
def releaseSlot (c : Controller) (gameId : String) : Controller :=
  if c.activeWorkflow = some gameId then { c with activeWorkflow := none } else c

/-- What `start_game` publishes before the first Query answers. -/
def startingSnapshot (r : Round) : GameSnapshot :=
  { gameId := some r.input.gameId
    status := .running
    -- `as u32`
    detectedBadgeCount := r.badges }

/-- The current execution after an event of its Workflow. -/
def stepCurrent (c : Controller) (event : Event) : Option (Execution × Controller) :=
  c.current.bind fun x => (x.round.step x.state event).map fun state =>
    ({ x with state }, { c with current := some { x with state } })

/-- `resume_active_game` from its Query's answer on. -/
def resume (c : Controller) (snapshot : GameSnapshot) : Controller :=
  match snapshot.gameId with
  | none => { c with boot := .done }
  | some gameId =>
      if snapshot.status = .running then
        (({ c with boot := .done, activeWorkflow := some gameId } : Controller).publish
          snapshot).spawn (.observing gameId .checking)
      else ({ c with boot := .done } : Controller).publish snapshot

/-- Temporal starts an execution only when none is open. -/
def mayStart (c : Controller) : Bool :=
  c.current.all fun x => x.state.phase.status == .finished

/-- One event; `none` where it cannot occur. -/
def step (c : Controller) : ControllerEvent → Option Controller
  | .workflow event => (c.stepCurrent event).map Prod.snd
  | .bootQuery answers =>
      match c.boot with
      | .querying =>
          if answers then c.current.map fun x => { c with boot := .holding x.state.wf.snapshot }
          else some { c with boot := .done }
      | _ => none
  | .bootPublish =>
      match c.boot with
      | .holding snapshot => some (c.resume snapshot)
      | _ => none
  | .reserve round =>
      match c.boot, c.activeWorkflow with
      | .done, none =>
          -- a fresh UUID
          if round.input.gameId ∈ c.usedIds then none
          else some (({ c with
            activeWorkflow := some round.input.gameId
            usedIds := round.input.gameId :: c.usedIds } : Controller).spawn (.starting round))
      | _, _ => none
  | .startWorkflow i clock =>
      match c.tasks.task i with
      | some (.starting round) =>
          if c.mayStart then
            some (({ c with current := some { round, state := { clock } } } : Controller).become i
              (some (.startSent round)))
          else none
      | _ => none
  | .startFailed i =>
      match c.tasks.task i with
      | some (.starting round) | some (.startSent round) =>
          some ((c.releaseSlot round.input.gameId).become i none)
      | _ => none
  | .announce i =>
      match c.tasks.task i with
      | some (.startSent round) =>
          some ((c.publish (startingSnapshot round)).become i
            (some (.observing round.input.gameId .checking)))
      | _ => none
  | .check i =>
      match c.tasks.task i with
      | some (.observing gameId .checking) =>
          if c.activeWorkflow = some gameId then
            some (c.become i (some (.observing gameId .querying)))
          else some (c.become i none)
      | _ => none
  | .query i answers =>
      match c.tasks.task i with
      | some (.observing gameId .querying) =>
          if answers then
            c.current.map fun x =>
              c.become i (some (.observing gameId (.holding x.state.wf.snapshot)))
          else some (c.become i (some (.observing gameId .checking)))
      | _ => none
  | .publish i =>
      match c.tasks.task i with
      | some (.observing gameId (.holding snapshot)) =>
          some ((c.publish snapshot).become i
            (some (.observing gameId
              (if snapshot.status = .finished then .releasing else .checking))))
      | _ => none
  | .release i =>
      match c.tasks.task i with
      | some (.observing gameId .releasing) => some ((c.releaseSlot gameId).become i none)
      | _ => none
  | .request update =>
      match c.boot, c.activeWorkflow with
      | .done, some _ => some (c.spawn (.updating update))
      | _, _ => none
  | .execute i =>
      match c.tasks.task i with
      | some (.updating update) =>
          (c.stepCurrent update.event).map fun result =>
            result.2.become i (some (.answered result.1.state.wf.snapshot))
      | _ => none
  | .refuse i =>
      match c.tasks.task i with
      | some (.updating _) => some (c.become i none)
      | _ => none
  | .answer i =>
      match c.tasks.task i with
      | some (.answered snapshot) => some ((c.publish snapshot).become i none)
      | _ => none
  | .drop i =>
      match c.tasks.task i with
      | some (.starting _) | some (.startSent _) | some (.updating _) | some (.answered _) =>
          some (c.become i none)
      | _ => none

/-- The process starts next to whatever execution Temporal has. -/
def system : StepSystem Controller ControllerEvent where
  init c := ∃ current usedIds, c = { current, usedIds }
    ∧ ∀ x, current = some x → x.round.system.Reachable x.state ∧ x.gameId ∈ usedIds
  step := step

/-! ## What one event can do -/

/-- What one event can do. -/
inductive Move (c : Controller) : ControllerEvent → Controller → Prop
  | workflow {x : Execution} {event : Event} {state : State} (hx : c.current = some x)
      (hstep : x.round.step x.state event = some state) :
      Move c (.workflow event) { c with current := some { x with state } }
  | bootFailed (hboot : c.boot = .querying) : Move c (.bootQuery false) { c with boot := .done }
  | bootAnswered {x : Execution} (hboot : c.boot = .querying) (hx : c.current = some x) :
      Move c (.bootQuery true) { c with boot := .holding x.state.wf.snapshot }
  | bootPublish {snapshot : GameSnapshot} (hboot : c.boot = .holding snapshot) :
      Move c .bootPublish (c.resume snapshot)
  | reserve {round : Round} (hboot : c.boot = .done) (hfree : c.activeWorkflow = none)
      (hfresh : round.input.gameId ∉ c.usedIds) :
      Move c (.reserve round)
        (({ c with
          activeWorkflow := some round.input.gameId
          usedIds := round.input.gameId :: c.usedIds } : Controller).spawn (.starting round))
  | startWorkflow {i clock : Nat} {round : Round} (hi : c.tasks.task i = some (.starting round))
      (hmay : c.mayStart = true) :
      Move c (.startWorkflow i clock)
        (({ c with current := some { round, state := { clock } } } : Controller).become i
          (some (.startSent round)))
  | startFailed {i : Nat} {round : Round} (hi : c.tasks.task i = some (.starting round)
      ∨ c.tasks.task i = some (.startSent round)) :
      Move c (.startFailed i) ((c.releaseSlot round.input.gameId).become i none)
  | announce {i : Nat} {round : Round} (hi : c.tasks.task i = some (.startSent round)) :
      Move c (.announce i) ((c.publish (startingSnapshot round)).become i
        (some (.observing round.input.gameId .checking)))
  | checked {i : Nat} {gameId : String} (hi : c.tasks.task i = some (.observing gameId .checking))
      (hactive : c.activeWorkflow = some gameId) :
      Move c (.check i) (c.become i (some (.observing gameId .querying)))
  | checkedOut {i : Nat} {gameId : String}
      (hi : c.tasks.task i = some (.observing gameId .checking))
      (hactive : c.activeWorkflow ≠ some gameId) : Move c (.check i) (c.become i none)
  | queryAnswered {i : Nat} {gameId : String} {x : Execution}
      (hi : c.tasks.task i = some (.observing gameId .querying)) (hx : c.current = some x) :
      Move c (.query i true)
        (c.become i (some (.observing gameId (.holding x.state.wf.snapshot))))
  | queryFailed {i : Nat} {gameId : String}
      (hi : c.tasks.task i = some (.observing gameId .querying)) :
      Move c (.query i false) (c.become i (some (.observing gameId .checking)))
  | publish {i : Nat} {gameId : String} {snapshot : GameSnapshot}
      (hi : c.tasks.task i = some (.observing gameId (.holding snapshot))) :
      Move c (.publish i) ((c.publish snapshot).become i
        (some (.observing gameId (if snapshot.status = .finished then .releasing else .checking))))
  | release {i : Nat} {gameId : String}
      (hi : c.tasks.task i = some (.observing gameId .releasing)) :
      Move c (.release i) ((c.releaseSlot gameId).become i none)
  | request {update : Update} {gameId : String} (hboot : c.boot = .done)
      (hactive : c.activeWorkflow = some gameId) :
      Move c (.request update) (c.spawn (.updating update))
  | execute {i : Nat} {update : Update} {x : Execution} {state : State}
      (hi : c.tasks.task i = some (.updating update)) (hx : c.current = some x)
      (hstep : x.round.step x.state update.event = some state) :
      Move c (.execute i) (({ c with current := some { x with state } } : Controller).become i
        (some (.answered state.wf.snapshot)))
  | refuse {i : Nat} {update : Update} (hi : c.tasks.task i = some (.updating update)) :
      Move c (.refuse i) (c.become i none)
  | answer {i : Nat} {snapshot : GameSnapshot} (hi : c.tasks.task i = some (.answered snapshot)) :
      Move c (.answer i) ((c.publish snapshot).become i none)
  | drop {i : Nat} {t : Task} (hi : c.tasks.task i = some t)
      (hhandler : ∀ gameId phase, t ≠ .observing gameId phase) :
      Move c (.drop i) (c.become i none)

theorem stepCurrent_some {c : Controller} {event : Event} {result : Execution × Controller}
    (h : c.stepCurrent event = some result) :
    ∃ x state, c.current = some x ∧ x.round.step x.state event = some state
      ∧ result = ({ x with state }, { c with current := some { x with state } }) := by
  simp only [stepCurrent, Option.bind_eq_some_iff, Option.map_eq_some_iff] at h
  obtain ⟨x, hx, state, hstep, rfl⟩ := h
  exact ⟨x, state, hx, hstep, rfl⟩

/-- **Inversion.** -/
theorem move_of_step {c c' : Controller} {e : ControllerEvent} (h : c.step e = some c') :
    Move c e c' := by
  cases e with
  | workflow event =>
      obtain ⟨result, hresult, rfl⟩ := Option.map_eq_some_iff.mp h
      obtain ⟨x, state, hx, hstep, rfl⟩ := stepCurrent_some hresult
      exact .workflow hx hstep
  | bootQuery answers =>
      simp only [step] at h
      split at h
      · next hboot =>
          cases answers with
          | false =>
              cases h
              exact .bootFailed hboot
          | true =>
              obtain ⟨x, hx, rfl⟩ := Option.map_eq_some_iff.mp h
              exact .bootAnswered hboot hx
      · cases h
  | bootPublish =>
      simp only [step] at h
      split at h
      · next hboot =>
          cases h
          exact .bootPublish hboot
      · cases h
  | reserve round =>
      simp only [step] at h
      split at h
      · next hboot hfree =>
          split at h
          · cases h
          · next hfresh =>
              cases h
              exact .reserve hboot hfree hfresh
      · cases h
  | startWorkflow i clock =>
      simp only [step] at h
      split at h
      · next hi =>
          split at h
          · next hmay =>
              cases h
              exact .startWorkflow hi hmay
          · cases h
      · cases h
  | startFailed i =>
      simp only [step] at h
      split at h
      · next hi =>
          cases h
          exact .startFailed (.inl hi)
      · next hi =>
          cases h
          exact .startFailed (.inr hi)
      · cases h
  | announce i =>
      simp only [step] at h
      split at h
      · next hi =>
          cases h
          exact .announce hi
      · cases h
  | check i =>
      simp only [step] at h
      split at h
      · next hi =>
          split at h
          · next hactive =>
              cases h
              exact .checked hi hactive
          · next hactive =>
              cases h
              exact .checkedOut hi hactive
      · cases h
  | query i answers =>
      simp only [step] at h
      split at h
      · next hi =>
          cases answers with
          | false =>
              cases h
              exact .queryFailed hi
          | true =>
              obtain ⟨x, hx, rfl⟩ := Option.map_eq_some_iff.mp h
              exact .queryAnswered hi hx
      · cases h
  | publish i =>
      simp only [step] at h
      split at h
      · next hi =>
          cases h
          exact .publish hi
      · cases h
  | release i =>
      simp only [step] at h
      split at h
      · next hi =>
          cases h
          exact .release hi
      · cases h
  | request update =>
      simp only [step] at h
      split at h
      · next hboot hactive =>
          cases h
          exact .request hboot hactive
      · cases h
  | execute i =>
      simp only [step] at h
      split at h
      · next hi =>
          obtain ⟨result, hresult, rfl⟩ := Option.map_eq_some_iff.mp h
          obtain ⟨x, state, hx, hstep, rfl⟩ := stepCurrent_some hresult
          exact .execute hi hx hstep
      · cases h
  | refuse i =>
      simp only [step] at h
      split at h
      · next hi =>
          cases h
          exact .refuse hi
      · cases h
  | answer i =>
      simp only [step] at h
      split at h
      · next hi =>
          cases h
          exact .answer hi
      · cases h
  | drop i =>
      simp only [step] at h
      split at h
      · next hi =>
          cases h
          exact .drop hi (by simp)
      · next hi =>
          cases h
          exact .drop hi (by simp)
      · next hi =>
          cases h
          exact .drop hi (by simp)
      · next hi =>
          cases h
          exact .drop hi (by simp)
      · cases h

end Controller

end DurableTrivia.Web
