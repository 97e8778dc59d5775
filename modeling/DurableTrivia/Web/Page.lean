import DurableTrivia.Web.Restarts

/-!
# Page — the board in the browser

The parts of the script of `web/static/index.html` that wait for
something: the recovery after the controller was lost, the intermission
after a round, and the requests and timeouts between them. A handler runs
to its end or to its next `await`, so an event here is one such stretch;
a timeout or a request that is under way keeps its place in a table, and
whatever the variables of the script say, what was not cleared fires.

What a handler paints besides the board and the recovery strip, the
operator's tray and the toasts are left out.
-/

namespace DurableTrivia.Web

open DurableTrivia.Shared DurableTrivia.Lib

/-! ## What the page waits for -/

/-- What a timer calls. -/
inductive Callback where
  | pollRecovery
  /-- the end of a recovery -/
  | settle
  /-- from the results of a game to the intermission -/
  | transition (gameId : Option String)

/-- A timer and when it is due. -/
structure Timer where
  due : Nat
  callback : Callback

/-- Who called `refreshState`. -/
inductive Caller where
  | load
  | opened
  | settled
  | operator

/-- What the page asks of the controller. -/
inductive Request where
  /-- of `pollRecovery` -/
  | recovery
  | refresh (caller : Caller)
  | loadProof
  /-- `/api/recovery` before the crash, and the crash itself -/
  | crashProof
  | crashWorker (proof : RecoveryProof)
  | start

/-- A request under way. -/
structure Sent where
  sentAt : Nat
  request : Request

/-- `Promise.all` over the first snapshot and the first proof. -/
inductive Loading where
  | waiting (refreshed : Bool) (proof : Option RecoveryProof)
  | done

/-- The texts of the fault strip. -/
structure Strip where
  title : String := ""
  detail : String := ""
  deriving DecidableEq, Repr

/-- The variables of the script. `joinedAt` is when the stream last came
back during a recovery, `heldAt` when the results of a game went up, and
`deferredAt` when a recovery last put an intermission off. -/
structure Page where
  now : Nat
  state : GameSnapshot := {}
  currentProcessProof : Option RecoveryProof := none
  recoveryActive : Bool := false
  /-- the class of the stage -/
  recovering : Bool := false
  recoveryProof : Option RecoveryProof := none
  recoveryStartedAt : Nat := 0
  recoveryPollTimer : Option Nat := none
  processLossObserved : Bool := false
  strip : Strip := {}
  intermissionMode : Bool := false
  postRoundTimer : Option Nat := none
  postRoundGameId : Option String := none
  loading : Loading := .waiting false none
  /-- `connectEvents` has opened the stream -/
  connected : Bool := false
  timers : Tasks Timer := []
  requests : Tasks Sent := []
  joinedAt : Nat := 0
  heldAt : Nat := 0
  deferredAt : Nat := 0

/-- How long the results stay. -/
def postRoundHoldMs : Nat := 30000

/-- Recovery must never be able to wedge the board, so completion is
bounded by wall clock as well as by proof. -/
def recoveryTimeoutMs : Nat := 12000

/-- How long the page waits between two polls of a recovery. -/
def recoveryPollMs : Nat := 250

/-- How long the last stage of a recovery stays up. -/
def recoverySettleMs : Nat := 2500

/-- A transition that finds a recovery under way tries again. -/
def transitionRetryMs : Nat := 1000

namespace Page

/-- Start a timer. -/
def setTimeout (p : Page) (callback : Callback) (delay : Nat) : Page :=
  { p with timers := p.timers.spawn { due := p.now + delay, callback } }

/-- The id of the next timeout. -/
def nextTimer (p : Page) : Nat := p.timers.length

/-- Stop a timer, if there is one. -/
def clearTimeout (p : Page) : Option Nat → Page
  | none => p
  | some timer => { p with timers := p.timers.become timer none }

/-- Send a request. -/
def fetch (p : Page) (request : Request) : Page :=
  { p with requests := p.requests.spawn { sentAt := p.now, request } }

/-! ## The intermission -/

/-- `clearPostRoundTimer` of the page. -/
def clearPostRoundTimer (p : Page) : Page :=
  { p.clearTimeout p.postRoundTimer with postRoundTimer := none }

/-- `schedulePostRoundIntermission` of the page: one timer for each finished
game. -/
def schedulePostRoundIntermission (p : Page) (snapshot : GameSnapshot) : Page :=
  if snapshot.status ≠ .finished ∨ p.intermissionMode then
    if snapshot.status ≠ .finished then { p.clearPostRoundTimer with postRoundGameId := none }
    else p.clearPostRoundTimer
  else if p.postRoundGameId = snapshot.gameId then p
  else
    { p.clearPostRoundTimer.setTimeout (.transition snapshot.gameId) postRoundHoldMs with
      postRoundGameId := snapshot.gameId
      postRoundTimer := some p.clearPostRoundTimer.nextTimer
      heldAt := p.now }

/-- Show a snapshot. -/
def render (p : Page) (snapshot : GameSnapshot) : Page :=
  { p with state := snapshot }.schedulePostRoundIntermission snapshot

/-- `enterIntermission` of the page. -/
def enterIntermission (p : Page) : Page :=
  { p.clearPostRoundTimer with intermissionMode := true }.render p.state

/-- The results' timer: on to the intermission, later where a recovery
shows. -/
def transition (p : Page) (gameId : Option String) : Page :=
  let p := { p with postRoundTimer := none }
  if p.state.status ≠ .finished ∨ p.state.gameId ≠ gameId ∨ p.intermissionMode then p
  else if p.recoveryActive then
    { p.setTimeout (.transition gameId) transitionRetryMs with
      postRoundTimer := some p.nextTimer
      deferredAt := p.now }
  else p.enterIntermission

/-! ## The recovery -/

/-- The titles of the recovery strip. -/
def recoveryTitle : Fin 4 → String
  | 0 => "MAC WORKER LOST"
  | 1 => "NEW PROCESS OBSERVED"
  | 2 => "TEMPORAL QUERY SUCCEEDED"
  | 3 => "STATE CONTINUED"

/-- `detail || default`, where the first stage takes no detail. -/
def recoveryText (stage : Fin 4) (detail : String) : String :=
  match stage with
  | 0 => "Temporal is holding the game state"
  | 1 => if detail = "" then "Supervisor started a new Rust Worker process" else detail
  | 2 => if detail = "" then "Workflow state returned from Temporal Cloud" else detail
  | 3 => if detail = "" then "Returned Workflow state continues the frozen board" else detail

/-- Show a stage of the recovery. -/
def setRecoveryStage (p : Page) (stage : Fin 4) (detail : String) : Page :=
  { p with strip := { title := recoveryTitle stage, detail := recoveryText stage detail } }

/-- The right answers of all players. -/
def correctAnswers (snapshot : GameSnapshot) : Nat :=
  (snapshot.playerValues.map (·.correct)).sum

/-- What the last stage of a recovery says. -/
def continuityDetail (before after : GameSnapshot) : String :=
  toString after.players.size ++ " badges held · "
    ++ toString (correctAnswers after - correctAnswers before)
    ++ " Activities completed while the Mac was down"

/-- What the page says where no proof came in time. -/
def timedOutDetail : String := "Recovery timed out · resuming live state"

/-- `recoveryPollTimer = setTimeout(callback, delay)` -/
def waitFor (p : Page) (callback : Callback) (delay : Nat) : Page :=
  { p.setTimeout callback delay with recoveryPollTimer := some p.nextTimer }

/-- Show the snapshot of a proof, if there is one. -/
def showProof (p : Page) : Option RecoveryProof → Page
  | some proof => { p with currentProcessProof := some proof }.render proof.snapshot
  | none => p

/-- The last stage of a recovery, and the timer that ends it. -/
def finishRecovery (p : Page) (proof : Option RecoveryProof) (detail : String) : Page :=
  let p := (p.showProof proof).setRecoveryStage 3 detail
  (p.clearTimeout p.recoveryPollTimer).waitFor .settle recoverySettleMs

/-- The end of a recovery. -/
def settle (p : Page) : Page :=
  { p with recovering := false, recoveryActive := false }.fetch (.refresh .settled)

/-- `pollRecovery` up to its request. -/
def pollRecovery (p : Page) : Page :=
  if p.recoveryActive then p.fetch .recovery else p

/-- `beginRecovery` of the page; during a recovery it goes back to its first
stage. -/
def beginRecovery (p : Page) (proof : Option RecoveryProof) : Page :=
  if p.recoveryActive then { p with processLossObserved := true }.setRecoveryStage 0 ""
  else
    { p.clearTimeout p.recoveryPollTimer with
      recoveryActive := true
      recoveryProof := proof
      recoveryStartedAt := p.now
      processLossObserved := false
      recovering := true
      strip :=
        { title := "CRASH REQUESTED"
          detail := "Waiting for the Mac Worker process to exit" } }.pollRecovery

/-- The end of `pollRecovery` where nothing was proved. -/
def pollAgain (p : Page) : Page :=
  if p.now - p.recoveryStartedAt > recoveryTimeoutMs then
    p.finishRecovery p.currentProcessProof timedOutDetail
  else p.waitFor .pollRecovery recoveryPollMs

/-- `slice(0, 8)` -/
def short (text : String) : String := String.ofList (text.toList.take 8)

/-- What the strip says of a proof of another process. -/
def noteProof (p : Page) (before proof : RecoveryProof) : Page :=
  let p := if p.processLossObserved then p
    else { p with processLossObserved := true }.setRecoveryStage 0 ""
  let p := p.setRecoveryStage 1
    ("PID " ++ toString proof.processId ++ " · instance " ++ short proof.instanceId)
  if proof.temporalQuerySucceeded then
    p.setRecoveryStage 2
      ("digest " ++ short before.snapshotDigest ++ " → " ++ short proof.restoredSnapshotDigest)
  else p

/-- `pollRecovery` from its answer on. -/
def recoveryPolled (p : Page) : Option RecoveryProof → Page
  | none => ({ p with processLossObserved := true }.setRecoveryStage 0 "").pollAgain
  | some proof =>
      match p.recoveryProof with
      | none => p.pollAgain
      | some before =>
          if proof.instanceId = before.instanceId then p.pollAgain
          else if before.accepts proof then
            (p.noteProof before proof).finishRecovery (some proof)
              (continuityDetail before.snapshot proof.snapshot)
          else (p.noteProof before proof).pollAgain

/-- `completeRecovery` of the page. -/
def completeRecovery (p : Page) : Page :=
  if p.recoveryActive then { p.pollRecovery with joinedAt := p.now } else p

/-! ## Requests -/

/-- The end of `refreshState`. -/
def refreshed (p : Page) (snapshot : GameSnapshot) : Page :=
  if p.recoveryActive then p else p.render snapshot

/-- Both parts of the load are there. -/
def loaded (p : Page) : Page :=
  match p.loading with
  | .waiting true (some proof) =>
      { p with loading := .done, currentProcessProof := some proof, connected := true }
  | .waiting _ _ | .done => p

/-- The first part that fails ends the load. -/
def loadFailed (p : Page) : Page :=
  match p.loading with
  | .waiting _ _ =>
      { p.beginRecovery p.currentProcessProof with loading := .done, connected := true }
  | .done => p

/-- The snapshot is there. -/
def noteRefreshed : Loading → Loading
  | .waiting _ proof => .waiting true proof
  | .done => .done

/-- The proof is there. -/
def noteProofLoaded (proof : RecoveryProof) : Loading → Loading
  | .waiting refreshed _ => .waiting refreshed (some proof)
  | .done => .done

/-- What the caller of `refreshState` does with its answer. -/
def refreshAnswered (p : Page) (caller : Caller) : Option GameSnapshot → Page
  | some snapshot =>
      let p := p.refreshed snapshot
      match caller with
      | .load => { p with loading := noteRefreshed p.loading }.loaded
      | .opened => p.completeRecovery
      | .settled | .operator => p
  | none =>
      match caller with
      | .load => p.loadFailed
      | .opened => p.beginRecovery p.currentProcessProof
      | .settled | .operator => p

/-- `startRound` from its answer on. -/
def roundStarted (p : Page) (snapshot : GameSnapshot) : Page :=
  { p with intermissionMode := false, postRoundGameId := none }.clearPostRoundTimer.render snapshot

end Page

/-! ## Events -/

/-- What an answer carries. -/
inductive Response where
  | failed
  | snapshot (snapshot : GameSnapshot)
  | proof (proof : RecoveryProof)
  | accepted

/-- One event of the page. -/
inductive PageEvent where
  | advance (now : Nat)
  | fire (timer : Nat)
  | respond (request : Nat) (response : Response)
  /-- the stream opens, brings a snapshot, or breaks -/
  | opened
  | message (snapshot : GameSnapshot)
  | streamError
  | clickStart
  | clickIntermission
  | clickCrash
  /-- an operator's update was accepted -/
  | updated

namespace Page

/-- A timeout's function. -/
def call (p : Page) : Callback → Page
  | .pollRecovery => p.pollRecovery
  | .settle => p.settle
  | .transition gameId => p.transition gameId

/-- The handler behind a request goes on with its answer. -/
def resume (p : Page) : Request → Response → Option Page
  | .recovery, .proof proof => some (p.recoveryPolled (some proof))
  | .recovery, .failed => some (p.recoveryPolled none)
  | .refresh caller, .snapshot snapshot => some (p.refreshAnswered caller (some snapshot))
  | .refresh caller, .failed => some (p.refreshAnswered caller none)
  | .loadProof, .proof proof =>
      some { p with loading := noteProofLoaded proof p.loading }.loaded
  | .loadProof, .failed => some p.loadFailed
  | .crashProof, .proof proof => some (p.fetch (.crashWorker proof))
  | .crashProof, .failed => some p
  | .crashWorker proof, .accepted => some (p.beginRecovery (some proof))
  | .crashWorker _, .failed => some p
  | .start, .snapshot snapshot => some (p.roundStarted snapshot)
  | .start, .failed => some p
  | _, _ => none

/-- One event; `none` where it cannot occur. -/
def step (p : Page) : PageEvent → Option Page
  | .advance now => if p.now ≤ now then some { p with now } else none
  | .fire i =>
      (p.timers.task i).bind fun timer =>
        if timer.due ≤ p.now then
          some ({ p with timers := p.timers.become i none }.call timer.callback)
        else none
  | .respond i response =>
      (p.requests.task i).bind fun sent =>
        { p with requests := p.requests.become i none }.resume sent.request response
  | .opened => if p.connected then some (p.fetch (.refresh .opened)) else none
  | .message snapshot => if p.connected then some (p.refreshed snapshot) else none
  | .streamError => if p.connected then some (p.beginRecovery p.currentProcessProof) else none
  | .clickStart => if p.state.status ≠ .running then some (p.fetch .start) else none
  | .clickIntermission => if p.state.status ≠ .running then some p.enterIntermission else none
  | .clickCrash => some (p.fetch .crashProof)
  | .updated => some (p.fetch (.refresh .operator))

/-- The page as it is opened. -/
def system : StepSystem Page PageEvent where
  init p := ∃ now, p =
    { now
      requests := [some { sentAt := now, request := .refresh .load },
        some { sentAt := now, request := .loadProof }] }
  step := step

/-! ## What one event can do -/

/-- What the handler behind a request does with an answer. -/
inductive Answered (p : Page) : Request → Page → Prop
  | polled (result : Option RecoveryProof) : Answered p .recovery (p.recoveryPolled result)
  | refreshed (caller : Caller) (result : Option GameSnapshot) :
      Answered p (.refresh caller) (p.refreshAnswered caller result)
  | proofLoaded (proof : RecoveryProof) :
      Answered p .loadProof { p with loading := noteProofLoaded proof p.loading }.loaded
  | proofFailed : Answered p .loadProof p.loadFailed
  | crashing (proof : RecoveryProof) : Answered p .crashProof (p.fetch (.crashWorker proof))
  | crashed (proof : RecoveryProof) : Answered p (.crashWorker proof) (p.beginRecovery (some proof))
  | started (snapshot : GameSnapshot) : Answered p .start (p.roundStarted snapshot)
  /-- the operator sees a message, and nothing else happens -/
  | failed {request : Request} (hother : request ≠ .recovery) : Answered p request p

/-- What one event can do. -/
inductive Move (p : Page) : PageEvent → Page → Prop
  | advance {now : Nat} (hle : p.now ≤ now) : Move p (.advance now) { p with now }
  | fire {i : Nat} {timer : Timer} (hi : p.timers.task i = some timer) (hdue : timer.due ≤ p.now) :
      Move p (.fire i) ({ p with timers := p.timers.become i none }.call timer.callback)
  | respond {i : Nat} {response : Response} {sent : Sent} {p' : Page}
      (hi : p.requests.task i = some sent)
      (hanswered : Answered { p with requests := p.requests.become i none } sent.request p') :
      Move p (.respond i response) p'
  | opened : Move p .opened (p.fetch (.refresh .opened))
  | message {snapshot : GameSnapshot} : Move p (.message snapshot) (p.refreshed snapshot)
  | streamError : Move p .streamError (p.beginRecovery p.currentProcessProof)
  | clickStart : Move p .clickStart (p.fetch .start)
  | clickIntermission : Move p .clickIntermission p.enterIntermission
  | clickCrash : Move p .clickCrash (p.fetch .crashProof)
  | updated : Move p .updated (p.fetch (.refresh .operator))

theorem answered_of_resume {p p' : Page} {request : Request} {response : Response}
    (h : p.resume request response = some p') : Answered p request p' := by
  cases request with
  | recovery =>
      cases response with
      | proof proof =>
          cases h
          exact .polled (some proof)
      | failed =>
          cases h
          exact .polled none
      | snapshot _ | accepted => cases h
  | refresh caller =>
      cases response with
      | snapshot snapshot =>
          cases h
          exact .refreshed caller (some snapshot)
      | failed =>
          cases h
          exact .refreshed caller none
      | proof _ | accepted => cases h
  | loadProof =>
      cases response with
      | proof proof =>
          cases h
          exact .proofLoaded proof
      | failed =>
          cases h
          exact .proofFailed
      | snapshot _ | accepted => cases h
  | crashProof =>
      cases response with
      | proof proof =>
          cases h
          exact .crashing proof
      | failed =>
          cases h
          exact .failed (by simp)
      | snapshot _ | accepted => cases h
  | crashWorker proof =>
      cases response with
      | accepted =>
          cases h
          exact .crashed proof
      | failed =>
          cases h
          exact .failed (by simp)
      | snapshot _ | proof _ => cases h
  | start =>
      cases response with
      | snapshot snapshot =>
          cases h
          exact .started snapshot
      | failed =>
          cases h
          exact .failed (by simp)
      | proof _ | accepted => cases h

/-- **Inversion.** -/
theorem move_of_step {p p' : Page} {e : PageEvent} (h : p.step e = some p') : Move p e p' := by
  cases e with
  | advance now =>
      simp only [step, Option.ite_none_right_eq_some] at h
      obtain ⟨hle, heq⟩ := h
      cases heq
      exact .advance hle
  | fire i =>
      obtain ⟨timer, hi, h⟩ := Option.bind_eq_some_iff.mp h
      rw [Option.ite_none_right_eq_some] at h
      obtain ⟨hdue, heq⟩ := h
      cases heq
      exact .fire hi hdue
  | respond i response =>
      obtain ⟨sent, hi, h⟩ := Option.bind_eq_some_iff.mp h
      exact .respond hi (answered_of_resume h)
  | opened =>
      simp only [step, Option.ite_none_right_eq_some] at h
      cases h.2
      exact .opened
  | message snapshot =>
      simp only [step, Option.ite_none_right_eq_some] at h
      cases h.2
      exact .message
  | streamError =>
      simp only [step, Option.ite_none_right_eq_some] at h
      cases h.2
      exact .streamError
  | clickStart =>
      simp only [step, Option.ite_none_right_eq_some] at h
      cases h.2
      exact .clickStart
  | clickIntermission =>
      simp only [step, Option.ite_none_right_eq_some] at h
      cases h.2
      exact .clickIntermission
  | clickCrash =>
      cases h
      exact .clickCrash
  | updated =>
      cases h
      exact .updated

end Page

end DurableTrivia.Web
