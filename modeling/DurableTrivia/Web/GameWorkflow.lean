import DurableTrivia.Web.Model

/-!
# GameWorkflow — the Workflow's state and its handlers

The state of `GameWorkflow` in `web/src/workflow.rs` and the functions
that change it: the three signals, the two updates with their
validators, and `record_answer`, which the run loop calls for every
completed Activity. A handler runs to its end without another one in
between, so each is a function on the state; what it asks of Temporal
comes back as commands.

Two views cut the state in half. `control` is what the run loop and the
validators read; `books` is what the players earned. Each handler moves
at most one of them, and the lemmas at the end say which.
-/

namespace DurableTrivia.Web

open DurableTrivia.Shared DurableTrivia.Lib

/-! ## State -/

/-- The state of the Workflow. -/
structure GameWorkflow where
  snapshot : GameSnapshot := {}
  assignments : Std.TreeMap String BadgeEvent := ∅
  retryReasons : Std.TreeMap String String := ∅
  attemptsSeen : Std.TreeSet String := ∅
  indexSearchAttributes : Bool := false
  /-- Workflow time as of the last `expireChaos` sweep. The validators
  have no clock; this is the freshest time they know. -/
  lastChaosSweepUnixMs : Nat := 0

/-- The value of a search attribute. -/
inductive AttributeValue where
  | keyword (value : String)
  | int (value : Nat)
  | bool (value : Bool)
  deriving DecidableEq, Repr

/-- What the Workflow asks of Temporal. -/
inductive Command where
  | scheduleActivity (activityId : String) (task : QuestionTask)
      (scheduleToCloseMs heartbeatTimeoutMs : Nat)
  | upsertSearchAttributes (attributes : List (String × AttributeValue))
  | upsertMemo (key : String) (memo : RoundMemo)
  deriving DecidableEq, Repr

/-- The Activity a command schedules, by its question. -/
def Command.scheduledQuestion : Command → Option Question
  | .scheduleActivity _ task _ _ => some task.question
  | .upsertSearchAttributes _ | .upsertMemo _ _ => none

/-- The id a command schedules an Activity under. -/
def Command.activityId : Command → Option String
  | .scheduleActivity activityId _ _ _ => some activityId
  | .upsertSearchAttributes _ | .upsertMemo _ _ => none

/-! ## Players -/

/-- `players.entry(badge_id).or_insert_with(..)` followed by a change of
the entry. -/
def upsertPlayer (players : Std.TreeMap String PlayerScore) (badgeId callsign : String)
    (change : PlayerScore → PlayerScore) : Std.TreeMap String PlayerScore :=
  players.insert badgeId (change (players[badgeId]?.getD { badgeId, callsign }))

/-! ## Modifiers -/

/-- An optional expiry time that is still ahead. -/
def inForce (untilUnixMs : Option Nat) (nowUnixMs : Nat) : Bool :=
  untilUnixMs.any fun u => nowUnixMs < u

/-- The points an answer counts now. -/
def activePoints (snapshot : GameSnapshot) (nowUnixMs : Nat) : Int :=
  if inForce snapshot.chaos.doublePointsUntilUnixMs nowUnixMs then 2 else 1

/-- The gameplay modifier in force at `nowUnixMs`, if any. -/
def activeModifier (snapshot : GameSnapshot) (nowUnixMs : Nat) : Option String :=
  if inForce snapshot.chaos.doublePointsUntilUnixMs nowUnixMs then some "double points"
  else if inForce snapshot.chaos.rustOnlyUntilUnixMs nowUnixMs then some "Rust only"
  else if snapshot.chaos.suddenDeath then some "sudden death"
  else none

/-- An expiry time is dropped once it is reached. -/
def keepUnexpired (untilUnixMs : Option Nat) (nowUnixMs : Nat) : Option Nat :=
  untilUnixMs.filter fun u => nowUnixMs < u

/-- Drop the modifiers whose time is over. -/
def expireChaos (snapshot : GameSnapshot) (nowUnixMs : Nat) : GameSnapshot :=
  { snapshot with
    chaos := { snapshot.chaos with
      doublePointsUntilUnixMs := keepUnexpired snapshot.chaos.doublePointsUntilUnixMs nowUnixMs
      rustOnlyUntilUnixMs := keepUnexpired snapshot.chaos.rustOnlyUntilUnixMs nowUnixMs } }

/-! ## Signals -/

/-- A later attempt, on another badge. -/
def isReassignment (previous current : BadgeEvent) : Bool :=
  previous.badgeId != current.badgeId && decide (current.attempt > previous.attempt)

/-- Whether a `badge_started` signal changed an indexed value. -/
def shouldUpsertRunningAttributes (indexing joined reassigned : Bool) : Bool :=
  indexing && (joined || reassigned)

namespace GameWorkflow

/-- A question changed hands: `previous` had it, `event` has it now. -/
def reassign (wf : GameWorkflow) (previous event : BadgeEvent) : GameWorkflow :=
  let reason := wf.retryReasons[event.questionId]?.getD "heartbeat timeout"
  let reassignment : Reassignment :=
    { questionId := event.questionId, fromCallsign := previous.callsign
      toCallsign := event.callsign, reason, attempt := event.attempt }
  let snapshot : GameSnapshot :=
    { wf.snapshot with
      reassignments := wf.snapshot.reassignments + 1
      heartbeatTimeouts := wf.snapshot.heartbeatTimeouts + 1
      latestReassignment := some reassignment }
  { wf with
    retryReasons := wf.retryReasons.erase event.questionId
    snapshot := snapshot.pushKind .handoff
      ("WORK REASSIGNED · " ++ reassignment.questionId ++ " · " ++ reassignment.fromCallsign
        ++ " -> " ++ reassignment.toCallsign ++ " · ATTEMPT " ++ toString reassignment.attempt
        ++ " · " ++ reassignment.reason) }

/-- The bookkeeping every start makes, handed over or not. -/
def recordAttempt (wf : GameWorkflow) (event : BadgeEvent) : GameWorkflow :=
  let attempt := event.questionId ++ ":" ++ toString event.attempt
  { wf with
    assignments := wf.assignments.insert event.questionId event
    attemptsSeen := wf.attemptsSeen.insert attempt
    snapshot :=
      if wf.attemptsSeen.contains attempt then wf.snapshot
      else { wf.snapshot with activityAttempts := wf.snapshot.activityAttempts + 1 } }

/-- Records the start of an Activity attempt; true when it was a handoff. -/
def recordActivityStarted (wf : GameWorkflow) (event : BadgeEvent) : GameWorkflow × Bool :=
  match wf.assignments[event.questionId]?.filter (isReassignment · event) with
  | some previous => ((wf.reassign previous event).recordAttempt event, true)
  | none => (wf.recordAttempt event, false)

/-- Count a crash, and remember it for the retry. -/
def recordPanic (wf : GameWorkflow) (event : BadgeEvent) : GameWorkflow :=
  let snapshot : GameSnapshot :=
    { wf.snapshot with
      latestFailure := some
        { questionId := event.questionId, callsign := event.callsign, attempt := event.attempt }
      players := upsertPlayer wf.snapshot.players event.badgeId event.callsign fun player =>
        { player with panics := player.panics + 1 } }
  { wf with
    retryReasons := wf.retryReasons.insert event.questionId "heartbeat timeout"
    snapshot := snapshot.pushKind .fault (event.callsign ++ " crashed on " ++ event.questionId) }

/-- A badge that is not on the roster yet joins it. -/
def join (wf : GameWorkflow) (event : BadgeEvent) : GameWorkflow :=
  if wf.snapshot.players.contains event.badgeId then wf
  else
    let snapshot : GameSnapshot :=
      { wf.snapshot with
        players := wf.snapshot.players.insert event.badgeId
          { badgeId := event.badgeId, callsign := event.callsign } }
    { wf with snapshot := snapshot.pushEvent (event.callsign ++ " joined") }

/-- The `badge_started` signal. -/
def badgeStarted (wf : GameWorkflow) (event : BadgeEvent) : GameWorkflow × List Command :=
  let (wf, reassigned) := wf.recordActivityStarted event
  let joined := !wf.snapshot.players.contains event.badgeId
  let wf := wf.join event
  let commands :=
    if shouldUpsertRunningAttributes wf.indexSearchAttributes joined reassigned then
      [.upsertSearchAttributes
        [("TriviaBadgeCount", .int wf.snapshot.players.size),
          ("TriviaReassignments", .int wf.snapshot.reassignments)]]
    else []
  (wf, commands)

/-- The `panic_event` signal. -/
def panicEvent (wf : GameWorkflow) (event : BadgeEvent) : GameWorkflow := wf.recordPanic event

/-- The `recovered` signal. -/
def recovered (wf : GameWorkflow) (event : BadgeEvent) : GameWorkflow :=
  { wf with
    snapshot := wf.snapshot.pushKind .handoff (event.callsign ++ " recovered; question returned") }

/-! ## Updates -/

/-- The validator of `apply_chaos`. -/
def validateApplyChaos (wf : GameWorkflow) (command : ChaosCommand) : Except String Unit :=
  if wf.snapshot.status ≠ .running then .error "no game is running"
  else if command = .extendThirtySeconds then
    if wf.snapshot.chaos.extensionUsed then .error "the +30 second extension was already used"
    else .ok ()
  else
    match activeModifier wf.snapshot wf.lastChaosSweepUnixMs with
    | some active =>
        .error (active ++ " is already active; gameplay modifiers cannot overlap")
    | none => .ok ()

/-- What a command does to the modifiers, the notice apart. -/
def chaosEffect (chaos : ChaosState) (nowUnixMs : Nat) : ChaosCommand → ChaosState
  | .doublePoints => { chaos with doublePointsUntilUnixMs := some (nowUnixMs + chaosDurationMs) }
  | .rustOnly => { chaos with rustOnlyUntilUnixMs := some (nowUnixMs + chaosDurationMs) }
  | .suddenDeath => { chaos with suddenDeath := true }
  | .extendThirtySeconds => { chaos with extensionUsed := true }

/-- The event text of a command. -/
def chaosText : ChaosCommand → String
  | .doublePoints => "CHAOS: double points for 10 seconds"
  | .rustOnly => "CHAOS: Rust questions only for 10 seconds"
  | .suddenDeath => "CHAOS: next correct answer ends the round"
  | .extendThirtySeconds => "CHAOS: Temporal timer extended by 30 seconds"

/-- Only the extension moves the deadline. -/
def chaosDeadline (deadlineUnixMs : Option Nat) : ChaosCommand → Option Nat
  | .extendThirtySeconds => deadlineUnixMs.map (· + gameExtensionMs)
  | _ => deadlineUnixMs

/-- The `apply_chaos` update: the command's effect, its event and its
notice. -/
def applyChaos (wf : GameWorkflow) (nowUnixMs : Nat) (command : ChaosCommand) : GameWorkflow :=
  let snapshot : GameSnapshot :=
    { wf.snapshot with
      chaos := chaosEffect wf.snapshot.chaos nowUnixMs command
      deadlineUnixMs := chaosDeadline wf.snapshot.deadlineUnixMs command }
  let snapshot := snapshot.pushKind .chaos (chaosText command)
  -- `saturating_add` on a `u32` sequence number
  let sequence := (snapshot.chaos.latestPowerup.map fun notice =>
    min (notice.sequence + 1) (2 ^ 32 - 1)).getD 1
  { wf with
    snapshot := { snapshot with
      chaos := { snapshot.chaos with
        latestPowerup := some { sequence, command, issuedUnixMs := nowUnixMs } } } }

/-- The validator of `end_round`. -/
def validateEndRound (wf : GameWorkflow) : Except String Unit :=
  if wf.snapshot.status ≠ .running then .error "no game is running" else .ok ()

/-- Brings the deadline forward to now; the run loop re-reads it. -/
def endRound (wf : GameWorkflow) (nowUnixMs : Nat) : GameWorkflow :=
  let snapshot : GameSnapshot := { wf.snapshot with deadlineUnixMs := some nowUnixMs }
  { wf with snapshot := snapshot.pushEvent "Operator ended the round early" }

/-! ## Answers -/

/-- An answer to the question that was dealt, with an index it has. -/
def wellFormed (question : Question) (answer : BadgeAnswer) : Bool :=
  answer.questionId == question.id && decide (answer.selectedIndex.toNat < question.answers.size)

/-- Rust's signed format of a score change. -/
def signed (points : Int) : String :=
  if 0 ≤ points then "+" ++ toString points else toString points

/-- One more answer of a player, worth `points` either way. -/
def tally (wasCorrect : Bool) (points : Int) (player : PlayerScore) : PlayerScore :=
  if wasCorrect then
    { player with score := player.score + points, correct := player.correct + 1 }
  else
    { player with score := player.score - points, wrong := player.wrong + 1 }

/-- Books one answer; true when it ends a sudden-death round. -/
def recordAnswer (wf : GameWorkflow) (question : Question) (answer : BadgeAnswer)
    (nowUnixMs : Nat) : GameWorkflow × Bool :=
  if !wellFormed question answer then
    ({ wf with
        snapshot := wf.snapshot.pushKind .fault
          ("Rejected malformed answer from " ++ answer.callsign) }, false)
  else
    let wasCorrect := answer.selectedIndex == question.correctIndex
    let points := activePoints wf.snapshot nowUnixMs
    let players := upsertPlayer wf.snapshot.players answer.badgeId answer.callsign
      (tally wasCorrect points)
    let spotlight : AnswerSpotlight :=
      { question := question.prompt
        -- an index out of range shows an empty text, it does not panic
        correctAnswer := question.answers[question.correctIndex.toNat]?.getD ""
        callsign := answer.callsign
        wasCorrect
        score := (players[answer.badgeId]?.map (·.score)).getD 0
        points }
    let snapshot : GameSnapshot :=
      { wf.snapshot with
        players
        completedQuestions := wf.snapshot.completedQuestions + 1
        latestAnswer := some spotlight }
    ({ wf with
        snapshot := snapshot.pushKind .answer
          (answer.callsign ++ " answered " ++ (if wasCorrect then "correctly" else "wrong")
            ++ " (" ++ signed (if wasCorrect then points else -points) ++ ")") },
      wf.snapshot.chaos.suddenDeath && wasCorrect)

/-! ## The two views -/

/-- What the run loop and the validators read, and whose round it is. -/
structure Control where
  gameId : Option String
  status : GameStatus
  deadlineUnixMs : Option Nat
  detectedBadgeCount : Nat
  chaos : ChaosState
  lastChaosSweepUnixMs : Nat
  deriving DecidableEq, Repr

/-- The state as the run loop sees it. -/
def control (wf : GameWorkflow) : Control :=
  { gameId := wf.snapshot.gameId
    status := wf.snapshot.status
    deadlineUnixMs := wf.snapshot.deadlineUnixMs
    detectedBadgeCount := wf.snapshot.detectedBadgeCount
    chaos := wf.snapshot.chaos
    lastChaosSweepUnixMs := wf.lastChaosSweepUnixMs }

/-- What the players earned, and how many answers that took. -/
structure Books where
  players : Std.TreeMap String PlayerScore
  completedQuestions : Nat

/-- The state as the score sees it. -/
def books (wf : GameWorkflow) : Books :=
  { players := wf.snapshot.players, completedQuestions := wf.snapshot.completedQuestions }

section Frame
variable (wf : GameWorkflow) (event : BadgeEvent)

@[simp] theorem control_reassign (previous : BadgeEvent) :
    (wf.reassign previous event).control = wf.control := rfl

@[simp] theorem books_reassign (previous : BadgeEvent) :
    (wf.reassign previous event).books = wf.books := rfl

@[simp] theorem control_recordAttempt : (wf.recordAttempt event).control = wf.control := by
  unfold recordAttempt
  dsimp only
  split <;> rfl

@[simp] theorem books_recordAttempt : (wf.recordAttempt event).books = wf.books := by
  unfold recordAttempt
  dsimp only
  split <;> rfl

@[simp] theorem control_recordActivityStarted :
    (wf.recordActivityStarted event).1.control = wf.control := by
  unfold recordActivityStarted
  split <;> simp

@[simp] theorem books_recordActivityStarted :
    (wf.recordActivityStarted event).1.books = wf.books := by
  unfold recordActivityStarted
  split <;> simp

@[simp] theorem control_join : (wf.join event).control = wf.control := by
  unfold join
  split <;> rfl

/-- **Signals leave the run loop alone.** -/
@[simp] theorem control_badgeStarted : (wf.badgeStarted event).1.control = wf.control :=
  (control_join _ event).trans (control_recordActivityStarted wf event)

@[simp] theorem control_panicEvent : (wf.panicEvent event).control = wf.control := rfl

@[simp] theorem control_recovered : (wf.recovered event).control = wf.control := rfl

@[simp] theorem books_recovered : (wf.recovered event).books = wf.books := rfl

/-- A signal schedules nothing. -/
theorem badgeStarted_schedules_nothing :
    ∀ command ∈ (wf.badgeStarted event).2,
      command.scheduledQuestion = none ∧ command.activityId = none := by
  unfold badgeStarted
  dsimp only
  split
  · simp [Command.scheduledQuestion, Command.activityId]
  · simp

/-- A start books nothing for a badge on the roster, and an empty entry
for a new one. -/
theorem books_badgeStarted : (wf.badgeStarted event).1.books =
    { wf.books with
      players := if wf.snapshot.players.contains event.badgeId then wf.snapshot.players
        else wf.snapshot.players.insert event.badgeId
          { badgeId := event.badgeId, callsign := event.callsign } } := by
  have hkeep := books_recordActivityStarted wf event
  have hplayers : (wf.recordActivityStarted event).1.snapshot.players = wf.snapshot.players :=
    congrArg Books.players hkeep
  have hcompleted : (wf.recordActivityStarted event).1.snapshot.completedQuestions
      = wf.snapshot.completedQuestions := congrArg Books.completedQuestions hkeep
  show ((wf.recordActivityStarted event).1.join event).books = _
  unfold join
  rw [hplayers]
  split
  · exact hkeep
  · simp only [books, GameSnapshot.pushEvent_eq_pushKind, GameSnapshot.pushKind_players,
      GameSnapshot.pushKind_completed, hcompleted]

variable (nowUnixMs : Nat) (command : ChaosCommand)

/-- **Updates leave the books alone.** -/
@[simp] theorem books_applyChaos : (wf.applyChaos nowUnixMs command).books = wf.books := rfl

@[simp] theorem books_endRound : (wf.endRound nowUnixMs).books = wf.books := rfl

variable (question : Question) (answer : BadgeAnswer)

/-- **Answers leave the run loop alone.** -/
@[simp] theorem control_recordAnswer :
    (wf.recordAnswer question answer nowUnixMs).1.control = wf.control := by
  unfold recordAnswer
  split <;> rfl

/-- A malformed answer books nothing. -/
theorem books_recordAnswer_malformed (h : wellFormed question answer = false) :
    (wf.recordAnswer question answer nowUnixMs).1.books = wf.books := by
  unfold recordAnswer
  rw [h]
  rfl

/-- A well-formed answer books one tally. -/
theorem books_recordAnswer (h : wellFormed question answer = true) :
    (wf.recordAnswer question answer nowUnixMs).1.books =
      { players := upsertPlayer wf.snapshot.players answer.badgeId answer.callsign
          (tally (answer.selectedIndex == question.correctIndex)
            (activePoints wf.snapshot nowUnixMs))
        completedQuestions := wf.snapshot.completedQuestions + 1 } := by
  unfold recordAnswer
  rw [h]
  rfl

/-- Only a well-formed correct answer under sudden death ends the round. -/
theorem recordAnswer_ends : (wf.recordAnswer question answer nowUnixMs).2 = true ↔
    wellFormed question answer = true ∧ wf.snapshot.chaos.suddenDeath = true
      ∧ answer.selectedIndex = question.correctIndex := by
  unfold recordAnswer
  cases hwf : wellFormed question answer <;> simp

end Frame

/-! ## What an update does to the control view -/

theorem validateApplyChaos_ok {wf : GameWorkflow} {command : ChaosCommand}
    (h : wf.validateApplyChaos command = .ok ()) :
    wf.snapshot.status = .running
      ∧ (command = .extendThirtySeconds ∧ wf.snapshot.chaos.extensionUsed = false
        ∨ command ≠ .extendThirtySeconds
          ∧ activeModifier wf.snapshot wf.lastChaosSweepUnixMs = none) := by
  unfold validateApplyChaos at h
  split at h
  · cases h
  · next hrun =>
      refine ⟨not_not.mp hrun, ?_⟩
      split at h
      · next hext =>
          split at h
          · cases h
          · next hused => exact .inl ⟨hext, by simpa using hused⟩
      · next hmod =>
          refine .inr ⟨hmod, ?_⟩
          split at h
          · cases h
          · next hnone => exact hnone

theorem validateEndRound_ok {wf : GameWorkflow} :
    wf.validateEndRound = .ok () ↔ wf.snapshot.status = .running := by
  unfold validateEndRound
  split <;> simp_all

@[simp] theorem applyChaos_status (wf : GameWorkflow) (nowUnixMs : Nat) (command : ChaosCommand) :
    (wf.applyChaos nowUnixMs command).snapshot.status = wf.snapshot.status := rfl

@[simp] theorem applyChaos_deadline (wf : GameWorkflow) (nowUnixMs : Nat)
    (command : ChaosCommand) :
    (wf.applyChaos nowUnixMs command).snapshot.deadlineUnixMs
      = chaosDeadline wf.snapshot.deadlineUnixMs command := rfl

end GameWorkflow

end DurableTrivia.Web
