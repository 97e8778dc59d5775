import Mathlib

/-!
# Contract — the data shared by the badges, the Workflow and the TV

The wire types of `shared/src/contract.rs` with their defaults, the
rolling event window (`push_kind`) and the end of a round (`finish`).

Representation. Unix times are milliseconds in `Nat` and the `u32`
counters are `Nat`: the code only ever adds to them. Scores are `Int`.
A `BTreeMap<String, _>` is `Std.TreeMap String _`, the same finite map
ordered by its keys. Answer indexes keep their width (`UInt8`), because
an out-of-range index is a case the code handles.
-/

namespace DurableTrivia.Shared

/-! ## Constants -/

/-- Seconds of a round. -/
def gameSeconds : Nat := 60

/-- Milliseconds a timed modifier is in force. -/
def chaosDurationMs : Nat := 10000

/-- Milliseconds the one extension of a round adds. -/
def gameExtensionMs : Nat := 30000

/-- How frequently a badge confirms its live Activity with Temporal. -/
def badgeHeartbeatIntervalMs : Nat := 1000

/-- Temporal retries a badge Activity after this long without a heartbeat. -/
def badgeHeartbeatTimeoutMs : Nat := 15000

/-- A deliberate badge failure stays silent past the Temporal timeout. -/
def badgeCrashBlackoutMs : Nat := 16000

/-- How long a badge tolerates unacknowledged heartbeats. -/
def badgeHeartbeatFailureBudgetMs : Nat := 10000

/-- Rolling event window carried on every snapshot. -/
def eventWindow : Nat := 24

/-- The order of the four heartbeat constants the source asserts at
compile time. -/
theorem heartbeat_constants_ordered :
    badgeHeartbeatIntervalMs < badgeHeartbeatFailureBudgetMs
      ∧ badgeHeartbeatFailureBudgetMs < badgeHeartbeatTimeoutMs
      ∧ badgeHeartbeatTimeoutMs < badgeCrashBlackoutMs := by decide

/-- Whether a badge gives its question up after this long without an
acknowledged heartbeat. -/
def heartbeatBudgetExhausted (sinceAcknowledgedMs : Nat) : Bool :=
  decide (sinceAcknowledgedMs ≥ badgeHeartbeatFailureBudgetMs)

/-! ## Wire types -/

/-- A question with its four answers. -/
structure Question where
  id : String
  category : String
  difficulty : String
  prompt : String
  answers : Vector String 4
  correctIndex : UInt8
  deriving DecidableEq, Repr

/-- What a badge's Activity is given. -/
structure QuestionTask where
  gameId : String
  deadlineUnixMs : Nat
  /-- zero in histories written before the extension field existed -/
  maxDeadlineUnixMs : Nat
  question : Question
  deriving DecidableEq, Repr

/-- The deadline, or the one after an extension where that is later. -/
def QuestionTask.latestPossibleDeadlineUnixMs (t : QuestionTask) : Nat :=
  max t.deadlineUnixMs t.maxDeadlineUnixMs

/-- What a badge's Activity returns. -/
structure BadgeAnswer where
  badgeId : String
  callsign : String
  questionId : String
  selectedIndex : UInt8
  deriving DecidableEq, Repr

/-- What a badge signals of an attempt. -/
structure BadgeEvent where
  badgeId : String
  callsign : String
  questionId : String
  /-- the real Temporal Activity attempt, starting at one -/
  attempt : Nat
  deriving DecidableEq, Repr

/-- What an operator can ask of a round. -/
inductive ChaosCommand where
  | doublePoints
  | rustOnly
  | suddenDeath
  | extendThirtySeconds
  deriving DecidableEq, Repr

/-- The last accepted command, numbered for the badges. -/
structure PowerupNotice where
  sequence : Nat
  command : ChaosCommand
  issuedUnixMs : Nat
  deriving DecidableEq, Repr

/-- The modifiers in force, and what was used. -/
structure ChaosState where
  doublePointsUntilUnixMs : Option Nat := none
  rustOnlyUntilUnixMs : Option Nat := none
  suddenDeath : Bool := false
  extensionUsed : Bool := false
  latestPowerup : Option PowerupNotice := none
  deriving DecidableEq, Repr

/-- A question that went from one badge to another. -/
structure Reassignment where
  questionId : String
  fromCallsign : String
  toCallsign : String
  reason : String
  attempt : Nat
  deriving DecidableEq, Repr

/-- The last attempt that failed. -/
structure BadgeFailure where
  questionId : String
  callsign : String
  attempt : Nat
  deriving DecidableEq, Repr

/-- What a Workflow is started with. -/
structure GameInput where
  gameId : String
  questions : List Question
  durationSeconds : Nat
  backlogOverride : Option Nat
  detectedBadgeCount : Option Nat
  indexSearchAttributes : Bool
  deriving DecidableEq, Repr

/-- A row of the standings. -/
structure PlayerScore where
  badgeId : String
  callsign : String
  score : Int := 0
  correct : Nat := 0
  wrong : Nat := 0
  panics : Nat := 0
  deriving DecidableEq, Repr

/-- Where a round is. -/
inductive GameStatus where
  | waiting
  | running
  | finished
  deriving DecidableEq, Repr

/-- The last recorded answer. -/
structure AnswerSpotlight where
  question : String
  correctAnswer : String
  callsign : String
  wasCorrect : Bool
  score : Int
  points : Int
  deriving DecidableEq, Repr

/-- Why an event happened. -/
inductive EventKind where
  | lifecycle
  | answer
  | fault
  | handoff
  | chaos
  deriving DecidableEq, Repr

/-- An entry of the event feed. -/
structure GameEvent where
  text : String
  kind : EventKind := .lifecycle
  deriving DecidableEq, Repr

/-- What a query of the Workflow returns. -/
structure GameSnapshot where
  gameId : Option String := none
  status : GameStatus := .waiting
  startedUnixMs : Option Nat := none
  deadlineUnixMs : Option Nat := none
  completedQuestions : Nat := 0
  scheduledQuestions : Nat := 0
  players : Std.TreeMap String PlayerScore := ∅
  detectedBadgeCount : Nat := 0
  latestAnswer : Option AnswerSpotlight := none
  events : List GameEvent := []
  winners : List String := []
  reassignments : Nat := 0
  heartbeatTimeouts : Nat := 0
  activityAttempts : Nat := 0
  latestReassignment : Option Reassignment := none
  latestFailure : Option BadgeFailure := none
  chaos : ChaosState := {}

/-! ## The event window -/

/-- One removal: the oldest answer goes first, and only a window without
answers loses its oldest event. -/
def evictOne (events : List GameEvent) : List GameEvent :=
  events.eraseIdx ((events.findIdx? fun event => event.kind == .answer).getD 0)

/-- The `while events.len() > EVENT_WINDOW` loop; `excess` is how far the
list is over the window, which every removal lowers by one. -/
def trimEvents : Nat → List GameEvent → List GameEvent
  | 0, events => events
  | excess + 1, events => trimEvents excess (evictOne events)

/-- The window after one more event. -/
@[irreducible] def pushWindow (events : List GameEvent) (event : GameEvent) : List GameEvent :=
  trimEvents ((events ++ [event]).length - eventWindow) (events ++ [event])

namespace GameSnapshot

/-- Append an event of a kind. -/
def pushKind (s : GameSnapshot) (kind : EventKind) (text : String) : GameSnapshot :=
  { s with events := pushWindow s.events { text, kind } }

/-- Records a lifecycle event. -/
def pushEvent (s : GameSnapshot) (text : String) : GameSnapshot :=
  s.pushKind .lifecycle text

/-- The players in the order of their badge ids (`players.values()`). -/
def playerValues (s : GameSnapshot) : List PlayerScore :=
  s.players.toList.map Prod.snd

/-- The callsigns of every player on the top score, sorted. -/
def topCallsigns (s : GameSnapshot) : List String :=
  match (s.playerValues.map (·.score)).max? with
  | some score =>
      ((s.playerValues.filter (·.score == score)).map (·.callsign)).insertionSort (· ≤ ·)
  | none => []

/-- The closing event: reachable as "no badges" only with an empty roster. -/
def finishText (winners : List String) : String :=
  if winners.isEmpty then "Round finished with no badges"
  else "Winner: " ++ " + ".intercalate winners

/-- Closes the round and names every badge on the top score. -/
def finish (s : GameSnapshot) : GameSnapshot :=
  ({ s with status := .finished, winners := s.topCallsigns } : GameSnapshot).pushEvent
    (finishText s.topCallsigns)

/-! ### What the window and the end of a round leave alone

Pushing an event touches `events` only; `finish` touches `status`,
`winners` and `events`. -/

section Frame
variable (s : GameSnapshot) (kind : EventKind) (text : String)

@[simp] theorem pushKind_gameId : (s.pushKind kind text).gameId = s.gameId := rfl
@[simp] theorem pushKind_status : (s.pushKind kind text).status = s.status := rfl
@[simp] theorem pushKind_deadline :
    (s.pushKind kind text).deadlineUnixMs = s.deadlineUnixMs := rfl
@[simp] theorem pushKind_completed :
    (s.pushKind kind text).completedQuestions = s.completedQuestions := rfl
@[simp] theorem pushKind_scheduled :
    (s.pushKind kind text).scheduledQuestions = s.scheduledQuestions := rfl
@[simp] theorem pushKind_players : (s.pushKind kind text).players = s.players := rfl
@[simp] theorem pushKind_detected :
    (s.pushKind kind text).detectedBadgeCount = s.detectedBadgeCount := rfl
@[simp] theorem pushKind_chaos : (s.pushKind kind text).chaos = s.chaos := rfl

@[simp] theorem pushEvent_eq_pushKind : s.pushEvent text = s.pushKind .lifecycle text := rfl

@[simp] theorem finish_status : s.finish.status = .finished := rfl
@[simp] theorem finish_gameId : s.finish.gameId = s.gameId := rfl
@[simp] theorem finish_deadline : s.finish.deadlineUnixMs = s.deadlineUnixMs := rfl
@[simp] theorem finish_completed : s.finish.completedQuestions = s.completedQuestions := rfl
@[simp] theorem finish_scheduled : s.finish.scheduledQuestions = s.scheduledQuestions := rfl
@[simp] theorem finish_players : s.finish.players = s.players := rfl
@[simp] theorem finish_detected : s.finish.detectedBadgeCount = s.detectedBadgeCount := rfl
@[simp] theorem finish_chaos : s.finish.chaos = s.chaos := rfl

end Frame

end GameSnapshot

end DurableTrivia.Shared
