import DurableTrivia.Lib.System
import DurableTrivia.Web.Deck
import DurableTrivia.Web.GameWorkflow

/-!
# RoundLoop — `GameWorkflow::run` as an event system

The run function of `web/src/workflow.rs`, cut at its await points. An
activation of the Workflow handles signals and updates first and then
lets `run` go on; `run` holds the state alone from one await to the
next. So handlers are enabled where `run` waits (`Phase.waiting`), and
workflow time moves only there.

Where the environment chooses, the event says what it chose: which
pending Activity completed and with what, when a timer is delivered (at
or after it was due), whether the memo was accepted. A rejected update
changes nothing and is no event.
-/

namespace DurableTrivia.Web

open DurableTrivia.Shared DurableTrivia.Lib

/-- What a round is started with: its input, and which of the two patch
markers its history carries. -/
structure Round where
  input : GameInput
  fullParticipantBacklog : Bool
  eligibleDeckRefill : Bool
  deriving DecidableEq, Repr

/-- The four ways out of the loop. -/
inductive Exit where
  /-- `now_unix_ms >= deadline_unix_ms` -/
  | deadline
  /-- "Question deck exhausted" -/
  | deckExhausted
  /-- `pending.next()` was `None` -/
  | pendingDrained
  /-- `record_answer` returned true -/
  | suddenDeath
  deriving DecidableEq, Repr

/-- Where `run` stands. -/
inductive Phase where
  /-- not polled yet -/
  | unstarted
  | loopHead
  /-- at `tick.await`, with nothing pending -/
  | sleeping (dueUnixMs : Nat)
  /-- at `select_biased!` -/
  | selecting (dueUnixMs : Nat)
  /-- behind the loop, before `finish` -/
  | closing (exit : Exit)
  | returned (exit : Exit) (result : GameSnapshot)

/-- An Activity in `pending`. -/
structure Outstanding where
  question : Question
  task : QuestionTask
  scheduledUnixMs : Nat
  scheduleToCloseMs : Nat
  deriving DecidableEq, Repr

/-- The Workflow between two events: its clock, its state, where `run`
stands, the locals of `run`, and the commands issued so far. -/
structure State where
  clock : Nat
  wf : GameWorkflow := {}
  phase : Phase := .unstarted
  startedUnixMs : Nat := 0
  pending : List Outstanding := []
  deck : Deck := { available := [], deckCycle := 1 }
  pendingActivities : Nat := 0
  commands : List Command := []

/-- The questions of the Activities scheduled so far, oldest first. -/
def State.scheduledQuestions (s : State) : List Question :=
  s.commands.filterMap Command.scheduledQuestion

/-- The ids of the Activities scheduled so far, oldest first. -/
def State.scheduledIds (s : State) : List String :=
  s.commands.filterMap Command.activityId

/-- One event of a Workflow execution. -/
inductive Event where
  | advance (nowUnixMs : Nat)
  | badgeStarted (event : BadgeEvent)
  | panicEvent (event : BadgeEvent)
  | recovered (event : BadgeEvent)
  | applyChaos (command : ChaosCommand)
  | endRound
  /-- the first poll of `run`, up to the loop -/
  | start
  /-- from the loop head to the next await or out of the loop -/
  | iterate
  | tick
  /-- the Activity at `index` in `pending` completed -/
  | completed (index : Nat) (result : Except String BadgeAnswer)
  /-- `pending.next()` yielded `None` -/
  | drained
  /-- from behind the loop to the return; `memoError` is what
  `upsert_memo` failed with -/
  | close (memoError : Option String)

/-- `run` waits, so handlers may run and time may pass. -/
def Phase.waiting : Phase → Bool
  | .unstarted | .sleeping _ | .selecting _ => true
  | .loopHead | .closing _ | .returned _ _ => false

/-- The timer `run` waits for. -/
def Phase.due : Phase → Option Nat
  | .sleeping dueUnixMs | .selecting dueUnixMs => some dueUnixMs
  | .unstarted | .loopHead | .closing _ | .returned _ _ => none

/-! ## What `run` does without its input -/

namespace State
variable (s : State)

/-- The chaos sweep at the loop head. -/
def sweep : State :=
  { s with
    wf := { s.wf with
      snapshot := expireChaos s.wf.snapshot s.clock, lastChaosSweepUnixMs := s.clock } }

/-- Where an iteration that scheduled its questions goes to. -/
def await (deadlineUnixMs : Nat) : State :=
  if s.pending.isEmpty && s.deck.available.isEmpty then
    { s with
      wf := { s.wf with snapshot := s.wf.snapshot.pushEvent "Question deck exhausted" }
      phase := .closing .deckExhausted }
  else
    let dueUnixMs := s.clock + min (deadlineUnixMs - s.clock) 1000
    if s.pending.isEmpty then { s with phase := .sleeping dueUnixMs }
    else { s with phase := .selecting dueUnixMs }

/-- The second arm of `select_biased!`: the Activity of `outstanding`
completed, and is no longer pending. -/
def complete (index : Nat) (outstanding : Outstanding)
    (result : Except String BadgeAnswer) : State :=
  let s := { s with
    pending := s.pending.eraseIdx index, pendingActivities := s.pendingActivities - 1 }
  match result with
  | .ok answer =>
      let (wf, ends) := s.wf.recordAnswer outstanding.question answer s.clock
      { s with wf, phase := if ends then .closing .suddenDeath else .loopHead }
  | .error error =>
      { s with
        wf := { s.wf with
          snapshot := s.wf.snapshot.pushKind .fault
            ("Question " ++ outstanding.question.id ++ " closed without an answer: " ++ error) }
        phase := .loopHead }

/-- A handler's effect on the state, when one may run. -/
def handle (wf : GameWorkflow) (commands : List Command := []) : Option State :=
  if s.phase.waiting then some { s with wf, commands := s.commands ++ commands } else none

end State

/-! ## Scheduling -/

/-- How many question Activities the Workflow keeps outstanding. -/
def activityTarget (snapshot : GameSnapshot) (overrideValue : Option Nat)
    (fullParticipantBacklog : Bool) : Nat :=
  let badges := snapshot.detectedBadgeCount
  overrideValue.getD <|
    if fullParticipantBacklog then badges
    else if badges = 0 then 0
    else max (badges - 1) 1

namespace Round
variable (r : Round)

/-- The task a badge gets. The extension is single-use, so the second
deadline bounds every extended one. -/
def task (startedUnixMs deadlineUnixMs : Nat) (question : Question) : QuestionTask :=
  { gameId := r.input.gameId
    deadlineUnixMs
    maxDeadlineUnixMs := startedUnixMs + r.input.durationSeconds * 1000 + gameExtensionMs
    question }

/-- Milliseconds from the scheduling of a question to the end of its
Activity at most. -/
def activityTimeoutMs : Nat := (r.input.durationSeconds + 35) * 1000

/-- One dealt question becomes one pending Activity. Its future is first
polled at the `select_biased!` of the same activation. -/
def scheduleOne (deadlineUnixMs : Nat) (s : State) (question : Question) (deck : Deck) : State :=
  let snapshot :=
    if deck.deckCycle ≠ s.deck.deckCycle then
      s.wf.snapshot.pushEvent
        ("Question deck recycled; starting cycle " ++ toString deck.deckCycle)
    else s.wf.snapshot
  let task := r.task s.startedUnixMs deadlineUnixMs question
  { s with
    wf := { s.wf with
      snapshot := { snapshot with scheduledQuestions := snapshot.scheduledQuestions + 1 } }
    pending := s.pending ++
      [{ question, task, scheduledUnixMs := s.clock, scheduleToCloseMs := r.activityTimeoutMs }]
    deck
    pendingActivities := s.pendingActivities + 1
    commands := s.commands ++
      [.scheduleActivity question.id task r.activityTimeoutMs badgeHeartbeatTimeoutMs] }

/-- The `while pending_activities < activity_target` loop. Every turn
adds one pending Activity, so `slots`, the distance to the target, counts
the turns left; a refused deal breaks out. -/
def scheduleQuestions (deadlineUnixMs : Nat) (rustOnly : Bool) : Nat → State → State
  | 0, s => s
  | slots + 1, s =>
      match dealQuestion s.deck r.input.questions rustOnly r.eligibleDeckRefill with
      | (some question, deck) =>
          scheduleQuestions deadlineUnixMs rustOnly slots
            (r.scheduleOne deadlineUnixMs s question deck)
      | (none, deck) => { s with deck }

/-! ## The pieces of `run` -/

/-- The active slots the opening event announces. -/
def activeSlots (badgeCount : Nat) : Nat :=
  r.input.backlogOverride.getD <|
    if r.fullParticipantBacklog then badgeCount else max (badgeCount - 1) 1

/-- The snapshot a round opens with. -/
def openingSnapshot (startedUnixMs : Nat) : GameSnapshot :=
  let snapshot : GameSnapshot :=
    { gameId := some r.input.gameId
      status := .running
      startedUnixMs := some startedUnixMs
      deadlineUnixMs := some (startedUnixMs + r.input.durationSeconds * 1000)
      -- `as u32`
      detectedBadgeCount := r.input.detectedBadgeCount.getD 0 % 2 ^ 32 }
  let snapshot := snapshot.pushEvent "Round started"
  match r.input.detectedBadgeCount with
  | none => snapshot
  | some badgeCount =>
      snapshot.pushEvent <|
        if badgeCount = 0 then "No badges are polling · nothing to schedule"
        else toString badgeCount ++ " badges ready · " ++ toString (r.activeSlots badgeCount)
          ++ " question slots"

/-- The search attributes of a round that starts. -/
def runningSearchAttributes : List (String × AttributeValue) :=
  [("TriviaGameStatus", .keyword "Running"), ("TriviaBadgeCount", .int 0),
    ("TriviaReassignments", .int 0), ("TriviaWinner", .keyword ""),
    ("TriviaRustSdk", .bool true)]

/-- The search attributes of a round that is over. -/
def finishedSearchAttributes (snapshot : GameSnapshot) : List (String × AttributeValue) :=
  [("TriviaGameStatus", .keyword "Finished"),
    ("TriviaWinner", .keyword (" + ".intercalate snapshot.winners)),
    ("TriviaBadgeCount", .int snapshot.players.size),
    ("TriviaReassignments", .int snapshot.reassignments)]

/-- From the first poll to the loop: whatever the state held before, the
round starts from an empty one. -/
def start (s : State) : State :=
  { s with
    wf := { s.wf with
      assignments := ∅
      retryReasons := ∅
      attemptsSeen := ∅
      indexSearchAttributes := r.input.indexSearchAttributes
      snapshot := r.openingSnapshot s.clock }
    phase := .loopHead
    startedUnixMs := s.clock
    pending := []
    deck := { available := r.input.questions, deckCycle := 1 }
    pendingActivities := 0
    commands := s.commands ++
      if r.input.indexSearchAttributes then [.upsertSearchAttributes runningSearchAttributes]
      else [] }

/-- From the deadline check to the next await. -/
def schedule (s : State) (deadlineUnixMs : Nat) : State :=
  let rustOnly := inForce s.wf.snapshot.chaos.rustOnlyUntilUnixMs s.clock
  let target := activityTarget s.wf.snapshot r.input.backlogOverride r.fullParticipantBacklog
  r.scheduleQuestions deadlineUnixMs rustOnly (target - s.pendingActivities) s

/-- One iteration of the loop, up to its await. -/
def iterate (s : State) : State :=
  let s := s.sweep
  let deadlineUnixMs := s.wf.snapshot.deadlineUnixMs.getD s.clock
  if deadlineUnixMs ≤ s.clock then { s with phase := .closing .deadline }
  else (r.schedule s deadlineUnixMs).await deadlineUnixMs

/-- From behind the loop to the return. -/
def close (s : State) (exit : Exit) (memoError : Option String) : State :=
  let finished := s.wf.snapshot.finish
  let memo : Command := .upsertMemo "TriviaRoundSummary" (.ofSnapshot finished)
  let snapshot := match memoError with
    | none => finished
    | some error =>
        finished.pushKind .fault ("Round summary memo was not recorded: " ++ error)
  { s with
    wf := { s.wf with snapshot }
    phase := .returned exit snapshot
    pending := []
    commands := s.commands ++ (if memoError.isNone then [memo] else [])
      ++ if r.input.indexSearchAttributes then
          [.upsertSearchAttributes (finishedSearchAttributes snapshot)] else [] }

/-! ## The system -/

/-- What an event does, and `none` where it cannot happen. -/
def step (s : State) : Event → Option State
  | .advance nowUnixMs =>
      if s.phase.waiting ∧ s.clock ≤ nowUnixMs then some { s with clock := nowUnixMs } else none
  | .badgeStarted event => s.handle (s.wf.badgeStarted event).1 (s.wf.badgeStarted event).2
  | .panicEvent event => s.handle (s.wf.panicEvent event)
  | .recovered event => s.handle (s.wf.recovered event)
  | .applyChaos command =>
      match s.wf.validateApplyChaos command with
      | .ok () => s.handle (s.wf.applyChaos s.clock command)
      | .error _ => none
  | .endRound =>
      match s.wf.validateEndRound with
      | .ok () => s.handle (s.wf.endRound s.clock)
      | .error _ => none
  | .start =>
      match s.phase with
      | .unstarted => some (r.start s)
      | _ => none
  | .iterate =>
      match s.phase with
      | .loopHead => some (r.iterate s)
      | _ => none
  | .tick =>
      match s.phase.due with
      | some dueUnixMs => if dueUnixMs ≤ s.clock then some { s with phase := .loopHead } else none
      | none => none
  | .completed index result =>
      match s.phase with
      | .selecting _ => (s.pending[index]?).map fun outstanding =>
          s.complete index outstanding result
      | _ => none
  | .drained =>
      match s.phase with
      | .selecting _ =>
          if s.pending.isEmpty then some { s with phase := .closing .pendingDrained } else none
      | _ => none
  | .close memoError =>
      match s.phase with
      | .closing exit => some (r.close s exit memoError)
      | _ => none

/-- A round as an event system. It may start at any time. -/
def system : StepSystem State Event where
  init s := ∃ clock, s = { clock }
  step := r.step

end Round

/-! ## What a transition records -/

/-- A booked answer: whose it is, whether it was right, and when. -/
structure RecordedAnswer where
  badgeId : String
  callsign : String
  wasCorrect : Bool
  atUnixMs : Nat
  deriving DecidableEq, Repr

/-- The answer a transition books; malformed ones are not booked. -/
def recordedAnswer (t : State × Event) : Option RecordedAnswer :=
  match t.2 with
  | .completed index (.ok answer) =>
      (t.1.pending[index]?).bind fun outstanding =>
        if GameWorkflow.wellFormed outstanding.question answer then
          some
            { badgeId := answer.badgeId
              callsign := answer.callsign
              wasCorrect := answer.selectedIndex == outstanding.question.correctIndex
              atUnixMs := t.1.clock }
        else none
  | _ => none

end DurableTrivia.Web
